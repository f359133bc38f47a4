import Metal3Pod.Reconcile.Selector

/-!
# `EnsureMetal3Deployment`: apply, selector-conflict recovery, generation tracking

The reconciler renders the deployment, sets its controller reference, resets the rollout start
time, and applies it. On an apply error it fetches the existing deployment's selector; if that
lookup succeeds and the selector is not semantically the rendered one, it deletes the deployment
so that the next reconcile recreates it. When the apply reports a changed object it records that
object's generation in the provisioning status.

The orchestrator is a value of `Orchestrator`: its answer to each call the reconciler can make.
A call is made at most once per reconcile, so every behaviour of the orchestrator is such a value.
Each consultation goes through `Orchestrator.issueApply`, `issueGet` or `issueDelete`, which
return the answer and record the call with its target; `ensureMetal3Deployment` returns the calls
so recorded, its result, and the state it writes.

`ensureMetal3Deployment_cases` says once how a reconcile can end, guards included; every result
below is a case analysis over it.

* `ensureMetal3Deployment_deletes`: the reconcile deletes the metal3 deployment of its namespace,
  once, exactly when the apply failed, the lookup succeeded and the selectors differ, and deletes
  nothing else; `ensureMetal3Deployment_keeps_matching_selector`: never when the cluster holds the
  rendered selector.
* `ensureMetal3Deployment_generations`: the generations change only through the generation of
  the object the apply returned, and only on the paths that report `(true, nil)`. These include a
  failed apply followed by a successful delete: the function falls through to its success tail,
  records what the failed apply returned and drops the apply error
  (`ensureMetal3Deployment_apply_error`), unlike its other error paths.
* `ensureMetal3Deployment_next_expectedGeneration`: what a reconcile records is what the next one
  expects.

The generation bookkeeping is library-go's `resourcemerge`, written here as it behaves.
-/

namespace Metal3Pod

/-! ## Generations -/

/-- Whether a recorded generation is the one of a resource. -/
def GenerationStatus.isFor (g : GenerationStatus) (group resource ns name : String) : Bool :=
  g.«namespace» == ns && g.name == name && g.group == group && g.resource == resource

/-- `resourcemerge.generationFor`: the first recorded generation of a resource. -/
def generationFor (generations : List GenerationStatus) (group resource ns name : String) :
    Option GenerationStatus :=
  generations.find? (·.isFor group resource ns name)

/-- `resourcemerge.expectedDeploymentGeneration`: the recorded generation, or `-1`. -/
def expectedDeploymentGeneration (required : Deployment)
    (previousGenerations : List GenerationStatus) : Int :=
  match generationFor previousGenerations "apps" "deployments" required.metadata.«namespace»
      required.metadata.name with
  | some generation => generation.lastGeneration
  | none => -1

/-- `resourcemerge.setGeneration`: update the first record of the resource in place, or append
one. -/
def setGeneration : List GenerationStatus → GenerationStatus → List GenerationStatus
  | [], newGeneration => [newGeneration]
  | g :: gs, newGeneration =>
    if g.isFor newGeneration.group newGeneration.resource newGeneration.«namespace»
        newGeneration.name then
      { g with lastGeneration := newGeneration.lastGeneration, hash := newGeneration.hash } :: gs
    else g :: setGeneration gs newGeneration

/-- `resourcemerge.setDeploymentGeneration`; a nil deployment records nothing. -/
def setDeploymentGeneration (generations : List GenerationStatus) :
    Option Deployment → List GenerationStatus
  | none => generations
  | some actual =>
    setGeneration generations
      { group := "apps", resource := "deployments", «namespace» := actual.metadata.«namespace»,
        name := actual.metadata.name, lastGeneration := actual.metadata.generation }

theorem GenerationStatus.isFor_iff (g : GenerationStatus) (group resource ns name : String) :
    g.isFor group resource ns name = true ↔
      (g.group, g.resource, g.«namespace», g.name) = (group, resource, ns, name) := by
  simp only [GenerationStatus.isFor, Bool.and_eq_true, beq_iff_eq, Prod.mk.injEq]
  tauto

/-- Updating a record in place keeps the resource it is for. -/
@[simp] theorem GenerationStatus.isFor_with (g : GenerationStatus) (n : Int)
    (hash group resource ns name : String) :
    ({ g with lastGeneration := n, hash } : GenerationStatus).isFor group resource ns name =
      g.isFor group resource ns name := rfl

/-- Recording a generation makes it the one found for its resource. -/
theorem generationFor_setGeneration_self (generations : List GenerationStatus)
    (g : GenerationStatus) :
    (generationFor (setGeneration generations g) g.group g.resource g.«namespace» g.name).map
      (·.lastGeneration) = some g.lastGeneration := by
  induction generations with
  | nil => simp [setGeneration, generationFor, GenerationStatus.isFor]
  | cons x xs ih =>
    simp only [generationFor] at ih ⊢
    by_cases hx : x.isFor g.group g.resource g.«namespace» g.name <;>
      simp [setGeneration, List.find?_cons, hx, ih]

/-- Recording a generation leaves the one found for every other resource. -/
theorem generationFor_setGeneration_of_ne (generations : List GenerationStatus)
    (g : GenerationStatus) {group resource ns name : String}
    (hne : (g.group, g.resource, g.«namespace», g.name) ≠ (group, resource, ns, name)) :
    generationFor (setGeneration generations g) group resource ns name =
      generationFor generations group resource ns name := by
  induction generations with
  | nil => simp [setGeneration, generationFor, List.find?_cons, GenerationStatus.isFor_iff, hne]
  | cons x xs ih =>
    simp only [generationFor] at ih ⊢
    by_cases hx : x.isFor g.group g.resource g.«namespace» g.name
    · have hk : x.isFor group resource ns name = false := by
        rw [GenerationStatus.isFor_iff] at hx
        rwa [Bool.eq_false_iff, ne_eq, GenerationStatus.isFor_iff, hx]
      simp [setGeneration, List.find?_cons, hx, hk]
    · simp [setGeneration, List.find?_cons, hx, ih]

/-- The generation recorded for a deployment is the one expected of it next. -/
theorem expectedDeploymentGeneration_setDeploymentGeneration (generations : List GenerationStatus)
    {required actual : Deployment}
    (hkey : (actual.metadata.«namespace», actual.metadata.name) =
      (required.metadata.«namespace», required.metadata.name)) :
    expectedDeploymentGeneration required (setDeploymentGeneration generations (some actual)) =
      actual.metadata.generation := by
  have := generationFor_setGeneration_self generations
    { group := "apps", resource := "deployments", «namespace» := actual.metadata.«namespace»,
      name := actual.metadata.name, lastGeneration := actual.metadata.generation }
  simp only [Prod.mk.injEq] at hkey
  simp only [hkey] at this
  rw [expectedDeploymentGeneration, setDeploymentGeneration]
  rcases hf : generationFor _ _ _ _ _ with _ | g <;> simp_all

/-! ## The orchestrator -/

/-- A call the reconciler makes to the orchestrator, with its target. -/
inductive Call where
  /-- `ApplyDeployment` of a required deployment at an expected generation. -/
  | apply (required : Deployment) (expectedGeneration : Int)
  /-- `Deployments(ns).Get(name)`. -/
  | get (ns name : String)
  /-- `Deployments(ns).Delete(name)`. -/
  | delete (ns name : String)
  deriving DecidableEq

/-- Whether a call is a delete. -/
def Call.isDelete : Call → Bool
  | .delete .. => true
  | _ => false

/-- What `resourceapply.ApplyDeployment` returns: the deployment pointer, whether it created or
updated the object, and the error. -/
structure ApplyResult where
  deployment : Option Deployment
  changed : Bool
  err : Option GoError

/-- The orchestrator's answers during one reconcile. -/
structure Orchestrator where
  /-- The error of `controllerutil.SetControllerReference` (resolving the owner in the scheme). -/
  setControllerReference : Option GoError
  /-- `ApplyDeployment(client, recorder, required, expectedGeneration)`. -/
  applyDeployment : Deployment → Int → ApplyResult
  /-- `Deployments(namespace).Get(name)`: the object pointer and the error. -/
  getDeployment : String → String → Option Deployment × Option GoError
  /-- `Deployments(namespace).Delete(name)`: the error. -/
  deleteDeployment : String → String → Option GoError

namespace Orchestrator

/-! Every consultation of the orchestrator goes through one of these: each returns the answer
and records the call, with its target, so that the trace holds exactly the calls made. -/

def issueApply (client : Orchestrator) (required : Deployment) (expectedGeneration : Int) :
    ApplyResult × List Call :=
  (client.applyDeployment required expectedGeneration, [.apply required expectedGeneration])

def issueGet (client : Orchestrator) (ns name : String) :
    (Option Deployment × Option GoError) × List Call :=
  (client.getDeployment ns name, [.get ns name])

def issueDelete (client : Orchestrator) (ns name : String) : Option GoError × List Call :=
  (client.deleteDeployment ns name, [.delete ns name])

end Orchestrator

def getMetal3DeploymentSelector (client : Orchestrator) (targetNamespace : String) :
    (Option LabelSelector × Option GoError) × List Call :=
  let (answer, calls) := client.issueGet targetNamespace baremetalDeploymentName
  match answer with
  | (some existing, none) => ((existing.spec.selector, none), calls)
  | (_, err) => ((none, err), calls)

def deleteMetal3Deployment (client : Orchestrator) (info : ProvisioningInfo) :
    Option GoError × List Call :=
  let (err, calls) := client.issueDelete info.«namespace» baremetalDeploymentName
  (ignoreNotFound err, calls)

/-! ## The reconciler -/

/-- What one `EnsureMetal3Deployment` returns and writes. -/
structure EnsureResult where
  /-- The named result `updated`. -/
  updated : Bool
  /-- The named result `err`. -/
  err : Option GoError
  /-- `info.ProvConfig.Status.Generations` afterwards. -/
  generations : List GenerationStatus
  /-- `deploymentRolloutStartTime` afterwards. -/
  rolloutStartTime : Nat
  /-- The orchestrator calls made, in order. -/
  calls : List Call

section Ensure

variable (h : Helpers) (client : Orchestrator)

/-- `EnsureMetal3Deployment(info)` at time `now`, with `start` the current value of
`deploymentRolloutStartTime`. -/
def ensureMetal3Deployment (now start : Nat) (info : ProvisioningInfo) : EnsureResult :=
  let metal3Deployment := newMetal3Deployment h info
  let generations := info.provConfig.generations
  let expectedGeneration := expectedDeploymentGeneration metal3Deployment generations
  match client.setControllerReference with
  | some err =>
    { updated := false,
      err := some (.wrapped "unable to set controllerReference on deployment" err),
      generations, rolloutStartTime := start, calls := [] }
  | none =>
    let (result, applyCalls) := client.issueApply metal3Deployment expectedGeneration
    let updated := result.changed
    -- the end of the function, reached on success and after a successful delete
    let recordGeneration (calls : List Call) : EnsureResult :=
      { updated, err := none,
        generations :=
          if updated then setDeploymentGeneration generations result.deployment else generations,
        rolloutStartTime := now, calls }
    match result.err with
    | none => recordGeneration applyCalls
    | some err =>
      let err := GoError.wrapped "unable to apply Metal3 deployment" err
      let ((selector, getErr), getCalls) := getMetal3DeploymentSelector client info.«namespace»
      if getErr.isSome || semanticDeepEqual selector metal3Deployment.spec.selector then
        { updated, err := some err, generations, rolloutStartTime := now,
          calls := applyCalls ++ getCalls }
      else
        let (deleteErr, deleteCalls) := deleteMetal3Deployment client info
        match deleteErr with
        | some deleteErr =>
          { updated,
            err := some (.wrapped
              "unable to delete Metal3 deployment with incorrect Pod Selector" deleteErr),
            generations, rolloutStartTime := now, calls := applyCalls ++ getCalls ++ deleteCalls }
        | none => recordGeneration (applyCalls ++ getCalls ++ deleteCalls)

end Ensure

/-! ## A cluster holding the selector of an earlier release -/

/-- Helpers with no deployment configuration, no live-image URLs and an agent image in the
CoreOS image. -/
def noHelpers : Helpers := ⟨fun _ _ => none, fun _ => [], fun _ => true⟩

/-- A configuration with every field at its default, in the operator's namespace. -/
def staleInfo : ProvisioningInfo := { «namespace» := "openshift-machine-api", networkStack := .v4 }

/-- A selector without the operator's label, as an earlier release rendered it. -/
def oldMetal3Selector : LabelSelector :=
  { matchLabels := .ofList [("k8s-app", metal3AppName)], matchExpressions := [] }

/-- An orchestrator holding `existing` under the old selector, answering the apply as library-go's
`ApplyDeployment` does when the update is rejected: the empty object the typed client returns
beside an error, reported as updated, and the error of the immutable selector. The lookup finds
the old selector and the delete succeeds. -/
def staleSelectorClient (existing : Deployment) : Orchestrator where
  setControllerReference := none
  applyDeployment _ _ := ⟨some {}, true, some (.api "spec.selector: field is immutable" false)⟩
  getDeployment _ _ :=
    (some { existing with spec := { existing.spec with selector := some oldMetal3Selector } }, none)
  deleteDeployment _ _ := none

/-- An orchestrator on which the apply succeeds, reporting a change or not, and every lookup finds
`existing`. -/
def settledClient (changed : Bool) (existing : Deployment) : Orchestrator where
  setControllerReference := none
  applyDeployment required _ := ⟨some required, changed, none⟩
  getDeployment _ _ := (some existing, none)
  deleteDeployment _ _ := none

/-- An orchestrator on which the apply fails on a write conflict, and every lookup finds
`existing`. -/
def conflictedClient (existing : Deployment) : Orchestrator where
  setControllerReference := none
  applyDeployment _ _ := ⟨some {}, true, some (.api "the object has been modified" false)⟩
  getDeployment _ _ := (some existing, none)
  deleteDeployment _ _ := none

/-! ## How a reconcile ends -/

section Outcomes

variable (h : Helpers) (client : Orchestrator) (info : ProvisioningInfo)

/-- The result of the apply call `EnsureMetal3Deployment` makes. -/
def appliedDeployment : ApplyResult :=
  client.applyDeployment (newMetal3Deployment h info)
    (expectedDeploymentGeneration (newMetal3Deployment h info) info.provConfig.generations)

/-- Whether the lookup after a failed apply succeeds and finds a selector that is not
semantically the rendered one: the case the reconciler takes for an outdated selector. -/
def selectorConflict : Bool :=
  (getMetal3DeploymentSelector client info.«namespace»).1.2.isNone &&
    !semanticDeepEqual (getMetal3DeploymentSelector client info.«namespace»).1.1
      (newMetal3Deployment h info).spec.selector

/-- The lookup issues one get, of the metal3 deployment of the namespace. -/
@[simp] theorem getMetal3DeploymentSelector_calls (ns : String) :
    (getMetal3DeploymentSelector client ns).2 = [.get ns baremetalDeploymentName] := by
  simp only [getMetal3DeploymentSelector, Orchestrator.issueGet]
  split <;> rfl

/-- The delete issues one delete, of the metal3 deployment of the namespace. -/
@[simp] theorem deleteMetal3Deployment_calls :
    (deleteMetal3Deployment client info).2 = [.delete info.«namespace» baremetalDeploymentName] :=
  rfl

variable (now start : Nat)

/-- The five ways `EnsureMetal3Deployment` ends: a controller-reference failure, a successful
apply, a failed apply with no selector conflict, a failed delete, and a successful delete. -/
theorem ensureMetal3Deployment_cases :
    let r := ensureMetal3Deployment h client now start info
    let a := appliedDeployment h client info
    let gens := info.provConfig.generations
    let recorded := if a.changed then setDeploymentGeneration gens a.deployment else gens
    let applyCall := Call.apply (newMetal3Deployment h info)
      (expectedDeploymentGeneration (newMetal3Deployment h info) gens)
    let getCall := Call.get info.«namespace» baremetalDeploymentName
    let deleteCall := Call.delete info.«namespace» baremetalDeploymentName
    (∃ e, client.setControllerReference = some e ∧
      r = ⟨false, some (.wrapped "unable to set controllerReference on deployment" e), gens,
        start, []⟩) ∨
    (client.setControllerReference = none ∧ a.err = none ∧
      r = ⟨a.changed, none, recorded, now, [applyCall]⟩) ∨
    (∃ e, client.setControllerReference = none ∧ a.err = some e ∧
      selectorConflict h client info = false ∧
      r = ⟨a.changed, some (.wrapped "unable to apply Metal3 deployment" e), gens, now,
        [applyCall, getCall]⟩) ∨
    (∃ e de, client.setControllerReference = none ∧ a.err = some e ∧
      selectorConflict h client info = true ∧ (deleteMetal3Deployment client info).1 = some de ∧
      r = ⟨a.changed,
        some (.wrapped "unable to delete Metal3 deployment with incorrect Pod Selector" de), gens,
        now, [applyCall, getCall, deleteCall]⟩) ∨
    (∃ e, client.setControllerReference = none ∧ a.err = some e ∧
      selectorConflict h client info = true ∧ (deleteMetal3Deployment client info).1 = none ∧
      r = ⟨a.changed, none, recorded, now, [applyCall, getCall, deleteCall]⟩) := by
  have hget := getMetal3DeploymentSelector_calls client info.«namespace»
  simp only [ensureMetal3Deployment, selectorConflict, appliedDeployment, Orchestrator.issueApply]
  rcases client.setControllerReference with _ | e
  · rcases (client.applyDeployment (newMetal3Deployment h info)
      (expectedDeploymentGeneration (newMetal3Deployment h info)
        info.provConfig.generations)).err with _ | e
    · simp
    · rcases hsel : getMetal3DeploymentSelector client info.«namespace» with ⟨⟨sel, _ | _⟩, calls⟩ <;>
        rw [hsel] at hget <;> subst hget
      · cases hsem : semanticDeepEqual sel (newMetal3Deployment h info).spec.selector
        · rcases hdel : deleteMetal3Deployment client info with ⟨_ | de, dcalls⟩ <;>
            have hd := deleteMetal3Deployment_calls client info <;> rw [hdel] at hd <;>
            subst hd <;> simp [hsem]
        · simp [hsem]
      · simp
  · simp

/-- The rollout start time is reset on every reconcile that gets past the controller reference,
whatever the apply then does. -/
theorem ensureMetal3Deployment_rolloutStartTime :
    (ensureMetal3Deployment h client now start info).rolloutStartTime =
      if client.setControllerReference = none then now else start := by
  rcases ensureMetal3Deployment_cases h client info now start with
    ⟨e, hs, hr⟩ | ⟨hs, -, hr⟩ | ⟨e, hs, -, -, hr⟩ | ⟨e, de, hs, -, -, -, hr⟩ | ⟨e, hs, -, -, -, hr⟩ <;>
    simp [*]

/-- The calls a reconcile makes, in order: the apply once the controller reference is set, the
lookup after a failed apply, and the delete after a selector conflict. -/
theorem ensureMetal3Deployment_calls :
    (ensureMetal3Deployment h client now start info).calls =
      if client.setControllerReference = none then
        .apply (newMetal3Deployment h info)
            (expectedDeploymentGeneration (newMetal3Deployment h info)
              info.provConfig.generations) ::
          if (appliedDeployment h client info).err.isSome then
            .get info.«namespace» baremetalDeploymentName ::
              if selectorConflict h client info then
                [.delete info.«namespace» baremetalDeploymentName]
              else []
          else []
      else [] := by
  rcases ensureMetal3Deployment_cases h client info now start with
    ⟨e, hs, hr⟩ | ⟨hs, ha, hr⟩ | ⟨e, hs, ha, hc, hr⟩ | ⟨e, de, hs, ha, hc, -, hr⟩ |
      ⟨e, hs, ha, hc, -, hr⟩ <;>
    simp [*]

/-- The reconcile deletes the metal3 deployment of its namespace, once, exactly when the controller
reference was set, the apply failed, the lookup succeeded and the selectors differ, and it deletes
nothing else. -/
theorem ensureMetal3Deployment_deletes :
    (ensureMetal3Deployment h client now start info).calls.filter Call.isDelete =
      if client.setControllerReference = none ∧ (appliedDeployment h client info).err.isSome ∧
        selectorConflict h client info then [.delete info.«namespace» baremetalDeploymentName]
      else [] := by
  rw [ensureMetal3Deployment_calls]
  split_ifs <;> simp_all [Call.isDelete]

/-- A reconcile never deletes a deployment that carries the rendered selector, whatever the apply
returns. -/
theorem ensureMetal3Deployment_keeps_matching_selector {d : Deployment}
    (hget : client.getDeployment info.«namespace» baremetalDeploymentName = (some d, none))
    (hsel : d.spec.selector = (newMetal3Deployment h info).spec.selector) :
    (ensureMetal3Deployment h client now start info).calls.filter Call.isDelete = [] := by
  have hc : selectorConflict h client info = false := by
    simp [selectorConflict, getMetal3DeploymentSelector, Orchestrator.issueGet, hget, hsel,
      semanticDeepEqual_self]
  rw [ensureMetal3Deployment_calls]
  split_ifs <;> simp_all [Call.isDelete]

/-- On a cluster holding the rendered deployment, an apply that fails on a write conflict leads
to the lookup, which finds the rendered selector, and the reconcile deletes nothing. -/
theorem ensureMetal3Deployment_keeps_matching_selector_on_conflict :
    let rendered := newMetal3Deployment noHelpers staleInfo
    let client := conflictedClient rendered
    (appliedDeployment noHelpers client staleInfo).err.isSome ∧
    client.getDeployment staleInfo.«namespace» baremetalDeploymentName = (some rendered, none) ∧
    rendered.spec.selector = (newMetal3Deployment noHelpers staleInfo).spec.selector ∧
    (ensureMetal3Deployment noHelpers client 0 0 staleInfo).calls.filter Call.isDelete = [] :=
  ⟨rfl, rfl, rfl, ensureMetal3Deployment_keeps_matching_selector _ _ _ _ _ rfl rfl⟩

/-- The generations are rewritten, by the generation of the object the apply returned, exactly
on the paths that report a change and no error: a successful apply, and a failed apply whose
selector conflict was resolved by a successful delete. -/
theorem ensureMetal3Deployment_generations :
    (ensureMetal3Deployment h client now start info).generations =
      (if client.setControllerReference = none ∧ (appliedDeployment h client info).changed = true ∧
          ((appliedDeployment h client info).err = none ∨
            selectorConflict h client info = true ∧ (deleteMetal3Deployment client info).1 = none)
        then
        setDeploymentGeneration info.provConfig.generations (appliedDeployment h client info).deployment
      else info.provConfig.generations) ∧
    ((ensureMetal3Deployment h client now start info).updated = true ∧
        (ensureMetal3Deployment h client now start info).err = none ↔
      client.setControllerReference = none ∧ (appliedDeployment h client info).changed = true ∧
        ((appliedDeployment h client info).err = none ∨
          selectorConflict h client info = true ∧ (deleteMetal3Deployment client info).1 = none)) := by
  rcases ensureMetal3Deployment_cases h client info now start with
    ⟨e, hs, hr⟩ | ⟨hs, ha, hr⟩ | ⟨e, hs, ha, hc, hr⟩ | ⟨e, de, hs, ha, hc, hd, hr⟩ |
      ⟨e, hs, ha, hc, hd, hr⟩ <;>
    cases hch : (appliedDeployment h client info).changed <;> simp [*]

/-- On the cluster with the old selector, library-go's answer to the rejected update is recorded:
the reconcile reports a change with no error and writes a record with no namespace and no name
at generation `0`. -/
theorem ensureMetal3Deployment_generations_on_rejected_update :
    let client := staleSelectorClient (newMetal3Deployment noHelpers staleInfo)
    let r := ensureMetal3Deployment noHelpers client 0 0 staleInfo
    (appliedDeployment noHelpers client staleInfo).err.isSome ∧
    r.updated = true ∧ r.err = none ∧
    r.generations =
      [{ group := "apps", resource := "deployments", «namespace» := "", name := "",
         lastGeneration := 0 }] :=
  have hr := ensureMetal3Deployment_generations noHelpers
    (staleSelectorClient (newMetal3Deployment noHelpers staleInfo)) staleInfo 0 0
  have hok := hr.2.2 ⟨rfl, rfl, .inr ⟨by decide, rfl⟩⟩
  ⟨rfl, hok.1, hok.2, hr.1.trans (by decide)⟩

/-- After a reconcile that reports a change and no error, where the apply returned the metal3
deployment, the next reconcile expects that deployment's generation. -/
theorem ensureMetal3Deployment_next_expectedGeneration {d : Deployment}
    (hd : (appliedDeployment h client info).deployment = some d)
    (hkey : (d.metadata.«namespace», d.metadata.name) = (info.«namespace», baremetalDeploymentName))
    (hok : (ensureMetal3Deployment h client now start info).updated = true ∧
      (ensureMetal3Deployment h client now start info).err = none) :
    let info' := { info with provConfig := { info.provConfig with
      generations := (ensureMetal3Deployment h client now start info).generations } }
    expectedDeploymentGeneration (newMetal3Deployment h info') info'.provConfig.generations =
      d.metadata.generation := by
  have hgen : (ensureMetal3Deployment h client now start info).generations =
      setDeploymentGeneration info.provConfig.generations (some d) := by
    obtain ⟨hu, he⟩ := hok
    rcases ensureMetal3Deployment_cases h client info now start with
      ⟨e, -, hr⟩ | ⟨-, -, hr⟩ | ⟨e, -, -, -, hr⟩ | ⟨e, de, -, -, -, -, hr⟩ | ⟨e, -, -, -, -, hr⟩ <;>
      simp_all
  simp only [hgen]
  exact expectedDeploymentGeneration_setDeploymentGeneration _ hkey

/-- A reconcile on a settled cluster records the rendered deployment's generation for the next. -/
theorem ensureMetal3Deployment_next_expectedGeneration_on_settled :
    let rendered := newMetal3Deployment noHelpers staleInfo
    let client := settledClient true rendered
    let r := ensureMetal3Deployment noHelpers client 0 0 staleInfo
    let info' := { staleInfo with provConfig := { staleInfo.provConfig with
      generations := r.generations } }
    (appliedDeployment noHelpers client staleInfo).deployment = some rendered ∧
    (rendered.metadata.«namespace», rendered.metadata.name) =
      (staleInfo.«namespace», baremetalDeploymentName) ∧
    (r.updated = true ∧ r.err = none) ∧
    expectedDeploymentGeneration (newMetal3Deployment noHelpers info') info'.provConfig.generations =
      rendered.metadata.generation :=
  ⟨rfl, rfl, ⟨rfl, rfl⟩, ensureMetal3Deployment_next_expectedGeneration _ _ _ _ _ rfl rfl ⟨rfl, rfl⟩⟩

/-- After a failed apply the reconciler reports the wrapped apply error unless the selectors
conflict; on a conflict it reports the wrapped delete error, and nothing once the delete
succeeded. -/
theorem ensureMetal3Deployment_apply_error {e : GoError}
    (hs : client.setControllerReference = none) (ha : (appliedDeployment h client info).err = some e) :
    (ensureMetal3Deployment h client now start info).err =
      (if selectorConflict h client info then
        (deleteMetal3Deployment client info).1.map
          (.wrapped "unable to delete Metal3 deployment with incorrect Pod Selector")
      else some (.wrapped "unable to apply Metal3 deployment" e)) ∧
    ((ensureMetal3Deployment h client now start info).err = none ↔
      selectorConflict h client info = true ∧ (deleteMetal3Deployment client info).1 = none) := by
  rcases ensureMetal3Deployment_cases h client info now start with
    ⟨e, hs', -⟩ | ⟨-, ha', -⟩ | ⟨e', -, ha', hc, hr⟩ | ⟨e', de, -, -, hc, hd, hr⟩ |
      ⟨e', -, -, hc, hd, hr⟩
  · simp [hs] at hs'
  · simp [ha] at ha'
  · simp only [ha, Option.some.injEq] at ha'
    simp [hr, hc, ha']
  all_goals simp [hr, hc, hd]

/-- On the cluster with the old selector the update is rejected, the delete succeeds, and the
reconcile reports no error: the apply error is dropped. -/
theorem ensureMetal3Deployment_apply_error_on_rejected_update :
    let client := staleSelectorClient (newMetal3Deployment noHelpers staleInfo)
    client.setControllerReference = none ∧
    (appliedDeployment noHelpers client staleInfo).err =
      some (.api "spec.selector: field is immutable" false) ∧
    selectorConflict noHelpers client staleInfo = true ∧
    (deleteMetal3Deployment client staleInfo).1 = none ∧
    (ensureMetal3Deployment noHelpers client 0 0 staleInfo).err = none :=
  ⟨rfl, rfl, by decide, rfl,
    (ensureMetal3Deployment_apply_error noHelpers
      (staleSelectorClient (newMetal3Deployment noHelpers staleInfo)) staleInfo 0 0 rfl rfl).2.2
      ⟨by decide, rfl⟩⟩

end Outcomes

end Metal3Pod
