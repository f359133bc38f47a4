import Metal3Pod.Reconcile.Rollout

/-!
# The controller across reconciles: the generation store and the rollout timer

Two pieces of state outlive one `EnsureMetal3Deployment`: the generations of the provisioning
status, which the caller keeps and hands to the next reconcile, and
`deploymentRolloutStartTime`. A `ControllerState` holds both, and `ControllerState.run` plays a
run of `Event`s against it.

The generation list is a store keyed by resource (`GenerationStatus.key`). `genLookup` reads it as
a map, the first record of a resource winning, and `setGeneration` writes it as an update of that
map at one key (`genLookup_setGeneration`), whatever duplicates the list holds. A reconcile writes
at most one record, `ensureRecord`: the generation of the object its apply returned, on the paths
that end with a change reported and no error.

* `run_keys_nodup`: a run never gives one resource two records.
* `run_genLookup`: after any run, a resource's generation is that of the last record the run wrote
  for it, or the one it had before the run.
* `run_keeps_other_resources`: a run leaves the entry of every resource other than a deployment
  as it was.
* `run_expectedGeneration`: so the next reconcile passes to its apply the generation last recorded
  for the metal3 deployment of its namespace, or what the status held before the run.
-/

namespace Metal3Pod

open scoped List

/-! ## The generation store as a map -/

/-- The resource a generation record is for. -/
def GenerationStatus.key (g : GenerationStatus) : String × String × String × String :=
  (g.group, g.resource, g.«namespace», g.name)

/-- Updating a record in place keeps its key. -/
@[simp] theorem GenerationStatus.key_with (g : GenerationStatus) (n : Int) (hash : String) :
    ({ g with lastGeneration := n, hash } : GenerationStatus).key = g.key := rfl

theorem GenerationStatus.isFor_key (x g : GenerationStatus) :
    x.isFor g.group g.resource g.«namespace» g.name = true ↔ x.key = g.key :=
  x.isFor_iff _ _ _ _

/-- The generation the store holds for a resource: that of its first record. -/
def genLookup (generations : List GenerationStatus) (key : String × String × String × String) :
    Option Int :=
  (generationFor generations key.1 key.2.1 key.2.2.1 key.2.2.2).map (·.lastGeneration)

/-- `setGeneration` is an update of the store at the record's key. -/
theorem genLookup_setGeneration (generations : List GenerationStatus) (g : GenerationStatus)
    (key : String × String × String × String) :
    genLookup (setGeneration generations g) key =
      if key = g.key then some g.lastGeneration else genLookup generations key := by
  split_ifs with hk
  · subst hk; exact generationFor_setGeneration_self generations g
  · exact congrArg _ (generationFor_setGeneration_of_ne generations g (Ne.symm hk))

/-- `setGeneration` keeps the keys of the list, and appends the record's key when it is new. -/
theorem setGeneration_keys (generations : List GenerationStatus) (g : GenerationStatus) :
    (setGeneration generations g).map GenerationStatus.key =
      if g.key ∈ generations.map GenerationStatus.key then generations.map GenerationStatus.key
      else generations.map GenerationStatus.key ++ [g.key] := by
  induction generations with
  | nil => rfl
  | cons x xs ih =>
    by_cases hx : x.isFor g.group g.resource g.«namespace» g.name
    · have hk : x.key = g.key := (x.isFor_key g).1 hx
      simp only [setGeneration, hx, if_true, List.map_cons, GenerationStatus.key_with,
        List.mem_cons, hk, true_or]
    · have hk : g.key ≠ x.key := fun e => hx ((x.isFor_key g).2 e.symm)
      simp only [setGeneration, hx, Bool.false_eq_true, if_false, List.map_cons, ih,
        List.mem_cons, hk, false_or]
      split_ifs <;> rfl

/-- Recording a generation never gives a resource a second record. -/
theorem setGeneration_keys_nodup {generations : List GenerationStatus} (g : GenerationStatus)
    (hnd : (generations.map GenerationStatus.key).Nodup) :
    ((setGeneration generations g).map GenerationStatus.key).Nodup := by
  rw [setGeneration_keys]
  split_ifs with hmem
  · exact hnd
  · exact hnd.append (List.nodup_singleton _) (List.disjoint_singleton.2 hmem)

/-- Records written in order: a resource's generation is that of the last record written for it,
or the one it had before. -/
theorem genLookup_foldl_setGeneration (records generations : List GenerationStatus)
    (key : String × String × String × String) :
    genLookup (records.foldl setGeneration generations) key =
      match (records.filter (·.key = key)).getLast? with
      | some g => some g.lastGeneration
      | none => genLookup generations key := by
  induction records generalizing generations with
  | nil => rfl
  | cons r rs ih =>
    rw [List.foldl_cons, ih, List.filter_cons]
    rcases hl : (rs.filter (·.key = key)).getLast? with _ | g
    · by_cases hk : r.key = key
      · simp [hk, hl, genLookup_setGeneration, List.getLast?_cons]
      · simp [hk, hl, genLookup_setGeneration, Ne.symm hk]
    · split_ifs <;> simp [hl, List.getLast?_cons]

theorem keys_nodup_foldl_setGeneration (records : List GenerationStatus)
    {generations : List GenerationStatus} (hnd : (generations.map GenerationStatus.key).Nodup) :
    ((records.foldl setGeneration generations).map GenerationStatus.key).Nodup := by
  induction records generalizing generations with
  | nil => exact hnd
  | cons r rs ih => exact ih (setGeneration_keys_nodup r hnd)

/-- The expected generation is the store's entry for the deployment, or `-1`. -/
theorem expectedDeploymentGeneration_eq_genLookup (required : Deployment)
    (generations : List GenerationStatus) :
    expectedDeploymentGeneration required generations =
      (genLookup generations
        ("apps", "deployments", required.metadata.«namespace», required.metadata.name)).getD
      (-1) := by
  unfold expectedDeploymentGeneration genLookup
  cases generationFor generations "apps" "deployments" required.metadata.«namespace»
    required.metadata.name <;> rfl

/-! ## The record a reconcile writes -/

/-- The record `setDeploymentGeneration` writes for a deployment. -/
def deploymentRecord (actual : Deployment) : GenerationStatus :=
  { group := "apps", resource := "deployments", «namespace» := actual.metadata.«namespace»,
    name := actual.metadata.name, lastGeneration := actual.metadata.generation }

section Record

variable (h : Helpers) (client : Orchestrator) (info : ProvisioningInfo)

/-- The record a reconcile writes: that of the object the apply returned, on the paths that reach
the end of the function with a change reported. -/
def ensureRecord : Option GenerationStatus :=
  if client.setControllerReference = none ∧ (appliedDeployment h client info).changed = true ∧
      ((appliedDeployment h client info).err = none ∨
        selectorConflict h client info = true ∧ (deleteMetal3Deployment client info).1 = none) then
    (appliedDeployment h client info).deployment.map deploymentRecord
  else none

/-- A reconcile writes its record, and nothing else, into the generations. -/
theorem ensureMetal3Deployment_generations_eq (now start : Nat) :
    (ensureMetal3Deployment h client now start info).generations =
      match ensureRecord h client info with
      | some g => setGeneration info.provConfig.generations g
      | none => info.provConfig.generations := by
  rcases ensureMetal3Deployment_cases h client info now start with
    ⟨e, hs, hr⟩ | ⟨hs, ha, hr⟩ | ⟨e, hs, ha, hc, hr⟩ | ⟨e, de, hs, ha, hc, hd, hr⟩ |
      ⟨e, hs, ha, hc, hd, hr⟩ <;>
    rcases hdep : (appliedDeployment h client info).deployment with _ | d <;>
    cases hch : (appliedDeployment h client info).changed <;>
    simp [*, ensureRecord, setDeploymentGeneration, deploymentRecord]

/-- A reconcile records only deployments. -/
theorem ensureRecord_deployment {g : GenerationStatus} (hg : g ∈ ensureRecord h client info) :
    g.group = "apps" ∧ g.resource = "deployments" := by
  unfold ensureRecord at hg
  split_ifs at hg
  · obtain ⟨d, -, rfl⟩ := Option.mem_map.1 hg
    exact ⟨rfl, rfl⟩
  · cases hg

end Record

/-! ## Runs of the controller -/

/-- Modelled from the spec: the state the operator keeps across reconciles of the metal3
deployment, the generations of the provisioning status (kept by the caller and handed to the
next reconcile) and `deploymentRolloutStartTime`. -/
structure ControllerState where
  generations : List GenerationStatus
  rolloutStart : Nat

/-- The provisioning information of a reconcile, carrying the stored generations. -/
def ProvisioningInfo.withGenerations (info : ProvisioningInfo)
    (generations : List GenerationStatus) : ProvisioningInfo :=
  { info with provConfig := { info.provConfig with generations } }

namespace ControllerState

variable (h : Helpers)

/-- What one call does to the controller's state. -/
def step (s : ControllerState) : Event → ControllerState
  | .ensure client info now =>
    let r := ensureMetal3Deployment h client now s.rolloutStart (info.withGenerations s.generations)
    ⟨r.generations, r.rolloutStartTime⟩
  | .query .. => s

/-- The state after a run. -/
def run (s : ControllerState) (events : List Event) : ControllerState :=
  events.foldl (step h) s

/-- The record one call writes, as a list of at most one. -/
def stepRecord (s : ControllerState) : Event → List GenerationStatus
  | .ensure client info _ => (ensureRecord h client (info.withGenerations s.generations)).toList
  | .query .. => []

/-- The records the reconciles of a run write, in order. -/
def records (s : ControllerState) : List Event → List GenerationStatus
  | [] => []
  | e :: events => s.stepRecord h e ++ records (s.step h e) events

/-- One call writes its record into the store. -/
theorem step_generations (s : ControllerState) (e : Event) :
    (s.step h e).generations = (s.stepRecord h e).foldl setGeneration s.generations := by
  cases e with
  | ensure client info now =>
    rw [step, stepRecord, ensureMetal3Deployment_generations_eq]
    cases ensureRecord h client (info.withGenerations s.generations) <;> rfl
  | query => rfl

/-- After any run the store is the initial store with the run's records written in order. -/
theorem run_generations (s : ControllerState) (events : List Event) :
    (s.run h events).generations = (s.records h events).foldl setGeneration s.generations := by
  induction events generalizing s with
  | nil => rfl
  | cons e events ih => rw [records, List.foldl_append, ← step_generations]; exact ih _

/-- A run never gives one resource two records. -/
theorem run_keys_nodup (s : ControllerState) (events : List Event)
    (hnd : (s.generations.map GenerationStatus.key).Nodup) :
    ((s.run h events).generations.map GenerationStatus.key).Nodup := by
  rw [run_generations]
  exact keys_nodup_foldl_setGeneration _ hnd

/-- After any run, a resource's generation is that of the last record the run wrote for it, or
the one it had before the run. -/
theorem run_genLookup (s : ControllerState) (events : List Event)
    (key : String × String × String × String) :
    genLookup (s.run h events).generations key =
      match ((s.records h events).filter (·.key = key)).getLast? with
      | some g => some g.lastGeneration
      | none => genLookup s.generations key := by
  rw [run_generations, genLookup_foldl_setGeneration]

/-- After any run, a reconcile passes to its apply the generation of the last record the run
wrote for the metal3 deployment of its namespace, or what the store held before the run. -/
theorem run_expectedGeneration (s : ControllerState) (events : List Event)
    (info : ProvisioningInfo) :
    expectedDeploymentGeneration (newMetal3Deployment h info) (s.run h events).generations =
      match ((s.records h events).filter
          (·.key = ("apps", "deployments", info.«namespace», baremetalDeploymentName))).getLast?
        with
      | some g => g.lastGeneration
      | none => expectedDeploymentGeneration (newMetal3Deployment h info) s.generations := by
  rw [expectedDeploymentGeneration_eq_genLookup, expectedDeploymentGeneration_eq_genLookup,
    run_generations, genLookup_foldl_setGeneration, newMetal3Deployment_namespace,
    newMetal3Deployment_name]
  cases ((s.records h events).filter
    (·.key = ("apps", "deployments", info.«namespace», baremetalDeploymentName))).getLast? <;>
    rfl

/-- A run records only deployments. -/
theorem records_deployment (s : ControllerState) (events : List Event) :
    ∀ g ∈ s.records h events, g.group = "apps" ∧ g.resource = "deployments" := by
  induction events generalizing s with
  | nil => intro g hg; cases hg
  | cons e events ih =>
    intro g hg
    rcases List.mem_append.1 hg with hg | hg
    · cases e with
      | ensure client info now => exact ensureRecord_deployment h _ _ (Option.mem_toList.1 hg)
      | query => cases hg
    · exact ih _ g hg

/-- A run leaves the store's entry for every resource other than a deployment as it was, whatever
the orchestrator answers: the store is shared with the records of other resources. -/
theorem run_keeps_other_resources (s : ControllerState) (events : List Event)
    (key : String × String × String × String) (hk : key.1 ≠ "apps" ∨ key.2.1 ≠ "deployments") :
    genLookup (s.run h events).generations key = genLookup s.generations key := by
  have hnil : (s.records h events).filter (·.key = key) = [] := by
    refine List.filter_eq_nil_iff.2 fun g hg hgk => ?_
    obtain ⟨hgrp, hres⟩ := records_deployment h s events g hg
    rw [← of_decide_eq_true hgk] at hk
    exact hk.elim (· hgrp) (· hres)
  rw [run_generations, genLookup_foldl_setGeneration, hnil]
  rfl

end ControllerState

/-- A store holding the record of the metal3 deployment at generation 1. -/
def metal3Generations : List GenerationStatus :=
  [{ group := "apps", resource := "deployments", «namespace» := "openshift-machine-api",
     name := "metal3", lastGeneration := 1 }]

/-- The no-op restart run's first reconcile records the metal3 deployment again, replacing the
record the store held: one record remains, at the new generation. -/
theorem run_keys_nodup_of_metal3Generations :
    (metal3Generations.map GenerationStatus.key).Nodup ∧
    (((⟨metal3Generations, 0⟩ : ControllerState).run noHelpers noOpRestartRun).generations.map
      GenerationStatus.key).Nodup ∧
    ((⟨metal3Generations, 0⟩ : ControllerState).run noHelpers noOpRestartRun).generations =
      [{ group := "apps", resource := "deployments", «namespace» := "openshift-machine-api",
         name := "metal3", lastGeneration := 0 }] :=
  ⟨by decide, ControllerState.run_keys_nodup noHelpers ⟨metal3Generations, 0⟩ noOpRestartRun
    (by decide), by decide⟩

/-- A store holding the record of the image cache's daemon set. -/
def imageCacheGenerations : List GenerationStatus :=
  [{ group := "apps", resource := "daemonsets", «namespace» := "openshift-machine-api",
     name := "metal3-image-cache", lastGeneration := 3 }]

theorem run_keeps_other_resources_of_noOpRestartRun :
    (("apps", "daemonsets", "openshift-machine-api", "metal3-image-cache").1 ≠ "apps" ∨
      ("apps", "daemonsets", "openshift-machine-api", "metal3-image-cache").2.1 ≠ "deployments") ∧
    genLookup ((⟨imageCacheGenerations, 0⟩ : ControllerState).run noHelpers noOpRestartRun).generations
        ("apps", "daemonsets", "openshift-machine-api", "metal3-image-cache") =
      genLookup imageCacheGenerations
        ("apps", "daemonsets", "openshift-machine-api", "metal3-image-cache") :=
  ⟨.inr (by decide), ControllerState.run_keeps_other_resources noHelpers ⟨imageCacheGenerations, 0⟩
    noOpRestartRun _ (.inr (by decide))⟩

end Metal3Pod
