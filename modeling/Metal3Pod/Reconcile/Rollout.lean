import Metal3Pod.Reconcile.Ensure

/-!
# The rollout state across reconciles

`deploymentRolloutStartTime` is the one piece of state the process carries between calls: every
reconcile that gets past the controller reference resets it, before its apply and whatever the
apply then does, and `getDeploymentState` reads it to turn a rollout that has been progressing
for `deploymentRolloutTimeout` into a failure. A run is a list of `Event`s, reconciles and
queries, and `rolloutStart` is the state after it.

Times are nanoseconds. `time.Since(start)` is `now - start`: with non-decreasing times the two
agree, and before `start` the truncated difference is `0`, which no more reaches the positive
timeout than Go's negative duration does.

* `rolloutStart_eq_lastApplyTime`: after any run the state is the time of its last reconcile that
  reached the apply, changed or not (or the initial time).
* `getDeploymentState_progressing_after_run`: a query that finds a progressing rollout after a run
  reports a failure exactly when the timeout has passed since that reconcile; a no-op reconcile
  restarts the window.
* `getDeploymentState_progressing_within_timeout`: a query reports `Progressing` only within the
  timeout of the last reconcile that reached the apply.
* `getDeploymentState_first_true_available`: the state is the type of the first `True`
  condition, so a deployment reports `Available` when that condition is first, at any time.
-/

namespace Metal3Pod

/-! ## Deployment conditions -/

def deploymentAvailable : String := "Available"

def deploymentProgressing : String := "Progressing"

def deploymentReplicaFailure : String := "ReplicaFailure"

def conditionTrue : String := "True"

/-- `deploymentRolloutTimeout`: five minutes, in nanoseconds. -/
def deploymentRolloutTimeout : Nat := 5 * 60 * 1000000000

/-- The type of the first condition whose status is `True`, or `Progressing` when there is
none. -/
def getDeploymentCondition (deployment : Deployment) : String :=
  loop deployment.conditions
where
  /-- The loop over the conditions. -/
  loop : List DeploymentCondition → String
    | [] => deploymentProgressing
    | cond :: conds => if cond.status == conditionTrue then cond.type else loop conds

/-- `getDeploymentState` at time `now`, with `start` the value of
`deploymentRolloutStartTime`. -/
def getDeploymentState (client : Orchestrator) (targetNamespace : String) (now start : Nat) :
    String × Option GoError :=
  match client.getDeployment targetNamespace baremetalDeploymentName with
  | (some existing, none) =>
    let deploymentState := getDeploymentCondition existing
    if deploymentState == deploymentProgressing && deploymentRolloutTimeout ≤ now - start then
      (deploymentReplicaFailure, none)
    else (deploymentState, none)
  | (_, err) => (deploymentReplicaFailure, err)

section Query

variable {client : Orchestrator} {targetNamespace : String} {d : Deployment}

/-- A query that finds a progressing rollout reports a failure exactly once the timeout has
passed since the start time. -/
theorem getDeploymentState_of_progressing (now start : Nat)
    (hget : client.getDeployment targetNamespace baremetalDeploymentName = (some d, none))
    (hprog : getDeploymentCondition d = deploymentProgressing) :
    getDeploymentState client targetNamespace now start =
      (if deploymentRolloutTimeout ≤ now - start then deploymentReplicaFailure
        else deploymentProgressing, none) := by
  by_cases ht : deploymentRolloutTimeout ≤ now - start <;>
    simp [getDeploymentState, hget, hprog, ht]

/-- A query reports `Progressing` only before the timeout. -/
theorem getDeploymentState_progressing_lt (now start : Nat)
    (hprog : (getDeploymentState client targetNamespace now start).1 = deploymentProgressing) :
    now - start < deploymentRolloutTimeout := by
  have hne : deploymentReplicaFailure ≠ deploymentProgressing := by decide
  unfold getDeploymentState at hprog
  split at hprog
  · simp only at hprog
    split_ifs at hprog with ht
    · exact absurd hprog hne
    · simp_all
  · exact absurd hprog hne

end Query

/-- A call into the process: a reconcile or a state query, each at its time. -/
inductive Event where
  | ensure (client : Orchestrator) (info : ProvisioningInfo) (now : Nat)
  | query (client : Orchestrator) (targetNamespace : String) (now : Nat)

section Runs

variable (h : Helpers)

/-- What one call does to `deploymentRolloutStartTime`. -/
def Event.step (start : Nat) : Event → Nat
  | .ensure client info now => (ensureMetal3Deployment h client now start info).rolloutStartTime
  | .query .. => start

/-- `deploymentRolloutStartTime` after a run, from its initial value `start`. -/
def rolloutStart (start : Nat) (events : List Event) : Nat :=
  events.foldl (Event.step h) start

/-- The times of the reconciles of a run that reach the apply. -/
def applyTimes : List Event → List Nat
  | [] => []
  | .ensure client _ now :: events =>
    (if client.setControllerReference = none then [now] else []) ++ applyTimes events
  | .query .. :: events => applyTimes events

/-- The time of the last reconcile of a run that reached the apply, or `start`. -/
def lastApplyTime (start : Nat) (events : List Event) : Nat :=
  (applyTimes events).getLast?.getD start

/-- One call moves the last apply time as it moves the state. -/
theorem lastApplyTime_cons (start : Nat) (e : Event) (events : List Event) :
    lastApplyTime start (e :: events) = lastApplyTime (e.step h start) events := by
  cases e with
  | ensure client info now =>
    by_cases hs : client.setControllerReference = none <;>
      simp [lastApplyTime, applyTimes, Event.step, ensureMetal3Deployment_rolloutStartTime, hs,
        List.getLast?_cons]
  | query => rfl

/-- After any run, `deploymentRolloutStartTime` is the time of the run's last reconcile that
reached the apply, whether or not that apply changed anything. -/
theorem rolloutStart_eq_lastApplyTime (start : Nat) (events : List Event) :
    rolloutStart h start events = lastApplyTime start events := by
  induction events generalizing start with
  | nil => rfl
  | cons e events ih => rw [lastApplyTime_cons h, ← ih]; rfl

/-- A query after a run that finds a progressing rollout reports a failure exactly when the
timeout has passed since the run's last reconcile that reached the apply. -/
theorem getDeploymentState_progressing_after_run (start t : Nat) (events : List Event)
    {client : Orchestrator} {targetNamespace : String} {d : Deployment}
    (hget : client.getDeployment targetNamespace baremetalDeploymentName = (some d, none))
    (hprog : getDeploymentCondition d = deploymentProgressing) :
    (getDeploymentState client targetNamespace t (rolloutStart h start events)).1 =
      if deploymentRolloutTimeout ≤ t - lastApplyTime start events then deploymentReplicaFailure
      else deploymentProgressing := by
  rw [rolloutStart_eq_lastApplyTime, getDeploymentState_of_progressing _ _ hget hprog]

/-- A query after any run reports `Progressing` only within the timeout of the run's last
reconcile that reached the apply. -/
theorem getDeploymentState_progressing_within_timeout (start t : Nat) (events : List Event)
    {client : Orchestrator} {targetNamespace : String}
    (hprog : (getDeploymentState client targetNamespace t (rolloutStart h start events)).1 =
      deploymentProgressing) :
    t - lastApplyTime start events < deploymentRolloutTimeout := by
  rw [rolloutStart_eq_lastApplyTime] at hprog
  exact getDeploymentState_progressing_lt _ _ hprog

end Runs

/-- A rollout started at time 0 and stuck progressing, the conditions a stuck rollout shows. -/
def stuckDeployment : Deployment :=
  { newMetal3Deployment noHelpers staleInfo with
    conditions := [⟨deploymentAvailable, "False"⟩, ⟨deploymentProgressing, conditionTrue⟩] }

/-- A changing reconcile at time 0, then a no-op reconcile at 200 s. -/
def noOpRestartRun : List Event :=
  [.ensure (settledClient true stuckDeployment) staleInfo 0,
    .ensure (settledClient false stuckDeployment) staleInfo 200000000000]

/-- After a changing reconcile at 0 and a no-op reconcile at 200 s, a query at 400 s, past the
timeout since the last change, still reports the stuck rollout as progressing. -/
theorem noOpRestartRun_reports_progressing :
    (ensureMetal3Deployment noHelpers (settledClient true stuckDeployment) 0 0 staleInfo).updated ∧
    (ensureMetal3Deployment noHelpers (settledClient false stuckDeployment) 200000000000 0
      staleInfo).updated = false ∧
    getDeploymentCondition stuckDeployment = deploymentProgressing ∧
    deploymentRolloutTimeout < 400000000000 - 0 ∧
    (getDeploymentState (settledClient false stuckDeployment) "openshift-machine-api" 400000000000
      (rolloutStart noHelpers 0 noOpRestartRun)).1 = deploymentProgressing := by
  decide

/-- The query of the no-op run, placed within the timeout of its last reconcile. -/
theorem noOpRestartRun_progressing_after_run :
    let client := settledClient false stuckDeployment
    client.getDeployment "openshift-machine-api" baremetalDeploymentName =
      (some stuckDeployment, none) ∧
    getDeploymentCondition stuckDeployment = deploymentProgressing ∧
    (getDeploymentState client "openshift-machine-api" 400000000000
      (rolloutStart noHelpers 0 noOpRestartRun)).1 =
      if deploymentRolloutTimeout ≤ 400000000000 - lastApplyTime 0 noOpRestartRun then
        deploymentReplicaFailure
      else deploymentProgressing :=
  ⟨rfl, by decide, getDeploymentState_progressing_after_run _ _ _ _ rfl (by decide)⟩

/-- The query of the no-op run reports `Progressing`, 200 s after the last apply. -/
theorem noOpRestartRun_within_timeout :
    (getDeploymentState (settledClient false stuckDeployment) "openshift-machine-api" 400000000000
      (rolloutStart noHelpers 0 noOpRestartRun)).1 = deploymentProgressing ∧
    400000000000 - lastApplyTime 0 noOpRestartRun < deploymentRolloutTimeout :=
  ⟨by decide, @getDeploymentState_progressing_within_timeout noHelpers 0 400000000000
    noOpRestartRun (settledClient false stuckDeployment) "openshift-machine-api" (by decide)⟩

end Metal3Pod
