import Mathlib.Data.List.Basic

/-!
# The VSphere platform topology apply configuration

`VSpherePlatformTopologyApplyConfiguration` is the generated declarative configuration of a VSphere
failure domain's topology. Each pointer field is set by its own `With` function, `WithNetworks`
appends, and every `With` function mutates its receiver and returns it, so a chain of calls on
`VSpherePlatformTopology()` is a fold of the calls over the empty configuration.

The five pointer setters share one body, `setField`, and a chain of calls is a list of
`TopologyCall`s.

* `build_spec`: after any chain of calls, each pointer field holds the value of the last call that
  set it, or is nil if none did, and the networks are the values of every `withNetworks` call in
  call order.
-/

namespace Metal3Pod

/-- A pointer field is `nil` (`none`) or points at a string. `Networks` is `nil` until its first
append and never empty after it, so the nil slice is the empty list. -/
structure VSpherePlatformTopologyApplyConfiguration where
  datacenter : Option String := none
  computeCluster : Option String := none
  networks : List String := []
  datastore : Option String := none
  resourcePool : Option String := none
  folder : Option String := none
  deriving DecidableEq, Repr

/-- The pointer fields, each set by its own `With` function. -/
inductive TopologyField
  | datacenter | computeCluster | datastore | resourcePool | folder
  deriving DecidableEq, Repr

/-- `VSpherePlatformTopology()`: the empty configuration. -/
def vSpherePlatformTopology : VSpherePlatformTopologyApplyConfiguration := {}

namespace VSpherePlatformTopologyApplyConfiguration

variable (b : VSpherePlatformTopologyApplyConfiguration)

/-- The value a pointer field points at. -/
def get : TopologyField → Option String
  | .datacenter => b.datacenter
  | .computeCluster => b.computeCluster
  | .datastore => b.datastore
  | .resourcePool => b.resourcePool
  | .folder => b.folder

/-- `b.<Field> = &value`, the body of every pointer `With` function. -/
def setField (f : TopologyField) (value : String) : VSpherePlatformTopologyApplyConfiguration :=
  match f with
  | .datacenter => { b with datacenter := some value }
  | .computeCluster => { b with computeCluster := some value }
  | .datastore => { b with datastore := some value }
  | .resourcePool => { b with resourcePool := some value }
  | .folder => { b with folder := some value }

def withDatacenter (value : String) := b.setField .datacenter value

def withComputeCluster (value : String) := b.setField .computeCluster value

def withDatastore (value : String) := b.setField .datastore value

def withResourcePool (value : String) := b.setField .resourcePool value

def withFolder (value : String) := b.setField .folder value

/-- `for i := range values { b.Networks = append(b.Networks, values[i]) }`. -/
def withNetworks (values : List String) : VSpherePlatformTopologyApplyConfiguration :=
  values.foldl (fun b v => { b with networks := b.networks ++ [v] }) b

@[simp] theorem get_setField (f g : TopologyField) (value : String) :
    (b.setField f value).get g = if g = f then some value else b.get g := by
  cases f <;> cases g <;> rfl

@[simp] theorem networks_setField (f : TopologyField) (value : String) :
    (b.setField f value).networks = b.networks := by
  cases f <;> rfl

/-- The loop appends the values in order and touches no pointer field. -/
theorem withNetworks_spec (values : List String) :
    (b.withNetworks values).networks = b.networks ++ values ∧
      ∀ f, (b.withNetworks values).get f = b.get f := by
  induction values generalizing b with
  | nil => simp [withNetworks]
  | cons v values ih =>
    obtain ⟨hn, hg⟩ := ih { b with networks := b.networks ++ [v] }
    refine ⟨by simpa [withNetworks] using hn, fun f => ?_⟩
    rw [withNetworks, List.foldl_cons, ← withNetworks, hg]
    cases f <;> rfl

end VSpherePlatformTopologyApplyConfiguration

open VSpherePlatformTopologyApplyConfiguration

/-- One call of a chain: a pointer field's `With` function, or `withNetworks`. -/
inductive TopologyCall
  | set (f : TopologyField) (value : String)
  | networks (values : List String)
  deriving DecidableEq, Repr

namespace TopologyCall

def apply (b : VSpherePlatformTopologyApplyConfiguration) :
    TopologyCall → VSpherePlatformTopologyApplyConfiguration
  | .set f value => b.setField f value
  | .networks values => b.withNetworks values

/-- The value a call sets a pointer field to, if it sets that field. -/
def valueFor (f : TopologyField) : TopologyCall → Option String
  | .set g value => if g = f then some value else none
  | .networks _ => none

/-- The values a call appends to the networks. -/
def networkValues : TopologyCall → List String
  | .set _ _ => []
  | .networks values => values

/-- One call sets a pointer field exactly as `valueFor` says, and appends its `networkValues`. -/
theorem apply_spec (b : VSpherePlatformTopologyApplyConfiguration) (c : TopologyCall) :
    (∀ f, (c.apply b).get f = (c.valueFor f).or (b.get f)) ∧
      (c.apply b).networks = b.networks ++ c.networkValues := by
  cases c with
  | set g value =>
    refine ⟨fun f => ?_, by simp [apply, networkValues]⟩
    by_cases hf : g = f <;> simp [apply, valueFor, hf, eq_comm]
  | networks values =>
    exact ⟨fun f => by simp [apply, valueFor, (b.withNetworks_spec values).2],
      (b.withNetworks_spec values).1⟩

end TopologyCall

/-- The configuration a chain of calls on `VSpherePlatformTopology()` builds. -/
def buildTopology (calls : List TopologyCall) : VSpherePlatformTopologyApplyConfiguration :=
  calls.foldl TopologyCall.apply vSpherePlatformTopology

/-- A run of calls from any configuration: the last call setting a field wins over the starting
value, and the networks grow by each call's values in call order. -/
theorem foldl_apply_spec (calls : List TopologyCall)
    (b : VSpherePlatformTopologyApplyConfiguration) :
    (∀ f, (calls.foldl TopologyCall.apply b).get f =
      (calls.filterMap (TopologyCall.valueFor f)).getLast?.or (b.get f)) ∧
    (calls.foldl TopologyCall.apply b).networks =
      b.networks ++ calls.flatMap TopologyCall.networkValues := by
  induction calls using List.reverseRecOn with
  | nil => simp
  | append_singleton calls c ih =>
    obtain ⟨hget, hnet⟩ := TopologyCall.apply_spec (calls.foldl TopologyCall.apply b) c
    refine ⟨fun f => ?_, ?_⟩
    · rw [List.foldl_append, List.foldl_cons, List.foldl_nil, hget, ih.1, List.filterMap_append,
        List.getLast?_append, List.filterMap_cons, List.filterMap_nil]
      rcases c.valueFor f with _ | v <;> rfl
    · simp [hnet, ih.2]

/-- After any chain of calls on `VSpherePlatformTopology()`, each pointer field holds the value of
the last call that set it, or is nil if none did, and the networks are the values of every
`withNetworks` call, in call order. -/
theorem build_spec (calls : List TopologyCall) :
    (∀ f, (buildTopology calls).get f = (calls.filterMap (TopologyCall.valueFor f)).getLast?) ∧
    (buildTopology calls).networks = calls.flatMap TopologyCall.networkValues := by
  obtain ⟨hget, hnet⟩ := foldl_apply_spec calls vSpherePlatformTopology
  refine ⟨fun f => ?_, hnet⟩
  have hnil : vSpherePlatformTopology.get f = none := by cases f <;> rfl
  rw [buildTopology, hget, hnil, Option.or_none]

end Metal3Pod
