import Metal3Pod.Pod.Template

/-!
# Semantic equality of label selectors

`EnsureMetal3Deployment` compares the selector of the deployment found on the cluster with the
rendered one by `equality.Semantic.DeepEqual`. For a `*metav1.LabelSelector` this is a reflective
comparison in which a nil and an empty map or slice are equal: two nil pointers are equal, a nil
and a non-nil one are not, and two selectors are equal when their label maps have the same entries
and their requirement lists are equal element by element.

Map comparison reads each key of one map in the other; `StringMap.lookup_of_mem` uses the
distinct keys of a Go map to make this reflexive (`semanticDeepEqual_self`).
-/

namespace Metal3Pod

/-- `Semantic.DeepEqual` on two string maps: the same number of entries, and every key of the
first present in the second with the same value. Nil and empty maps are one value here. -/
def StringMap.semanticEq (m₁ m₂ : StringMap) : Bool :=
  m₁.entries.length == m₂.entries.length && m₁.entries.all fun kv => m₂.lookup kv.1 == some kv.2

/-- `Semantic.DeepEqual` on two selectors: their label maps, then their requirements, whose
fields are strings and string slices and so compare by value. -/
def LabelSelector.semanticEq (a b : LabelSelector) : Bool :=
  a.matchLabels.semanticEq b.matchLabels && a.matchExpressions == b.matchExpressions

/-- `equality.Semantic.DeepEqual` on two `*metav1.LabelSelector`. -/
def semanticDeepEqual : Option LabelSelector → Option LabelSelector → Bool
  | none, none => true
  | some a, some b => a.semanticEq b
  | _, _ => false

/-- In a map, every entry is what its key looks up: the keys are distinct. -/
theorem StringMap.lookup_of_mem (m : StringMap) {kv : String × String} (hkv : kv ∈ m.entries) :
    m.lookup kv.1 = some kv.2 := by
  obtain ⟨entries, hnd⟩ := m
  simp only [StringMap.lookup]
  induction entries with
  | nil => cases hkv
  | cons e es ih =>
    rw [List.map_cons, List.nodup_cons] at hnd
    rcases List.mem_cons.1 hkv with rfl | hkv
    · exact List.lookup_cons_self
    · have hne : kv.1 ≠ e.1 := fun he => hnd.1 (he ▸ List.mem_map_of_mem _ hkv)
      rw [List.lookup_cons, beq_false_of_ne hne]
      exact ih hnd.2 hkv

theorem StringMap.semanticEq_self (m : StringMap) : m.semanticEq m = true := by
  simp only [StringMap.semanticEq, beq_self_eq_true, Bool.true_and, List.all_eq_true]
  exact fun kv hkv => by rw [m.lookup_of_mem hkv]; exact beq_self_eq_true _

/-- Semantic equality is reflexive: a deployment whose selector is the rendered one is never
taken for an outdated one. -/
theorem semanticDeepEqual_self (s : Option LabelSelector) : semanticDeepEqual s s = true := by
  cases s with
  | none => rfl
  | some a => simp [semanticDeepEqual, LabelSelector.semanticEq, a.matchLabels.semanticEq_self]

end Metal3Pod
