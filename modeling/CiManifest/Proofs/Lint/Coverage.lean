import Mathlib.Data.List.Nodup
import CiManifest.Lint.Registry

/-!
# Every diagnostic has a rule

The registry lists each rule once, and every rule id a diagnostic can carry,
the parse rule's and each violation's, is among them. So a diagnostic's rule is
always found, by id (`Rule.find?`) or by position (`Rule.indexOf?`), and since
the ids are distinct the lookups name the one rule that carries the id.
-/

namespace CiManifest.Lint

/-- A rule id is registered when a rule of the registry carries it. -/
def Rule.Registered (id : String) : Prop :=
  ∃ rule ∈ Rule.all, rule.id = id

instance : DecidablePred Rule.Registered := fun id =>
  inferInstanceAs (Decidable (∃ rule ∈ Rule.all, rule.id = id))

/-- No two rules of the registry share an id. -/
theorem Rule.all_ids_nodup : (Rule.all.map Rule.id).Nodup := by
  decide

theorem Rule.parseErrorRuleId_registered : Rule.Registered parseErrorRuleId := by
  decide

theorem Violation.ruleId_registered (v : Violation) : Rule.Registered v.ruleId := by
  cases v with
  | untrusted p => cases p <;> decide
  | _ => simp only [Violation.ruleId]; decide

/-- Looking an id up gives the rule of the registry that carries it. -/
theorem Rule.find?_eq_some_iff {id : String} {rule : Rule} :
    Rule.find? id = some rule ↔ rule ∈ Rule.all ∧ rule.id = id := by
  constructor
  · intro found
    exact ⟨List.mem_of_find?_eq_some found, by simpa using List.find?_some found⟩
  · rintro ⟨mem, rfl⟩
    obtain ⟨other, found⟩ : ∃ other, Rule.find? rule.id = some other :=
      Option.isSome_iff_exists.mp (List.find?_isSome.mpr ⟨rule, mem, by simp⟩)
    have otherMem : other ∈ Rule.all := List.mem_of_find?_eq_some found
    have sameId : other.id = rule.id := by simpa using List.find?_some found
    -- two rules with one id are the same rule
    rw [found, List.inj_on_of_nodup_map Rule.all_ids_nodup otherMem mem sameId]

theorem Rule.find?_of_registered {id : String} (registered : Rule.Registered id) :
    ∃ rule ∈ Rule.all, rule.id = id ∧ Rule.find? id = some rule := by
  obtain ⟨rule, mem, rfl⟩ := registered
  exact ⟨rule, mem, rfl, Rule.find?_eq_some_iff.mpr ⟨mem, rfl⟩⟩

/-- The position found for an id carries that id. -/
theorem Rule.indexOf?_carries {id : String} {i : Nat} (found : Rule.indexOf? id = some i) :
    Rule.all[i]?.map Rule.id = some id := by
  obtain ⟨bound, carries, -⟩ := List.findIdx?_eq_some_iff_getElem.mp found
  simpa [List.getElem?_eq_getElem bound] using carries

/-- The position of an id is the one position of the registry that carries it. -/
theorem Rule.indexOf?_eq_some_iff {id : String} {i : Nat} :
    Rule.indexOf? id = some i ↔ Rule.all[i]?.map Rule.id = some id := by
  refine ⟨Rule.indexOf?_carries, fun carries => ?_⟩
  obtain ⟨j, found⟩ : ∃ j, Rule.indexOf? id = some j := by
    obtain ⟨rule, atI, rfl⟩ := Option.map_eq_some_iff.mp carries
    exact Option.isSome_iff_exists.mp
      (by simpa [Rule.indexOf?] using ⟨rule, List.mem_of_getElem? atI, by simp⟩)
  have atJ := Rule.indexOf?_carries found
  have bound : j < Rule.all.length := by
    by_contra outside
    simp [List.getElem?_eq_none (Nat.le_of_not_lt outside)] at atJ
  -- the ids are distinct, so the positions agree
  have same : j = i :=
    (List.getElem?_inj (by simpa using bound) Rule.all_ids_nodup).mp
      (by simp only [List.getElem?_map, atJ, carries])
  rw [found, same]

theorem Rule.indexOf?_of_registered {id : String} (registered : Rule.Registered id) :
    ∃ i, Rule.indexOf? id = some i ∧ Rule.all[i]?.map Rule.id = some id := by
  obtain ⟨rule, mem, rfl⟩ := registered
  obtain ⟨i, atI⟩ := List.getElem?_of_mem mem
  exact ⟨i, Rule.indexOf?_eq_some_iff.mpr (by simp [atI]), by simp [atI]⟩

end CiManifest.Lint
