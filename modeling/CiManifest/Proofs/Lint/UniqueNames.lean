import CiManifest.Proofs.Lint.Verdict

/-!
# The scan for repeated names

Steps and services share one namespace. The linter walks the names of the
steps and then of the services, keeping the names it has met, and stops at the
first name it has met before. Its only state is that collection: after `j`
names it holds exactly the first `j` of them, and a name is new exactly when
it is not among them. So the walk stops at the least position whose name
equals an earlier one.

`FirstRepeatAt names j` says what that position is without the walk. The main
result, `checkUniqueNames_reports_first_repeat`, says the check passes exactly
when the names are distinct, the empty name included, and otherwise fails with
the name at that position and with nothing else.
-/

namespace CiManifest.Lint

/-- Position `j` of `names` holds the first name that equals a name before
it: no earlier position does. -/
structure FirstRepeatAt (names : List String) (j : Nat) : Prop where
  lt_length : j < names.length
  repeats : names[j] ∈ names.take j
  earlier_fresh : ∀ i (earlier : i < j), names[i] ∉ names.take i

/-- The first repeated name is the name at the first position that repeats
an earlier one. -/
theorem firstDuplicate_eq_some_iff (names : List String) (n : String) :
    firstDuplicate names = some n ↔ ∃ j, FirstRepeatAt names j ∧ names[j]? = some n := by
  -- `find?` over the numbered names stops at the least position whose name is repeated
  simp only [firstDuplicate, Option.map_eq_some_iff, List.find?_eq_some_iff_getElem,
    List.getElem_zipIdx, List.length_zipIdx, Prod.exists, Nat.zero_add, decide_eq_true_eq,
    Bool.not_eq_true', decide_eq_false_iff_not, Prod.mk.injEq]
  constructor
  · rintro ⟨m, i, ⟨repeated, j, bound, ⟨rfl, rfl⟩, earlier⟩, rfl⟩
    exact ⟨j, ⟨bound, repeated, earlier⟩, List.getElem?_eq_getElem bound⟩
  · rintro ⟨j, ⟨bound, repeated, earlier⟩, found⟩
    rw [List.getElem?_eq_getElem bound, Option.some.injEq] at found
    exact ⟨names[j], j, ⟨repeated, j, bound, ⟨rfl, rfl⟩, earlier⟩, found⟩

theorem checkUniqueNames_eq_error_iff (p : Pipeline) (e : Violation) :
    checkUniqueNames p = .error e ↔
      ∃ n, firstDuplicate ((p.steps ++ p.services).map (·.name)) = some n ∧
        e = .duplicateStepName n := by
  rw [checkUniqueNames, firstRepeated_nil_eq_firstDuplicate]
  cases firstDuplicate ((p.steps ++ p.services).map (·.name)) with
  | none => simp
  | some n => simp [@eq_comm _ e]

/-- The scan for repeated names passes exactly when the names of the steps and
then the services are distinct, and otherwise fails with the name at the first
position that repeats an earlier one. -/
theorem checkUniqueNames_reports_first_repeat (p : Pipeline) :
    (checkUniqueNames p = .ok () ↔ ((p.steps ++ p.services).map (·.name)).Nodup) ∧
      ∀ e, checkUniqueNames p = .error e ↔
        ∃ j n, FirstRepeatAt ((p.steps ++ p.services).map (·.name)) j ∧
          ((p.steps ++ p.services).map (·.name))[j]? = some n ∧ e = .duplicateStepName n := by
  constructor
  · rw [checkUniqueNames_eq_verdict, verdict_eq_ok_iff, duplicateFaults_eq_nil_iff]
  · intro e
    simp only [checkUniqueNames_eq_error_iff, firstDuplicate_eq_some_iff]
    constructor
    · rintro ⟨n, ⟨j, first, found⟩, rfl⟩
      exact ⟨j, n, first, found, rfl⟩
    · rintro ⟨j, n, first, found, rfl⟩
      exact ⟨n, ⟨j, first, found⟩, rfl⟩

/-- Steps are scanned before services: the step `a` repeats before the
service `b` does. -/
example :
    checkUniqueNames
        { steps := [{ name := "a" }, { name := "b" }, { name := "a" }],
          services := [{ name := "b" }] } =
      .error (.duplicateStepName "a") := by
  decide

end CiManifest.Lint
