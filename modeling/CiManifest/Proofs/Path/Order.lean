import Mathlib.Order.Basic
import Mathlib.Data.String.Basic
import CiManifest.Path

/-!
# Joining names and ordering paths

A directory walk builds each path by joining one entry name after another to
the path it started from. An entry name is a plain name: not empty, without a
separator, and neither `.` nor `..`. Joining such a name adds exactly one
component, so the paths of different entries below one start have different
components (`components_foldl_joinPath`).

Paths are ordered by their components, lexicographically, and the order on
components is a strict total order. So two paths with different components
are ordered one way or the other, never both (`componentsLt_total`,
`componentsLt_asymm`), and a list sorted by "not after" whose paths have
distinct components is strictly increasing.
-/

namespace CiManifest

/-- A name a directory entry can have. -/
structure EntryName (c : String) : Prop where
  nonempty : c ≠ ""
  no_separator : '/' ∉ c.toList
  not_current : c ≠ "."
  not_parent : c ≠ ".."

/-! ## Parts of a joined path -/

@[simp]
theorem pathParts_empty : pathParts "" = [""] := by
  simp [pathParts]

theorem pathParts_eq_single {c : String} (noSeparator : '/' ∉ c.toList) : pathParts c = [c] := by
  simp [pathParts, List.splitOn_eq_singleton noSeparator]

theorem pathParts_append_separator (s c : String) :
    pathParts (s ++ "/" ++ c) = pathParts s ++ pathParts c := by
  simp [pathParts, List.splitOn_append_cons_self]

theorem pathParts_ne_nil (s : String) : pathParts s ≠ [] := by
  simp [pathParts]

/-- A path that ends with a separator is a path followed by an empty part. -/
theorem eq_append_separator_of_endsWith {s : String} (ends : s.endsWith "/" = true) :
    ∃ t, s = t ++ "/" := by
  simp only [← String.endsWith_toSlice, String.Slice.endsWith_string_iff, String.copy_toSlice] at ends
  obtain ⟨front, split⟩ := ends
  refine ⟨String.ofList front, String.toList_inj.mp ?_⟩
  simp [← split]

/-- An entry name does not start with the separator. -/
theorem EntryName.startsWith_separator {c : String} (valid : EntryName c) :
    c.startsWith "/" = false := by
  rw [String.startsWith_string_eq_false_iff]
  rintro ⟨rest, split⟩
  exact valid.no_separator (by simp [← split])

/-- Appending to a path that is not empty keeps whether it starts with the
separator. -/
theorem startsWith_separator_append {s : String} (nonempty : s ≠ "") (t : String) :
    (s ++ t).startsWith "/" = s.startsWith "/" := by
  obtain ⟨first, rest, split⟩ :=
    List.exists_cons_of_ne_nil (mt String.toList_eq_nil_iff.mp nonempty)
  rw [Bool.eq_iff_iff, String.startsWith_string_iff, String.startsWith_string_iff]
  simp [split]

/-- The components that a leading separator and the parts between separators
give. -/
def componentsOfParts (absolute : Bool) (parts : List String) : List Component :=
  (if absolute then [Component.root] else []) ++
    (if !absolute && parts.head? == some "." then [Component.current] else []) ++
    (parts.filter fun p => p != "" && p != ".").map fun p =>
      if p == ".." then Component.parent else Component.name p

theorem components_eq_componentsOfParts (path : String) :
    components path = componentsOfParts (path.startsWith "/") (pathParts path) :=
  rfl

/-- A last part that is an entry name adds it as the last component. -/
theorem componentsOfParts_append (absolute : Bool) {parts : List String} (nonempty : parts ≠ [])
    {c : String} (valid : EntryName c) :
    componentsOfParts absolute (parts ++ [c]) = componentsOfParts absolute parts ++ [.name c] := by
  have head : (parts ++ [c]).head? = parts.head? := List.head?_append_of_ne_nil _ nonempty
  simp only [componentsOfParts, head, List.filter_append, List.map_append, List.append_assoc]
  simp [valid.nonempty, valid.not_current, valid.not_parent]

/-- An empty last part, from a trailing separator, adds nothing. -/
theorem componentsOfParts_append_empty (absolute : Bool) {parts : List String}
    (nonempty : parts ≠ []) :
    componentsOfParts absolute (parts ++ [""]) = componentsOfParts absolute parts := by
  have head : (parts ++ [""]).head? = parts.head? := List.head?_append_of_ne_nil _ nonempty
  simp [componentsOfParts, head, List.filter_append]

/-- Joining an entry name adds one component. -/
theorem components_joinPath (base : String) {c : String} (valid : EntryName c) :
    components (joinPath base c) = components base ++ [.name c] := by
  rw [components_eq_componentsOfParts, components_eq_componentsOfParts]
  unfold joinPath
  by_cases empty : base.isEmpty
  · -- an empty base has no components; the name alone is the path
    have : base = "" := by simpa using empty
    subst this
    rw [if_pos (by simp), String.empty_append, valid.startsWith_separator,
      pathParts_eq_single valid.no_separator]
    simp [componentsOfParts, valid.nonempty, valid.not_current, valid.not_parent]
  have nonempty : base ≠ "" := by simpa using empty
  by_cases ends : base.endsWith "/"
  · -- the separator is already there, as an empty last part
    obtain ⟨front, rfl⟩ := eq_append_separator_of_endsWith ends
    have frontParts : pathParts (front ++ "/") = pathParts front ++ [""] :=
      calc pathParts (front ++ "/")
          = pathParts (front ++ "/" ++ "") := by rw [String.append_empty]
        _ = pathParts front ++ [""] := by rw [pathParts_append_separator, pathParts_empty]
    rw [if_pos (by simp [ends]), startsWith_separator_append nonempty, pathParts_append_separator,
      frontParts, pathParts_eq_single valid.no_separator,
      componentsOfParts_append _ (pathParts_ne_nil front) valid,
      componentsOfParts_append_empty _ (pathParts_ne_nil front)]
  · rw [if_neg (by simp [empty, ends]), String.append_assoc, startsWith_separator_append nonempty,
      ← String.append_assoc, pathParts_append_separator, pathParts_eq_single valid.no_separator,
      componentsOfParts_append _ (pathParts_ne_nil base) valid]

/-- Joining entry names one after another adds one component each. -/
theorem components_foldl_joinPath (base : String) {cs : List String}
    (valid : ∀ c ∈ cs, EntryName c) :
    components (cs.foldl joinPath base) = components base ++ cs.map .name := by
  induction cs generalizing base with
  | nil => simp
  | cons c rest ih =>
      rw [List.foldl_cons, ih (joinPath base c) fun d mem => valid d (List.mem_cons_of_mem c mem),
        components_joinPath base (valid c List.mem_cons_self)]
      simp

/-! ## The order of components -/

@[simp]
theorem Component.beq_iff_eq {a b : Component} : (a == b) = true ↔ a = b := by
  cases a <;> cases b <;> simp [BEq.beq, instBEqComponent.beq]

instance : DecidableEq Component :=
  fun a b => decidable_of_iff (a == b) Component.beq_iff_eq

/-- Two names compare as texts; otherwise kinds compare by rank. -/
theorem Component.lt_iff (a b : Component) :
    a.lt b = true ↔ match a, b with
      | .name x, .name y => x < y
      | _, _ => a.rank < b.rank := by
  cases a <;> cases b <;> simp [Component.lt]

-- Names compare by the order of texts; the other cases compare ranks.
theorem Component.lt_asymm {a b : Component} (before : a.lt b = true) : b.lt a = false := by
  rw [← Bool.not_eq_true, Component.lt_iff]
  rw [Component.lt_iff] at before
  cases a <;> cases b
  case name.name x y => exact not_lt_of_gt before
  all_goals simp_all [Component.rank]

theorem Component.lt_trans {a b c : Component} (first : a.lt b = true) (second : b.lt c = true) :
    a.lt c = true := by
  rw [Component.lt_iff] at first second ⊢
  cases a <;> cases b <;> cases c
  case name.name.name x y z => exact (show x < y from first).trans (show y < z from second)
  all_goals simp_all [Component.rank]

theorem Component.lt_total {a b : Component} (different : a ≠ b) :
    a.lt b = true ∨ b.lt a = true := by
  rw [Component.lt_iff, Component.lt_iff]
  cases a <;> cases b
  case name.name x y => exact lt_or_gt_of_ne fun same => different (same ▸ rfl)
  all_goals simp_all [Component.rank]

/-- The order compares the first components that differ; a proper prefix comes
first. -/
theorem componentsLt_cons (a b : Component) (as bs : List Component) :
    componentsLt (a :: as) (b :: bs) = if a = b then componentsLt as bs else a.lt b := by
  by_cases same : a = b <;> simp [componentsLt, same]

/-- Lexicographic order never puts a list before itself. -/
theorem componentsLt_irrefl (as : List Component) : componentsLt as as = false := by
  induction as with
  | nil => rfl
  | cons a rest ih => simp [componentsLt_cons, ih]

theorem componentsLt_asymm {as bs : List Component} (before : componentsLt as bs = true) :
    componentsLt bs as = false := by
  induction as generalizing bs with
  | nil => cases bs <;> simp_all [componentsLt]
  | cons a rest ih =>
      cases bs with
      | nil => simp [componentsLt] at before
      | cons b others =>
          rw [componentsLt_cons] at before ⊢
          by_cases same : a = b
          · subst same
            simp only [if_true] at before ⊢
            exact ih before
          · rw [if_neg same] at before
            rw [if_neg (Ne.symm same)]
            exact Component.lt_asymm before

theorem componentsLt_total {as bs : List Component} (different : as ≠ bs) :
    componentsLt as bs = true ∨ componentsLt bs as = true := by
  induction as generalizing bs with
  | nil => cases bs <;> simp_all [componentsLt]
  | cons a rest ih =>
      cases bs with
      | nil => simp [componentsLt]
      | cons b others =>
          rw [componentsLt_cons, componentsLt_cons]
          by_cases same : a = b
          · subst same
            simp only [if_true]
            exact ih (fun equal => different (equal ▸ rfl))
          · rw [if_neg same, if_neg (Ne.symm same)]
            exact Component.lt_total same

theorem componentsLt_trans {as bs cs : List Component} (first : componentsLt as bs = true)
    (second : componentsLt bs cs = true) : componentsLt as cs = true := by
  induction as generalizing bs cs with
  | nil => cases bs <;> cases cs <;> simp_all [componentsLt]
  | cons a rest ih =>
      cases bs with
      | nil => simp [componentsLt] at first
      | cons b middle =>
          cases cs with
          | nil => simp [componentsLt] at second
          | cons c last =>
              -- equal heads defer to the tails; the first head that differs decides
              rw [componentsLt_cons] at first second ⊢
              by_cases ab : a = b <;> by_cases bc : b = c
              · subst ab bc
                simp only [if_true] at first second ⊢
                exact ih first second
              · subst ab
                rw [if_neg bc] at second ⊢
                exact second
              · subst bc
                rw [if_neg ab] at first ⊢
                exact first
              · rw [if_neg ab] at first
                rw [if_neg bc] at second
                have ac : a ≠ c := by
                  rintro rfl
                  simp [Component.lt_asymm first] at second
                rw [if_neg ac]
                exact Component.lt_trans first second

/-! ## Sorting paths -/

/-- Being "not after" in path order is transitive. -/
theorem not_pathLt_trans {a b c : String} (first : (!pathLt b a) = true)
    (second : (!pathLt c b) = true) : (!pathLt c a) = true := by
  simp only [Bool.not_eq_true', pathLt] at first second ⊢
  by_contra after
  rw [Bool.not_eq_false] at after
  by_cases same : components c = components b
  · rw [same] at after
    simp [after] at first
  · rcases componentsLt_total same with before | before
    · simp [before] at second
    · simp [componentsLt_trans before after] at first

theorem not_pathLt_total (a b : String) : ((!pathLt b a) || !pathLt a b) = true := by
  cases before : pathLt a b
  · simp
  · simp [pathLt, componentsLt_asymm (show componentsLt (components a) (components b) = true
      from before)]

/-- Paths sorted by "not after", no two with the same components, are strictly
increasing. -/
theorem pairwise_pathLt_mergeSort {paths : List String}
    (distinct : paths.Pairwise fun a b => components a ≠ components b) :
    (paths.mergeSort fun a b => !pathLt b a).Pairwise fun a b => pathLt a b = true := by
  have sorted : (paths.mergeSort fun a b => !pathLt b a).Pairwise
      fun a b => (!pathLt b a) = true :=
    @List.pairwise_mergeSort String (fun a b => !pathLt b a) (fun _ _ _ => not_pathLt_trans)
      not_pathLt_total paths
  have apart : (paths.mergeSort fun a b => !pathLt b a).Pairwise
      fun a b => components a ≠ components b :=
    ((List.mergeSort_perm paths fun a b => !pathLt b a).pairwise_iff
      fun different => Ne.symm different).mpr distinct
  refine (sorted.and apart).imp fun {a b} ⟨notAfter, different⟩ => ?_
  rcases componentsLt_total different with before | after
  · exact before
  · simp [pathLt, after] at notAfter

end CiManifest
