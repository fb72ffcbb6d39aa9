import Mathlib.Data.List.Nodup
import CiManifest.Report.Run
import CiManifest.Proofs.Path.Order

/-!
# Which files discovery finds

A file named directly is taken whatever its extension. Otherwise discovery
walks the directory the path names and keeps every file reached through
directories none of which is excluded, among them those with a configured
extension; the directory walked from is never excluded, whatever its name.
`FileBelow` says what it is for a list of names to lead from a directory to a
file, with no reference to the walk.

The walk is bounded by the number of entries of the workspace, which is never
short: reaching a file `k` names down passes `k` distinct entries. In a
well-formed tree, where each path is listed once and each name is a plain entry
name, the files found have distinct components, so sorting them gives a
strictly increasing list. The main result is `discover_finds_sorted`.
-/

namespace CiManifest

namespace Workspace

/-- A workspace that is a directory tree: each path is listed once, and every
name along a path is an entry name. -/
structure WellFormed (ws : Workspace) : Prop where
  paths_nodup : (ws.entries.map Prod.fst).Nodup
  entryNames : ∀ entry ∈ ws.entries, ∀ c ∈ entry.1, EntryName c

/-- The names `cs` lead from the directory at `names` through directories to a
file. -/
inductive FileBelow (ws : Workspace) : List String → List String → Prop
  | file {names : List String} {child : String} {bytes : Array UInt8} :
      ws.entry? (names ++ [child]) = some (.file bytes) → FileBelow ws names [child]
  | directory {names : List String} {child : String} {rest : List String} :
      ws.entry? (names ++ [child]) = some .directory → FileBelow ws (names ++ [child]) rest →
        FileBelow ws names (child :: rest)

variable {ws : Workspace}

/-- An entry below the top is one the workspace lists. -/
theorem entry_ne_none_iff (names : List String) (child : String) :
    ws.entry? (names ++ [child]) ≠ none ↔ names ++ [child] ∈ ws.entries.map Prod.fst := by
  unfold entry?
  rw [if_neg (by simp), Option.ne_none_iff_isSome, List.lookup_isSome_iff, List.mem_map]
  simp only [beq_iff_eq]
  exact ⟨fun ⟨p, mem, same⟩ => ⟨p, mem, same.symm⟩, fun ⟨p, mem, same⟩ => ⟨p, mem, same.symm⟩⟩

/-- A listed path is a child of `names` exactly when it extends `names` by one
name. -/
theorem childOf_eq_some_iff {names path : List String} {child : String} :
    (if path.dropLast == names && path.length == names.length + 1 then path.getLast? else none) =
      some child ↔ path = names ++ [child] := by
  constructor
  · intro named
    split at named
    · rename_i extending
      simp only [Bool.and_eq_true, beq_iff_eq] at extending
      rw [← extending.1, List.dropLast_append_getLast? child named]
    · cases named
  · rintro rfl
    simp

/-- The children of a directory are the names that extend it by one to a
listed path. -/
theorem mem_childNames {names : List String} {child : String} :
    child ∈ ws.childNames names ↔ names ++ [child] ∈ ws.entries.map Prod.fst := by
  simp only [childNames, List.mem_filterMap, List.mem_map, childOf_eq_some_iff]

/-- In a well-formed tree, the children of a directory are listed once each. -/
theorem childNames_nodup (wellFormed : ws.WellFormed) (names : List String) :
    (ws.childNames names).Nodup := by
  have asPaths : ws.childNames names = (ws.entries.map Prod.fst).filterMap fun path =>
      if path.dropLast == names && path.length == names.length + 1 then path.getLast? else none := by
    rw [List.filterMap_map]
    rfl
  rw [asPaths]
  refine wellFormed.paths_nodup.filterMap ?_
  intro path other child named otherNamed
  rw [Option.mem_def, childOf_eq_some_iff] at named otherNamed
  rw [named, otherNamed]

theorem FileBelow.ne_nil {names cs : List String} (below : ws.FileBelow names cs) : cs ≠ [] := by
  cases below <;> simp

/-- Every step down to the file passes a listed path. -/
theorem FileBelow.prefix_listed {names cs : List String} (below : ws.FileBelow names cs) :
    ∀ i < cs.length, names ++ cs.take (i + 1) ∈ ws.entries.map Prod.fst := by
  induction below with
  | file found =>
      intro i short
      have : i = 0 := by simpa using short
      subst this
      simpa using (entry_ne_none_iff _ _).mp (by simp [found])
  | directory found _ ih =>
      intro i short
      cases i with
      | zero => simpa using (entry_ne_none_iff _ _).mp (by simp [found])
      | succ i =>
          have listed := ih i (by simpa using short)
          simpa using listed

/-- Reaching a file takes no more steps than the workspace has entries. -/
theorem FileBelow.length_le {names cs : List String} (below : ws.FileBelow names cs) :
    cs.length ≤ ws.entries.length := by
  let steps := (List.range cs.length).map fun i => names ++ cs.take (i + 1)
  have distinct : steps.Nodup := by
    refine (List.nodup_range).map_on ?_
    intro i first j second same
    have lengths := congrArg List.length same
    simp only [List.mem_range] at first second
    simp only [List.length_append, List.length_take] at lengths
    omega
  have listed : steps ⊆ ws.entries.map Prod.fst := by
    intro path mem
    obtain ⟨i, short, rfl⟩ := List.mem_map.mp mem
    exact below.prefix_listed i (List.mem_range.mp short)
  simpa [steps] using distinct.length_le_of_subset listed

/-- The names of a file below a directory are names its entries carry. -/
theorem FileBelow.entryNames {names cs : List String} (wellFormed : ws.WellFormed)
    (below : ws.FileBelow names cs) : ∀ c ∈ cs, EntryName c := by
  intro c mem
  obtain ⟨i, short, rfl⟩ := List.getElem_of_mem mem
  obtain ⟨entry, listed, path⟩ := List.mem_map.mp (below.prefix_listed i short)
  apply wellFormed.entryNames entry listed
  rw [path]
  exact List.mem_append_right _ (List.mem_iff_getElem.mpr ⟨i, by simp [short], List.getElem_take⟩)

end Workspace

namespace Report

open Workspace

variable {ws : Workspace} {d : DiscoveryConfig}

/-- What a walk from `names`, shown as `display`, keeps of the names `cs`
below it: they lead to a file through directories that are not excluded, and
the file has a configured extension. -/
def Keeps (ws : Workspace) (d : DiscoveryConfig) (display : String) (names cs : List String) :
    Prop :=
  ws.FileBelow names cs ∧ (∀ c ∈ cs.dropLast, d.isExcluded c = false) ∧
    d.matches (cs.foldl joinPath display) = true

/-- Below one child, the walk keeps the files below that child, given what
`below` keeps inside a directory. -/
theorem mem_walkChild {below : String → List String → List String} {fuel : Nat}
    (belowKeeps : ∀ {display names p}, p ∈ below display names ↔
      ∃ cs, Keeps ws d display names cs ∧ cs.length ≤ fuel ∧ p = cs.foldl joinPath display)
    {display : String} {names : List String} {child p : String} :
    p ∈ walkChild ws d below display names child ↔
      ∃ rest, Keeps ws d display names (child :: rest) ∧ rest.length ≤ fuel ∧
        p = (child :: rest).foldl joinPath display := by
  unfold walkChild Keeps
  dsimp only
  split
  · -- a file: kept alone when it matches
    rename_i bytes found
    constructor
    · intro kept
      split at kept
      · rename_i matching
        exact ⟨[], ⟨.file found, by simp, matching⟩, by simp, by simpa using kept⟩
      · simp at kept
    · rintro ⟨rest, ⟨fileBelow, _, matching⟩, _, rfl⟩
      cases fileBelow with
      | file _ =>
          simp only [List.foldl_cons, List.foldl_nil] at matching
          simp [matching]
      | directory isDirectory _ => simp [found] at isDirectory
  · -- a directory: walked when it is not excluded
    rename_i found
    split
    · rename_i excluded
      simp only [List.not_mem_nil, false_iff, not_exists, not_and]
      rintro rest ⟨fileBelow, kept, _⟩
      cases fileBelow with
      | file isFile => simp [found] at isFile
      | directory _ inner =>
          rw [List.dropLast_cons_of_ne_nil inner.ne_nil] at kept
          simp [kept child List.mem_cons_self] at excluded
    · rename_i notExcluded
      rw [belowKeeps]
      constructor
      · rintro ⟨rest, ⟨inner, kept, matching⟩, short, rfl⟩
        refine ⟨rest, ⟨.directory found inner, ?_, matching⟩, short, rfl⟩
        rw [List.dropLast_cons_of_ne_nil inner.ne_nil]
        rintro c (_ | ⟨_, deeper⟩)
        · simpa using notExcluded
        · exact kept c deeper
      · rintro ⟨rest, ⟨fileBelow, kept, matching⟩, short, rfl⟩
        cases fileBelow with
        | file isFile => simp [found] at isFile
        | directory _ inner =>
            rw [List.dropLast_cons_of_ne_nil inner.ne_nil] at kept
            exact ⟨rest, ⟨inner, fun c deeper => kept c (List.mem_cons_of_mem child deeper),
              matching⟩, short, rfl⟩
  · -- nothing is there
    rename_i missing
    simp only [List.not_mem_nil, false_iff, not_exists, not_and]
    rintro rest ⟨fileBelow, -⟩
    cases fileBelow with
    | file isFile => simp [missing] at isFile
    | directory isDirectory _ => simp [missing] at isDirectory

/-- The files a walk of at most `fuel` levels keeps. -/
theorem mem_walk {fuel : Nat} {display : String} {names : List String} {p : String} :
    p ∈ walk ws d fuel display names ↔
      ∃ cs, Keeps ws d display names cs ∧ cs.length ≤ fuel ∧ p = cs.foldl joinPath display := by
  induction fuel generalizing display names p with
  | zero =>
      simp only [walk_zero, List.not_mem_nil, nonpos_iff_eq_zero, List.length_eq_zero_iff, false_iff]
      rintro ⟨cs, ⟨fileBelow, -⟩, empty, -⟩
      exact fileBelow.ne_nil empty
  | succ fuel ih =>
      rw [walk_succ, List.mem_flatMap]
      constructor
      · rintro ⟨child, _, inChild⟩
        obtain ⟨rest, keeps, short, rfl⟩ := (mem_walkChild ih).mp inChild
        exact ⟨child :: rest, keeps, by simpa using short, rfl⟩
      · rintro ⟨cs, keeps, short, rfl⟩
        obtain ⟨child, rest, rfl⟩ := List.exists_cons_of_ne_nil keeps.1.ne_nil
        have listed : child ∈ ws.childNames names := by
          apply mem_childNames.mpr
          simpa using keeps.1.prefix_listed 0 (by simp)
        exact ⟨child, listed, (mem_walkChild ih).mpr ⟨rest, keeps, by simpa using short, rfl⟩⟩

/-- In a well-formed tree, the components of a kept file are those of the
walk's start followed by the names down to it. -/
theorem components_of_keeps (wellFormed : ws.WellFormed) {display : String}
    {names cs : List String} (keeps : Keeps ws d display names cs) :
    components (cs.foldl joinPath display) = components display ++ cs.map .name :=
  components_foldl_joinPath display (keeps.1.entryNames wellFormed)

/-- In a well-formed tree, different files kept by a walk have different
components. -/
theorem names_eq_of_components_eq (wellFormed : ws.WellFormed) {display : String}
    {names cs others : List String} (keeps : Keeps ws d display names cs)
    (keepsOthers : Keeps ws d display names others)
    (same : components (cs.foldl joinPath display) = components (others.foldl joinPath display)) :
    cs = others := by
  rw [components_of_keeps wellFormed keeps, components_of_keeps wellFormed keepsOthers,
    List.append_cancel_left_eq] at same
  exact List.map_injective_iff.mpr (fun _ _ named => Component.name.inj named) same

/-- Below one child the walk repeats nothing that `below` does not repeat. -/
theorem walkChild_nodup {below : String → List String → List String}
    (belowNodup : ∀ display names, (below display names).Nodup) (display : String)
    (names : List String) (child : String) : (walkChild ws d below display names child).Nodup := by
  unfold walkChild
  dsimp only
  split
  · split <;> simp
  · split
    · simp
    · exact belowNodup _ _
  · simp

/-- In a well-formed tree, a walk lists each file once. -/
theorem walk_nodup (wellFormed : ws.WellFormed) (fuel : Nat) (display : String)
    (names : List String) : (walk ws d fuel display names).Nodup := by
  induction fuel generalizing display names with
  | zero => simp
  | succ fuel ih =>
      rw [walk_succ, List.nodup_flatMap]
      constructor
      · exact fun child _ => walkChild_nodup ih display names child
      · -- files below different children differ in the child's component
        refine (childNames_nodup wellFormed names).imp fun {first second} different => ?_
        intro p inFirst inSecond
        obtain ⟨rest, keeps, _, rfl⟩ := (mem_walkChild mem_walk).mp inFirst
        obtain ⟨others, keepsOthers, _, same⟩ := (mem_walkChild mem_walk).mp inSecond
        have names := names_eq_of_components_eq wellFormed keeps keepsOthers (congrArg components same)
        exact different (List.cons.inj names).1

/-- In a well-formed tree, the files a walk finds have distinct components. -/
theorem walk_pairwise_components (wellFormed : ws.WellFormed) (fuel : Nat) (display : String)
    (names : List String) :
    (walk ws d fuel display names).Pairwise fun a b => components a ≠ components b := by
  refine (walk_nodup wellFormed fuel display names).imp_of_mem ?_
  intro a b inFirst inSecond different same
  obtain ⟨cs, keeps, _, rfl⟩ := mem_walk.mp inFirst
  obtain ⟨others, keepsOthers, _, rfl⟩ := mem_walk.mp inSecond
  exact different (by rw [names_eq_of_components_eq wellFormed keeps keepsOthers same])

theorem isExcluded_eq_false_iff {c : String} : d.isExcluded c = false ↔ c ∉ d.exclude := by
  simp [DiscoveryConfig.isExcluded]

/-- What discovery finds below a directory: the files a walk keeps, with no
bound on their depth. -/
theorem mem_discover_of_resolve {target : String} {names : List String}
    (notFile : ws.isFile target = false) (resolved : ws.resolve target = some names) {p : String} :
    p ∈ discover ws d target ↔ ∃ cs, Keeps ws d target names cs ∧ p = cs.foldl joinPath target := by
  simp only [discover, notFile, Bool.false_eq_true, if_false, resolved, List.mem_mergeSort, mem_walk]
  constructor
  · rintro ⟨cs, keeps, _, rfl⟩
    exact ⟨cs, keeps, rfl⟩
  · -- the walk's bound is never reached: each level down passes an entry
    rintro ⟨cs, keeps, rfl⟩
    exact ⟨cs, keeps, Nat.le_succ_of_le keeps.1.length_le, rfl⟩

/-- Discovery takes a file named directly as it is, whatever its extension.
Otherwise it finds exactly the files reached from the directory the path names
through directories whose names are not excluded (the directory itself is
never excluded) and that have a configured extension; in a well-formed tree
they come strictly increasing in path order, so each once. -/
theorem discover_finds_sorted (ws : Workspace) (d : DiscoveryConfig) (target : String)
    (wellFormed : ws.WellFormed) :
    (ws.isFile target = true → discover ws d target = [target]) ∧
      (ws.isFile target = false →
        (∀ p, p ∈ discover ws d target ↔
          ∃ names cs, ws.resolve target = some names ∧ ws.FileBelow names cs ∧
            (∀ c ∈ cs.dropLast, c ∉ d.exclude) ∧ d.matches (cs.foldl joinPath target) = true ∧
            p = cs.foldl joinPath target) ∧
        (discover ws d target).Pairwise (fun a b => pathLt a b = true) ∧
        (discover ws d target).Nodup) := by
  refine ⟨fun isFile => by simp [discover, isFile], fun notFile => ?_⟩
  cases resolved : ws.resolve target with
  | none =>
      have nothing : discover ws d target = [] := by simp [discover, notFile, resolved]
      simp [nothing]
  | some names =>
      have sorted : (discover ws d target).Pairwise fun a b => pathLt a b = true := by
        simp only [discover, notFile, Bool.false_eq_true, if_false, resolved]
        exact pairwise_pathLt_mergeSort (walk_pairwise_components wellFormed _ _ _)
      refine ⟨fun p => ?_, sorted, sorted.imp fun {a b} before same => ?_⟩
      · rw [mem_discover_of_resolve notFile resolved]
        simp only [Keeps, isExcluded_eq_false_iff, Option.some.injEq, and_assoc]
        exact ⟨fun ⟨cs, kept⟩ => ⟨names, cs, rfl, kept⟩, fun ⟨_, cs, rfl, kept⟩ => ⟨cs, kept⟩⟩
      · subst same
        simp [pathLt, componentsLt_irrefl] at before

/-- A directory with two pipeline files, listed out of order. -/
def ciTree : Workspace :=
  { entries := [(["ci"], .directory), (["ci", "b.yml"], .file #[]), (["ci", "a.yml"], .file #[])] }

theorem ciTree_wellFormed : ciTree.WellFormed where
  paths_nodup := by decide
  entryNames := by
    simp only [ciTree, List.mem_cons, List.not_mem_nil, or_false]
    rintro entry (rfl | rfl | rfl) c named <;>
      simp only [List.mem_cons, List.not_mem_nil, or_false] at named <;>
      rcases named with rfl | rfl <;>
      exact ⟨by decide, by decide, by decide, by decide⟩

theorem discover_ciTree_sorted :
    (discover ciTree {} "ci").Pairwise fun a b => pathLt a b = true :=
  ((discover_finds_sorted ciTree {} "ci" ciTree_wellFormed).2 (by decide +kernel)).2.1

end Report

end CiManifest
