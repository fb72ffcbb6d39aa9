import Mathlib
import CiManifest.Config

/-!
# Which paths a configured extension picks up

A path has an extension when its last component is a plain name made of a
non-empty stem, a dot and a text free of dots, and is not `..`
(`HasExtension`): `.yml` has none, `a.` has the empty one, and `dir.yml/` has
`yml`. Reading a configuration keeps each configured extension without its
leading dots and in lowercase, and a path matches when the lowercase of its
extension is one of them. The main result, `ofToml_matches_iff`, states the
match without the normalized list: the lowercase of the path's extension equals
the lowercase of some configured extension stripped of its leading dots.

Lowercasing never writes a dot where the text has none, nor drops one
(`Text.dot_mem_lowercase`): the lowercase tables send no character to a dot.
So an extension that keeps a dot after its leading ones are stripped, such as
`tar.gz`, matches no path, since a path's extension holds no dot.
-/

namespace CiManifest.Text

/-- A number that is not a code point becomes the null character. -/
theorem toNat_charOfNat_cases (m : Nat) : (Char.ofNat m).toNat = m ∨ (Char.ofNat m).toNat = 0 := by
  unfold Char.ofNat
  split
  · exact .inl rfl
  · exact .inr rfl

/-- Every one-character lowercase mapping of the tables lands at `a` or above. -/
theorem lowerRuns_target_ge : ∀ r ∈ lowerRuns.toList, 97 ≤ (r.first : Int) + r.offset := by
  decide +kernel

/-- Among ASCII characters only the dot lowercases to a dot. -/
theorem ascii_toLower_eq_dot_iff : ∀ n : Fin 128, (Char.ofNat n).toLower = '.' ↔ (n : Nat) = 46 := by
  decide +kernel

theorem lowerChar_eq_dot_iff (c : Char) : lowerChar c = '.' ↔ c = '.' := by
  have dot : c = '.' ↔ c.toNat = 46 := by
    rw [← Char.toNat_inj]
    rfl
  unfold lowerChar
  dsimp only
  split
  · rename_i ascii
    simpa [dot] using ascii_toLower_eq_dot_iff ⟨c.toNat, ascii⟩
  · rename_i above
    split
    · rename_i r found
      have matched := Array.find?_some found
      have target := lowerRuns_target_ge r (Array.mem_toList_iff.mpr (Array.mem_of_find?_eq_some found))
      simp only [Bool.and_eq_true, decide_eq_true_eq] at matched
      have high : 97 ≤ ((c.toNat : Int) + r.offset).toNat := by omega
      rw [dot, ← Char.toNat_inj]
      constructor
      · intro same
        rcases toNat_charOfNat_cases ((c.toNat : Int) + r.offset).toNat with value | value <;>
          simp_all
      · intro; omega
    · rfl

/-- Lowercasing writes a dot exactly where the text has one. -/
theorem dot_mem_lowerChars (before cs : List Char) : '.' ∈ lowerChars before cs ↔ '.' ∈ cs := by
  induction cs generalizing before with
  | nil => simp [lowerChars]
  | cons c rest ih =>
      simp only [lowerChars, List.mem_append, ih, List.mem_cons]
      -- what is written for `c` holds a dot exactly when `c` is one
      by_cases sigma : c = capitalSigma
      · subst sigma
        simp only [beq_self_eq_true, if_true]
        split <;> simp [capitalSigma]
      · by_cases dotted : c = 'İ'
        · subst dotted
          simp [capitalSigma]
        · simp [sigma, dotted, @eq_comm _ '.' (lowerChar c), @eq_comm _ '.' c, lowerChar_eq_dot_iff]

theorem dot_mem_lowercase (s : String) : '.' ∈ (lowercase s).toList ↔ '.' ∈ s.toList := by
  simp [lowercase, String.toList_ofList, dot_mem_lowerChars]

end CiManifest.Text

namespace CiManifest

/-! ## The extension of a path -/

/-- The first dot of a list of characters, at position `j`: what comes
before it holds no dot. -/
theorem findIdx?_dot_eq_some_iff (cs : List Char) (j : Nat) :
    cs.findIdx? (· == '.') = some j ↔
      ∃ front back, cs = front ++ '.' :: back ∧ '.' ∉ front ∧ j = front.length := by
  induction cs generalizing j with
  | nil => simp
  | cons c rest ih =>
      rw [List.findIdx?_cons]
      by_cases isDot : c = '.'
      · subst isDot
        simp only [beq_self_eq_true, ↓reduceIte, Option.some.injEq]
        constructor
        · rintro rfl
          exact ⟨[], rest, rfl, by simp, rfl⟩
        · rintro ⟨front, back, split, noDot, rfl⟩
          cases front with
          | nil => rfl
          | cons first more =>
              obtain ⟨rfl, -⟩ := List.cons_eq_cons.mp split
              simp at noDot
      · simp only [beq_iff_eq, isDot, ↓reduceIte, Option.map_eq_some_iff, ih]
        constructor
        · rintro ⟨_, ⟨front, back, rfl, noDot, rfl⟩, rfl⟩
          exact ⟨c :: front, back, rfl, by simp [noDot, Ne.symm isDot], rfl⟩
        · rintro ⟨front, back, split, noDot, rfl⟩
          cases front with
          | nil => simp at split; exact absurd split.1 isDot
          | cons first more =>
              obtain ⟨rfl, rfl⟩ := List.cons_eq_cons.mp split
              exact ⟨more.length, ⟨more, back, rfl, by simp_all, rfl⟩, rfl⟩

/-- A name that is not `..`, split at its last dot: its extension is what
follows the dot, unless nothing comes before the dot. -/
theorem nameExtension?_of_lastDot {name : String} (parent : name ≠ "..") {front back : List Char}
    (split : name.toList = front ++ '.' :: back) (noDot : '.' ∉ back) :
    nameExtension? name = if front = [] then none else some (String.ofList back) := by
  have reversed : name.toList.reverse = back.reverse ++ '.' :: front.reverse := by
    simp [split]
  have lastDot := (findIdx?_dot_eq_some_iff _ back.length).mpr
    ⟨back.reverse, front.reverse, reversed, by simpa using noDot, by simp⟩
  have dot : name.toList.length - 1 - back.length = front.length := by
    simp [split]
  unfold nameExtension?
  simp only [beq_iff_eq, parent, ↓reduceIte, lastDot, dot, List.length_eq_zero_iff]
  rw [split, List.drop_length_add_append]
  rfl

/-- A file name has the extension `x` when it is some non-empty text, a dot and
then `x` free of dots, and it is not `..`. -/
theorem nameExtension?_eq_some_iff (name x : String) :
    nameExtension? name = some x ↔
      name ≠ ".." ∧ ∃ s, s ≠ "" ∧ name = s ++ "." ++ x ∧ '.' ∉ x.toList := by
  by_cases parent : name = ".."
  · simp [nameExtension?, parent]
  simp only [parent, ne_eq, not_false_eq_true, true_and]
  constructor
  · intro found
    -- a name with an extension has a last dot, which splits it into stem and extension
    cases lastDot : name.toList.reverse.findIdx? (· == '.') with
    | none => simp [nameExtension?, parent, lastDot] at found
    | some j =>
        obtain ⟨back, front, reversed, noDot, rfl⟩ := (findIdx?_dot_eq_some_iff _ _).mp lastDot
        have split : name.toList = front.reverse ++ '.' :: back.reverse := by
          rw [← List.reverse_reverse name.toList, reversed]
          simp
        rw [nameExtension?_of_lastDot parent split (by simpa using noDot)] at found
        by_cases stemEmpty : front.reverse = []
        · simp [stemEmpty] at found
        · simp only [stemEmpty, ↓reduceIte, Option.some.injEq] at found
          subst found
          refine ⟨String.ofList front.reverse, ?_, ?_, by simpa [String.toList_ofList] using noDot⟩
          · simpa [← String.toList_inj] using stemEmpty
          · rw [← String.toList_inj, split]
            simp [String.toList_append, String.toList_ofList]
  · rintro ⟨s, nonempty, rfl, noDot⟩
    have stem : s.toList ≠ [] := by simpa [String.toList_eq_nil_iff] using nonempty
    rw [@nameExtension?_of_lastDot _ parent s.toList x.toList (by simp [String.toList_append]) noDot]
    simp [stem]

/-- The path's last component is a plain name: a non-empty stem, a dot, and
the extension `x`, free of dots; and the name is not `..`. -/
def HasExtension (path x : String) : Prop :=
  ∃ name s, fileName? path = some name ∧ name ≠ ".." ∧ name = s ++ "." ++ x ∧ s ≠ "" ∧
    '.' ∉ x.toList

theorem extension?_eq_some_iff (path x : String) : extension? path = some x ↔ HasExtension path x := by
  simp only [extension?, Option.bind_eq_some_iff, nameExtension?_eq_some_iff, HasExtension]
  constructor
  · rintro ⟨name, named, parent, s, stem, rfl, noDot⟩
    exact ⟨_, s, named, parent, rfl, stem, noDot⟩
  · rintro ⟨name, s, named, parent, rfl, stem, noDot⟩
    exact ⟨_, named, parent, s, stem, rfl, noDot⟩

/-! ## Matching against the configured extensions -/

theorem DiscoveryConfig.matches_eq_true_iff (d : DiscoveryConfig) (path : String) :
    d.matches path = true ↔ ∃ x, extension? path = some x ∧ Text.lowercase x ∈ d.extensions := by
  unfold DiscoveryConfig.matches
  cases extension? path <;> simp

/-- Reading a configuration normalizes the extensions it was given. -/
theorem Config.ofToml_eq_ok {text : String} {raw : Config}
    (read : (Toml.readDocument text >>= decodeConfig) = .ok raw) :
    Config.ofToml text = .ok { raw with discovery := raw.discovery.normalize } := by
  simp [Config.ofToml, read]

/-- An extension that keeps a dot once its leading dots are stripped is the
lowercase of no path's extension. -/
theorem lowercase_ne_normalizeExtension {path x e : String} (found : extension? path = some x)
    (innerDot : '.' ∈ (e.toList.dropWhile (· == '.'))) :
    Text.lowercase x ≠ normalizeExtension e := by
  obtain ⟨name, s, -, -, -, -, noDot⟩ := (extension?_eq_some_iff path x).mp found
  intro same
  have withDot : '.' ∈ (normalizeExtension e).toList := by
    rw [normalizeExtension, Text.dot_mem_lowercase, String.toList_ofList]
    exact innerDot
  rw [← same, Text.dot_mem_lowercase] at withDot
  exact noDot withDot

/-- The configuration a TOML text gives matches a path exactly when the
lowercase of the path's extension is the lowercase of a configured extension
stripped of its leading dots. So a file named `.yml` never matches, a file
named `a.` matches only an extension that normalizes to the empty text, and an
extension with an inner dot, such as `tar.gz`, matches no path. -/
theorem ofToml_matches_iff {text : String} {raw : Config}
    (read : (Toml.readDocument text >>= decodeConfig) = .ok raw) :
    ∃ config, Config.ofToml text = .ok config ∧
      (∀ path, config.discovery.matches path = true ↔
        ∃ x, HasExtension path x ∧ ∃ e ∈ raw.discovery.extensions,
          Text.lowercase x = Text.lowercase (String.ofList (e.toList.dropWhile (· == '.')))) ∧
      (∀ path, fileName? path = some ".yml" → config.discovery.matches path = false) ∧
      (∀ path, fileName? path = some "a." →
        (config.discovery.matches path = true ↔
          ∃ e ∈ raw.discovery.extensions, normalizeExtension e = "")) ∧
      (∀ e ∈ raw.discovery.extensions, '.' ∈ (e.toList.dropWhile (· == '.')) →
        ∀ path x, extension? path = some x → Text.lowercase x ≠ normalizeExtension e) := by
  refine ⟨_, Config.ofToml_eq_ok read, fun path => ?_, fun path named => ?_, fun path named => ?_,
    fun e _ innerDot path x found => lowercase_ne_normalizeExtension found innerDot⟩
  · rw [DiscoveryConfig.matches_eq_true_iff]
    refine exists_congr fun x => and_congr (extension?_eq_some_iff path x) ?_
    simp only [DiscoveryConfig.normalize, List.mem_map, normalizeExtension]
    exact exists_congr fun e => and_congr_right fun _ => eq_comm
  · -- a leading dot is no stem: the name has no extension
    have none : extension? path = none := by
      simp only [extension?, named, Option.bind_some]
      decide
    simp [DiscoveryConfig.matches, none]
  · -- the stem `a` and the empty extension
    have empty : extension? path = some "" := by
      simp only [extension?, named, Option.bind_some]
      decide
    have lowerEmpty : Text.lowercase "" = "" := by decide
    rw [DiscoveryConfig.matches_eq_true_iff]
    simp [empty, lowerEmpty, DiscoveryConfig.normalize]

/-- A configuration listing `.YML` and `tar.gz` reads, and its matches are as
`ofToml_matches_iff` says. -/
theorem ofToml_matches_iff_yml_targz :
    (Toml.readDocument "[discovery]\nextensions = [\".YML\", \"tar.gz\"]\n" >>= decodeConfig) =
        .ok { discovery := { extensions := [".YML", "tar.gz"] } } ∧
      ∃ config, Config.ofToml "[discovery]\nextensions = [\".YML\", \"tar.gz\"]\n" = .ok config ∧
        (∀ path, config.discovery.matches path = true ↔
          ∃ x, HasExtension path x ∧ ∃ e ∈ [".YML", "tar.gz"],
            Text.lowercase x = Text.lowercase (String.ofList (e.toList.dropWhile (· == '.')))) ∧
        (∀ path, fileName? path = some ".yml" → config.discovery.matches path = false) ∧
        (∀ path, fileName? path = some "a." →
          (config.discovery.matches path = true ↔ ∃ e ∈ [".YML", "tar.gz"], normalizeExtension e = "")) ∧
        (∀ e ∈ [".YML", "tar.gz"], '.' ∈ (e.toList.dropWhile (· == '.')) →
          ∀ path x, extension? path = some x → Text.lowercase x ≠ normalizeExtension e) := by
  have read : (Toml.readDocument "[discovery]\nextensions = [\".YML\", \"tar.gz\"]\n" >>= decodeConfig) =
      .ok { discovery := { extensions := [".YML", "tar.gz"] } } := by
    cbv
  exact ⟨read, ofToml_matches_iff read⟩

end CiManifest
