import CiManifest.Yaml.Compose

/-!
# The composer's budget is never what stops it

`Document.node` reads a node with a step budget (`fuel`), so that it and the
two loops it calls (over a sequence's members and over a mapping's entries) are
defined by structural recursion. Running out of budget ends the read with
`.error .endOfStream`, an error a document may also give for its own reasons;
this file shows that `Document.fuel` is enough for that never to happen.

Every read lowers a measure of the work left (`Document.measure`), a number
that orders reads lexicographically by
* the collections a read may still enter, which only entering a collection
  lowers;
* the aliases it may still read, which only reading an alias lowers;
* the events ahead of it, which only moving forward lowers;
* the kind of read: a loop over members, then a node, then a node whose tag has
  been taken.

A loop reads its next member where the last one ended, so the measure of that
call rests on what the last read did: a read that succeeds ends after the event
it started at and counts no fewer aliases (`compose_advances`). With that, one
more unit of budget than the measure changes nothing (`compose_fuel_succ`), and
no budget beyond `Document.fuel` changes what reading a document gives
(`node_fuel_stable`).
-/

namespace CiManifest.Yaml

/-- The work left to a read of kind `rank` (3 for a loop, 2 for a node, 1 for a
node whose tag has been taken) at position `pos`, with `depth` collections still
allowed and `jumps` aliases read. Each component outweighs all those after it. -/
def Document.measure (d : Document) (rank depth pos jumps : Nat) : Nat :=
  rank + 4 * (d.items.size - pos) + 4 * (d.items.size + 1) * (d.aliasLimit - jumps) +
    4 * (d.items.size + 1) * (d.aliasLimit + 1) * depth

/-- The rank of a node read: lower once its tag has been taken. -/
def nodeRank (tagged : Bool) : Nat :=
  if tagged then 1 else 2

theorem nodeRank_le_two (tagged : Bool) : nodeRank tagged ≤ 2 := by
  cases tagged <;> decide

variable {d : Document}

/-! ## Every recursive call lowers the measure -/

theorem Document.measure_lt_of_rank_lt {r r' depth pos jumps : Nat} (lower : r < r') :
    d.measure r depth pos jumps < d.measure r' depth pos jumps := by
  unfold Document.measure
  omega

/-- A loop's member, or a mapping's key, is a node read where the loop stands. -/
theorem Document.measure_node_lt_loop {tagged : Bool} {depth pos jumps : Nat} :
    d.measure (nodeRank tagged) depth pos jumps < d.measure 3 depth pos jumps :=
  d.measure_lt_of_rank_lt (Nat.lt_of_le_of_lt (nodeRank_le_two tagged) (by decide))

/-- A node under a local tag is read again where it stands, with its tag taken. -/
theorem Document.measure_retag_lt {depth pos jumps : Nat} :
    d.measure (nodeRank true) depth pos jumps < d.measure (nodeRank false) depth pos jumps :=
  d.measure_lt_of_rank_lt (by decide)

/-- An alias spends one of the aliases left, which outweighs wherever it leads. -/
theorem Document.measure_alias_lt {r r' depth pos target jumps : Nat} (rank : r ≤ 3)
    (allowed : jumps + 1 ≤ d.aliasLimit) :
    d.measure r depth target (jumps + 1) < d.measure r' depth pos jumps := by
  unfold Document.measure
  have spent : 4 * (d.items.size + 1) * (d.aliasLimit - jumps) =
      4 * (d.items.size + 1) * (d.aliasLimit - (jumps + 1)) + 4 * (d.items.size + 1) := by
    rw [← Nat.mul_add_one]
    congr 1
    omega
  omega

/-- Entering a collection spends one level of depth, which outweighs the rest. -/
theorem Document.measure_enter_lt {r depth pos jumps : Nat} :
    d.measure 3 depth (pos + 1) jumps < d.measure r (depth + 1) pos jumps := by
  unfold Document.measure
  have level : 4 * (d.items.size + 1) * (d.aliasLimit + 1) * (depth + 1) =
      4 * (d.items.size + 1) * (d.aliasLimit + 1) * depth +
        4 * (d.items.size + 1) * (d.aliasLimit + 1) :=
    Nat.mul_add_one _ _
  have wide : 4 * (d.items.size + 1) ≤ 4 * (d.items.size + 1) * (d.aliasLimit + 1) :=
    Nat.le_mul_of_pos_right _ (Nat.succ_pos _)
  omega

/-- A read that starts after an earlier one ended, with no fewer aliases
counted, has less work left than a read at the earlier position. -/
theorem Document.measure_advance_lt {r r' depth pos next jumps jumps' : Nat} (rank : r ≤ r')
    (inside : pos < d.items.size) (forward : pos < next) (counted : jumps ≤ jumps')
    (limited : jumps' ≤ d.aliasLimit) :
    d.measure r depth next jumps' < d.measure r' depth pos jumps := by
  unfold Document.measure
  rcases Nat.eq_or_lt_of_le counted with rfl | more
  · omega
  · -- one alias more outweighs any position
    have spent : 4 * (d.items.size + 1) * (d.aliasLimit - jumps') + 4 * (d.items.size + 1) ≤
        4 * (d.items.size + 1) * (d.aliasLimit - jumps) := by
      rw [← Nat.mul_add_one]
      exact Nat.mul_le_mul_left _ (by omega)
    omega

/-- The budget of a document exceeds the measure of reading it. -/
theorem Document.measure_root_lt_fuel : d.measure (nodeRank false) 128 0 0 < d.fuel := by
  unfold Document.measure Document.fuel nodeRank
  have depth : 4 * (d.items.size + 1) * (d.aliasLimit + 1) * 129 =
      4 * (d.items.size + 1) * (d.aliasLimit + 1) * 128 +
        4 * (d.items.size + 1) * (d.aliasLimit + 1) :=
    Nat.mul_add_one _ _
  have aliases : 4 * (d.items.size + 1) * (d.aliasLimit + 1) =
      4 * (d.items.size + 1) * d.aliasLimit + 4 * (d.items.size + 1) :=
    Nat.mul_add_one _ _
  simp only [if_false, Bool.false_eq_true, Nat.sub_zero]
  omega

/-! ## Reads move forward -/

/-- A read that succeeds ends after the event it started at (a loop may end
where it started, on its end event), and counts no fewer aliases than before,
within the limit. -/
theorem Document.compose_advances (fuel : Nat) :
    (∀ {path depth tagged pos jumps node next jumps'}, jumps ≤ d.aliasLimit →
      d.node fuel path depth tagged pos jumps = .ok (node, next, jumps') →
      pos < next ∧ jumps ≤ jumps' ∧ jumps' ≤ d.aliasLimit) ∧
    (∀ {path depth pos jumps acc members next jumps'}, jumps ≤ d.aliasLimit →
      d.sequenceItems fuel path depth pos jumps acc = .ok (members, next, jumps') →
      pos ≤ next ∧ jumps ≤ jumps' ∧ jumps' ≤ d.aliasLimit) ∧
    (∀ {path mapMark depth tagged pos jumps acc entries next jumps'}, jumps ≤ d.aliasLimit →
      d.mappingEntries fuel path mapMark depth tagged pos jumps acc = .ok (entries, next, jumps') →
      pos ≤ next ∧ jumps ≤ jumps' ∧ jumps' ≤ d.aliasLimit) := by
  induction fuel with
  | zero =>
      refine ⟨fun _ read => ?_, fun _ read => ?_, fun _ read => ?_⟩ <;>
        simp only [Document.node, Document.sequenceItems, Document.mappingEntries,
          reduceCtorEq] at read
  | succ fuel ih =>
      obtain ⟨nodeAdvances, itemsAdvance, entriesAdvance⟩ := ih
      refine ⟨?_, ?_, ?_⟩
      · intro path depth tagged pos jumps node next jumps' within read
        rw [Document.node] at read
        split at read
        · cases read
        -- one case per kind of event
        split at read
        · -- a void event is null
          cases read
          exact ⟨Nat.lt_succ_self pos, Nat.le_refl jumps, within⟩
        · -- an alias reads its target, counting one alias more
          split at read
          · cases read
          rename_i allowed
          split at read
          · cases read
          split at read
          · cases read
          rename_i aliasRead
          cases read
          obtain ⟨-, counted, limited⟩ := nodeAdvances (Nat.le_of_not_lt allowed) aliasRead
          exact ⟨Nat.lt_succ_self pos, by omega, limited⟩
        · -- a scalar, read again without its tag when it has a local one
          split at read
          · split at read
            · cases read
            rename_i tagRead
            cases read
            exact nodeAdvances within tagRead
          · split at read
            · cases read
              exact ⟨Nat.lt_succ_self pos, Nat.le_refl jumps, within⟩
            · cases read
        · -- a sequence: its members, then its end event
          split at read
          · split at read
            · cases read
            rename_i tagRead
            cases read
            exact nodeAdvances within tagRead
          · split at read
            · cases read
            split at read
            · cases read
            rename_i membersRead
            split at read
            · cases read
            cases read
            obtain ⟨ahead, counted, limited⟩ := itemsAdvance within membersRead
            exact ⟨by omega, counted, limited⟩
        · -- a mapping: its entries, then its end event
          split at read
          · split at read
            · cases read
            rename_i tagRead
            cases read
            exact nodeAdvances within tagRead
          · split at read
            · cases read
            split at read
            · cases read
            rename_i entriesRead
            split at read
            · cases read
            cases read
            obtain ⟨ahead, counted, limited⟩ := entriesAdvance within entriesRead
            exact ⟨by omega, counted, limited⟩
        · cases read
        · cases read
      · intro path depth pos jumps acc members next jumps' within read
        rw [Document.sequenceItems] at read
        split at read
        · cases read
        · -- the end event closes the loop where it is
          cases read
          exact ⟨Nat.le_refl pos, Nat.le_refl jumps, within⟩
        · cases read
          exact ⟨Nat.le_refl pos, Nat.le_refl jumps, within⟩
        · split at read
          · cases read
          rename_i memberRead
          obtain ⟨forward, counted, limited⟩ := nodeAdvances within memberRead
          obtain ⟨ahead, counted', limited'⟩ := itemsAdvance limited read
          exact ⟨by omega, by omega, limited'⟩
      · intro path mapMark depth tagged pos jumps acc entries next jumps' within read
        rw [Document.mappingEntries] at read
        split at read
        · cases read
        · cases read
          exact ⟨Nat.le_refl pos, Nat.le_refl jumps, within⟩
        · cases read
          exact ⟨Nat.le_refl pos, Nat.le_refl jumps, within⟩
        · split at read
          · cases read
          rename_i keyRead
          obtain ⟨forward, counted, limited⟩ := nodeAdvances within keyRead
          split at read
          · cases read
          split at read
          · cases read
          rename_i valueRead
          obtain ⟨forward', counted', limited'⟩ := nodeAdvances limited valueRead
          obtain ⟨ahead, counted'', limited''⟩ := entriesAdvance limited' read
          exact ⟨by omega, by omega, limited''⟩

/-! ## Budget beyond the measure is never used -/

/-- A read whose measure is below its budget gives the same with one unit more. -/
theorem Document.compose_fuel_succ (fuel : Nat) :
    (∀ {path depth tagged pos jumps}, jumps ≤ d.aliasLimit →
      d.measure (nodeRank tagged) depth pos jumps < fuel →
      d.node (fuel + 1) path depth tagged pos jumps = d.node fuel path depth tagged pos jumps) ∧
    (∀ {path depth pos jumps acc}, jumps ≤ d.aliasLimit → d.measure 3 depth pos jumps < fuel →
      d.sequenceItems (fuel + 1) path depth pos jumps acc =
        d.sequenceItems fuel path depth pos jumps acc) ∧
    (∀ {path mapMark depth tagged pos jumps acc}, jumps ≤ d.aliasLimit →
      d.measure 3 depth pos jumps < fuel →
      d.mappingEntries (fuel + 1) path mapMark depth tagged pos jumps acc =
        d.mappingEntries fuel path mapMark depth tagged pos jumps acc) := by
  induction fuel with
  | zero =>
      exact ⟨fun _ small => absurd small (Nat.not_lt_zero _),
        fun _ small => absurd small (Nat.not_lt_zero _),
        fun _ small => absurd small (Nat.not_lt_zero _)⟩
  | succ fuel ih =>
      obtain ⟨nodeSame, itemsSame, entriesSame⟩ := ih
      obtain ⟨nodeAdvances, -, -⟩ := d.compose_advances fuel
      refine ⟨?_, ?_, ?_⟩
      · intro path depth tagged pos jumps within small
        -- every read the node makes has a lower measure, so the budget left exceeds it
        have lower : ∀ {r depth' pos' jumps'}, d.measure r depth' pos' jumps' <
            d.measure (nodeRank tagged) depth pos jumps → d.measure r depth' pos' jumps' < fuel :=
          fun lt => Nat.lt_of_lt_of_le lt (Nat.le_of_lt_succ small)
        have retagged : tagged = false →
            d.node (fuel + 1) path depth true pos jumps = d.node fuel path depth true pos jumps := by
          rintro rfl
          exact nodeSame within (lower d.measure_retag_lt)
        conv => lhs; rw [Document.node]
        conv => rhs; rw [Document.node]
        cases d.items[pos]? with
        | none => rfl
        | some entry =>
            obtain ⟨item, m⟩ := entry
            cases item with
            | void => rfl
            | «alias» id =>
                dsimp only
                by_cases exhausted : jumps + 1 > d.aliasLimit
                · rw [if_pos exhausted, if_pos exhausted]
                · rw [if_neg exhausted, if_neg exhausted]
                  cases d.targets.lookup id with
                  | none => rfl
                  | some target =>
                      dsimp only
                      have allowed : jumps + 1 ≤ d.aliasLimit := Nat.le_of_not_lt exhausted
                      rw [nodeSame allowed
                        (lower (d.measure_alias_lt (by decide : nodeRank false ≤ 3) allowed))]
            | scalar tag value style =>
                cases tagged with
                | true => rfl
                | false =>
                    dsimp only
                    rw [retagged rfl]
            | sequenceStart tag =>
                cases depth with
                | zero =>
                    cases tagged with
                    | true => rfl
                    | false =>
                        dsimp only
                        rw [retagged rfl]
                | succ depth =>
                    dsimp only
                    rw [itemsSame within (lower d.measure_enter_lt)]
                    cases tagged with
                    | true => rfl
                    | false => rw [retagged rfl]
            | mappingStart tag =>
                cases depth with
                | zero =>
                    cases tagged with
                    | true => rfl
                    | false =>
                        dsimp only
                        rw [retagged rfl]
                | succ depth =>
                    dsimp only
                    rw [entriesSame within (lower d.measure_enter_lt)]
                    cases tagged with
                    | true => rfl
                    | false => rw [retagged rfl]
            | sequenceEnd => rfl
            | mappingEnd => rfl
      · intro path depth pos jumps acc within small
        conv => lhs; rw [Document.sequenceItems]
        conv => rhs; rw [Document.sequenceItems]
        split
        · rfl
        · rfl
        · rfl
        · rename_i _ _ hItem
          have inside : pos < d.items.size := (Array.getElem?_eq_some_iff.mp hItem).1
          -- the member is read where the loop stands, and the loop goes on after it
          rw [nodeSame within (Nat.lt_of_lt_of_le d.measure_node_lt_loop (Nat.le_of_lt_succ small))]
          split
          · rfl
          · rename_i memberRead
            obtain ⟨forward, counted, limited⟩ := nodeAdvances within memberRead
            exact itemsSame limited (Nat.lt_of_lt_of_le
              (d.measure_advance_lt (Nat.le_refl 3) inside forward counted limited)
              (Nat.le_of_lt_succ small))
      · intro path mapMark depth tagged pos jumps acc within small
        conv => lhs; rw [Document.mappingEntries]
        conv => rhs; rw [Document.mappingEntries]
        split
        · rfl
        · rfl
        · rfl
        · rename_i _ _ hItem
          have inside : pos < d.items.size := (Array.getElem?_eq_some_iff.mp hItem).1
          -- the key is read where the loop stands, its value after it, and the loop
          -- goes on after the value
          rw [nodeSame within (Nat.lt_of_lt_of_le d.measure_node_lt_loop (Nat.le_of_lt_succ small))]
          split
          · rfl
          · rename_i keyRead
            obtain ⟨forward, counted, limited⟩ := nodeAdvances within keyRead
            split
            · rfl
            · rw [nodeSame limited (Nat.lt_of_lt_of_le
                (d.measure_advance_lt (by decide : nodeRank false ≤ 3) inside forward counted limited)
                (Nat.le_of_lt_succ small))]
              split
              · rfl
              · rename_i valueRead
                obtain ⟨forward', counted', limited'⟩ := nodeAdvances limited valueRead
                exact entriesSame limited' (Nat.lt_of_lt_of_le
                  (d.measure_advance_lt (Nat.le_refl 3) inside (Nat.lt_trans forward forward')
                    (Nat.le_trans counted counted') limited')
                  (Nat.le_of_lt_succ small))

/-- A read whose measure is below its budget gives the same with any budget
more. -/
theorem Document.node_fuel_add {fuel : Nat} {path : Path} {depth : Nat} {tagged : Bool}
    {pos jumps : Nat} (within : jumps ≤ d.aliasLimit)
    (small : d.measure (nodeRank tagged) depth pos jumps < fuel) (extra : Nat) :
    d.node (fuel + extra) path depth tagged pos jumps = d.node fuel path depth tagged pos jumps := by
  induction extra with
  | zero => rfl
  | succ extra ih =>
      rw [← Nat.add_assoc,
        (d.compose_fuel_succ (fuel + extra)).1 within (Nat.lt_of_lt_of_le small (Nat.le_add_right _ _)),
        ih]

/-- No budget beyond `Document.fuel` changes what reading a document gives: the
budget never runs out before the document's own events decide the read. -/
theorem Document.node_fuel_stable (d : Document) (extra : Nat) :
    d.node (d.fuel + extra) .root 128 false 0 0 = d.node d.fuel .root 128 false 0 0 :=
  d.node_fuel_add (Nat.zero_le _) d.measure_root_lt_fuel extra

end CiManifest.Yaml
