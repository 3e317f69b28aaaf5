import PgMetrics.Config.Environment
import PgMetrics.Proofs.Config.Tree
import PgMetrics.Proofs.Text.Blank

/-!
# Settings of the environment as trees

Whatever the variables say, together they make a table whose keys are distinct on every level: a
second value of a key takes the place of the first within one variable, and settings of different
variables are put over each other.

## Main results

* `Environment.wellKeyed_value` — the tree of a value.
* `Environment.exists_table` — the tree of all variables.
-/

namespace PgMetrics.Environment

open PgMetrics.Tree (WellKeyed)

/-! ## Values -/

theorem wellKeyed_word (w : List Char) : WellKeyed (word w) := by
  have each : ∀ t ∈ number? (Text.trim w), WellKeyed t := by
    intro t ht
    unfold number? at ht
    split at ht
    · cases ht
      exact .real _
    split at ht
    · cases ht
      exact .number _
    · obtain ⟨i, -, rfl⟩ := Option.map_eq_some_iff.mp ht
      exact .number _
  change WellKeyed ((number? (Text.trim w)).getD (.text _))
  cases h : number? (Text.trim w) with
  | none => exact .text _
  | some t => exact each t h

/-- Every tree that is read has distinct keys. The readers call each other with less fuel, so they
are followed together by induction on it. -/
theorem wellKeyed_of_fuel (fuel : Nat) :
    (∀ s t s', valueAt? fuel s = some (t, s') → WellKeyed t) ∧
    (∀ s t s', bareValueAt? fuel s = some (t, s') → WellKeyed t) ∧
    (∀ entries s es s', WellKeyed (.table entries) →
      pairsAt? fuel entries s = some (es, s') → WellKeyed (.table es)) := by
  induction fuel with
  | zero => exact ⟨nofun, nofun, nofun⟩
  | succ fuel ih =>
    obtain ⟨value, bare, pairs⟩ := ih
    refine ⟨fun s t s' h => ?_, fun s t s' h => ?_, fun entries s es s' keyed h => ?_⟩
    · unfold valueAt? at h
      obtain ⟨⟨t, s''⟩, read, h⟩ := Option.bind_eq_some_iff.mp h
      cases h
      exact bare _ _ _ read
    · unfold bareValueAt? at h
      split at h
      · cases h
        exact .flag true
      split at h
      · cases h
        exact .flag false
      split at h
      · obtain ⟨⟨entries, s''⟩, read, h⟩ := Option.bind_eq_some_iff.mp h
        cases h
        exact pairs _ _ _ _ .empty read
      · obtain ⟨⟨items, s''⟩, -, h⟩ := Option.bind_eq_some_iff.mp h
        cases h
        exact .list items
      · obtain ⟨⟨text, s''⟩, -, h⟩ := Option.bind_eq_some_iff.mp h
        cases h
        exact .text _
      · cases h
        exact .text _
      · cases h
      · cases h
        exact wellKeyed_word _
    · unfold pairsAt? at h
      split at h
      · cases h
        exact keyed
      · obtain ⟨⟨k, s⟩, -, h⟩ := Option.bind_eq_some_iff.mp h
        obtain ⟨s, -, h⟩ := Option.bind_eq_some_iff.mp h
        obtain ⟨⟨t, s⟩, read, h⟩ := Option.bind_eq_some_iff.mp h
        have added : WellKeyed (.table (set k t entries)) := keyed.alter (value _ _ _ read)
        dsimp only at h
        split at h
        · exact pairs _ _ _ _ added h
        · cases h
          exact added
        · cases h

theorem wellKeyed_value (s : String) : WellKeyed (value s) := by
  unfold value
  split
  · rename_i t read
    exact (wellKeyed_of_fuel _).1 _ _ _ read
  · exact .text s

/-! ## Variables -/

theorem wellKeyed_nest (path : List String) {t : Tree} (h : WellKeyed t) :
    WellKeyed (nest path t) := by
  induction path with
  | nil => exact h
  | cons k path ih => exact .table (List.nodup_singleton k) (by simpa [nest] using ih)

theorem path?_ne_nil {name : String} {path : List String} (h : path? name = some path) :
    path ≠ [] := by
  obtain ⟨rest, -, h⟩ := Option.bind_eq_some_iff.mp h
  dsimp only at h
  split at h
  · cases h
  · cases h
    simp [Text.pieces_ne_nil]

theorem exists_table_of_setting? {name contents : String} {t : Tree}
    (h : setting? name contents = some t) : ∃ entries, t = .table entries ∧ WellKeyed t := by
  obtain ⟨path, found, h⟩ := Option.bind_eq_some_iff.mp h
  cases h
  have keyed := wellKeyed_nest path (wellKeyed_value contents)
  cases path with
  | nil => exact absurd rfl (path?_ne_nil found)
  | cons k path => exact ⟨_, rfl, keyed⟩

/-- The tree of all variables is a table with distinct keys. -/
theorem exists_table (assigned : List (String × String)) :
    ∃ entries, tree assigned = .table entries ∧ WellKeyed (.table entries) := by
  unfold tree
  generalize hsettings : assigned.filterMap (fun e => setting? e.1 e.2) = settings
  have each : ∀ t ∈ settings, ∃ entries, t = .table entries ∧ WellKeyed t := by
    subst hsettings
    intro t ht
    obtain ⟨e, -, found⟩ := List.mem_filterMap.mp ht
    exact exists_table_of_setting? found
  clear hsettings
  -- the induction is on the settings that are still to be put over what is there
  suffices run : ∀ base, WellKeyed (.table base) →
      ∃ entries, settings.foldl Tree.merge (.table base) = .table entries ∧
        WellKeyed (.table entries) from run [] .empty
  induction settings with
  | nil => exact fun base keyed => ⟨base, rfl, keyed⟩
  | cons t rest ih =>
    intro base keyed
    obtain ⟨⟨top, rfl, ht⟩, later⟩ := List.forall_mem_cons.mp each
    exact ih later _ (keyed.mergeEntries top ht)

end PgMetrics.Environment
