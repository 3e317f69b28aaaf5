import PgMetrics.Config.Source
import PgMetrics.Proofs.Config.Environment

/-!
# Running without a file

Without a file the settings of the environment are put over the standard configuration as a tree;
with an empty file they stand alone, and the reader fills in what is missing. Both come to the same:
the tree of the standard configuration says nothing but what the reader takes for granted, field by
field and section by section.

## Main results

* `Config.silent_standard` — the tree of the standard configuration says nothing new.
* `Config.ofEnvironment_eq_ok_iff` — the environment alone and over an empty file.
-/

namespace PgMetrics

open PgMetrics.Tree (Silent WellKeyed fieldOr_mergeEntries)

/-! ## The sections -/

theorem Endpoint.silent_none : Silent (·.items? ofTree?) [] (.list []) := .of_leaf rfl nofun

namespace ScrapeConfig

/-- No labels: a table of labels put over the empty one stays as it is. -/
theorem silent_labels : Silent (fun t => (t.entries? Tree.text?).map Dict.ofList) Dict.empty
    (.table []) := by
  refine ⟨rfl, fun t ht => ?_⟩
  cases t with
  | table top => rw [ht.merge_empty]
  | _ => rfl

theorem silent_standard : Silent ofTree? standard standard.toTree := by
  refine Silent.of_fields fieldNames rfl fun top ht => ?_
  dsimp only
  rw [fieldOr_mergeEntries ht, fieldOr_mergeEntries ht ?labels, fieldOr_mergeEntries ht,
    fieldOr_mergeEntries ht, fieldOr_mergeEntries ht ?path, fieldOr_mergeEntries ht]
  case labels => exact .of_lookup rfl silent_labels
  case path => exact nofun
  all_goals exact .of_lookup rfl (.of_leaf rfl nofun)

end ScrapeConfig

theorem PoolConfig.silent_standard : Silent ofTree? standard standard.toTree := by
  refine Silent.of_fields fieldNames rfl fun top ht => ?_
  iterate 4 rw [fieldOr_mergeEntries ht]
  all_goals exact .of_lookup rfl (.of_leaf rfl nofun)

theorem HttpConfig.silent_standard : Silent ofTree? standard standard.toTree := by
  refine Silent.of_fields fieldNames rfl fun top ht => ?_
  iterate 2 rw [fieldOr_mergeEntries ht]
  all_goals exact .of_lookup rfl (.of_leaf rfl nofun)

theorem LoggingConfig.silent_standard : Silent ofTree? standard standard.toTree := by
  refine Silent.of_fields fieldNames rfl fun top ht => ?_
  iterate 4 rw [fieldOr_mergeEntries ht]
  all_goals exact .of_lookup rfl (.of_leaf rfl nofun)

/-! ## The whole -/

namespace Config

/-- The tree of the standard configuration says nothing but what is taken for granted. -/
theorem silent_standard : Silent ofTree? standard standard.toTree := by
  refine Silent.of_fields fieldNames rfl fun top ht => ?_
  rw [fieldOr_mergeEntries ht ?exporter, fieldOr_mergeEntries ht ?endpoints,
    fieldOr_mergeEntries ht ?pool, fieldOr_mergeEntries ht ?http, fieldOr_mergeEntries ht ?logging]
  case exporter => exact .of_lookup rfl ScrapeConfig.silent_standard
  case endpoints => exact .of_lookup rfl Endpoint.silent_none
  case pool => exact .of_lookup rfl PoolConfig.silent_standard
  case http => exact .of_lookup rfl HttpConfig.silent_standard
  case logging => exact .of_lookup rfl LoggingConfig.silent_standard

/-- What the reader makes of the settings of the environment is the same with and without the
standard configuration below them. -/
theorem ofTree?_putOn_standard (assigned : List (String × String)) :
    ofTree? (Environment.putOn standard.toTree assigned) =
      ofTree? (Environment.putOn (.table []) assigned) := by
  obtain ⟨entries, h, keyed⟩ := Environment.exists_table assigned
  rw [Environment.putOn, Environment.putOn, h, silent_standard.merge _ keyed, keyed.merge_empty]

theorem treeOfFile_empty (path : String) :
    treeOfFile path (.contents []) = .ok (.table []) := by
  have decoded : Text.Utf8.decode? [] = some [] := by simp [Text.Utf8.decode?, Text.Utf8.parts]
  rw [treeOfFile, decoded]
  rfl

/-- Running without a file is running with an empty one, whatever variables there are and in
whatever order. -/
theorem ofEnvironment_eq_ok_iff (assigned : List (String × String)) (path : String) (c : Config) :
    ofEnvironment assigned = .ok c ↔ ofFile path (.contents []) assigned = .ok c := by
  rw [ofEnvironment, ofFile, treeOfFile_empty, ofTree, ofTree?_putOn_standard]
  rfl

end Config

end PgMetrics
