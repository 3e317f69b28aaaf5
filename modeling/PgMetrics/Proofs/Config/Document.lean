import PgMetrics.Config.Source
import PgMetrics.Proofs.Dict
import PgMetrics.Proofs.Outcome
import PgMetrics.Proofs.Toml.Document

/-!
# Configurations as documents

The document of a configuration reads back as the configuration without its passwords: every field
that is written is read under its own name and into its own place, a field that is left out is one
that the reader fills in with the same value, and the order of the fields does not matter.

## Main results

* `Config.ofTree?_ordered` — the tree of a configuration, field by field.
* `Config.validate_withoutPasswords` — passwords have no part in what is valid.
* `Config.document_reads_back` — the document of a configuration.
-/

namespace PgMetrics

open Toml (Presentable ordered)

/-! ## Fields -/

namespace Tree

@[simp]
theorem word16?_ofNat (n : UInt16) : (Tree.ofNat n.toNat).word16? = some n := by
  simp [word16?, ofNat, count?, n.toNat_lt]

@[simp]
theorem word32?_ofNat (n : UInt32) : (Tree.ofNat n.toNat).word32? = some n := by
  simp [word32?, ofNat, count?, n.toNat_lt]

@[simp]
theorem word64?_ofNat (n : UInt64) : (Tree.ofNat n.toNat).word64? = some n := by
  simp [word64?, ofNat, count?, n.toNat_lt]

@[simp]
theorem ordered_ofNat (n : Nat) : ordered (Tree.ofNat n) = Tree.ofNat n := rfl

variable {α : Type} {k : String} {read? : Tree → Option α} {absent : α}

@[simp]
theorem fieldOr_nil : fieldOr [] k read? absent = some absent := rfl

@[simp]
theorem fieldOr_cons (e : String × Tree) (rest : List (String × Tree)) :
    fieldOr (e :: rest) k read? absent =
      if k = e.1 then read? e.2 else fieldOr rest k read? absent := by
  rw [fieldOr, fieldOr, List.lookup_cons]
  by_cases same : k = e.1
  · rw [if_pos same, beq_iff_eq.mpr same]
  · rw [if_neg same, beq_false_of_ne same]

/-- A field of a record is read under its name, wherever it stands. -/
theorem fieldOr_contentsOf {entries : List (String × Tree)}
    (distinct : (entries.map (·.1)).Nodup) :
    fieldOr (Toml.entryTrees (Toml.contentsOf entries)) k read? absent =
      fieldOr entries k (fun t => read? (ordered t)) absent := by
  rw [fieldOr, fieldOr, Toml.lookup_contentsOf distinct]
  cases entries.lookup k <;> rfl

end Tree

/-! ## Sections -/

theorem PoolConfig.ofTree?_ordered (p : PoolConfig) : ofTree? (ordered p.toTree) = some p := by
  rw [toTree, Toml.ordered_of_plain (by simp [Tree.ofNat, Toml.Written.isSection])]
  simp [ofTree?, Tree.fields?]

theorem HttpConfig.ofTree?_ordered (h : HttpConfig) : ofTree? (ordered h.toTree) = some h := by
  rw [toTree, Toml.ordered_of_plain (by simp [Toml.Written.isSection])]
  rfl

theorem LoggingConfig.ofTree?_ordered (l : LoggingConfig) :
    ofTree? (ordered l.toTree) = some l := by
  rw [toTree, Toml.ordered_of_plain (by simp [Toml.Written.isSection])]
  rfl

theorem Endpoint.ofTree?_ordered (e : Endpoint) :
    ofTree? (ordered e.toTree) = some e.withoutPassword := by
  rw [toTree, Toml.ordered_of_plain (by simp [Tree.ofNat, Toml.Written.isSection])]
  simp [ofTree?, Tree.fields?, Tree.text?, Tree.flag?, withoutPassword, ofHost]

namespace ScrapeConfig

/-- No two fields of the section share a name. -/
theorem nodup_names (c : ScrapeConfig) {entries : List (String × Tree)}
    (h : c.toTree = .table entries) : (entries.map (·.1)).Nodup := by
  cases h
  cases path : c.userQueriesPath <;> simp [pathEntries, path]

/-- The labels are a table of texts, which reads back as the dictionary that it was made from. -/
theorem entries?_labels (labels : Dict String String) :
    ((ordered (.table (labels.toList.map fun e => (e.1, .text e.2)))).entries? Tree.text?).map
      Dict.ofList = some labels := by
  have plain : ∀ e ∈ labels.toList.map fun e => (e.1, Tree.text e.2),
      Toml.Written.isSection e.2 = false := by
    intro e he
    obtain ⟨d, -, rfl⟩ := List.mem_map.mp he
    rfl
  have each : (labels.toList.map fun e => (e.1, Tree.text e.2)).mapM
      (fun e => do return (e.1, ← e.2.text?)) = some labels.toList := by
    rw [List.mapM_map]
    exact (List.mapM_pure (f := id)).trans (by simp)
  rw [Toml.ordered_of_plain plain, Tree.entries?, each, Option.map_some, Dict.ofList_toList]

theorem ofTree?_ordered (c : ScrapeConfig) : ofTree? (ordered c.toTree) = some c := by
  have distinct := c.nodup_names rfl
  have labels := entries?_labels c.constantLabels
  rw [toTree, Toml.ordered_table]
  simp only [ofTree?, Tree.fields?, Option.bind_eq_bind, Option.bind_some,
    Tree.fieldOr_contentsOf distinct]
  obtain ⟨stem, names, noDefaults, noSettings, path, limit⟩ := c
  cases path <;> simp [pathEntries, labels, Tree.text?, Tree.flag?, standard]

end ScrapeConfig

/-! ## The whole -/

namespace Config

theorem ofTree?_ordered (c : Config) : ofTree? (ordered c.toTree) = some c.withoutPasswords := by
  have endpoints : (ordered (.list (c.endpoints.map Endpoint.toTree))).items? Endpoint.ofTree? =
      some (c.endpoints.map Endpoint.withoutPassword) := by
    have tables : ∀ t ∈ c.endpoints.map Endpoint.toTree, ∃ entries, t = .table entries := by
      intro t ht
      obtain ⟨e, -, rfl⟩ := List.mem_map.mp ht
      exact ⟨_, rfl⟩
    rw [Toml.ordered_list tables, Tree.items?, List.map_map, List.mapM_map]
    simp only [Function.comp_def, Endpoint.ofTree?_ordered]
    exact List.mapM_pure
  rw [toTree, Toml.ordered_table]
  have distinct : ([("exporter", c.exporter.toTree),
      ("endpoints", .list (c.endpoints.map Endpoint.toTree)), ("pool", c.pool.toTree),
      ("http", c.http.toTree), ("logging", c.logging.toTree)].map (·.1)).Nodup := by
    simp
  simp only [ofTree?, Tree.fields?, Option.bind_eq_bind, Option.bind_some,
    Tree.fieldOr_contentsOf distinct]
  simp [endpoints, ScrapeConfig.ofTree?_ordered,
    PoolConfig.ofTree?_ordered, HttpConfig.ofTree?_ordered, LoggingConfig.ofTree?_ordered,
    withoutPasswords]

theorem checkEndpoints_withoutPassword (seen : List String) (i : Nat) (endpoints : List Endpoint) :
    checkEndpoints seen i (endpoints.map Endpoint.withoutPassword) =
      checkEndpoints seen i endpoints := by
  induction endpoints generalizing seen i with
  | nil => rfl
  | cons e rest ih =>
    rw [List.map_cons, checkEndpoints, checkEndpoints, ih]
    rfl

/-- Passwords have no part in what is valid. -/
theorem validate_withoutPasswords (c : Config) : c.withoutPasswords.validate = c.validate := by
  unfold validate
  rw [withoutPasswords]
  simp only [checkEndpoints_withoutPassword]

/-! ## Documents -/

/-- Whether a number fits 64 bits in two's complement, which is what a document has for whole
numbers. -/
def InRange (k : Nat) : Prop := Int.ofNat k ≤ Int64.maxValue.toInt

instance (k : Nat) : Decidable (InRange k) := inferInstanceAs (Decidable (_ ≤ _))

/-- Whether all settings of 64 bits can be written. The others always can. -/
structure Fits (c : Config) : Prop where
  maxConcurrentScrapes : InRange c.exporter.maxConcurrentScrapes.toNat
  retryBackoffMs : InRange c.pool.retryBackoffMs.toNat
  connectTimeoutSecs : InRange c.pool.connectTimeoutSecs.toNat
  statementTimeoutSecs : InRange c.pool.statementTimeoutSecs.toNat

theorem InRange.of_lt {k : Nat} (h : k < UInt32.size) : InRange k :=
  Int.le_trans (Int.ofNat_le.mpr (Nat.le_of_lt h)) (by decide)

theorem InRange.presentable {n k : Nat} (h : InRange k) : Presentable n (.ofNat k) := by
  have least : Int64.minValue.toInt ≤ Int.ofNat k := Int.le_trans (by decide) (Int.natCast_nonneg k)
  refine .number ?_
  rw [Toml.inRange, Bool.and_eq_true, decide_eq_true_eq, decide_eq_true_eq]
  exact ⟨least, h⟩

theorem presentable_exporter {c : ScrapeConfig} (fits : InRange c.maxConcurrentScrapes.toNat)
    (n : Nat) : Presentable (n + 2) c.toTree := by
  have labels : Presentable (n + 1)
      (.table (c.constantLabels.toList.map fun e => (e.1, .text e.2))) := by
    have keys : (c.constantLabels.toList.map fun e => (e.1, Tree.text e.2)).map (·.1) =
        c.constantLabels.keys := by
      simp [Dict.keys, Dict.toList, Function.comp_def]
    refine .table (keys ▸ c.constantLabels.nodup_keys) fun e he => ?_
    obtain ⟨d, -, rfl⟩ := List.mem_map.mp he
    exact .text d.2
  refine .table (c.nodup_names rfl) fun e he => ?_
  simp only [List.mem_append, List.mem_cons, List.not_mem_nil, or_false] at he
  rcases he with ((rfl | rfl | rfl | rfl) | he) | rfl
  · exact .text _
  · exact labels
  · exact .flag _
  · exact .flag _
  · obtain ⟨path, -, rfl⟩ := List.mem_map.mp he
    exact .text path
  · exact fits.presentable

theorem presentable_endpoint (e : Endpoint) (n : Nat) : Presentable (n + 1) e.toTree := by
  have port : InRange e.port.toNat := .of_lt (Nat.lt_trans e.port.toNat_lt (by decide))
  refine .table (by simp) ?_
  simp only [List.forall_mem_cons]
  exact ⟨.text _, port.presentable, .text _, .text _, .text _, .flag _, nofun⟩

theorem presentable_toTree {c : Config} (fits : c.Fits) :
    Presentable Toml.depthLimit c.toTree := by
  refine .table (n := 79) (by simp) ?_
  simp only [List.forall_mem_cons]
  refine ⟨presentable_exporter fits.maxConcurrentScrapes 77, ?endpoints, ?pool, ?http, ?logging,
    nofun⟩
  case endpoints =>
    refine .list ?_ ?_ <;> intro t ht <;> obtain ⟨e, -, rfl⟩ := List.mem_map.mp ht
    · exact ⟨_, rfl⟩
    · exact presentable_endpoint e 78
  case pool =>
    have attempts : InRange c.pool.retryAttempts.toNat := .of_lt c.pool.retryAttempts.toNat_lt
    refine .table (n := 78) (by simp) ?_
    simp only [List.forall_mem_cons]
    exact ⟨attempts.presentable, fits.retryBackoffMs.presentable,
      fits.connectTimeoutSecs.presentable, fits.statementTimeoutSecs.presentable, nofun⟩
  case http =>
    refine .table (n := 78) (by simp) ?_
    simp only [List.forall_mem_cons]
    exact ⟨.text _, .text _, nofun⟩
  case logging =>
    refine .table (n := 78) (by simp) ?_
    simp only [List.forall_mem_cons]
    exact ⟨.text _, .text _, .flag _, .flag _, nofun⟩

/-- The document of a valid configuration reads back as the configuration without its passwords. -/
theorem exists_document {c : Config} (valid : c.validate = .ok ()) (fits : c.Fits) :
    ∃ text, c.document = .ok text ∧ ofDocument text.toList = .ok c.withoutPasswords := by
  obtain ⟨s, written, read⟩ := Toml.document?_document (presentable_toTree fits)
  have printed : c.document = .ok (String.ofList s) := by
    rw [document, show Toml.Written.document c.toTree = .ok s from written]
    rfl
  have tree : treeOfDocument s = .ok (ordered c.toTree) := by
    rw [treeOfDocument, read]
    rfl
  refine ⟨_, printed, ?_⟩
  rw [String.toList_ofList, ofDocument, tree]
  change ofTree (ordered c.toTree) = _
  rw [ofTree, ofTree?_ordered]
  simp only [validate_withoutPasswords, valid]
  rfl

theorem toTree_withoutPasswords (c : Config) : c.withoutPasswords.toTree = c.toTree := by
  rw [toTree, toTree, withoutPasswords, List.map_map]
  rfl

/-- The document of a valid configuration reads back as the configuration without its passwords, and
it says nothing about them. -/
theorem document_reads_back :
    (∀ c : Config, c.validate = .ok () → c.Fits →
      ∃ text, c.document = .ok text ∧ ofDocument text.toList = .ok c.withoutPasswords) ∧
    ∀ c d : Config, c.withoutPasswords = d.withoutPasswords → c.document = d.document := by
  refine ⟨fun c => exists_document, fun c d same => ?_⟩
  rw [document, document, ← toTree_withoutPasswords c, same, toTree_withoutPasswords d]

/-- A configuration with two servers, one of them behind a password, and with labels and a path that
need different kinds of quotes. -/
def guarded (password : Option String) : Config where
  exporter := {
    ScrapeConfig.standard with
    constantLabels := .ofList [("zone", "say \"hi\""), ("site", "it's\nhere")]
    userQueriesPath := some "C:\\\"q\".yaml" }
  endpoints := [
    { Endpoint.localhost with password, user := "o'neil" },
    { Endpoint.ofHost "replica" with port := 6432, master := false }]
  pool := .standard
  http := .standard
  logging := .standard

theorem document_of_guarded :
    (guarded (some "s3cret")).validate = .ok () ∧ (guarded (some "s3cret")).Fits ∧
    (∃ text, (guarded (some "s3cret")).document = .ok text ∧
      ofDocument text.toList = .ok (guarded none)) ∧
    (guarded (some "s3cret")).document = (guarded (some "other")).document := by
  have valid : (guarded (some "s3cret")).validate = .ok () := by decide +kernel
  have fits : (guarded (some "s3cret")).Fits := by constructor <;> decide
  exact ⟨valid, fits, document_reads_back.1 _ valid fits, document_reads_back.2 _ _ rfl⟩

end Config

end PgMetrics
