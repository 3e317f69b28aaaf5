import PgMetrics.Proofs.Mapping.Catalogs
import PgMetrics.UserQueries

/-!
# What a user's file declares

A file declares each of its namespaces with a query that holds for every version and with columns
that every version has. On top of a catalog such a namespace is compiled and resolved by its own
declaration, whatever was declared there before, and every other namespace stays as it was.

## Main definitions

* `UserNamespace.schema?` — what a namespace of a user is compiled to, for every version.
* `UserQueries.Declares` — the declarations of given namespaces.
* `Catalog.Overlaid` — catalogs that differ in the namespaces of a user.
-/

namespace PgMetrics

/-! ## Columns that every version has -/

/-- No column has a range of versions. -/
def Unranged (columns : Dict String Column) : Prop :=
  ∀ name c, columns.get? name = some c → c.versions = none

theorem unranged_empty : Unranged .empty := fun _ _ => by simp

theorem Unranged.isSupported {columns : Dict String Column} (h : Unranged columns)
    {c : String × Column} (mem : c ∈ columns.toList) (v : Version) : c.2.isSupported v = true := by
  unfold Column.isSupported
  rw [h c.1 c.2 (Dict.get?_eq_some_iff.mpr mem)]

namespace Namespace

variable {n : Namespace} (unranged : Unranged n.columns) (v v' : Version)
include unranged

theorem labelColumns_of_unranged : n.labelColumns v = n.labelColumns v' := by
  unfold labelColumns
  refine congrArg _ (List.filter_congr fun c mem => ?_)
  rw [unranged.isSupported mem, unranged.isSupported mem]

/-- Without ranges a namespace is compiled alike for every version. -/
theorem compile_of_unranged (namespaceName stem : String) (constLabels : Dict String String) :
    n.compile v namespaceName stem constLabels = n.compile v' namespaceName stem constLabels := by
  unfold compile
  rw [labelColumns_of_unranged unranged v v']
  dsimp only
  congr 1
  refine List.foldl_ext _ _ _ fun rules c mem => ?_
  unfold addRules
  rw [unranged.isSupported mem, unranged.isSupported mem]

end Namespace

namespace UserNamespace

theorem unranged_of_addGroup {columns columns' : Dict String Column}
    {group : Dict String UserColumn} (h : addGroup columns group = .ok columns')
    (unranged : Unranged columns) : Unranged columns' := by
  refine of_foldlM_eq_ok (fun d e d' plain stepped => ?_) unranged h
  obtain ⟨c, declared, inserted⟩ := bind_eq_ok.mp stepped
  obtain ⟨usage, -, made⟩ := bind_eq_ok.mp declared
  cases inserted
  cases made
  intro name c' found
  rw [Dict.get?_insert] at found
  split at found
  · cases found
    rfl
  · exact plain name c' found

/-- A namespace that is declared has a query, and columns that every version has. -/
theorem of_declare {u : UserNamespace} {name : String} {n : Namespace}
    (h : u.declare name = .ok n) : u.query ≠ "" ∧ Unranged n.columns := by
  unfold declare at h
  split at h
  case isTrue => cases h
  case isFalse written =>
    obtain ⟨columns, added, made⟩ := bind_eq_ok.mp h
    cases made
    refine ⟨?_, of_foldlM_eq_ok (fun _ _ _ plain stepped => unranged_of_addGroup stepped plain)
      unranged_empty added⟩
    intro empty
    rw [empty] at written
    exact written rfl

/-- The schema of a namespace of a user, which is the same for every version. -/
def schema? (u : UserNamespace) (name stem : String) (constLabels : Dict String String) :
    Option Schema :=
  (u.declare name).toOption.map fun n => n.compile ⟨0, 0, 0⟩ name stem constLabels

theorem schema?_of_declare {u : UserNamespace} {name : String} {n : Namespace}
    (h : u.declare name = .ok n) (v : Version) (stem : String)
    (constLabels : Dict String String) :
    u.schema? name stem constLabels = some (n.compile v name stem constLabels) := by
  unfold schema?
  rw [h, Namespace.compile_of_unranged (of_declare h).2 v ⟨0, 0, 0⟩]
  rfl

end UserNamespace

namespace UserQueries

/-! ## The declarations of a file -/

/-- Declarations that have exactly the given namespaces, each with its query for every version. -/
structure Declares (d : Declarations) (namespaces : Dict String UserNamespace) : Prop where
  own : ∀ name u, namespaces.get? name = some u → ∃ n, u.declare name = .ok n ∧
    d.layout.get? name = some n ∧ d.queries.get? name = some [⟨.any, u.query⟩]
  others : ∀ name, namespaces.get? name = none →
    d.layout.get? name = none ∧ d.queries.get? name = none

variable {d d' : Declarations} {namespaces : Dict String UserNamespace}

theorem Declares.addNamespace (h : Declares d namespaces) {e : String × UserNamespace}
    (added : addNamespace d e = .ok d') : Declares d' (namespaces.insert e.1 e.2) := by
  obtain ⟨n, declared, made⟩ := bind_eq_ok.mp added
  cases made
  constructor
  · intro name u found
    rw [Dict.get?_insert] at found
    split at found
    case isTrue same =>
      obtain rfl := Std.LawfulEqCmp.eq_of_compare same
      cases found
      exact ⟨n, declared, by simp, by simp⟩
    case isFalse other =>
      obtain ⟨n', own⟩ := h.own name u found
      exact ⟨n', by simpa [other] using own⟩
  · intro name absent
    rw [Dict.get?_insert] at absent
    split at absent
    case isTrue => cases absent
    case isFalse other => simpa [other] using h.others name absent

theorem declares_of_foldlM {l : List (String × UserNamespace)} (h : Declares d namespaces)
    (folded : l.foldlM UserQueries.addNamespace d = .ok d') :
    Declares d' (l.foldl (fun n e => n.insert e.1 e.2) namespaces) := by
  induction l generalizing d namespaces with
  | nil =>
    cases folded
    exact h
  | cons e rest ih =>
    obtain ⟨d₁, added, folded⟩ := bind_eq_ok.mp folded
    exact ih (h.addNamespace added) folded

theorem declares_of_declare (h : declare namespaces = .ok d) : Declares d namespaces := by
  have none : Declares .none .empty := ⟨fun _ _ => nofun, fun _ _ => ⟨rfl, rfl⟩⟩
  have same : Dict.empty.merge namespaces = namespaces := Dict.ext_get? fun name => by simp
  exact same ▸ declares_of_foldlM none h

theorem declares_of_parse {text : List Char} (h : parse text = .ok d) :
    ∃ namespaces, namespaces? text = some namespaces ∧ Declares d namespaces := by
  unfold parse at h
  split at h
  case h_1 namespaces read => exact ⟨namespaces, read, declares_of_declare h⟩
  case h_2 => cases h

/-- Layout and queries have the namespaces that were read. -/
theorem Declares.keys (h : Declares d namespaces) :
    d.layout.keys = namespaces.keys ∧ d.queries.keys = namespaces.keys := by
  constructor
  all_goals
    refine Dict.keys_eq_of_isSome fun name => ?_
    cases found : namespaces.get? name with
    | none => simp [h.others name found]
    | some u =>
      obtain ⟨n, -, layout, queries⟩ := h.own name u found
      simp [layout, queries]

/-- One query for every version clashes with nothing. -/
theorem Declares.validate (h : Declares d namespaces) : d.queries.validate = .ok () := by
  rw [QueryTable.validate_eq_ok]
  rintro ⟨name, i, j⟩ c c' ⟨l, declared, clash⟩
  cases found : namespaces.get? name with
  | none => simp [h.others name found] at declared
  | some u =>
    obtain ⟨n, -, -, queries⟩ := h.own name u found
    obtain rfl := Option.some.inj (queries.symm.trans declared)
    have ordered : i < j := clash.ordered
    have last : j < 1 := (List.getElem?_eq_some_iff.mp clash.second).1
    omega

end UserQueries

/-! ## Plans of a catalog with a user's namespaces -/

/-- Above, each of the namespaces is compiled and resolved by its own declaration, for every version
alike; every other namespace is compiled and resolved as below. -/
structure Catalog.Overlaid (below above : Catalog) (namespaces : Dict String UserNamespace) :
    Prop where
  own : ∀ name u, namespaces.get? name = some u → ∀ constLabels, ∃ schema,
    u.schema? name above.stem constLabels = some schema ∧
    ∀ v, (above.compile v constLabels).schemas.get? name = some schema ∧
      Resolution.of (above.compile v constLabels).queries name = .custom u.query
  others : ∀ name, namespaces.get? name = none → ∀ v constLabels,
    (above.compile v constLabels).schemas.get? name =
        (below.compile v constLabels).schemas.get? name ∧
      Resolution.of (above.compile v constLabels).queries name =
        Resolution.of (below.compile v constLabels).queries name

namespace UserQueries

theorem Declares.overlaid {d : Declarations} {namespaces : Dict String UserNamespace}
    (h : Declares d namespaces) (below : Declarations) (stem : String) :
    Catalog.Overlaid ⟨below, stem⟩ ⟨below.merge d, stem⟩ namespaces where
  own name u found constLabels := by
    obtain ⟨n, declared, layout, queries⟩ := h.own name u found
    refine ⟨_, UserNamespace.schema?_of_declare declared ⟨0, 0, 0⟩ stem constLabels, fun v => ?_⟩
    constructor
    · rw [Catalog.compile_schemas_get?, Declarations.merge, Dict.get?_merge, layout]
      exact congrArg some
        (Namespace.compile_of_unranged (UserNamespace.of_declare declared).2 v ⟨0, 0, 0⟩ ..)
    · refine QueryTable.of_resolve_eq_custom.mpr
        ⟨_, by rw [Declarations.merge, Dict.get?_merge, queries]; rfl, ?_⟩
      exact ⟨rfl, (UserNamespace.of_declare declared).1⟩
  others name absent v constLabels := by
    obtain ⟨layout, queries⟩ := h.others name absent
    constructor
    · simp only [Catalog.compile_schemas_get?, Declarations.merge, Dict.get?_merge, layout,
        Option.none_or]
    · unfold Resolution.of Catalog.compile
      simp only [QueryTable.resolve_get?, Declarations.merge, Dict.get?_merge, queries,
        Option.none_or]

/-- Whatever a catalog starts from, it is refused exactly for the clashes of the user's own queries,
and for the same clash. What is read from a file has none, and has a query for each of its
namespaces; these replace the namespaces of their names, and nothing else. -/
theorem user_namespaces_replace_themselves :
    (∀ includeStandard (user : Declarations) stem,
      ((∃ c, Catalog.build includeStandard (some user) stem = .ok c) ↔
        user.queries.validate = .ok ()) ∧
      ∀ e, Catalog.build includeStandard (some user) stem = .error e ↔
        user.queries.validate = .error e) ∧
    ∀ text user, parse text = .ok user →
      ∃ namespaces, namespaces? text = some namespaces ∧
        user.layout.keys = namespaces.keys ∧ user.queries.keys = namespaces.keys ∧
        ∀ includeStandard stem, ∃ below above,
          Catalog.build includeStandard none stem = .ok below ∧
          Catalog.build includeStandard (some user) stem = .ok above ∧
          above.stem = stem ∧ below.Overlaid above namespaces := by
  refine ⟨fun includeStandard user stem => ?_, fun text user read => ?_⟩
  · rw [Catalog.build_some]
    cases user.queries.validate <;> simp [Except.map]
  · obtain ⟨namespaces, given, declares⟩ := declares_of_parse read
    refine ⟨namespaces, given, declares.keys.1, declares.keys.2, fun includeStandard stem => ?_⟩
    refine ⟨_, _, Catalog.build_none includeStandard stem, ?_, rfl,
      declares.overlaid (.base includeStandard) stem⟩
    rw [Catalog.build_some, declares.validate]
    rfl

namespace ActivityQuery

/-- A text with a query of its own for a standard namespace. -/
def text : String :=
  "pg_stat_activity:\n  query: select a\n  metrics:\n    - a: \x7busage: GAUGE\x7d\n"

/-- The names and the queries of the namespaces in the text. -/
theorem queries_of_text :
    (parse text.toList).toOption.isSome = true ∧
      (namespaces? text.toList).map (fun n => n.toList.map fun e => (e.1, e.2.query)) =
        some [("pg_stat_activity", "select a")] := by
  decide +kernel

/-- The query holds for every version, and that of the replication stays the standard one. -/
theorem resolve_of_text :
    ∃ user below above, parse text.toList = .ok user ∧
      Catalog.build true none "pg" = .ok below ∧
      Catalog.build true (some user) "pg" = .ok above ∧
      ∀ v, Resolution.of (above.compile v .empty).queries "pg_stat_activity" =
          .custom "select a" ∧
        Resolution.of (above.compile v .empty).queries "pg_stat_replication" =
          Resolution.of (below.compile v .empty).queries "pg_stat_replication" := by
  obtain ⟨declared, read⟩ := queries_of_text
  have parsed := eq_ok_get_toOption declared
  obtain ⟨namespaces, given, -, -, built⟩ := user_namespaces_replace_themselves.2 _ _ parsed
  obtain ⟨below, above, started, overlaid, -, replaced⟩ := built true "pg"
  rw [given] at read
  obtain ⟨⟨name, u⟩, only, entry⟩ := List.map_eq_singleton_iff.mp (Option.some.inj read)
  obtain ⟨rfl, query⟩ := Prod.mk.inj entry
  refine ⟨_, below, above, parsed, started, overlaid, fun v => ⟨?_, ?_⟩⟩
  · have found : namespaces.get? "pg_stat_activity" = some u :=
      Dict.get?_eq_some_iff.mpr (by simp [only])
    obtain ⟨schema, -, own⟩ := replaced.own _ u found .empty
    rw [(own v).2]
    exact congrArg Resolution.custom query
  · have absent : namespaces.get? "pg_stat_replication" = none :=
      Dict.get?_eq_none_iff.mpr (by simp [only])
    exact (replaced.others _ absent v .empty).2

end ActivityQuery

end UserQueries

end PgMetrics
