import PgMetrics.Proofs.Mapping.Queries

/-!
# Building and compiling catalogs

Declarations on top of others replace whole namespaces of theirs, layouts and queries alike. The
standard queries have no clash, so a catalog is refused exactly for the clashes that the user's
queries have among themselves.

## Main definitions

* `Declarations.base` — the declarations that a catalog starts from.
-/

namespace PgMetrics

namespace QueryTable

theorem FirstClash.congr {t t' : QueryTable} (h : ∀ p c d, t.Clash p c d ↔ t'.Clash p c d)
    {p : Place} {c d : VersionedQuery} (first : t.FirstClash p c d) : t'.FirstClash p c d :=
  ⟨(h p c d).mp first.clash, fun q c' d' other => first.earliest q c' d' ((h q c' d').mpr other)⟩

/-- Tables with the same clashes pass the check alike. -/
theorem validate_congr {t t' : QueryTable} (h : ∀ p c d, t.Clash p c d ↔ t'.Clash p c d) :
    t.validate = t'.validate := by
  cases outcome : t'.validate with
  | ok =>
    rw [validate_eq_ok] at outcome ⊢
    exact fun p c d clash => outcome p c d ((h p c d).mp clash)
  | error e =>
    rw [validate_eq_error] at outcome ⊢
    obtain ⟨p, c, d, first, rfl⟩ := outcome
    exact ⟨p, c, d, first.congr fun p c d => (h p c d).symm, rfl⟩

/-- On top of a table without clashes, a table has the clashes that it has alone. -/
theorem clash_merge {base : QueryTable} (valid : base.validate = .ok ()) (top : QueryTable)
    (p : Place) (c d : VersionedQuery) : Clash (base.merge top) p c d ↔ top.Clash p c d := by
  unfold Clash
  rw [Dict.get?_merge]
  constructor
  · rintro ⟨l, found, clash⟩
    rcases Option.or_eq_some_iff.mp found with found | ⟨-, found⟩
    · exact ⟨l, found, clash⟩
    · exact absurd ⟨l, found, clash⟩ (validate_eq_ok.mp valid p c d)
  · rintro ⟨l, found, clash⟩
    exact ⟨l, by simp [found], clash⟩

theorem validate_merge {base : QueryTable} (valid : base.validate = .ok ()) (top : QueryTable) :
    validate (base.merge top) = top.validate :=
  validate_congr (clash_merge valid top)

end QueryTable

namespace Declarations

/-- What a catalog starts from. -/
def base (includeStandard : Bool) : Declarations := if includeStandard then standard else none

theorem validate_base (includeStandard : Bool) :
    (base includeStandard).queries.validate = .ok () := by
  cases includeStandard with
  | false => rfl
  | true => decide +kernel

end Declarations

namespace Catalog

theorem build_none (includeStandard : Bool) (stem : String) :
    build includeStandard none stem = .ok ⟨.base includeStandard, stem⟩ := by
  change ((Declarations.base includeStandard).queries.validate >>= fun _ => _) = _
  rw [Declarations.validate_base]
  rfl

/-- Whatever it starts from, a catalog is refused for the clashes of the user's queries. -/
theorem build_some (includeStandard : Bool) (user : Declarations) (stem : String) :
    build includeStandard (some user) stem =
      user.queries.validate.map fun _ =>
        ⟨(Declarations.base includeStandard).merge user, stem⟩ := by
  change (QueryTable.validate ((Declarations.base includeStandard).queries.merge user.queries) >>=
    fun _ => _) = _
  rw [QueryTable.validate_merge (Declarations.validate_base includeStandard)]
  cases user.queries.validate <;> rfl

theorem compile_schemas_get? (c : Catalog) (v : Version) (constLabels : Dict String String)
    (namespaceName : String) :
    (c.compile v constLabels).schemas.get? namespaceName =
      (c.declarations.layout.get? namespaceName).map
        fun n => n.compile v namespaceName c.stem constLabels :=
  Dict.get?_mapValues ..

end Catalog

end PgMetrics
