import PgMetrics.Proofs.Server.Replay

/-!
# Catalogs with other windows

The window of a namespace says for how long its capture may be used. It has a say in nothing else:
without captures a pass is the same whatever the windows are, and without windows there are no
captures.

## Main definitions

* `Catalog.withWindows` — a catalog whose namespaces have other windows.
-/

namespace PgMetrics

/-- The catalog with the given window for each namespace. -/
def Catalog.withWindows (c : Catalog) (windows : String → UInt64) : Catalog :=
  { c with
    declarations :=
      { c.declarations with
        layout := c.declarations.layout.mapValues fun name n =>
          { n with cacheSeconds := windows name } } }

/-- The plan with the given window for each namespace. -/
def Plan.withWindows (p : Plan) (windows : String → UInt64) : Plan :=
  { p with
    schemas := p.schemas.mapValues fun name schema => { schema with cacheSeconds := windows name } }

theorem Catalog.compile_withWindows (c : Catalog) (windows : String → UInt64) (v : Version)
    (constLabels : Dict String String) :
    (c.withWindows windows).compile v constLabels =
      (c.compile v constLabels).withWindows windows := by
  have schemas : (c.withWindows windows).declarations.layout.compile v c.stem constLabels =
      ((c.compile v constLabels).withWindows windows).schemas := by
    apply Dict.ext_get?
    intro name
    unfold withWindows Plan.withWindows compile Layout.compile
    simp only [Dict.get?_mapValues, Option.map_map]
    rfl
  unfold compile at schemas ⊢
  unfold Plan.withWindows at schemas ⊢
  exact congrArg (Plan.mk (some v) · _) schemas

/-- What went wrong in a pass is told by its parts other than the plan. -/
theorem PassRecord.Troubled.congr {r fresh : PassRecord} (h : r.Troubled)
    (refreshed : r.refreshed = fresh.refreshed) (settings : r.settings = fresh.settings)
    (turns : r.turns = fresh.turns) : fresh.Troubled := by
  cases h with
  | version failed => exact .version (refreshed.symm.trans failed)
  | unit unknown => exact .unit (settings.symm.trans unknown)
  | setting given skipped => exact .setting (settings.symm.trans given) skipped
  | query failed => exact .query (turns ▸ failed)
  | value read dropped => exact .value (turns ▸ read) dropped

namespace Server

variable {answer : Answers} {s : Server}

theorem freshPlan_withWindows (c : Catalog) (windows : String → UInt64) :
    s.freshPlan answer (c.withWindows windows) = (s.freshPlan answer c).withWindows windows := by
  unfold freshPlan
  cases versionOf s.fingerprint (answer versionQuery) with
  | ok info => exact c.compile_withWindows windows info.version s.labels
  | error e => rfl

variable (answer s) in
theorem freshTurns_withWindows (windows : String → UInt64) (p : Plan)
    (l : List (String × Schema)) :
    freshTurns answer { s with plan := p.withWindows windows }
        (l.map fun n => (n.1, { n.2 with cacheSeconds := windows n.1 })) =
      freshTurns answer { s with plan := p } l := by
  induction l with
  | nil => rfl
  | cons n rest ih =>
    have first : freshTurn answer { s with plan := p.withWindows windows } n.1
        { n.2 with cacheSeconds := windows n.1 } =
          freshTurn answer { s with plan := p } n.1 n.2 := rfl
    rw [List.map_cons]
    unfold freshTurns
    rw [ih, first]

/-- Without captures a pass depends on no window. -/
theorem freshPass_withWindows (windows : String → UInt64) (c : Catalog) (options : ScrapeOptions)
    (now : Instant) :
    s.freshPass answer (c.withWindows windows) options now =
      { s.freshPass answer c options now with
        plan := (s.freshPlan answer c).withWindows windows } := by
  unfold freshPass freshPassOn
  rw [freshPlan_withWindows]
  have turns := freshTurns_withWindows answer s windows (s.freshPlan answer c)
    (s.freshPlan answer c).schemas.toList
  have settings : freshSettings answer
      { s with plan := (s.freshPlan answer c).withWindows windows } options =
        freshSettings answer { s with plan := s.freshPlan answer c } options := rfl
  rw [settings]
  cases freshSettings answer { s with plan := s.freshPlan answer c } options with
  | error e => rfl
  | ok report =>
    dsimp only
    rw [← turns]
    rfl

theorem troubled_freshPass_withWindows (windows : String → UInt64) (c : Catalog)
    (options : ScrapeOptions) (now : Instant) :
    (s.freshPass answer (c.withWindows windows) options now).Troubled ↔
      (s.freshPass answer c options now).Troubled := by
  rw [freshPass_withWindows]
  constructor
  · exact fun troubled => troubled.congr rfl rfl rfl
  · exact fun troubled => troubled.congr rfl rfl rfl

/-- Nothing is replayed where all windows are zero. -/
theorem not_hides_of_pass {δ : Type} (b : Backend δ) {c : Catalog}
    (planOf : (c.withWindows fun _ => 0).PlanOf s.labels s.plan) (i : Circumstances δ) :
    ¬ (s.pass b (c.withWindows fun _ => 0) i).1.Hides answer := by
  rintro ⟨name, batch, mem, -⟩
  obtain ⟨n, -, declared, window, -⟩ := (passSpec_pass b planOf i).replayed name _ mem
  unfold Catalog.withWindows at declared
  rw [Dict.get?_mapValues] at declared
  obtain ⟨n', -, rfl⟩ := Option.map_eq_some_iff.mp declared
  exact window rfl

end Server

end PgMetrics
