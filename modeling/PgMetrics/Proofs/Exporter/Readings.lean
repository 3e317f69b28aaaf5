import PgMetrics.Proofs.Exporter.Families

/-!
# What the families show

A family has the type of the first metric of its name, and a sample keeps its reading under the type
of its own. The reading is shown where the two types are the same. Elsewhere the family shows the
empty value of its type, and nothing tells that a reading was lost. This happens where two sources
share their name but not their type, such as the columns of two namespaces of which one carries the
stem, a span and a column that is named like it with the ending, or a column and a parameter.

## Main definitions

* `Shown`, `Sample.shownAs` — what a family of a type shows of a sample.
* `Reading.shown` — what there is to show.
-/

namespace PgMetrics

/-- What is shown of a sample: the lines of a number, or those of a histogram. -/
inductive Shown where
  | number (x : Float)
  | histogram (h : Histogram)

/-- What a family of the type shows where it has no value of its type. -/
def Shown.nothing : FamilyType → Shown
  | .histogram => .histogram .empty
  | _ => .number 0.0

/-- The number or the histogram that was read. -/
def Reading.shown : Reading → Shown
  | .scalar _ x => .number x
  | .histogram h => .histogram h

namespace Sample

/-- What a family of the type shows of a sample. -/
def shownAs (s : Sample) : FamilyType → Shown
  | .histogram => .histogram s.histogramOrEmpty
  | type => .number (s.scalarAs type)

/-- The lines of a sample are those of what is shown of it. -/
theorem sampleLines_eq (f : Family) (s : Sample) :
    f.sampleLines s =
      match s.shownAs f.type with
      | .number x => Exposition.sampleLine f.name s.labels x
      | .histogram h => Exposition.histogramLines f.name s.labels h := by
  unfold Family.sampleLines shownAs
  cases f.type <;> rfl

variable {s : Sample} {type : FamilyType}

theorem shownAs_of_eq (h : FamilyType.ofReading s.reading = type) :
    s.shownAs type = s.reading.shown := by
  obtain ⟨labels, reading⟩ := s
  subst h
  cases reading with
  | scalar kind x => cases kind <;> rfl
  | histogram h => rfl

theorem shownAs_of_ne (h : FamilyType.ofReading s.reading ≠ type) :
    s.shownAs type = .nothing type := by
  obtain ⟨labels, reading⟩ := s
  cases reading with
  | scalar kind x =>
    have other : FamilyType.ofKind kind ≠ type := h
    cases type with
    | histogram => rfl
    | counter | gauge | untyped =>
      change Shown.number (if FamilyType.ofKind kind = _ then x else 0.0) = _
      rw [if_neg other]
      rfl
  | histogram h' =>
    cases type with
    | histogram => exact absurd rfl h
    | counter | gauge | untyped => rfl

end Sample

namespace Exporter

variable {δ : Type}

/-- Every metric of a pass is in the family of its name. The family shows the reading of the metric
if the first metric of the name has the type of it, and otherwise shows nothing of it; the two
metrics then come from sources that share the name and have different types. -/
theorem shown_iff_type_of_first {b : Backend δ} {c : Config} {files : String → FileState}
    {x : Exporter} (reachable : Reachable b c files x) {clock : PassClock} {w : World δ}
    {families : List Family} (gathered : (x.gather b clock w).1 = .ok families) :
    ∃ metrics, (x.collect b clock w).1 = .ok metrics ∧ ∀ m ∈ metrics,
      ∃ f ∈ families, f.name = m.name ∧ m.sample ∈ f.samples ∧
        ∃ first, Family.IsFirst metrics first ∧ first.name = m.name ∧
          f.type = .ofReading first.reading ∧
          (FamilyType.ofReading m.reading = .ofReading first.reading →
            m.sample.shownAs f.type = m.reading.shown) ∧
          (FamilyType.ofReading m.reading ≠ .ofReading first.reading →
            m.sample.shownAs f.type = .nothing f.type ∧
            ∃ s t : Source, s.Gives c files first ∧ t.Gives c files m ∧
              s.bareName c.exporter.metricPrefix = t.bareName c.exporter.metricPrefix ∧
              s.type ≠ t.type) := by
  obtain ⟨metrics, collected, rfl⟩ := gather_eq_ok.mp gathered
  have settled := settled_of_reachable reachable
  refine ⟨metrics, collected, fun m mem => ?_⟩
  obtain ⟨f, grouped, named, sampled, first, founds, same, type⟩ := Family.exists_family_of_mem mem
  refine ⟨f, mem_withStatus.mpr (.inl grouped), named, sampled, first, founds, same, type,
    fun fits => ?_, fun differs => ⟨?_, ?_⟩⟩
  · exact Sample.shownAs_of_eq (fits.trans type.symm)
  · exact Sample.shownAs_of_ne (type ▸ differs)
  · obtain ⟨e, -, emits⟩ := emits_of_collect reachable collected founds.mem
    obtain ⟨e', -, emits'⟩ := emits_of_collect reachable collected mem
    obtain ⟨s, gives⟩ := emits.exists_source settled
    obtain ⟨t, gives'⟩ := emits'.exists_source settled
    refine ⟨s, t, gives, gives', ?_, ?_⟩
    · rw [gives.named, gives'.named] at same
      exact stemmed_inj.mp same
    · rw [← gives.typed, ← gives'.typed]
      exact differs.symm

namespace TwinColumns

open UnknownColumn (config clock world)

/-- A text with two namespaces whose columns are exported under one name, a gauge and a counter. -/
def text : String :=
  "pg_x:\n  query: select g\n  metrics:\n    - a: \x7busage: GAUGE, description: A\x7d\n" ++
    "x:\n  query: select c\n  metrics:\n    - a: \x7busage: COUNTER, description: A\x7d\n"

def files (_ : String) : FileState := .contents text.toUTF8.toList

/-- Databases that know their banner and otherwise answer with a number for each query. -/
def backend : Backend Unit where
  connect _ d := (.ok (), d)
  ping d := (.ok (), d)
  query sql d :=
    if sql = versionQuery then (.ok ⟨["version"], [[.text "PostgreSQL 14.0"]]⟩, d)
    else (.ok ⟨["a"], [[.float (if sql = "select g" then 1.0 else 2.0)]]⟩, d)
  close d := d

/-- The names, types and numbers of the metrics of the first pass. -/
def firstPass (x : Exporter) : Option (List (String × FamilyType × Option Float)) :=
  (x.collect backend clock world).1.toOption.map fun metrics =>
    metrics.map fun m => (m.name, FamilyType.ofReading m.reading, m.number?)

theorem firstPass_of_config :
    config.validate = .ok () ∧
      (UserQueries.load "queries.yaml" (files "queries.yaml")).isOk = true ∧
      (Exporter.new config files).toOption.bind firstPass =
        some [("pg_x_a", .gauge, some 1.0), ("pg_x_a", .counter, some 2.0)] := by
  decide +kernel

/-- The second metric of the name is not of the type of the first. -/
theorem exists_lost :
    ∃ x metrics, Reachable backend config files x ∧
      (x.collect backend clock world).1 = .ok metrics ∧
      ∃ first m, Family.IsFirst metrics first ∧ FamilyType.ofReading first.reading = .gauge ∧
        m ∈ metrics ∧ first.name = "pg_x_a" ∧ m.name = "pg_x_a" ∧
        FamilyType.ofReading m.reading = .counter ∧ m.reading.shown = .number 2.0 := by
  obtain ⟨x, created, pass⟩ := Option.bind_eq_some_iff.mp firstPass_of_config.2.2
  obtain ⟨metrics, collected, shape⟩ := Option.map_eq_some_iff.mp pass
  obtain ⟨first, rest, rfl, gauge, others⟩ := List.map_eq_cons_iff.mp shape
  obtain ⟨m, rfl, counter⟩ := List.map_eq_singleton_iff.mp others
  simp only [Prod.mk.injEq] at gauge counter
  refine ⟨x, [first, m], .created (eq_ok_of_toOption created), eq_ok_of_toOption collected, first,
    m, ?_, gauge.2.1, by simp, gauge.1, counter.1, counter.2.1, ?_⟩
  · simp [Family.IsFirst]
  · obtain ⟨-, -, number⟩ := counter
    unfold Metric.number? at number
    cases reading : m.reading with
    | scalar kind y =>
      rw [reading] at number
      exact congrArg Shown.number (Option.some.inj number)
    | histogram h =>
      rw [reading] at number
      cases number

theorem number_ne : Shown.number 0.0 ≠ Shown.number 2.0 := by
  intro same
  exact absurd (Shown.number.inj same) (by decide +kernel)

/-- A valid configuration with a file that loads need not show every reading. -/
theorem not_shown_of_valid_of_loads :
    ¬ ∀ (c : Config) (files : String → FileState) (x : Exporter), c.validate = .ok () →
      (∀ path, c.exporter.userQueriesPath = some path →
        (UserQueries.load path (files path)).isOk = true) →
      Reachable backend c files x → ∀ (clock : PassClock) (w : World Unit) (metrics : List Metric)
        (families : List Family), (x.collect backend clock w).1 = .ok metrics →
        (x.gather backend clock w).1 = .ok families →
        ∀ m ∈ metrics, ∃ f ∈ families, f.name = m.name ∧ m.sample ∈ f.samples ∧
          m.sample.shownAs f.type = m.reading.shown := by
  intro shows
  obtain ⟨valid, loads, -⟩ := firstPass_of_config
  obtain ⟨x, metrics, reachable, collected, first, m, founds, gauge, mem, named, named', counter,
    shown⟩ := exists_lost
  have loaded (path : String) (given : config.exporter.userQueriesPath = some path) :
      (UserQueries.load path (files path)).isOk = true := by
    obtain rfl : "queries.yaml" = path := Option.some.inj given
    exact loads
  obtain ⟨f, given, same, -, kept⟩ := shows config files x valid loaded reachable clock world
    metrics _ collected (gather_eq_ok.mpr ⟨metrics, collected, rfl⟩) m mem
  rcases mem_withStatus.mp given with grouped | own
  · obtain ⟨g, grouped', name, type⟩ := Family.exists_mem_group_of_isFirst founds
    obtain rfl := Family.eq_of_mem_group grouped grouped' <|
      same.trans (named'.trans (named.symm.trans name.symm))
    have lost : m.sample.shownAs f.type = .nothing f.type :=
      Sample.shownAs_of_ne (s := m.sample) (by
        change FamilyType.ofReading m.reading ≠ f.type
        rw [counter, type, gauge]
        decide)
    rw [lost, shown, type, gauge] at kept
    exact number_ne kept
  · -- the status has no family of the name
    have other : ∀ name ∈ "up" :: Status.ownNames, "pg_x_a" ≠ stemmed "pg" name := by
      decide
    have stem := (settled_of_reachable (reachable.collect clock world)).statusStem
    obtain ⟨m', mem', name⟩ := Family.mem_name_group.mp (List.mem_map_of_mem own)
    have names := Status.name_of_mem_metrics mem'
    rw [name, same, named', stem] at names
    rcases names with up | ⟨own, taken, name⟩
    · exact other "up" List.mem_cons_self up
    · exact other own (List.mem_cons_of_mem _ taken) name

/-- The family is a gauge, and the counter is shown as zero. -/
theorem zero_of_twin_columns :
    ∃ x families, Reachable backend config files x ∧
      (x.gather backend clock world).1 = .ok families ∧
      ∃ f ∈ families, ∃ m : Metric, f.name = m.name ∧ m.sample ∈ f.samples ∧
        m.reading.shown = .number 2.0 ∧ m.sample.shownAs f.type = .number 0.0 := by
  obtain ⟨x, metrics, reachable, collected, first, m, founds, gauge, mem, named, named', counter,
    shown⟩ := exists_lost
  have gathered := gather_eq_ok.mpr ⟨metrics, collected, rfl⟩
  obtain ⟨metrics', collected', all⟩ := shown_iff_type_of_first reachable gathered
  obtain rfl := Except.ok.inj (collected.symm.trans collected')
  obtain ⟨f, given, same, sampled, first', founds', same', type, -, lost⟩ := all m mem
  obtain rfl := founds'.eq_of_name founds (same'.trans (named'.trans named.symm))
  have zero := (lost (by rw [counter, gauge]; decide)).1
  rw [type, gauge] at zero
  refine ⟨x, _, reachable, gathered, f, given, m, same, sampled, shown, ?_⟩
  rw [type, gauge, zero]
  rfl

end TwinColumns

end Exporter

end PgMetrics
