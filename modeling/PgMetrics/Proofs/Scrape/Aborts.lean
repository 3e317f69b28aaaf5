import PgMetrics.Proofs.Scrape.Accounting
import PgMetrics.Proofs.Time.SpanText

/-!
# Result sets that abort the conversion

A value that cannot be converted costs its cell only, with one exception: a written span that brims
over. No other conversion and no histogram aborts, and no column aborts that nothing is said of. So
a result set is converted unless it has such a span under a column that is declared as one.

## Main results

* `Schema.visit_eq_error_iff` — where a cell aborts.
* `Schema.eq_spanOverflow_of_visit` — there is one way to abort.
* `Namespace.converts_unless_span_brims` — which result sets abort.
-/

namespace PgMetrics

theorem convertSpan_eq_error_iff {label : String} {a : Abort} :
    convertSpan label = .error a ↔ a = .spanOverflow ∧ Span.BrimsOver label.toList := by
  rw [← Span.parse_eq_carryOverflow_iff]
  unfold convertSpan
  split
  case isTrue unset =>
    have malformed : Span.parse label.toList = .error .malformed := by
      rw [unset]
      rfl
    simp [malformed]
  case isFalse =>
    rcases Span.parse label.toList with (_ | _) | span <;> simp [eq_comm]

/-- Of all conversions only that of written spans aborts. -/
theorem Conversion.apply_eq_error_iff {c : Conversion} {value : Value} {a : Abort} :
    c.apply value = .error a ↔
      a = .spanOverflow ∧ c = .durationMillis ∧ Span.BrimsOver value.label.toList := by
  cases c with
  | durationMillis => simp [apply, convertSpan_eq_error_iff]
  | discard => simp [apply]
  | histogram => simp [apply]
  | numeric =>
    unfold apply
    cases value.number? <;> simp
  | mapped table =>
    unfold apply
    cases found : value.text?.bind table.get? <;> simp [found]

namespace Schema

variable {s : Schema} {x : RowContext} {column : String} {value : Value} {a : Abort}

/-- A cell aborts where its conversion does, if its column is kept, exported and no histogram. -/
theorem visit_eq_error_iff :
    s.visit x column value = .error a ↔ ∃ rule, s.rules.get? column = some rule ∧
      rule.discard = false ∧ rule.histogram = false ∧ rule.descriptor.isSome ∧
        rule.conversion.apply value = .error a := by
  cases found : s.rules.get? column with
  | none => simp [visit, found]
  | some rule =>
    simp only [visit, found, Option.some.injEq, exists_eq_left']
    cases rule.discard with
    | true => simp
    | false =>
      cases rule.histogram with
      | true => simp
      | false =>
        cases exported : rule.descriptor with
        | none => simp [visitScalar, exported]
        | some d =>
          rcases converted : rule.conversion.apply value with b | ⟨y | _ | shown⟩ <;>
            simp [visitScalar_eq exported, converted, Except.map]

/-- There is one way to abort. -/
theorem eq_spanOverflow_of_visit (h : s.visit x column value = .error a) : a = .spanOverflow := by
  obtain ⟨rule, -, -, -, -, aborted⟩ := visit_eq_error_iff.mp h
  exact (Conversion.apply_eq_error_iff.mp aborted).1

theorem eq_spanOverflow_of_visitCell {namespaceName : String} {r : ResultSet} {c : Cell}
    (h : s.visitCell namespaceName r c = .error a) : a = .spanOverflow :=
  eq_spanOverflow_of_visit h

/-- A result set aborts if one of its cells does. -/
theorem convert_eq_error_iff {namespaceName : String} {r : ResultSet} :
    s.convert namespaceName r = .error a ↔
      ∃ c ∈ r.cells, s.visitCell namespaceName r c = .error a := by
  have lost : (r.cells.mapM (s.visitCell namespaceName r)).map Batch.ofCells = .error a ↔
      r.cells.mapM (s.visitCell namespaceName r) = .error a := map_eq_error
  rw [convert_eq, lost]
  constructor
  · intro failed
    obtain ⟨before, c, after, split, -, aborted⟩ := mapM_eq_error.mp failed
    refine ⟨c, ?_, aborted⟩
    rw [split]
    exact List.mem_append_right _ List.mem_cons_self
  · rintro ⟨c, mem, aborted⟩
    cases mapped : r.cells.mapM (s.visitCell namespaceName r) with
    | ok results =>
      obtain ⟨result, given⟩ := exists_ok_of_mapM mapped mem
      rw [aborted] at given
      cases given
    | error a' =>
      obtain ⟨-, c', -, -, -, aborted'⟩ := mapM_eq_error.mp mapped
      rw [eq_spanOverflow_of_visitCell aborted, eq_spanOverflow_of_visitCell aborted']

end Schema

namespace Namespace

/-- A span that brims over, under a column that is declared as a span and that the version has. -/
def Bursts (n : Namespace) (v : Version) (column : String) (value : Value) : Prop :=
  (∃ c, n.columns.get? column = some c ∧ c.isSupported v ∧ c.usage = .duration) ∧
    Span.BrimsOver value.label.toList

variable {n : Namespace} {v : Version} {namespaceName stem : String}
  {constLabels : Dict String String}

theorem visit_compile_eq_error_iff {x : RowContext} {column : String} {value : Value} {a : Abort} :
    (n.compile v namespaceName stem constLabels).visit x column value = .error a ↔
      a = .spanOverflow ∧ n.Bursts v column value := by
  rw [Schema.visit_eq_error_iff]
  simp only [Conversion.apply_eq_error_iff]
  constructor
  · rintro ⟨rule, found, kept, -, -, rfl, span, brims⟩
    obtain ⟨c, declared, supported, rfl⟩ := declared_of_compile_rules _ _ _ _ _ found kept
    obtain ⟨c', declared', usage⟩ := (durationMillis_iff found kept).mp span
    rw [declared] at declared'
    cases declared'
    exact ⟨rfl, ⟨c, declared, supported, usage⟩, brims⟩
  · rintro ⟨rfl, ⟨c, declared, supported, usage⟩, brims⟩
    refine ⟨_, compile_rules_of_declared _ _ _ _ _ declared, ?_⟩
    rw [ownRule, if_pos supported, ruleOf, usage]
    exact ⟨rfl, rfl, rfl, rfl, rfl, brims⟩

/-- A result set aborts exactly if it has a span that brims over under a column that is declared as
a span. Every other result set is converted, and every cell gives a metric, an error or nothing. -/
theorem converts_unless_span_brims (n : Namespace) (v : Version) (namespaceName stem : String)
    (constLabels : Dict String String) (r : ResultSet) :
    let s := n.compile v namespaceName stem constLabels
    (∀ a, s.convert namespaceName r = .error a ↔
      a = .spanOverflow ∧ ∃ c ∈ r.cells, n.Bursts v c.column c.value) ∧
    ((∀ c ∈ r.cells, ¬ n.Bursts v c.column c.value) → ∃ results,
      s.convert namespaceName r = .ok
        ⟨results.filterMap CellResult.metric?, results.filterMap CellResult.error?⟩ ∧
      List.Forall₂ (fun c result => s.visitCell namespaceName r c = .ok result)
        r.cells results) := by
  intro s
  have aborts (c : Cell) (a : Abort) : s.visitCell namespaceName r c = .error a ↔
      a = .spanOverflow ∧ n.Bursts v c.column c.value := visit_compile_eq_error_iff
  constructor
  · intro a
    simp only [Schema.convert_eq_error_iff, aborts]
    constructor
    · rintro ⟨c, mem, rfl, bursts⟩
      exact ⟨rfl, c, mem, bursts⟩
    · rintro ⟨rfl, c, mem, bursts⟩
      exact ⟨c, mem, rfl, bursts⟩
  · intro none
    have each : ∀ c ∈ r.cells, ∃ result, s.visitCell namespaceName r c = .ok result := by
      intro c mem
      cases given : s.visitCell namespaceName r c with
      | ok result => exact ⟨result, rfl⟩
      | error a => exact absurd ((aborts c a).mp given).2 (none c mem)
    obtain ⟨results, visited⟩ := exists_mapM_of_forall each
    refine ⟨results, ?_, mapM_eq_ok.mp visited⟩
    rw [s.convert_eq, visited, ← Batch.ofCells_eq]
    rfl

end Namespace

namespace Brimming

/-- A view with one span. -/
def view : Namespace := ⟨.ofList [("age", .plain .duration "Age")], false, 0⟩

def answer (age : String) : ResultSet := ⟨["age"], [[.text age]]⟩

/-- Not every result set is converted: with the greatest number of seconds, a thousand milliseconds
brim over. -/
theorem not_convert_of_any :
    ¬ ∀ (n : Namespace) (v : Version) (namespaceName stem : String)
        (constLabels : Dict String String) (r : ResultSet),
      ∃ batch, (n.compile v namespaceName stem constLabels).convert namespaceName r =
        .ok batch := by
  intro all
  obtain ⟨batch, converted⟩ :=
    all view ⟨14, 0, 0⟩ "pg_x" "pg" .empty (answer "18446744073709551615s 1000ms")
  have aborted : ((view.compile ⟨14, 0, 0⟩ "pg_x" "pg" .empty).convert "pg_x"
      (answer "18446744073709551615s 1000ms")).isOk = false := by decide +kernel
  rw [converted] at aborted
  cases aborted

/-- A thousand milliseconds abort, one less is converted, and one more is an error. -/
theorem convert_of_answers :
    (view.compile ⟨14, 0, 0⟩ "pg_x" "pg" .empty).convert "pg_x"
        (answer "18446744073709551615s 1000ms") = .error .spanOverflow ∧
    ∀ age ∈ ["18446744073709551615s 999ms", "18446744073709551615s 1001ms"], ∃ batch,
      (view.compile ⟨14, 0, 0⟩ "pg_x" "pg" .empty).convert "pg_x" (answer age) = .ok batch := by
  have all (age : String) :=
    view.converts_unless_span_brims ⟨14, 0, 0⟩ "pg_x" "pg" .empty (answer age)
  have declared : view.columns.get? "age" = some (.plain .duration "Age") := rfl
  constructor
  · have brims : Span.BrimsOver (Value.text "18446744073709551615s 1000ms").label.toList := by
      rw [← Span.parse_eq_carryOverflow_iff]
      decide +kernel
    exact ((all _).1 _).mpr ⟨rfl, _, List.mem_singleton_self _, ⟨_, declared, rfl, rfl⟩, brims⟩
  · have fits : ∀ age ∈ ["18446744073709551615s 999ms", "18446744073709551615s 1001ms"],
        Span.parse (Value.text age).label.toList ≠ .error .carryOverflow := by decide +kernel
    intro age mem
    have none : ∀ c ∈ (answer age).cells, ¬ view.Bursts ⟨14, 0, 0⟩ c.column c.value := by
      rintro c inCells ⟨-, brims⟩
      obtain rfl := List.mem_singleton.mp inCells
      exact fits age mem (Span.parse_eq_carryOverflow_iff.mpr brims)
    obtain ⟨results, converted, -⟩ := (all age).2 none
    exact ⟨_, converted⟩

end Brimming

end PgMetrics
