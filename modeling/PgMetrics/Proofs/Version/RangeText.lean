import PgMetrics.Proofs.Version.Overlap
import PgMetrics.Proofs.Version.Text

/-!
# Ranges as they are written

The printed form of a range is read word by word: the sign of a bound ends where its version begins,
and no bound has a blank in it. So reading gives the bounds back in their order, and what is left to
decide is whether the interval between them is empty.

## Main results

* `VersionBound.parse_render`, `VersionRange.mapM_parse_words` — bounds read back as themselves.
* `VersionRange.parse_render` — which printed ranges are accepted.
* `VersionRange.accepted_iff_inhabited` — the printed form is accepted exactly where there are
  bounds and room between them.
-/

namespace PgMetrics

namespace VersionBound

theorem not_isBlank_of_mem_render {b : VersionBound} {c : Char} (h : c ∈ b.render) :
    Text.isBlank c = false := by
  have digit {n : Nat} (h : c ∈ Text.decimal n) : Text.isBlank c = false :=
    Text.isBlank_of_isDigit (Text.isDigit_of_mem_decimal h)
  have point : Text.isBlank '.' = false := rfl
  have signs (r : Relation) (c : Char) (hc : c ∈ r.sign) : Text.isBlank c = false := by
    have all : (r.sign.all fun c => !Text.isBlank c) = true := by cases r <;> rfl
    simpa using List.all_eq_true.mp all c hc
  simp only [render, Version.render, List.mem_append, List.mem_cons] at h
  grind

theorem render_ne_nil (b : VersionBound) : b.render ≠ [] := by
  obtain ⟨relation, version⟩ := b
  cases relation <;> simp [render, Relation.sign]

/-- The sign of a bound ends before the digits of its version. -/
theorem relationOf_append (r : Relation) (v : Version) :
    relationOf (r.sign ++ v.render) = (r, v.render) := by
  obtain ⟨first, last, starts, -, digit, -⟩ := (WrittenVersion.ofVersion v).exists_ends
  obtain ⟨rest, hv⟩ := List.head?_eq_some_iff.mp starts
  rw [WrittenVersion.text_ofVersion] at hv
  have : first ≠ '=' := Text.ne_of_isDigit digit rfl
  rw [hv]
  cases r <;> simp [Relation.sign, relationOf, this]

@[simp]
theorem parse_render (b : VersionBound) : parse b.render = .ok b := by
  rw [render, parse, relationOf_append, Version.parse?_render]

end VersionBound

namespace VersionRange

/-- The words of a printed range are its bounds. -/
theorem words_renderBounds (r : VersionRange) :
    Text.words (renderBounds r) = r.map VersionBound.render := by
  induction r with
  | nil => rfl
  | cons b rest ih =>
    have visible : ∀ c ∈ b.render, Text.isBlank c = false :=
      fun _ => VersionBound.not_isBlank_of_mem_render
    cases rest with
    | nil => rw [renderBounds, Text.words_of_none visible b.render_ne_nil]; rfl
    | cons c rest =>
      rw [renderBounds, Text.words_append visible b.render_ne_nil rfl, ih]
      · rfl
      · exact nofun

theorem mapM_parse_words (r : VersionRange) :
    (Text.words (renderBounds r)).mapM VersionBound.parse = .ok r := by
  rw [words_renderBounds, mapM_eq_ok, List.forall₂_map_left_iff]
  exact List.forall₂_same.mpr fun b _ => b.parse_render

/-- The printed form of bounds is read back, unless nothing lies between them. -/
theorem parse_render {r : VersionRange} (ne : r ≠ []) :
    parse (render r) =
      if (interval r).isEmpty then .error (.unsatisfiable (render r)) else .ok r := by
  have printed : render r = renderBounds r := by simp [render, ne]
  rw [parse, printed, mapM_parse_words]
  rfl

/-- The star of the range without bounds is not read. -/
theorem parse_render_any : parse (render any) = .error (.noVersion ['*']) := by rfl

/-- The printed form of a range is read back exactly where it has bounds with room between them.
Without room no version satisfies the bounds. -/
theorem accepted_iff_inhabited (r : VersionRange) :
    (parse (render r) = .ok r ↔ r ≠ [] ∧ (interval r).isEmpty = false) ∧
    (r ≠ [] → (interval r).isEmpty = true →
      parse (render r) = .error (.unsatisfiable (render r)) ∧ ∀ v, admits r v = false) ∧
    (r = [] → render r = ['*'] ∧ parse (render r) = .error (.noVersion ['*'])) := by
  refine ⟨⟨fun read => ?_, fun ⟨ne, room⟩ => ?_⟩, fun ne none => ⟨?_, fun v => ?_⟩, ?_⟩
  · have ne : r ≠ [] := by
      rintro rfl
      cases read
    rw [parse_render ne] at read
    exact ⟨ne, by simpa using read⟩
  · rw [parse_render ne, room]
    rfl
  · rw [parse_render ne, none]
    rfl
  · rw [← Bool.not_eq_true, ← contains_interval]
    exact VersionInterval.not_contains_of_isEmpty none v
  · rintro rfl
    exact ⟨rfl, parse_render_any⟩

/-- Between neighbours that are both kept out there is room in a dense order, between a version and
itself there is none. -/
theorem read_of_open_ends :
    let narrow : VersionRange := [⟨.above, ⟨9, 6, 0⟩⟩, ⟨.below, ⟨9, 6, 1⟩⟩]
    let shut : VersionRange := [⟨.above, ⟨9, 6, 0⟩⟩, ⟨.below, ⟨9, 6, 0⟩⟩]
    parse (render narrow) = .ok narrow ∧
      parse (render shut) = .error (.unsatisfiable ">9.6.0 <9.6.0".toList) ∧
      ∀ v, admits shut v = false :=
  ⟨(accepted_iff_inhabited _).1.mpr ⟨nofun, rfl⟩, (accepted_iff_inhabited _).2.1 nofun rfl⟩

end VersionRange

end PgMetrics
