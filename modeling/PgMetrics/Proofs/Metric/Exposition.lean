import PgMetrics.Metric.Exposition
import PgMetrics.Proofs.Outcome

/-!
# When families can be written

Families with a name and with samples can be written exactly when each has a type.
-/

namespace PgMetrics

namespace Family

/-- What the families of a pass have. -/
structure IsRegular (f : Family) : Prop where
  named : f.name ≠ ""
  sampled : f.samples ≠ []

theorem render_eq {f : Family} (h : f.IsRegular) :
    f.render = if f.type = .untyped then .error (.aborted .untypedFamily)
      else .ok (f.heading ++ String.join (f.samples.map f.sampleLines)) := by
  unfold render
  simp [h.named, h.sampled]

end Family

namespace Exposition

variable {families : List Family} (regular : ∀ f ∈ families, f.IsRegular)
include regular

theorem render_of_typed (typed : ∀ f ∈ families, f.type ≠ .untyped) :
    ∃ text, render families = .ok text := by
  unfold render
  cases written : families.mapM Family.render with
  | ok texts => exact ⟨_, rfl⟩
  | error stop =>
    obtain ⟨before, f, after, rfl, -, failed⟩ := mapM_eq_error.mp written
    rw [Family.render_eq (regular f (by simp)), if_neg (typed f (by simp))] at failed
    cases failed

theorem render_of_untyped (untyped : ∃ f ∈ families, f.type = .untyped) :
    render families = .error (.aborted .untypedFamily) := by
  unfold render
  cases written : families.mapM Family.render with
  | ok texts =>
    obtain ⟨f, mem, type⟩ := untyped
    obtain ⟨text, ok⟩ := exists_ok_of_mapM written mem
    rw [Family.render_eq (regular f mem), if_pos type] at ok
    cases ok
  | error stop =>
    obtain ⟨before, f, after, rfl, -, failed⟩ := mapM_eq_error.mp written
    rw [Family.render_eq (regular f (by simp))] at failed
    split at failed
    · cases failed
      rfl
    · cases failed

end Exposition

end PgMetrics
