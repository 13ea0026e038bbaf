import Vitae.Proofs.Fault

/-!
Texts of characters among the texts of code points. They are those that have a UTF-8 form.
-/

namespace Vitae.Text.Points

variable {p : Points} {s : String}

theorem exists_chars (whole : p.hasHalf = false) : ∃ s : String, p = s := by
  cases p with
  | chars s => exact ⟨s, rfl⟩
  | halved => cases whole

theorem encodable_of_hasHalf (half : p.hasHalf) : p.encodable = .error (.misuse .unencodable) := by
  cases p with
  | chars s => cases half
  | halved => rfl

theorem failsBy_encodable (p : Points) :
    Checked.FailsBy (· = .misuse .unencodable) p.encodable := by
  cases p with
  | chars s => exact Checked.failsBy_ok s
  | halved => exact Checked.failsBy_error rfl

theorem encodable_eq_ok_iff : p.encodable = .ok s ↔ p = s := by
  cases p <;> simp [encodable]

end Vitae.Text.Points
