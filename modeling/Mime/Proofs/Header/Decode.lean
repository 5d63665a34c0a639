import Mime.Header.Decode
import Mime.Proofs.EncodedWord
import Mime.Proofs.Except

/-! What decoding makes of one word after another. A word that is read gives its text, one that
is not stays as it is, and one whose label cannot be looked up ends the decoding. -/

namespace Mime.Header

open EncodedWord

theorem unfold_append (s t : Text) : unfold (s ++ t) = unfold s ++ unfold t := List.filter_append ..

theorem unfold_eq_self {t : Text} (h : ∀ c ∈ t, isLineBreak c = false) : unfold t = t :=
  List.filter_eq_self.2 fun c hc => by simp [h c hc]

/-- A text of spaces, tabs and characters of line breaks only. -/
def IsLinear (t : Text) : Prop := ∀ c ∈ t, c = ' ' ∨ c = '\t' ∨ c = '\r' ∨ c = '\n'

instance (t : Text) : Decidable (IsLinear t) :=
  inferInstanceAs (Decidable (∀ c ∈ t, c = ' ' ∨ c = '\t' ∨ c = '\r' ∨ c = '\n'))

theorem all_isLinearBlank_iff {t : Text} : t.all isLinearBlank = true ↔ IsLinear t := by
  simp [isLinearBlank, IsLinear, or_assoc]

variable [Charset.Registry]

section

variable {afterWord : Bool} {gap last : Text} {w : EncodedWord} {more : List (Text × EncodedWord)}

theorem outcome_join_read {t : Text} (h : w.read = .ok (.ok t)) :
    (join afterWord ((gap, w) :: more) last).outcome =
      ((if afterWord && gap.all isLinearBlank then [] else gap) ++ t ++ ·) <$>
        (join true more last).outcome := by
  simp only [join, Traced.outcome_bind, Traced.outcome_ofExcept, h, ok_bind, Traced.outcome_pure]
  cases (join true more last).outcome <;> rfl

theorem outcome_join_raw {why : Unreadable} (h : w.read = .ok (.error why)) :
    (join afterWord ((gap, w) :: more) last).outcome =
      (gap ++ w.verbatim ++ ·) <$> (join false more last).outcome := by
  simp only [join, Traced.outcome_bind, Traced.outcome_ofExcept, h, ok_bind,
    Traced.outcome_report, Traced.outcome_pure]
  cases (join false more last).outcome <;> rfl

theorem outcome_join_fault {f : Charset.LabelFault} (h : w.read = .error f) :
    (join afterWord ((gap, w) :: more) last).outcome = .error f := by
  rw [join, Traced.outcome_bind, Traced.outcome_ofExcept, h]
  rfl

/-- A word ends the decoding or is shown in some way, whatever stands around it. -/
theorem outcome_join_word (w : EncodedWord) :
    (∃ f, ∀ afterWord gap more last,
      (join afterWord ((gap, w) :: more) last).outcome = .error f) ∨
    ∃ (decoded : Bool) (shown : Text), ∀ afterWord gap more last,
      (join afterWord ((gap, w) :: more) last).outcome =
        ((if afterWord && decoded && gap.all isLinearBlank then [] else gap) ++ shown ++ ·) <$>
          (join decoded more last).outcome := by
  cases hr : w.read with
  | error f => exact .inl ⟨f, fun _ _ _ _ => outcome_join_fault hr⟩
  | ok answer =>
    cases answer with
    | ok t =>
      refine .inr ⟨true, t, ?_⟩
      intro afterWord gap more last
      rw [outcome_join_read hr, Bool.and_true]
    | error why =>
      refine .inr ⟨false, w.verbatim, ?_⟩
      intro afterWord gap more last
      rw [outcome_join_raw hr, Bool.and_false]
      rfl

end

/-- A text in which no word stands is read as it is. -/
theorem outcome_decode_of_silent {t : Text} (h : Silent t []) : (decode t).outcome = .ok t := by
  rw [decode, split_of_silent h]
  rfl

end Mime.Header
