import Mathlib.Data.List.Forall2
import Mime.Proofs.QuotedPrintable.Escape
import Mime.QuotedPrintable.Word

/-! The Q encoding by the forms of its octets. Whichever form each octet is written in, the text
reads back as the octets: `decodeWord_flatten`. -/

namespace Mime.QuotedPrintable

/-- The forms of an octet in the text of a word. -/
inductive WordForm : UInt8 → Octets → Prop
  | underscore : WordForm 0x20 [0x5F]
  | escape {b x y : UInt8} : digitValue? x = some (b.toNat / 16) →
      digitValue? y = some (b.toNat % 16) → WordForm b [0x3D, x, y]
  | literal {b : UInt8} : 0x21 ≤ b.toNat → b.toNat ≤ 0x7E → b ≠ 0x3D → b ≠ 0x3F → b ≠ 0x5F →
      WordForm b [b]

theorem bounds_of_digitValue?_ofNat : ∀ n < 256, (digitValue? (UInt8.ofNat n)).isSome →
    0x30 ≤ n ∧ n ≤ 0x66 ∧ n ≠ 0x3D ∧ n ≠ 0x3F := by
  decide +kernel

theorem bounds_of_digitValue? {b : UInt8} {n : Nat} (h : digitValue? b = some n) :
    0x30 ≤ b.toNat ∧ b.toNat ≤ 0x66 ∧ b.toNat ≠ 0x3D ∧ b.toNat ≠ 0x3F := by
  apply bounds_of_digitValue?_ofNat b.toNat b.toNat_lt
  rw [UInt8.ofNat_toNat, h]
  rfl

theorem octetOf?_digits {b x y : UInt8} (hx : digitValue? x = some (b.toNat / 16))
    (hy : digitValue? y = some (b.toNat % 16)) : octetOf? x y = some b := by
  have hb : 16 * (b.toNat / 16) + b.toNat % 16 = b.toNat := Nat.div_add_mod b.toNat 16
  simp only [octetOf?, hx, hy, hb, UInt8.ofNat_toNat]

/-- Visible ASCII characters other than the question mark. -/
theorem WordForm.bounds {b x : UInt8} {f : Octets} (h : WordForm b f) (hx : x ∈ f) :
    0x21 ≤ x.toNat ∧ x.toNat ≤ 0x7E ∧ x.toNat ≠ 0x3F := by
  cases h with
  | underscore =>
    obtain rfl := List.mem_singleton.1 hx
    decide
  | escape hh hl =>
    have h₁ := bounds_of_digitValue? hh
    have h₂ := bounds_of_digitValue? hl
    simp only [List.mem_cons, List.not_mem_nil, or_false] at hx
    rcases hx with rfl | rfl | rfl
    · decide
    · omega
    · omega
  | literal hlow hhigh _ hq _ =>
    obtain rfl := List.mem_singleton.1 hx
    refine ⟨hlow, hhigh, ?_⟩
    intro h
    exact hq (UInt8.toNat_inj.1 h)

theorem bounds_of_mem_flatten {o : Octets} {fs : List Octets} (h : List.Forall₂ WordForm o fs)
    {x : UInt8} (hx : x ∈ fs.flatten) : 0x21 ≤ x.toNat ∧ x.toNat ≤ 0x7E ∧ x.toNat ≠ 0x3F := by
  induction h with
  | nil => cases hx
  | cons hf _ ih =>
    rcases List.mem_append.1 hx with hx | hx
    · exact hf.bounds hx
    · exact ih hx

theorem decodeWord_cons {b : UInt8} (h : b ≠ 0x3D) (r : Octets) :
    decodeWord (b :: r) = literalOctet b :: decodeWord r := by
  match r with
  | [] => simp [decodeWord, h]
  | [c] => simp [decodeWord, h]
  | c :: d :: r => simp [decodeWord, h]

theorem decodeWord_escape {b x y : UInt8} (hx : digitValue? x = some (b.toNat / 16))
    (hy : digitValue? y = some (b.toNat % 16)) (r : Octets) :
    decodeWord (0x3D :: x :: y :: r) = b :: decodeWord r := by
  have hne : x ≠ 0x3D := by
    rintro rfl
    exact absurd rfl (bounds_of_digitValue? hx).2.2.1
  rw [decodeWord, if_pos rfl, if_neg hne, escaped?_eq_octetOf?, octetOf?_digits hx hy]

theorem decodeWord_form {b : UInt8} {f : Octets} (h : WordForm b f) (r : Octets) :
    decodeWord (f ++ r) = b :: decodeWord r := by
  cases h with
  | underscore => exact decodeWord_cons (by decide) r
  | escape hx hy => exact decodeWord_escape hx hy r
  | literal _ _ he _ hu =>
    have hl : literalOctet b = b := if_neg hu
    rw [List.singleton_append, decodeWord_cons he, hl]

/-- Octets written in any of their forms read back. -/
theorem decodeWord_flatten {o : Octets} {fs : List Octets} (h : List.Forall₂ WordForm o fs) :
    decodeWord fs.flatten = o := by
  induction h with
  | nil => rfl
  | cons hf _ ih => rw [List.flatten_cons, decodeWord_form hf, ih]

end Mime.QuotedPrintable
