import Mime.QuotedPrintable.Escape

/-! The digits of escapes by their order in the alphabet: `hexOctet?_eq_digitValue?`. -/

namespace Mime.QuotedPrintable

/-- The hexadecimal digits in the order of their values. -/
def hexAlphabet : List Char := "0123456789abcdef".toList

/-- The place of an octet in the alphabet, in either case. -/
def digitValue? (b : UInt8) : Option Nat := hexAlphabet.idxOf? (Char.ofNat b.toNat).toLower

theorem hexOctet?_ofNat : ∀ n < 256, hexOctet? (UInt8.ofNat n) = digitValue? (UInt8.ofNat n) := by
  decide +kernel

theorem hexOctet?_eq_digitValue? (b : UInt8) : hexOctet? b = digitValue? b := by
  have h := hexOctet?_ofNat b.toNat b.toNat_lt
  rwa [UInt8.ofNat_toNat] at h

/-- The octet with the digits `b` and `c`, the high one first. -/
def octetOf? (b c : UInt8) : Option UInt8 :=
  match digitValue? b, digitValue? c with
  | some high, some low => some (UInt8.ofNat (16 * high + low))
  | _, _ => none

theorem escaped?_eq_octetOf? (b c : UInt8) : escaped? b c = octetOf? b c := by
  unfold escaped? octetOf?
  rw [hexOctet?_eq_digitValue?, hexOctet?_eq_digitValue?]
  cases digitValue? b with
  | none => rfl
  | some high =>
    cases digitValue? c with
    | none => rfl
    | some low =>
      show some (UInt8.ofNat (high * 16 + low)) = some (UInt8.ofNat (16 * high + low))
      rw [Nat.mul_comm high 16]

end Mime.QuotedPrintable
