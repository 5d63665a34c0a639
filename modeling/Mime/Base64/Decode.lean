import Mime.Base64.Digit
import Mime.Text.Octets

/-! Reading base64. A strict reader accepts digits and correct padding only; a lenient one
passes over everything else. Both stop at the padding that completes a group and ignore
the bits that a last group leaves over. -/

namespace Mime.Base64

inductive Fault where
  | leadingPadding
  | excessData
  | foreignOctet
  | interruptedPadding
  | incomplete
  /-- One digit stands alone at the end; `digits` counts all that were read. -/
  | loneDigit (digits : Nat)
  deriving DecidableEq

def Fault.message : Fault → Text
  | leadingPadding => "Leading padding not allowed"
  | excessData => "Excess data after padding"
  | foreignOctet => "Only base64 data is allowed"
  | interruptedPadding => "Discontinuous padding not allowed"
  | incomplete => "Incorrect padding"
  | loneDigit n => "Invalid base64-encoded string: number of data characters (" ++ Text.ofNat n ++
      ") cannot be 1 more than a multiple of 4"

inductive Manner where
  | strict
  | lenient
  deriving DecidableEq

/-- What was read so far: the number of digits, their bits that no octet has taken yet, the
padding that counts towards the group at hand, and whether there was padding at all. -/
structure Progress where
  digits : Nat
  bits : Nat
  pads : Nat
  padded : Bool

def Progress.start : Progress := ⟨0, 0, 0, false⟩

/-- The octet that a further digit of value `v` completes, if it completes one, and the
progress after it. -/
def Progress.push (p : Progress) (v : Nat) : Option UInt8 × Progress :=
  match p.digits % 4 with
  | 0 => (none, ⟨p.digits + 1, v, 0, p.padded⟩)
  | 1 => (some (UInt8.ofNat (p.bits * 4 + v / 16)), ⟨p.digits + 1, v % 16, 0, p.padded⟩)
  | 2 => (some (UInt8.ofNat (p.bits * 16 + v / 4)), ⟨p.digits + 1, v % 4, 0, p.padded⟩)
  | _ => (some (UInt8.ofNat (p.bits * 64 + v)), ⟨p.digits + 1, 0, 0, p.padded⟩)

def decodeFrom (m : Manner) : Progress → Octets → Except Fault Octets
  | p, [] =>
    if p.digits % 4 = 0 then .ok []
    else if p.digits % 4 = 1 then .error (.loneDigit p.digits)
    else .error .incomplete
  | p, b :: r =>
    if b = pad then
      if 2 ≤ p.digits % 4 then
        if 4 ≤ p.digits % 4 + (p.pads + 1) then
          if m = .strict ∧ r ≠ [] then .error .excessData else .ok []
        else decodeFrom m ⟨p.digits, p.bits, p.pads + 1, true⟩ r
      else decodeFrom m ⟨p.digits, p.bits, p.pads, true⟩ r
    else match value? b with
      | none => if m = .strict then .error .foreignOctet else decodeFrom m p r
      | some v =>
        if m = .strict ∧ p.padded then .error .interruptedPadding
        else (((p.push v).1.toList ++ ·)) <$> decodeFrom m (p.push v).2 r

def decode (m : Manner) (o : Octets) : Except Fault Octets :=
  if m = .strict ∧ o.head? = some pad then .error .leadingPadding
  else decodeFrom m .start o

end Mime.Base64
