import Mime.Text.Basic

/-! The escapes of quoted-printable: two hexadecimal digits, of either case, for an octet. -/

namespace Mime.QuotedPrintable

/-- The value of an octet that is a hexadecimal digit. -/
def hexOctet? (b : UInt8) : Option Nat := (CodePoint.ofByte b).hexValue?

/-- The octet that two hexadecimal digits stand for. -/
def escaped? (b c : UInt8) : Option UInt8 := do
  let high ← hexOctet? b
  let low ← hexOctet? c
  return UInt8.ofNat (high * 16 + low)

end Mime.QuotedPrintable
