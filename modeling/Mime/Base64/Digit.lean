/-! The standard base64 alphabet: sixty-four digits, each an ASCII octet. -/

namespace Mime.Base64

/-- The octet of the digit with value `n`, for `n < 64`. -/
def digit (n : Nat) : UInt8 :=
  if n < 26 then UInt8.ofNat (65 + n)
  else if n < 52 then UInt8.ofNat (71 + n)
  else if n < 62 then UInt8.ofNat (n - 4)
  else if n = 62 then 0x2B else 0x2F

def value? (b : UInt8) : Option Nat :=
  let n := b.toNat
  if 65 ≤ n ∧ n ≤ 90 then some (n - 65)
  else if 97 ≤ n ∧ n ≤ 122 then some (n - 71)
  else if 48 ≤ n ∧ n ≤ 57 then some (n + 4)
  else if n = 0x2B then some 62
  else if n = 0x2F then some 63
  else none

/-- The padding octet, an equals sign. -/
def pad : UInt8 := 0x3D

theorem value?_digit : ∀ n < 64, value? (digit n) = some n := by decide

theorem value?_pad : value? pad = none := by decide

theorem digit_ne_pad {n : Nat} (h : n < 64) : digit n ≠ pad := by
  intro e
  have := value?_digit n h
  rw [e, value?_pad] at this
  cases this

end Mime.Base64
