import Mime.Charset.Units
import Mime.Base64.Digit

/-! Reading UTF-7. Text is ASCII, except that `+` opens a stretch of base64 digits whose bits
are UTF-16. A minus sign that ends such a stretch belongs to it. -/

namespace Mime.Charset.Utf7

/-- Inside a stretch: the bits at hand, how many they are, and the first half of a pair
that waits for its second. -/
structure Shift where
  bits : Nat
  count : Nat
  half : Option Nat

inductive State where
  | direct
  /-- Just after `+`. -/
  | opened
  | shifted (s : Shift)

def unit (n : Nat) : Units := [some (CodePoint.ofNat n)]

/-- Reads an octet outside of a stretch. -/
def plain (b : UInt8) : Units × State :=
  if b = 0x2B then ([], .opened)
  else if b < 0x80 then (unit b.toNat, .direct)
  else ([none], .direct)

/-- A sixteen-bit number is complete. A first half is held back; if no second half comes
after it, it stands by itself. -/
def emit (s : Shift) (n : Nat) : Units × Option Nat :=
  match s.half with
  | some h =>
    if 0xDC00 ≤ n ∧ n < 0xE000 then (unit (0x10000 + (h - 0xD800) * 0x400 + (n - 0xDC00)), none)
    else if 0xD800 ≤ n ∧ n < 0xDC00 then (unit h, some n)
    else (unit h ++ unit n, none)
  | none => if 0xD800 ≤ n ∧ n < 0xDC00 then ([], some n) else (unit n, none)

def digit (s : Shift) (v : Nat) : Units × State :=
  let bits := s.bits * 64 + v
  let count := s.count + 6
  if 16 ≤ count then
    let unread := Nat.pow 2 (count - 16)
    let (out, half) := emit s (bits / unread)
    (out, .shifted ⟨bits % unread, count - 16, half⟩)
  else ([], .shifted ⟨bits, count, s.half⟩)

/-- Reads the octet that ends a stretch. Bits left over must be fewer than a digit's and all
zero, or else the octet is lost with them. -/
def leave (s : Shift) (b : UInt8) : Units × State :=
  if 6 ≤ s.count ∨ s.bits ≠ 0 then ([none], .direct)
  else
    let held := if b < 0x80 then (s.half.map unit).getD [] else []
    if b = 0x2D then (held, .direct) else (held ++ (plain b).1, (plain b).2)

def step : State → UInt8 → Units × State
  | .direct, b => plain b
  | .opened, b =>
    if b = 0x2D then (unit 0x2B, .direct)
    else match Base64.value? b with
      | some v => digit ⟨0, 0, none⟩ v
      | none => ([none], .direct)
  | .shifted s, b =>
    match Base64.value? b with
    | some v => digit s v
    | none => leave s b

/-- The end of the input closes a stretch, if it is complete. -/
def ending : State → Units
  | .direct => []
  | .opened => []
  | .shifted s => if s.half.isSome ∨ 6 ≤ s.count ∨ s.bits ≠ 0 then [none] else []

def unitsFrom : State → Octets → Units
  | s, [] => ending s
  | s, b :: r => (step s b).1 ++ unitsFrom (step s b).2 r

def units (o : Octets) : Units := unitsFrom .direct o

end Mime.Charset.Utf7
