import Mime.Charset.Units

/-! Reading UTF-16 and UTF-32. Without a fixed byte order a leading mark decides it and is
dropped, and without a mark the order is little-endian. -/

namespace Mime.Charset

inductive ByteOrder where
  | little
  | big
  deriving DecidableEq

/-- The number that octets stand for. -/
def ByteOrder.number (e : ByteOrder) (o : Octets) : Nat :=
  let bigEndian : Octets := match e with
    | .little => o.reverse
    | .big => o
  bigEndian.foldl (fun n b => n * 256 + b.toNat) 0

namespace Utf16

/-- The sixteen-bit numbers in the octets, and whether a last octet is left over. -/
def numbers (e : ByteOrder) : Octets → List Nat × Bool
  | [] => ([], false)
  | [_] => ([], true)
  | a :: b :: r =>
    let (ns, odd) := numbers e r
    (e.number [a, b] :: ns, odd)

def isHigh (n : Nat) : Bool := 0xD800 ≤ n && n < 0xDC00

def isLow (n : Nat) : Bool := 0xDC00 ≤ n && n < 0xE000

/-- A first half of a pair without a second is undecodable, and so is a second half by
itself. At the end, a first half and an octet left over are one stretch. -/
def assemble (odd : Bool) : List Nat → Units
  | [] => if odd then [none] else []
  | [n] =>
    if isHigh n then [none]
    else (if isLow n then none else some (CodePoint.ofNat n)) :: assemble odd []
  | n :: m :: r =>
    if isHigh n then
      if isLow m then
        some (CodePoint.ofNat (0x10000 + (n - 0xD800) * 0x400 + (m - 0xDC00))) :: assemble odd r
      else none :: assemble odd (m :: r)
    else (if isLow n then none else some (CodePoint.ofNat n)) :: assemble odd (m :: r)

def unitsIn (e : ByteOrder) (o : Octets) : Units :=
  assemble (numbers e o).2 (numbers e o).1

def units : Option ByteOrder → Octets → Units
  | some e, o => unitsIn e o
  | none, 0xFF :: 0xFE :: r => unitsIn .little r
  | none, 0xFE :: 0xFF :: r => unitsIn .big r
  | none, o => unitsIn .little o

end Utf16

namespace Utf32

def character (n : Nat) : Option CodePoint :=
  if n < 0xD800 ∨ (0xE000 ≤ n ∧ n < 0x110000) then some (CodePoint.ofNat n) else none

def unitsIn (e : ByteOrder) : Octets → Units
  | [] => []
  | a :: b :: c :: d :: r => character (e.number [a, b, c, d]) :: unitsIn e r
  | _ => [none]

def units : Option ByteOrder → Octets → Units
  | some e, o => unitsIn e o
  | none, 0xFF :: 0xFE :: 0 :: 0 :: r => unitsIn .little r
  | none, 0 :: 0 :: 0xFE :: 0xFF :: r => unitsIn .big r
  | none, o => unitsIn .little o

end Utf32

end Mime.Charset
