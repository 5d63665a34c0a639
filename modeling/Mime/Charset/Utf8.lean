import Mime.Charset.Units

/-! Reading UTF-8. The reader is an automaton that takes one octet at a time; an octet that
cannot go on with the character at hand ends it as one undecodable stretch and is then read
as the first of another. -/

namespace Mime.Charset.Utf8

/-- A character begun but not complete: the bits so far, the number of octets to come, and
the bounds of the next. -/
structure Partial where
  bits : Nat
  more : Nat
  low : Nat
  high : Nat

/-- Reads the first octet of a character: a unit that it settles, or what it begins. -/
def first (b : UInt8) : Units × Option Partial :=
  let n := b.toNat
  if n < 0x80 then ([some (CodePoint.ofNat n)], none)
  else if n < 0xC2 then ([none], none)
  else if n < 0xE0 then ([], some ⟨n - 0xC0, 1, 0x80, 0xBF⟩)
  else if n = 0xE0 then ([], some ⟨0, 2, 0xA0, 0xBF⟩)
  else if n = 0xED then ([], some ⟨0xD, 2, 0x80, 0x9F⟩)
  else if n < 0xF0 then ([], some ⟨n - 0xE0, 2, 0x80, 0xBF⟩)
  else if n = 0xF0 then ([], some ⟨0, 3, 0x90, 0xBF⟩)
  else if n < 0xF4 then ([], some ⟨n - 0xF0, 3, 0x80, 0xBF⟩)
  else if n = 0xF4 then ([], some ⟨4, 3, 0x80, 0x8F⟩)
  else ([none], none)

def next (p : Partial) (b : UInt8) : Units × Option Partial :=
  let n := b.toNat
  if p.low ≤ n ∧ n ≤ p.high then
    let bits := p.bits * 64 + n % 64
    if p.more = 1 then ([some (CodePoint.ofNat bits)], none)
    else ([], some ⟨bits, p.more - 1, 0x80, 0xBF⟩)
  else (none :: (first b).1, (first b).2)

def unitsFrom : Option Partial → Octets → Units
  | none, [] => []
  | some _, [] => [none]
  | none, b :: r => (first b).1 ++ unitsFrom (first b).2 r
  | some p, b :: r => (next p b).1 ++ unitsFrom (next p b).2 r

def units (o : Octets) : Units := unitsFrom none o

def byteOrderMark : Octets := [0xEF, 0xBB, 0xBF]

/-- The octets without one leading byte order mark. -/
def withoutMark (o : Octets) : Octets :=
  if byteOrderMark.isPrefixOf o then o.drop 3 else o

end Mime.Charset.Utf8
