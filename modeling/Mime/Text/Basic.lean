/-! Text is a list of code points. A header value read from the wire may hold any of
them, U+0000 and lone surrogates included, so `Char` would be too small. -/

namespace Mime

/-- A code point of the Unicode code space, surrogates included. -/
@[ext] structure CodePoint where
  val : Nat
  lt : val < 0x110000
  deriving DecidableEq

abbrev Text := List CodePoint

abbrev Octets := List UInt8

namespace CodePoint

def ofChar (c : Char) : CodePoint :=
  ⟨c.toNat, by
    have h := c.valid
    simp only [UInt32.isValidChar, Nat.isValidChar, Char.toNat] at *
    omega⟩

instance : Coe Char CodePoint := ⟨ofChar⟩

/-- U+FFFD, which stands for what could not be decoded. -/
def replacement : CodePoint := ⟨0xFFFD, by decide⟩

instance : Inhabited CodePoint := ⟨replacement⟩

/-- Numbers outside the code space become the replacement character. -/
def ofNat (n : Nat) : CodePoint := if h : n < 0x110000 then ⟨n, h⟩ else replacement

def ofByte (b : UInt8) : CodePoint := ⟨b.toNat, Nat.lt_of_lt_of_le b.toNat_lt (by decide)⟩

def isAscii (c : CodePoint) : Bool := c.val < 0x80

def isSurrogate (c : CodePoint) : Bool := 0xD800 ≤ c.val && c.val ≤ 0xDFFF

def between (c : CodePoint) (first last : Char) : Bool :=
  first.toNat ≤ c.val && c.val ≤ last.toNat

def inRanges (rs : List (Nat × Nat)) (c : CodePoint) : Bool :=
  rs.any fun r => r.1 ≤ c.val && c.val ≤ r.2

def isAsciiDigit (c : CodePoint) : Bool := c.between '0' '9'

def isAsciiAlphanumeric (c : CodePoint) : Bool :=
  c.isAsciiDigit || c.between 'A' 'Z' || c.between 'a' 'z'

/-- The value of a hexadecimal digit, in either case. -/
def hexValue? (c : CodePoint) : Option Nat :=
  if c.between '0' '9' then some (c.val - 48)
  else if c.between 'A' 'F' then some (c.val - 55)
  else if c.between 'a' 'f' then some (c.val - 87)
  else none

@[simp] theorem val_ofChar (c : Char) : (ofChar c).val = c.toNat := rfl

@[simp] theorem val_ofByte (b : UInt8) : (ofByte b).val = b.toNat := rfl

@[simp] theorem ofChar_inj {a b : Char} : ofChar a = ofChar b ↔ a = b :=
  ⟨fun h => Char.ext (UInt32.toNat_inj.1 (congrArg val h)), fun h => h ▸ rfl⟩

theorem val_ofNat {n : Nat} (h : n < 0x110000) : (ofNat n).val = n := by
  simp [ofNat, h]

theorem ofNat_val (c : CodePoint) : ofNat c.val = c := by
  simp [ofNat, c.lt]

end CodePoint

namespace Text

def ofString (s : String) : Text := s.toList.map CodePoint.ofChar

instance : Coe String Text := ⟨ofString⟩

/-- What stands before the first `c`, and what follows it, if there is a `c`. -/
def cut (c : CodePoint) (t : Text) : Text × Option Text :=
  (t.takeWhile (· != c), (t.dropWhile (· != c)).tail?)

/-- The pieces between the occurrences of `c`: one more than there are occurrences. -/
def pieces (c : CodePoint) : Text → Text × List Text
  | [] => ([], [])
  | d :: r =>
    let (p, ps) := pieces c r
    if d = c then ([], p :: ps) else (d :: p, ps)

/-- Every `old` pair of adjacent characters, from the left, gives way to `new`. -/
def replacePair (a b : CodePoint) (new : Text) : Text → Text
  | [] => []
  | [c] => [c]
  | c :: d :: r =>
    if c = a ∧ d = b then new ++ replacePair a b new r else c :: replacePair a b new (d :: r)

def startsWith (t start : Text) : Bool := start.isPrefixOf t

/-- Whether `t` has at least two characters, the first `a` and the last `b`. -/
def enclosedBy (a b : CodePoint) (t : Text) : Bool :=
  2 ≤ t.length && t.head? == some a && t.getLast? == some b

/-- All but the first and the last character. -/
def inner (t : Text) : Text := t.tail.dropLast

end Text

end Mime
