import Mime.Text.Basic

/-! Octets carried in text. An octet below 0x80 is its ASCII character, and any other is
kept as one of the surrogates U+DC80 to U+DCFF, so that no octet is lost. -/

namespace Mime

/-- A run of characters for which an encoding has no octets. -/
structure Unencodable where
  first : CodePoint
  start : Nat
  stop : Nat

namespace CodePoint

/-- The octet that a character carries, if it carries one. -/
def carried? (c : CodePoint) : Option UInt8 :=
  if c.val < 0x80 then some (UInt8.ofNat c.val)
  else if 0xDC80 ≤ c.val ∧ c.val ≤ 0xDCFF then some (UInt8.ofNat (c.val - 0xDC00))
  else none

def ofOctet (b : UInt8) : CodePoint :=
  if b < 0x80 then ofByte b else ofNat (0xDC00 + b.toNat)

@[simp] theorem carried?_ofOctet (b : UInt8) : (ofOctet b).carried? = some b := by
  have hb := b.toNat_lt
  unfold ofOctet
  split
  · rename_i h
    have : b.toNat < 0x80 := h
    simp [carried?, this]
  · rename_i h
    have h : ¬b.toNat < 0x80 := h
    have hv : (ofNat (0xDC00 + b.toNat)).val = 0xDC00 + b.toNat := val_ofNat (by omega)
    rw [carried?, hv, if_neg (by omega), if_pos (by omega)]
    simp

def hexDigit (n : Nat) : Char := if n < 10 then Char.ofNat (48 + n) else Char.ofNat (87 + n)

/-- The last `width` hexadecimal digits of `n`. -/
def hexDigits : (width n : Nat) → Text
  | 0, _ => []
  | w + 1, n => hexDigits w (n / 16) ++ [ofChar (hexDigit (n % 16))]

/-- The character as a numbered escape with two, four or eight digits. -/
def escape (c : CodePoint) : Text :=
  if c.val < 0x100 then "\\x" ++ hexDigits 2 c.val
  else if c.val < 0x10000 then "\\u" ++ hexDigits 4 c.val
  else "\\U" ++ hexDigits 8 c.val

end CodePoint

/-- The decimal digits of a number. -/
def Text.ofNat (n : Nat) : Text := ofString (toString n)

/-- What is said of characters that the encoding `codec` cannot write. -/
def Unencodable.message (codec reason : Text) (u : Unencodable) : Text :=
  "'" ++ codec ++ "' codec can't encode " ++
    (if u.stop = u.start + 1 then
      "character '" ++ u.first.escape ++ "' in position " ++ Text.ofNat u.start
    else
      "characters in position " ++ Text.ofNat u.start ++ "-" ++ Text.ofNat (u.stop - 1)) ++
    ": " ++ reason

namespace Text

def ofOctets (o : Octets) : Text := o.map CodePoint.ofOctet

/-- The octets that a text carries. The first character that carries none opens a run that
reaches to the next ASCII character; `position` counts the characters before. -/
def octetsFrom (position : Nat) : Text → Except Unencodable Octets
  | [] => .ok []
  | c :: r =>
    match c.carried? with
    | some b => (b :: ·) <$> octetsFrom (position + 1) r
    | none =>
      .error ⟨c, position, position + 1 + (r.takeWhile (fun d => !d.isAscii)).length⟩

def octets (t : Text) : Except Unencodable Octets := octetsFrom 0 t

theorem octetsFrom_ofOctets (n : Nat) (o : Octets) : octetsFrom n (ofOctets o) = .ok o := by
  induction o generalizing n with
  | nil => rfl
  | cons b o ih =>
    show octetsFrom n (CodePoint.ofOctet b :: ofOctets o) = _
    simp only [octetsFrom, CodePoint.carried?_ofOctet, ih]
    rfl

/-- No octet is lost in a text that carries it. -/
theorem octets_ofOctets (o : Octets) : (ofOctets o).octets = .ok o := octetsFrom_ofOctets 0 o

/-- The octets of a text that is ASCII throughout. -/
def ascii? (t : Text) : Option Octets :=
  t.mapM fun c => if c.isAscii then some (UInt8.ofNat c.val) else none

/-- Whether octets are carried, or some other surrogate stands in the text. -/
def hasSurrogate (t : Text) : Bool := t.any CodePoint.isSurrogate

end Text

/-- The message for characters that ASCII cannot write. -/
def Unencodable.asciiMessage (u : Unencodable) : Text :=
  u.message "ascii" "ordinal not in range(128)"

end Mime
