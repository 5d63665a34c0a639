import Mime.Text.Blank

/-! Whole numbers as settings write them. After white space and a sign, leading zeros are
dropped, then a fraction of zeros and the underscores between digits, in this order. What is
left has to be a plain numeral: zero alone or digits that start with another one. A text
without a sign of its own may have its minus sign after leading zeros. -/

namespace Mime.Settings.Integer

inductive Fault where
  | malformed
  /-- More digits than a numeral may have. -/
  | tooLong
  deriving DecidableEq

/-- White space, without the information separators. -/
def isSpace (c : CodePoint) : Bool := c.isBlank && !(0x1C ≤ c.val && c.val ≤ 0x1F)

def isNonZeroDigit (c : CodePoint) : Bool := c.between '1' '9'

/-- Drops zeros, and underscores among them, before a number or its minus sign. Of nothing but
these the last character stays, and the one before a full stop stays as well. -/
def withoutLeadingZeros? : Text → Option Text
  | [] => none
  | c :: r =>
    let opensNumber (d : CodePoint) : Bool := isNonZeroDigit d || d == '-'
    let isFiller (d : CodePoint) : Bool := d == '0' || d == '_'
    if opensNumber c then some (c :: r)
    else if c ≠ '0' then none
    else
      let last := (c :: r.takeWhile isFiller).getLastD c
      match r.dropWhile isFiller with
      | [] => some [last]
      | d :: r' =>
        if opensNumber d then some (d :: r') else if d = '.' then some (last :: d :: r') else none

/-- Drops a fraction that has zeros and nothing else. -/
def withoutZeroFraction (t : Text) : Text :=
  match t.cut '.' with
  | (whole, some (c :: r)) => if (c :: r).all (· == '0') then whole else t
  | _ => t

/-- The digits without the underscores between them; an underscore at an end or beside
another is not between digits and stays. -/
def withoutUnderscores (t : Text) : Text :=
  let isLine (c : CodePoint) : Bool := c == '_'
  let doubled := (t.zip t.tail).any fun p => isLine p.1 && isLine p.2
  if t.head?.any isLine || t.getLast?.any isLine || doubled then t else t.filter (!isLine ·)

/-- The numeral in a text that has neither white space nor a sign before it. -/
def tidied (t : Text) : Except Fault Text :=
  match withoutLeadingZeros? t with
  | some t => .ok (withoutUnderscores (withoutZeroFraction t))
  | none => .error .malformed

/-- How many digits a numeral may have; its sign is not one of them. -/
def maxDigits : Nat := 4300

/-- The number with one more digit at its end. -/
def snoc (n : Nat) (digit : CodePoint) : Nat := n * 10 + (digit.val - 48)

def value (digits : Text) : Nat := digits.foldl snoc 0

/-- The number that a plain numeral without a sign stands for. -/
def natural : Text → Except Fault Nat
  | [] => .error .malformed
  | c :: r =>
    if c = '0' then if r = [] then .ok 0 else .error .malformed
    else if !isNonZeroDigit c then .error .malformed
    else if maxDigits ≤ (r.takeWhile CodePoint.isAsciiDigit).length then .error .tooLong
    else if r.all CodePoint.isAsciiDigit then .ok (value (c :: r)) else .error .malformed

def negative (digits : Text) : Except Fault Int := (natural digits).map fun n => -(n : Int)

def numeral (t : Text) : Except Fault Int :=
  if t.head? = some '-' then negative t.tail else (natural t).map fun n => (n : Int)

def ofText (t : Text) : Except Fault Int :=
  match Text.trimEndWhere isSpace (t.dropWhile isSpace) with
  | [] => .error .malformed
  | c :: r =>
    if c = '-' then (tidied r).bind negative
    else if c ≠ '+' then (tidied (c :: r)).bind numeral
    else if r.head? = some '-' then .error .malformed
    else (tidied r).bind numeral

end Mime.Settings.Integer
