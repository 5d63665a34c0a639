import Mime.Text.Octets

/-! JSON values and their one-line form. Objects keep the order of their fields, strings may
hold lone surrogates, and the written form is ASCII. -/

namespace Mime

inductive Json where
  | null
  | bool (b : Bool)
  | int (n : Int)
  /-- A number that is not an integer, by what is written for it. -/
  | real (numeral : Text)
  | str (t : Text)
  | arr (items : List Json)
  | obj (fields : List (Text × Json))
  deriving Inhabited

namespace Json

/-- The escape of a UTF-16 unit. -/
def unitEscape (n : Nat) : Text := "\\u" ++ CodePoint.hexDigits 4 n

/-- A character of a string literal: printable ASCII stands for itself, and a character
beyond U+FFFF is written as the two units of its surrogate pair. -/
def literalChar (c : CodePoint) : Text :=
  if c = '"' then "\\\"" else if c = '\\' then "\\\\" else if c = '\n' then "\\n"
  else if c = '\r' then "\\r" else if c = '\t' then "\\t"
  else if c.val = 8 then "\\b" else if c.val = 12 then "\\f"
  else if 32 ≤ c.val ∧ c.val ≤ 126 then [c]
  else if c.val < 0x10000 then unitEscape c.val
  else unitEscape (0xD800 + (c.val - 0x10000) / 0x400) ++
    unitEscape (0xDC00 + (c.val - 0x10000) % 0x400)

def literal (t : Text) : Text := "\"" ++ t.flatMap literalChar ++ "\""

mutual

def render : Json → Text
  | null => "null"
  | bool true => "true"
  | bool false => "false"
  | int n => Text.ofString (toString n)
  | real numeral => numeral
  | str t => literal t
  | arr [] => "[]"
  | arr (x :: xs) => "[" ++ render x ++ renderItems xs ++ "]"
  | obj [] => "\x7b\x7d"
  | obj ((k, v) :: fs) => "\x7b" ++ literal k ++ ": " ++ render v ++ renderFields fs ++ "\x7d"

/-- The items after the first, each with the separator before it. -/
def renderItems : List Json → Text
  | [] => []
  | x :: xs => ", " ++ render x ++ renderItems xs

/-- The fields after the first, each with the separator before it. -/
def renderFields : List (Text × Json) → Text
  | [] => []
  | (k, v) :: fs => ", " ++ literal k ++ ": " ++ render v ++ renderFields fs

end

/-- The value of the last field of that name. -/
def field? (name : Text) (fields : List (Text × Json)) : Option Json :=
  (fields.reverse.find? (·.1 == name)).map (·.2)

end Json

end Mime
