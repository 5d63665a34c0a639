import Mime.Header.Fields
import Mime.Charset.Decode
import Mime.Text.Blank

/-! Parameters of a message's content type, with their extended forms: a value may come in
numbered segments `name*0`, `name*1`, percent-encoded where the name ends in an asterisk,
and then begins with its charset and language. -/

namespace Mime.Message

/-- The value of a parameter. An extended one may tell its charset and language. -/
inductive Value where
  | plain (t : Text)
  | extended (origin : Option (Text × Text)) (t : Text)

/-- Why the segments of a value cannot be put in order. -/
inductive SegmentFault where
  /-- Numbered segments and one without a number; `numbered` tells of the one that came
  after segments of the other sort. -/
  | mixed (numbered : Bool)
  | tooManyDigits (digits : Nat)

def SegmentFault.message : SegmentFault → Text
  | mixed true => "'<' not supported between instances of 'int' and 'NoneType'"
  | mixed false => "'<' not supported between instances of 'NoneType' and 'int'"
  | tooManyDigits n =>
    "Exceeds the limit (4300 digits) for integer string conversion: value has " ++ Text.ofNat n ++
      " digits; use sys.set_int_max_str_digits() to increase the limit"

namespace Value

/-- Drops enclosing quotes, and the backslashes before quotes and backslashes, or else
enclosing angle brackets. -/
def unquote (t : Text) : Text :=
  if t.enclosedBy '"' '"' then
    Text.replacePair '\\' '"' "\"" (Text.replacePair '\\' '\\' "\\" t.inner)
  else if t.enclosedBy '<' '>' then t.inner
  else t

def quotedChar (c : CodePoint) : Text := if c = '\\' ∨ c = '"' then ['\\', c] else [c]

def quote (t : Text) : Text := "\"" ++ t.flatMap quotedChar ++ "\""

/-- `%` with two hexadecimal digits is the character of that number. -/
def percentDecode : Text → Text
  | [] => []
  | [c] => [c]
  | [c, d] => [c, d]
  | c :: d :: e :: r =>
    match d.hexValue?, e.hexValue? with
    | some h, some l =>
      if c = '%' then CodePoint.ofNat (h * 16 + l) :: percentDecode r
      else c :: percentDecode (d :: e :: r)
    | _, _ => c :: percentDecode (d :: e :: r)

/-- The quoted text of an extended value, cut at the first two apostrophes if it has two. -/
def ofExtended (quoted : Text) : Value :=
  let body := quoted.inner
  match body.cut '\'' with
  | (charset, some r) => match r.cut '\'' with
    | (language, some t) => .extended (some (charset, language)) ("\"" ++ t ++ "\"")
    | (_, none) => .extended none quoted
  | (_, none) => .extended none quoted

def unquoted : Value → Value
  | plain t => plain (unquote t)
  | extended origin t => extended origin (unquote t)

/-- The octets of a text: a character below 256 is an octet, any other its escape. -/
def rawOctets (t : Text) : Octets :=
  t.flatMap fun c =>
    if c.val < 0x100 then [UInt8.ofNat c.val] else c.escape.map fun d => UInt8.ofNat d.val

/-- The text that a value stands for, decoded with its charset if that is known. -/
def collapse [Charset.Registry] : Value → Except Charset.Refusal Text
  | plain t => .ok (unquote t)
  | extended origin t =>
    match Charset.decode .replacing ((origin.map (·.1)).getD "us-ascii") (rawOctets t) with
    | .ok r => .ok r
    | .error (.refused r) => .error r
    | .error _ => .ok (unquote t)

end Value

/-- Whether a stretch of a header value ends inside quotes: the quotes without a backslash
before them are odd in number. -/
def endsInQuotes (t : Text) : Bool :=
  let isQuote (c : CodePoint) : Bool := c == '"'
  let isEscape (p : CodePoint × CodePoint) : Bool := p.1 == '\\' && isQuote p.2
  (t.countP isQuote + (t.zip t.tail).countP isEscape) % 2 = 1

/-- Joins pieces between semicolons as long as a piece ends inside quotes. -/
def joinQuoted : Text → List Text → List Text
  | piece, [] => [piece]
  | piece, p :: ps =>
    if endsInQuotes piece then joinQuoted (piece ++ ";" ++ p) ps else piece :: joinQuoted p ps

/-- Name and value; without `=` the value is empty and the name keeps its case. -/
def nameAndValue (piece : Text) : Text × Text :=
  match piece.cut '=' with
  | (name, some value) => (name.trim.lower.trim, value.trim)
  | (_, none) => (piece.trim, [])

def isWordChar (c : CodePoint) : Bool := c.isAsciiAlphanumeric || c = '_'

/-- A segment of a value: its number, if it has one, its text, and whether that is encoded. -/
structure Segment where
  number : Option Nat
  text : Text
  encoded : Bool

/-- What the name of a parameter says: the name of the whole, and the digits of a segment's
number; none if the name is no segment's. -/
def segmentName? (name : Text) : Option (Text × Text) :=
  let whole := name.takeWhile isWordChar
  if whole = [] then none
  else match name.dropWhile isWordChar with
    | [] => none
    | c :: r =>
      if c ≠ '*' then none
      else if r = [] then some (whole, [])
      else
        let digits := r.takeWhile CodePoint.isAsciiDigit
        let after := r.dropWhile CodePoint.isAsciiDigit
        if digits ≠ [] ∧ (after = [] ∨ after = "*") then some (whole, digits) else none

/-- Numbers with more digits are not read. -/
def digitLimit : Nat := 4300

def number? (digits : Text) : Except SegmentFault (Option Nat) :=
  if digits = [] then .ok none
  else if digitLimit < digits.length then .error (.tooManyDigits digits.length)
  else .ok (some (digits.foldl (fun n c => n * 10 + (c.val - 48)) 0))

/-- The parameters so far: those of one piece, and the segments of the others by name. -/
structure Gathered where
  whole : List (Text × Value)
  segments : List (Text × List Segment)

def Gathered.addSegment (g : Gathered) (name : Text) (s : Segment) : Gathered :=
  if g.segments.any (·.1 == name) then
    { g with segments := g.segments.map fun e => if e.1 == name then (e.1, e.2 ++ [s]) else e }
  else { g with segments := g.segments ++ [(name, [s])] }

def gather (g : Gathered) : List (Text × Text) → Except SegmentFault Gathered
  | [] => .ok g
  | (name, value) :: r =>
    let value := Value.unquote value
    match segmentName? name with
    | none => gather { g with whole := g.whole ++ [(name, .plain (Value.quote value))] } r
    | some (whole, digits) =>
      match number? digits with
      | .error f => .error f
      | .ok n => gather (g.addSegment whole ⟨n, value, name.getLast? = some '*'⟩) r

def textLe : Text → Text → Bool
  | [], _ => true
  | _ :: _, [] => false
  | c :: r, d :: s => c.val < d.val || (c.val = d.val && textLe r s)

def Segment.textLe (a b : Segment) : Bool :=
  if a.text = b.text then !a.encoded || b.encoded else Message.textLe a.text b.text

/-- By number, then by text, then those that are not encoded first. -/
def Segment.le (a b : Segment) : Bool :=
  match a.number, b.number with
  | some m, some n => m < n || (m = n && a.textLe b)
  | _, _ => a.textLe b

/-- The first segment that is numbered while the first of all is not, or the reverse. -/
def mixedFault? : List Segment → Option SegmentFault
  | [] => none
  | s :: ss =>
    (ss.find? fun t => t.number.isSome != s.number.isSome).map fun t => .mixed t.number.isSome

/-- The value that segments make up in the order of their numbers. -/
def assemble (segments : List Segment) : Except SegmentFault Value :=
  match mixedFault? segments with
  | some f => .error f
  | none =>
    let sorted := segments.mergeSort Segment.le
    let quoted := Value.quote
      (sorted.flatMap fun s => if s.encoded then Value.percentDecode s.text else s.text)
    .ok (if sorted.any (·.encoded) then .ofExtended quoted else .plain quoted)

/-- The parameters of a header value, the first of which is its token; those in segments
come last. -/
def parameters (value : Text) : Except SegmentFault (List (Text × Value)) := do
  let (first, more) := Text.pieces ';' value
  match (joinQuoted first more).map nameAndValue with
  | [] => return []
  | (token, rest) :: others =>
    let g ← gather ⟨[(token, .plain rest)], []⟩ others
    let assembled ← g.segments.mapM fun e => do return (e.1, ← assemble e.2)
    return g.whole ++ assembled

/-- The first parameter of that name. -/
def findParameter? (name : Text) (value : Text) : Except SegmentFault (Option Value) := do
  let ps ← parameters value
  return (ps.find? (·.1.lower == name)).map (·.2.unquoted)

end Mime.Message
