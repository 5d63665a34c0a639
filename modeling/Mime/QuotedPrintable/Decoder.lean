import Mime.QuotedPrintable.Escape

/-! A quoted-printable decoder that is fed in pieces of any size. `=` with a line break is a
soft break and leaves nothing, `=` with two hexadecimal digits is an octet, and any other
`=` stands for itself, decoding going on with what followed it. -/

namespace Mime.QuotedPrintable

inductive State where
  | normal
  | sawEquals
  /-- After `=` and an octet that may go on as an escape: a digit, or a carriage return. -/
  | sawFirst (first : UInt8)
  deriving DecidableEq

structure Decoder where
  state : State
  output : Array UInt8
  malformed : Nat

namespace Decoder

def fresh : Decoder := ⟨.normal, #[], 0⟩

/-- Reads an octet outside of any escape. -/
def plain (d : Decoder) (b : UInt8) : Decoder :=
  if b = 0x3D then { d with state := .sawEquals }
  else { d with state := .normal, output := d.output.push b }

/-- Gives up an escape: `=` is taken literally and the octets after it are read anew. -/
def giveUp (d : Decoder) (after : Octets) : Decoder :=
  after.foldl plain ⟨.normal, d.output.push 0x3D, d.malformed + 1⟩

def step (d : Decoder) (b : UInt8) : Decoder :=
  match d.state with
  | .normal => d.plain b
  | .sawEquals =>
    if b = 0x0D ∨ (hexOctet? b).isSome then { d with state := .sawFirst b }
    else if b = 0x0A then { d with state := .normal }
    else d.giveUp [b]
  | .sawFirst first =>
    if first = 0x0D ∧ b = 0x0A then { d with state := .normal }
    else match escaped? first b with
      | some o => { d with state := .normal, output := d.output.push o }
      | none => d.giveUp [first, b]

def feed (d : Decoder) (data : Octets) : Decoder := data.foldl step d

/-- It does not matter where the input is cut. -/
theorem feed_append (d : Decoder) (a b : Octets) : d.feed (a ++ b) = (d.feed a).feed b :=
  List.foldl_append

/-- An escape that the end of the input cuts off is malformed too. -/
def finish (d : Decoder) : Decoder :=
  match d.state with
  | .normal => d
  | .sawEquals => d.giveUp []
  | .sawFirst first => d.giveUp [first]

end Decoder

def decodeAll (data : Octets) : Decoder := (Decoder.fresh.feed data).finish

/-- The octets of a complete quoted-printable body. -/
def decode (data : Octets) : Octets := (decodeAll data).output.toList

end Mime.QuotedPrintable
