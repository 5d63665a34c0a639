import Mime.QuotedPrintable.Escape

/-! The Q encoding of encoded words: quoted-printable in which an underscore stands for a
space. Soft breaks do not occur, as the text of a word holds no line break. -/

namespace Mime.QuotedPrintable

/-- An octet that begins no escape. -/
def literalOctet (b : UInt8) : UInt8 := if b = 0x5F then 0x20 else b

/-- `==` is one equals sign, one at the end of the text is dropped, and any other `=`
without two digits after it stands for itself. -/
def decodeWord : Octets → Octets
  | [] => []
  | [b] => if b = 0x3D then [] else [literalOctet b]
  | [b, c] =>
    if b = 0x3D ∧ c = 0x3D then [0x3D] else literalOctet b :: decodeWord [c]
  | b :: c :: d :: r =>
    if b = 0x3D then
      if c = 0x3D then 0x3D :: decodeWord (d :: r)
      else match escaped? c d with
        | some o => o :: decodeWord r
        | none => 0x3D :: decodeWord (c :: d :: r)
    else literalOctet b :: decodeWord (c :: d :: r)

end Mime.QuotedPrintable
