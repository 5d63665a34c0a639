import Mime.Text.Octets

/-! Writing text in UTF-8. -/

namespace Mime

namespace CodePoint

/-- One to four octets; for a surrogate, the three octets that its number would have. -/
def utf8Raw (c : CodePoint) : Octets :=
  let n := c.val
  if n < 0x80 then [UInt8.ofNat n]
  else if n < 0x800 then [UInt8.ofNat (0xC0 + n / 64), UInt8.ofNat (0x80 + n % 64)]
  else if n < 0x10000 then
    [UInt8.ofNat (0xE0 + n / 4096), UInt8.ofNat (0x80 + n / 64 % 64), UInt8.ofNat (0x80 + n % 64)]
  else
    [UInt8.ofNat (0xF0 + n / 262144), UInt8.ofNat (0x80 + n / 4096 % 64),
      UInt8.ofNat (0x80 + n / 64 % 64), UInt8.ofNat (0x80 + n % 64)]

/-- A surrogate has no form in UTF-8 and is written as a question mark. -/
def utf8 (c : CodePoint) : Octets := if c.isSurrogate then [0x3F] else c.utf8Raw

end CodePoint

namespace Text

def utf8 (t : Text) : Octets := t.flatMap CodePoint.utf8

/-- The first run of surrogates, which UTF-8 has no octets for. -/
def surrogateRun? (t : Text) : Option Unencodable :=
  match t.dropWhile (fun c => !c.isSurrogate) with
  | [] => none
  | c :: r =>
    let start := (t.takeWhile (fun c => !c.isSurrogate)).length
    some ⟨c, start, start + 1 + (r.takeWhile CodePoint.isSurrogate).length⟩

end Text

end Mime
