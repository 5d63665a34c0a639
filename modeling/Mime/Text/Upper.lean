import Mime.Text.CaseTable
import Mime.Text.Basic

/-! Full upper-casing of text. A character has the same capital form wherever it stands; the
form of a ligature or of a letter with marks may have several code points. -/

namespace Mime

namespace CodePoint

def upper (c : CodePoint) : Text :=
  if c.isAscii && !c.between 'a' 'z' then [c]
  else match Case.expansions.find? (·.1 == c.val) with
    | some e => e.2.map ofNat
    | none => match Case.smalls.find? (·.contains c.val) with
      | some r => [ofNat (c.val + r.shift).toNat]
      | none => [c]

end CodePoint

def Text.upper (t : Text) : Text := t.flatMap CodePoint.upper

end Mime
