import Mime.Text.Basic

/-! Blank characters, those that trimming removes: the white space of the Unicode standard
and the four information separators. -/

namespace Mime

def CodePoint.isBlank (c : CodePoint) : Bool :=
  (0x09 ≤ c.val && c.val ≤ 0x0D) || (0x1C ≤ c.val && c.val ≤ 0x20) || c.val == 0x85
    || c.val == 0xA0 || c.val == 0x1680 || (0x2000 ≤ c.val && c.val ≤ 0x200A)
    || c.val == 0x2028 || c.val == 0x2029 || c.val == 0x202F || c.val == 0x205F
    || c.val == 0x3000

namespace Text

def trimStart (t : Text) : Text := t.dropWhile CodePoint.isBlank

def trimEnd (t : Text) : Text := (t.reverse.dropWhile CodePoint.isBlank).reverse

/-- The text without the blanks around it. -/
def trim (t : Text) : Text := t.trimStart.trimEnd

/-- The text without the characters of `p` at its end. -/
def trimEndWhere (p : CodePoint → Bool) (t : Text) : Text := (t.reverse.dropWhile p).reverse

end Text

end Mime
