import Mime.Text.CaseTable
import Mime.Text.Basic

/-! Full lower-casing of text. Every character has small letters of its own, with one
exception: a capital sigma at the end of a word becomes a final sigma. -/

namespace Mime

namespace CodePoint

def isCased (c : CodePoint) : Bool :=
  if c.isAscii then c.between 'A' 'Z' || c.between 'a' 'z' else c.inRanges Case.cased

def isCaseIgnorable (c : CodePoint) : Bool := c.inRanges Case.ignorable

/-- The small form of a character outside of any context. Capital I with a dot above keeps
its dot as a combining mark. -/
def lower (c : CodePoint) : Text :=
  if c.val = 0x130 then [ofChar 'i', ofNat 0x307]
  else if c.isAscii && !c.between 'A' 'Z' then [c]
  else match Case.capitals.find? (·.contains c.val) with
    | some r => [ofNat (c.val + r.shift).toNat]
    | none => [c]

theorem lower_ofNat : ∀ n < 0x80, (ofNat n).lower = [ofChar (Char.ofNat n).toLower] := by decide

/-- On ASCII this is the case mapping of single characters. -/
theorem lower_ofChar {c : Char} (h : c.toNat < 0x80) : (ofChar c).lower = [ofChar c.toLower] := by
  have hc := lower_ofNat c.toNat h
  rwa [Char.ofNat_toNat, ← val_ofChar, ofNat_val] at hc

end CodePoint

namespace Text

/-- Whether the first character that is not passed over has case. -/
def casedNext (t : Text) : Bool :=
  match t.dropWhile CodePoint.isCaseIgnorable with
  | [] => false
  | c :: _ => c.isCased

/-- Lower-casing of a text that follows `before`, which is given in reverse. -/
def lowerAfter (before : Text) : Text → Text
  | [] => []
  | c :: r =>
    (if c.val = 0x3A3 ∧ casedNext before ∧ ¬casedNext r then [CodePoint.ofNat 0x3C2]
      else c.lower) ++ lowerAfter (c :: before) r

def lower (t : Text) : Text := lowerAfter [] t

end Text

end Mime
