import Mime.Header.EncodedWord
import Mime.Base64.Decode
import Mime.QuotedPrintable.Word
import Mime.Charset.Decode
import Mime.Event

/-! Reading header values: unfolding, and decoding of encoded words. A word that cannot be
decoded stays as it is; only a charset label that cannot be looked up at all is an error. -/

namespace Mime

namespace EncodedWord

/-- Why a word stays as it is. -/
inductive Unreadable where
  | unsupportedCharset
  | undecodable

/-- The charset without the language that may follow it. -/
def label (w : EncodedWord) : Text := (w.charset.cut '*').1

def isBase64 (w : EncodedWord) : Bool := w.letter == 'b' || w.letter == 'B'

/-- Text in base64 may lack its padding. -/
def padded (o : Octets) : Octets := o ++ List.replicate ((4 - o.length % 4) % 4) Base64.pad

/-- The octets that the text of a word stands for. -/
def octets? (w : EncodedWord) : Option Octets :=
  w.text.ascii?.bind fun o =>
    if w.isBase64 then (Base64.decode .lenient (padded o)).toOption
    else some (QuotedPrintable.decodeWord o)

def read [Charset.Registry] (w : EncodedWord) : Except Charset.LabelFault (Except Unreadable Text) :=
  match Charset.Label.lookup w.label with
  | .error f => .error f
  | .ok none => .ok (.error .unsupportedCharset)
  | .ok (some codec) =>
    match w.octets? with
    | none => .ok (.error .undecodable)
    | some [] => .ok (.ok [])
    | some o => match Charset.Codec.decode .replacing (some codec) o with
      | .ok t => .ok (.ok t)
      | .error _ => .ok (.error .undecodable)

def notice (w : EncodedWord) : Unreadable → Event
  | .unsupportedCharset =>
    ⟨.debug, "encoded_word_unsupported_charset", [("charset", .str w.label)]⟩
  | .undecodable =>
    ⟨.debug, "encoded_word_undecodable", [("charset", .str w.label), ("encoding", .str [w.letter])]⟩

end EncodedWord

namespace Header

def isLineBreak (c : CodePoint) : Bool := c == '\r' || c == '\n'

/-- A value on one line: line breaks go, the blanks after them stay. -/
def unfold (t : Text) : Text := t.filter (!isLineBreak ·)

def isLinearBlank (c : CodePoint) : Bool := c == ' ' || c == '\t' || c == '\r' || c == '\n'

variable [Charset.Registry]

/-- Puts gaps and decoded words together. A gap of nothing but linear blanks is dropped
between two decoded words; `afterWord` says that one stands right before. -/
def join (afterWord : Bool) :
    List (Text × EncodedWord) → Text → Traced Charset.LabelFault Text
  | [], last => pure last
  | (gap, w) :: more, last => do
    match ← .ofExcept w.read with
    | .ok t =>
      let rest ← join true more last
      return (if afterWord && gap.all isLinearBlank then [] else gap) ++ t ++ rest
    | .error why =>
      .report (w.notice why)
      let rest ← join false more last
      return gap ++ w.verbatim ++ rest

def decode (t : Text) : Traced Charset.LabelFault Text :=
  join false (EncodedWord.split t).1 (EncodedWord.split t).2

def unfoldAndDecode (t : Text) : Traced Charset.LabelFault Text := decode (unfold t)

end Header

end Mime
