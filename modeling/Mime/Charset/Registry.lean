import Mime.Text.Octets

/-! Codecs of the runtime besides those that are written out here. It is not known what they make
of octets, only under which labels there is one, in what ways it can fail, and what none does. -/

namespace Mime.Charset

inductive Manner where
  | strict
  | replacing
  deriving DecidableEq

/-- Why a codec makes no text of octets. -/
inductive CodecFault where
  /-- It is a transformation of octets. -/
  | noText
  /-- Some stretch of the octets means nothing. -/
  | malformed
  /-- The codec objects to something else, and says to what. -/
  | objection (message : Text)

class Registry where
  knows (label : Text) : Bool
  decode (m : Manner) (label : Text) (o : Octets) : Except CodecFault Text
  /-- In the replacing manner, a stretch that means nothing is no fault. -/
  replaces (label : Text) (o : Octets) : decode .replacing label o ≠ .error .malformed
  /-- The surrogates that carry octets beyond ASCII are never what a codec reads them as. -/
  ascii_of_carried {label : Text} {o : Octets}
    (h : decode .replacing label o = .ok (Text.ofOctets o)) : ∀ b ∈ o, b < 0x80

/-- No codecs besides those that are written out. -/
@[reducible] def Registry.bare : Registry where
  knows _ := false
  decode _ _ _ := .error .noText
  replaces _ _ := by simp
  ascii_of_carried h := nomatch h

end Mime.Charset
