import Mime.Charset.Label
import Mime.Charset.Utf7
import Mime.Charset.Utf8

/-! Decoding octets under the charset that a label names. -/

namespace Mime.Charset

def asciiUnits (o : Octets) : Units :=
  o.map fun b => if b < 0x80 then some (CodePoint.ofByte b) else none

def Encoding.units : Encoding → Octets → Units
  | .ascii, o => asciiUnits o
  | .latin1, o => o.map fun b => some (CodePoint.ofByte b)
  | .utf8, o => Utf8.units o
  | .utf8Marked, o => Utf8.units (Utf8.withoutMark o)
  | .utf7, o => Utf7.units o
  | .utf16 e, o => Utf16.units e o
  | .utf32 e, o => Utf32.units e o
  | .page p, o => p.units o

/-- Why nothing is decoded, other than that no codec is known or that octets mean nothing. -/
inductive Refusal where
  | label (f : LabelFault)
  /-- The encoding refuses all octets. -/
  | encoding
  /-- A codec of the registry objects. -/
  | codec (message : Text)

def Refusal.message : Refusal → Text
  | label f => f.message
  | encoding => "decoding with 'undefined' codec failed (UnicodeError: undefined encoding)"
  | codec message => message

inductive Fault where
  | refused (r : Refusal)
  /-- No text encoding has that label. -/
  | unknown
  /-- Some stretch of the octets means nothing; only strict decoding fails of it. -/
  | malformed

def CodecFault.fault : CodecFault → Fault
  | noText => .unknown
  | malformed => .malformed
  | objection message => .refused (.codec message)

def Units.read (m : Manner) (u : Units) : Except Fault Text :=
  match m with
  | .replacing => .ok u.replacing
  | .strict => match u.strict? with
    | some t => .ok t
    | none => .error .malformed

variable [Registry]

def Codec.decode (m : Manner) : Option Codec → Octets → Except Fault Text
  | some (.text e), o => (e.units o).read m
  | some .refusing, _ => .error (.refused .encoding)
  | some .transform, _ => .error .unknown
  | some (.further label), o => (Registry.decode m label o).mapError CodecFault.fault
  | none, _ => .error .unknown

theorem Codec.decode_replacing_ne_malformed :
    (codec : Option Codec) → (o : Octets) → decode .replacing codec o ≠ .error .malformed
  | none, _ => nofun
  | some (.text _), _ => nofun
  | some .refusing, _ => nofun
  | some .transform, _ => nofun
  | some (.further label), o => by
    rw [decode]
    cases h : Registry.decode .replacing label o with
    | ok t => exact nofun
    | error f => cases f with
      | noText => exact nofun
      | malformed => exact absurd h (Registry.replaces label o)
      | objection message => exact nofun

/-- No octets make the empty text whatever the label names, as long as it is a label. -/
def decode (m : Manner) (label : Text) (o : Octets) : Except Fault Text :=
  match Label.lookup label with
  | .error f => .error (.refused (.label f))
  | .ok codec => if o = [] then .ok [] else Codec.decode m codec o

/-- In the replacing manner no stretch of octets is at fault. -/
theorem decode_replacing_ne_malformed (label : Text) (o : Octets) :
    decode .replacing label o ≠ .error .malformed := by
  unfold decode
  split
  · exact nofun
  · split
    · exact nofun
    · exact Codec.decode_replacing_ne_malformed _ o

end Mime.Charset
