import Mime.Proofs.QuotedPrintable.Grammar
import Mime.Proofs.QuotedPrintable.Word

/-! Quoted-printable bodies by the forms of their octets. Whichever form each octet is written in,
and wherever soft breaks stand between them, the body reads back as the octets, and no escape is
counted as malformed: `feed_bodyForm`. -/

namespace Mime.QuotedPrintable

/-- The bodies that octets may be written as. -/
inductive BodyForm : Octets → Octets → Prop
  | nil : BodyForm [] []
  | literal {b : UInt8} {o body : Octets} : b ≠ 0x3D → BodyForm o body →
      BodyForm (b :: o) (b :: body)
  | escape {b high low : UInt8} {o body : Octets} : digitValue? high = some (b.toNat / 16) →
      digitValue? low = some (b.toNat % 16) → BodyForm o body →
      BodyForm (b :: o) (0x3D :: high :: low :: body)
  | softBreak {o body : Octets} : BodyForm o body → BodyForm o (0x3D :: 0x0D :: 0x0A :: body)
  | shortBreak {o body : Octets} : BodyForm o body → BodyForm o (0x3D :: 0x0A :: body)

/-- Outside of any escape, the decoder puts out the octets and stays outside. -/
theorem Decoder.feed_bodyForm {o body : Octets} (h : BodyForm o body) (out : Array UInt8) (n : Nat) :
    feed ⟨.normal, out, n⟩ body = ⟨.normal, out ++ o, n⟩ := by
  induction h generalizing out with
  | nil => simp [feed]
  | literal hb _ ih =>
    rw [feed_plain hb, ih]
    simp
  | escape hh hl _ ih =>
    rw [feed_equals, feed_escape (octetOf?_digits hh hl), ih]
    simp
  | softBreak _ ih => rw [feed_equals, feed_softBreak_long, ih]
  | shortBreak _ ih => rw [feed_equals, feed_softBreak_short, ih]

end Mime.QuotedPrintable
