import Mime.Proofs.QuotedPrintable.Escape
import Mime.QuotedPrintable.Decoder

/-! Quoted-printable by its rules. A body is read from the left, and at each place one rule says
what is left of the octets there (`rules`). The decoder, which sees one octet at a time and may
have to read octets anew, follows the same rules: `decode_eq_rules`. -/

namespace Mime.QuotedPrintable

inductive Rule where
  /-- `=` with a line break after it leaves nothing. -/
  | softBreak
  /-- `=` with two digits after it is the octet that they stand for. -/
  | escape (o : UInt8)
  /-- Any other `=` is one. -/
  | literalEquals
  | plain (b : UInt8)
  deriving DecidableEq

def Rule.octets : Rule → Octets
  | softBreak => []
  | escape o => [o]
  | literalEquals => [0x3D]
  | plain b => [b]

/-- The rules by which a body is read, from the left. -/
def rules : Octets → List Rule
  | [] => []
  | b :: r =>
    if b = 0x3D then
      match r with
      | [] => [.literalEquals]
      | [c] => if c = 0x0A then [.softBreak] else .literalEquals :: rules [c]
      | c :: d :: r =>
        if c = 0x0D ∧ d = 0x0A then .softBreak :: rules r
        else if c = 0x0A then .softBreak :: rules (d :: r)
        else match octetOf? c d with
          | some o => .escape o :: rules r
          | none => .literalEquals :: rules (c :: d :: r)
    else .plain b :: rules r

namespace Decoder

variable {out : Array UInt8} {n : Nat} {b c d : UInt8}

/-- The octets that an escape may begin with are no `=` themselves. -/
theorem ne_equals_of_begins (h : c = 0x0D ∨ (hexOctet? c).isSome) : c ≠ 0x3D := by
  rintro rfl
  revert h
  decide

theorem begins_of_octetOf? {o : UInt8} (h : octetOf? c d = some o) :
    c ≠ 0x0D ∧ (hexOctet? c).isSome := by
  have hc : (hexOctet? c).isSome := by
    rw [← escaped?_eq_octetOf?] at h
    cases hv : hexOctet? c with
    | none => simp [escaped?, hv] at h
    | some v => rfl
  refine ⟨?_, hc⟩
  rintro rfl
  revert hc
  decide

theorem plain_of_ne (h : b ≠ 0x3D) (s : State) : plain ⟨s, out, n⟩ b = ⟨.normal, out.push b, n⟩ :=
  if_neg h

theorem step_begins (h : c = 0x0D ∨ (hexOctet? c).isSome) :
    step ⟨.sawEquals, out, n⟩ c = ⟨.sawFirst c, out, n⟩ := if_pos h

theorem step_unbegun (h : ¬(c = 0x0D ∨ (hexOctet? c).isSome)) (hf : c ≠ 0x0A) :
    step ⟨.sawEquals, out, n⟩ c = step ⟨.normal, out.push 0x3D, n + 1⟩ c :=
  (if_neg h).trans (if_neg hf)

theorem step_sawFirst (h : ¬(c = 0x0D ∧ d = 0x0A)) :
    step ⟨.sawFirst c, out, n⟩ d = match octetOf? c d with
      | some o => ⟨.normal, out.push o, n⟩
      | none => giveUp ⟨.sawFirst c, out, n⟩ [c, d] := by
  rw [← escaped?_eq_octetOf?]
  exact if_neg h

theorem feed_cons (x : Decoder) (r : Octets) : x.feed (b :: r) = (x.step b).feed r := rfl

theorem feed_plain (h : b ≠ 0x3D) (r : Octets) :
    feed ⟨.normal, out, n⟩ (b :: r) = feed ⟨.normal, out.push b, n⟩ r := by
  rw [feed_cons, show step ⟨.normal, out, n⟩ b = plain ⟨.normal, out, n⟩ b from rfl,
    plain_of_ne h]

theorem feed_equals (r : Octets) :
    feed ⟨.normal, out, n⟩ (0x3D :: r) = feed ⟨.sawEquals, out, n⟩ r := rfl

theorem feed_softBreak_short (r : Octets) :
    feed ⟨.sawEquals, out, n⟩ (0x0A :: r) = feed ⟨.normal, out, n⟩ r := rfl

theorem feed_softBreak_long (r : Octets) :
    feed ⟨.sawEquals, out, n⟩ (0x0D :: 0x0A :: r) = feed ⟨.normal, out, n⟩ r := rfl

theorem feed_escape {o : UInt8} (h : octetOf? c d = some o) (r : Octets) :
    feed ⟨.sawEquals, out, n⟩ (c :: d :: r) = feed ⟨.normal, out.push o, n⟩ r := by
  obtain ⟨hne, hc⟩ := begins_of_octetOf? h
  rw [feed_cons, feed_cons, step_begins (.inr hc), step_sawFirst fun hb => hne hb.1, h]

/-- Where an escape is given up, the octets after its `=` are read anew. -/
theorem feed_literal (hb : ¬(c = 0x0D ∧ d = 0x0A)) (hf : c ≠ 0x0A) (h : octetOf? c d = none)
    (r : Octets) :
    feed ⟨.sawEquals, out, n⟩ (c :: d :: r) =
      feed ⟨.normal, out.push 0x3D, n + 1⟩ (c :: d :: r) := by
  -- An octet that an escape may begin with waits for the next; any other is read anew at once.
  by_cases hc : c = 0x0D ∨ (hexOctet? c).isSome
  · have hp : plain ⟨.normal, out.push 0x3D, n + 1⟩ c = ⟨.normal, (out.push 0x3D).push c, n + 1⟩ :=
      plain_of_ne (ne_equals_of_begins hc) .normal
    rw [feed_cons, feed_cons, step_begins hc, step_sawFirst hb, h, giveUp, List.foldl_cons, hp,
      feed_plain (ne_equals_of_begins hc)]
    rfl
  · rw [feed_cons, step_unbegun hc hf]
    rfl

/-- The same where the input ends before the second of them. -/
theorem finish_feed_literal (hf : c ≠ 0x0A) :
    (feed ⟨.sawEquals, out, n⟩ [c]).finish =
      (feed ⟨.normal, out.push 0x3D, n + 1⟩ [c]).finish := by
  by_cases hc : c = 0x0D ∨ (hexOctet? c).isSome
  · rw [feed_cons, step_begins hc, feed_plain (ne_equals_of_begins hc)]
    exact plain_of_ne (ne_equals_of_begins hc) .normal
  · rw [feed_cons, step_unbegun hc hf]
    rfl

/-- From outside of any escape on, the decoder follows the rules. -/
theorem finish_feed (out : Array UInt8) (n : Nat) (data : Octets) :
    (feed ⟨.normal, out, n⟩ data).finish =
      ⟨.normal, out ++ (rules data).flatMap Rule.octets, n + (rules data).count .literalEquals⟩ := by
  -- One case to a rule, and one more where the input ends within an escape.
  fun_induction rules data generalizing out n with
  | case1 => simp [feed, finish]
  | case2 => rfl
  | case3 =>
    rw [feed_equals, feed_softBreak_short]
    simp [feed, finish, Rule.octets]
  | case4 c hf ih =>
    rw [feed_equals, finish_feed_literal hf, ih]
    simp [Rule.octets, Nat.add_assoc, Nat.add_comm 1]
  | case5 c d r hb ih =>
    obtain ⟨rfl, rfl⟩ := hb
    rw [feed_equals, feed_softBreak_long, ih]
    simp [Rule.octets]
  | case6 d r hb ih =>
    rw [feed_equals, feed_softBreak_short, ih]
    simp [Rule.octets]
  | case7 c d r hb hf o ho ih =>
    rw [feed_equals, feed_escape ho, ih]
    simp [Rule.octets]
  | case8 c d r hb hf ho ih =>
    rw [feed_equals, feed_literal hb hf ho, ih]
    simp [Rule.octets, Nat.add_assoc, Nat.add_comm 1]
  | case9 b r hb ih =>
    rw [feed_plain hb, ih]
    simp [Rule.octets]

end Decoder

/-- A body decodes to what the rules leave of it, and an escape is counted as malformed for each
`=` that stands for itself. -/
theorem decode_eq_rules (data : Octets) :
    decode data = (rules data).flatMap Rule.octets ∧
      (decodeAll data).malformed = (rules data).count .literalEquals := by
  have h := Decoder.finish_feed #[] 0 data
  rw [decode, decodeAll, Decoder.fresh, h]
  simp

/-- After an `=` that stands for itself, the next may begin an escape: `==41` and `=4=41`. -/
example : rules [0x3D, 0x3D, 0x34, 0x31] = [.literalEquals, .escape 0x41] ∧
    rules [0x3D, 0x34, 0x3D, 0x34, 0x31] = [.literalEquals, .plain 0x34, .escape 0x41] := by
  decide

end Mime.QuotedPrintable
