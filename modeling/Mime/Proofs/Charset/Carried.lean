import Mime.Charset.Decode
import Mime.Proofs.Base64
import Mime.Proofs.Except
import Mime.Proofs.Octets

/-! No charset reads octets beyond ASCII as the text that carries them: `ascii_of_units`. Every
charset but UTF-7 yields no surrogate at all, and UTF-7 has no meaning for such an octet
wherever it stands. -/

namespace Mime

namespace Charset

/-- Characters that are no surrogates. -/
def Units.Scalar (u : Units) : Prop := ∀ c, some c ∈ u → c.isSurrogate = false

namespace Units

theorem scalar_nil : Scalar [] := fun _ h => absurd h List.not_mem_nil

theorem Scalar.append {u v : Units} (hu : u.Scalar) (hv : v.Scalar) : (u ++ v).Scalar := by
  intro c h
  rcases List.mem_append.1 h with h | h
  · exact hu c h
  · exact hv c h

theorem Scalar.cons_none {u : Units} (h : u.Scalar) : Scalar (none :: u) := by
  intro c hc
  rcases List.mem_cons.1 hc with e | hc
  · cases e
  · exact h c hc

theorem Scalar.cons_some {c : CodePoint} {u : Units} (hc : c.isSurrogate = false) (h : u.Scalar) :
    Scalar (some c :: u) := by
  intro d hd
  rcases List.mem_cons.1 hd with e | hd
  · rw [Option.some.inj e]
    exact hc
  · exact h d hd

theorem scalar_map {α : Type} {f : α → Option CodePoint} {l : List α}
    (h : ∀ a ∈ l, ∀ c, f a = some c → c.isSurrogate = false) : Scalar (l.map f) := by
  intro c hc
  obtain ⟨a, ha, he⟩ := List.mem_map.1 hc
  exact h a ha c he

/-- Text made of such units carries no octet beyond ASCII. -/
theorem Scalar.ascii {u : Units} (h : u.Scalar) {o : Octets}
    (ho : u.replacing = Text.ofOctets o) : ∀ b ∈ o, b < 0x80 := by
  rw [← Text.hasSurrogate_ofOctets, ← ho, Text.hasSurrogate_eq_false_iff]
  intro c hc
  obtain ⟨a, ha, rfl⟩ := List.mem_map.1 hc
  cases a with
  | none => decide
  | some d => exact h d ha

/-- An undecodable stretch leaves a mark that no octet is carried by. -/
theorem replacing_ne_ofOctets {u : Units} (h : none ∈ u) (o : Octets) :
    u.replacing ≠ Text.ofOctets o := by
  intro ho
  have hr : CodePoint.replacement ∈ Text.ofOctets o := by
    rw [← ho]
    exact List.mem_map.2 ⟨none, h, rfl⟩
  obtain ⟨b, -, hb⟩ := List.mem_map.1 hr
  exact CodePoint.replacement_ne_ofOctet b hb.symm

end Units

theorem scalar_asciiUnits (o : Octets) : (asciiUnits o).Scalar := by
  refine Units.scalar_map fun b _ c h => ?_
  split_ifs at h
  obtain rfl := Option.some.inj h
  exact CodePoint.isSurrogate_ofByte b

theorem CodePage.upper_scalar (p : CodePage) : ∀ n ∈ p.upper, n < 0xD800 ∨ 0xDFFF < n := by
  cases p <;> decide +kernel

theorem CodePage.scalar_units (p : CodePage) (o : Octets) : (p.units o).Scalar := by
  refine Units.scalar_map fun b _ c h => ?_
  unfold character at h
  split_ifs at h with hb
  · obtain rfl := Option.some.inj h
    exact CodePoint.isSurrogate_ofByte b
  · split at h
    · rename_i n hn
      obtain rfl := Option.some.inj h
      exact CodePoint.isSurrogate_ofNat (p.upper_scalar _ (List.mem_of_getElem? hn))
    · cases h

namespace Utf8

/-- A partial character that becomes no surrogate, however it goes on. -/
def Partial.Apart (p : Partial) : Prop :=
  0x80 ≤ p.low ∧ p.high ≤ 0xBF ∧
    (p.more = 1 ∧ (p.bits < 0x360 ∨ 0x380 ≤ p.bits) ∨
      p.more = 2 ∧ (p.bits ≠ 0xD ∨ p.high ≤ 0x9F) ∨
      p.more = 3 ∧ (p.bits ≠ 0 ∨ 0x90 ≤ p.low))

theorem scalar_first (b : UInt8) : (first b).1.Scalar := by
  unfold first
  dsimp only
  split_ifs with h
  · exact Units.scalar_nil.cons_some (CodePoint.isSurrogate_ofNat (by omega))
  · exact Units.scalar_nil.cons_none
  all_goals first | exact Units.scalar_nil | exact Units.scalar_nil.cons_none

theorem apart_first {b : UInt8} {p : Partial} (h : (first b).2 = some p) : p.Apart := by
  unfold first at h
  dsimp only at h
  unfold Partial.Apart
  split_ifs at h <;> obtain rfl := Option.some.inj h <;> dsimp only <;> omega

theorem scalar_next {p : Partial} (hp : p.Apart) (b : UInt8) : (next p b).1.Scalar := by
  obtain ⟨hl, hh, hm⟩ := hp
  unfold next
  dsimp only
  split_ifs with hn h1
  · exact Units.scalar_nil.cons_some (CodePoint.isSurrogate_ofNat (by omega))
  · exact Units.scalar_nil
  · exact (scalar_first b).cons_none

/-- What one more octet leaves open still becomes no surrogate. -/
theorem apart_next {p q : Partial} (hp : p.Apart) {b : UInt8} (h : (next p b).2 = some q) :
    q.Apart := by
  obtain ⟨hl, hh, hm⟩ := hp
  unfold next at h
  dsimp only at h
  split_ifs at h with hn h1
  · obtain rfl := Option.some.inj h
    unfold Partial.Apart
    dsimp only
    omega
  · exact apart_first h

theorem scalar_unitsFrom {p : Option Partial} (hp : ∀ q, p = some q → q.Apart) (o : Octets) :
    (unitsFrom p o).Scalar := by
  induction o generalizing p with
  | nil =>
    cases p with
    | none => exact Units.scalar_nil
    | some q => exact Units.scalar_nil.cons_none
  | cons b r ih =>
    cases p with
    | none => exact (scalar_first b).append (ih fun _ => apart_first)
    | some q => exact (scalar_next (hp q rfl) b).append (ih fun _ => apart_next (hp q rfl))

theorem scalar_units (o : Octets) : (units o).Scalar :=
  scalar_unitsFrom (fun _ h => absurd h (by simp)) o

end Utf8

theorem Utf16.scalar_assemble (odd : Bool) (ns : List Nat) : (assemble odd ns).Scalar := by
  have single {n : Nat} (hh : isHigh n = false) {u : Units} (hu : u.Scalar) :
      Units.Scalar ((if isLow n then none else some (CodePoint.ofNat n)) :: u) := by
    by_cases hl : isLow n = true
    · rw [if_pos hl]
      exact hu.cons_none
    · rw [if_neg hl]
      refine hu.cons_some (CodePoint.isSurrogate_ofNat ?_)
      simp only [isHigh, isLow, Bool.and_eq_true, Bool.and_eq_false_iff, decide_eq_true_eq,
        decide_eq_false_iff_not] at hh hl
      omega
  induction ns using assemble.induct odd with
  | case1 h =>
    rw [assemble, if_pos h]
    exact Units.scalar_nil.cons_none
  | case2 h =>
    rw [assemble, if_neg h]
    exact Units.scalar_nil
  | case3 n h =>
    rw [assemble, if_pos h]
    exact Units.scalar_nil.cons_none
  | case4 n h ih =>
    rw [assemble, if_neg h]
    exact single (Bool.eq_false_iff.2 h) ih
  | case5 n m r h hl ih =>
    rw [assemble, if_pos h, if_pos hl]
    exact ih.cons_some (CodePoint.isSurrogate_ofNat (by omega))
  | case6 n m r h hl ih =>
    rw [assemble, if_pos h, if_neg hl]
    exact ih.cons_none
  | case7 n m r h ih =>
    rw [assemble, if_neg h]
    exact single (Bool.eq_false_iff.2 h) ih

theorem Utf16.scalar_units (e : Option ByteOrder) (o : Octets) : (units e o).Scalar := by
  unfold units
  split <;> exact scalar_assemble _ _

theorem Utf32.scalar_unitsIn (e : ByteOrder) (o : Octets) : (unitsIn e o).Scalar := by
  induction o using unitsIn.induct with
  | case1 => exact Units.scalar_nil
  | case2 a b c d r ih =>
    rw [unitsIn, character]
    split_ifs with h
    · exact ih.cons_some (CodePoint.isSurrogate_ofNat (by omega))
    · exact ih.cons_none
  | case3 o h h' =>
    rw [unitsIn]
    · exact Units.scalar_nil.cons_none
    · exact h
    · exact h'

theorem Utf32.scalar_units (e : Option ByteOrder) (o : Octets) : (units e o).Scalar := by
  unfold units
  split <;> exact scalar_unitsIn _ _

namespace Utf7

theorem value?_beyond {b : UInt8} (h : ¬b < 0x80) : Base64.value? b = none := by
  have h : ¬b.toNat < 0x80 := h
  cases hv : Base64.value? b with
  | none => rfl
  | some n =>
    have := Base64.bounds_of_value? hv
    omega

theorem plain_beyond {b : UInt8} (h : ¬b < 0x80) : plain b = ([none], .direct) := by
  have hne : b ≠ 0x2B := by
    rintro rfl
    exact h (by decide)
  rw [plain, if_neg hne, if_neg h]

/-- Whatever the state, such an octet is lost. -/
theorem step_beyond (s : State) {b : UInt8} (h : ¬b < 0x80) : none ∈ (step s b).1 := by
  have hne : b ≠ 0x2D := by
    rintro rfl
    exact h (by decide)
  cases s with
  | direct =>
    rw [step, plain_beyond h]
    exact List.mem_cons_self
  | opened =>
    rw [step, if_neg hne, value?_beyond h]
    exact List.mem_cons_self
  | shifted s =>
    simp only [step, value?_beyond h, leave, plain_beyond h, if_neg h, if_neg hne]
    split_ifs
    · exact List.mem_cons_self
    · exact List.mem_cons_self

theorem none_mem_unitsFrom (s : State) {o : Octets} {b : UInt8} (hb : b ∈ o) (h : ¬b < 0x80) :
    none ∈ unitsFrom s o := by
  induction o generalizing s with
  | nil => cases hb
  | cons a r ih =>
    rw [unitsFrom, List.mem_append]
    rcases List.mem_cons.1 hb with rfl | hr
    · exact .inl (step_beyond s h)
    · exact .inr (ih _ hr)

end Utf7

theorem Encoding.ascii_of_units {e : Encoding} {o : Octets}
    (h : (e.units o).replacing = Text.ofOctets o) : ∀ b ∈ o, b < 0x80 := by
  cases e with
  | ascii => exact (scalar_asciiUnits o).ascii h
  | latin1 =>
    have hs : Units.Scalar (o.map fun b => some (CodePoint.ofByte b)) :=
      Units.scalar_map fun b _ c hc => Option.some.inj hc ▸ CodePoint.isSurrogate_ofByte b
    exact hs.ascii h
  | utf8 => exact (Utf8.scalar_units o).ascii h
  | utf8Marked => exact (Utf8.scalar_units _).ascii h
  | utf7 =>
    intro b hb
    rcases Decidable.em (b < 0x80) with hlt | hn
    · exact hlt
    · exact absurd h (Units.replacing_ne_ofOctets (Utf7.none_mem_unitsFrom .direct hb hn) o)
  | utf16 e => exact (Utf16.scalar_units e o).ascii h
  | utf32 e => exact (Utf32.scalar_units e o).ascii h
  | page p => exact (p.scalar_units o).ascii h

/-- Octets that decode to the text that carries them are ASCII, whatever the label names. -/
theorem ascii_of_decode [Registry] {label : Text} {o : Octets}
    (h : decode .replacing label o = .ok (Text.ofOctets o)) : ∀ b ∈ o, b < 0x80 := by
  unfold decode at h
  cases hl : Label.lookup label with
  | error f =>
    rw [hl] at h
    cases h
  | ok codec =>
    rw [hl] at h
    dsimp only at h
    split_ifs at h with ho
    · rw [ho]
      exact fun _ hb => absurd hb List.not_mem_nil
    · cases codec with
      | none => cases h
      | some codec =>
        cases codec with
        | text e => exact Encoding.ascii_of_units (Except.ok.inj h)
        | transform => cases h
        | refusing => cases h
        | further label =>
          exact Registry.ascii_of_carried (mapError_eq_ok_iff.1 h)

end Charset

end Mime
