import Mime.Proofs.Charset.Label
import Mime.Proofs.Header.Decode

/-! When decoding returns. The one thing that ends it is a word whose label cannot be looked up
at all, for a U+0000 or a surrogate in it; any other word that is not read stays raw between
what is decoded on either side of it: `decode_returns_iff`. -/

namespace Mime

namespace EncodedWord

/-- A label that can be looked up, whether it names a codec or not. -/
def Nameable (w : EncodedWord) : Prop := ∀ c ∈ w.label, c.val ≠ 0 ∧ c.isSurrogate = false

variable [Charset.Registry]

/-- A charset that is not known, or a text that the encoding or the charset has no meaning for. -/
def Undecodable (w : EncodedWord) : Prop :=
  Charset.Label.lookup w.label = .ok none ∨
    ∃ codec, Charset.Label.lookup w.label = .ok (some codec) ∧
      (w.octets? = none ∨ ∃ o f, w.octets? = some o ∧ o ≠ [] ∧
        Charset.Codec.decode .replacing (some codec) o = .error f)

/-- Only looking up the label can fail. -/
theorem read_eq_error_iff {w : EncodedWord} : (∃ f, w.read = .error f) ↔ ¬w.Nameable := by
  rw [Nameable, ← Charset.Label.fault?_eq_none_iff]
  unfold read Charset.Label.lookup
  cases Charset.Label.fault? w.label with
  | some f => simp
  | none =>
    simp only [not_true_eq_false, iff_false, not_exists]
    intro f
    cases Charset.Label.find? w.label with
    | none => simp
    | some codec =>
      cases w.octets? with
      | none => simp
      | some o =>
        cases o with
        | nil => simp
        | cons b o => cases hd : Charset.Codec.decode .replacing (some codec) (b :: o) <;> simp [hd]

theorem read_eq_raw_iff {w : EncodedWord} : (∃ why, w.read = .ok (.error why)) ↔ w.Undecodable := by
  unfold read Undecodable
  cases Charset.Label.lookup w.label with
  | error f => simp
  | ok found =>
    cases found with
    | none => simp
    | some codec =>
      cases w.octets? with
      | none => simp
      | some o =>
        cases o with
        | nil => simp
        | cons b o => cases hd : Charset.Codec.decode .replacing (some codec) (b :: o) <;> simp [hd]

end EncodedWord

namespace Header

open EncodedWord

section

variable [Charset.Registry] {afterWord : Bool} {ps post : List (Text × EncodedWord)} {gap last : Text}

/-- Joining words returns a text exactly if every label can be looked up. -/
theorem join_returns_iff :
    (∃ r, (join afterWord ps last).outcome = .ok r) ↔ ∀ p ∈ ps, p.2.Nameable := by
  induction ps generalizing afterWord with
  | nil => exact ⟨fun _ p hp => absurd hp List.not_mem_nil, fun _ => ⟨last, rfl⟩⟩
  | cons p ps ih =>
    obtain ⟨gap, w⟩ := p
    rw [List.forall_mem_cons]
    cases hr : w.read with
    | error f =>
      have hn : ¬w.Nameable := read_eq_error_iff.1 ⟨f, hr⟩
      simp [outcome_join_fault hr, hn]
    | ok answer =>
      have hn : w.Nameable := by
        by_contra hn
        obtain ⟨f, hf⟩ := read_eq_error_iff.2 hn
        rw [hr] at hf
        cases hf
      cases answer with
      | ok t =>
        rw [outcome_join_read hr, map_returns_iff, ih]
        simp [hn]
      | error why =>
        rw [outcome_join_raw hr, map_returns_iff, ih]
        simp [hn]

/-- A word that is not read parts what is before it from what is after it. -/
theorem outcome_join_around {w : EncodedWord} {why : Unreadable} (h : w.read = .ok (.error why))
    {r : Text} (hr : (join afterWord (ps ++ (gap, w) :: post) last).outcome = .ok r) :
    ∃ a b, (join afterWord ps gap).outcome = .ok a ∧ (join false post last).outcome = .ok b ∧
      r = a ++ w.verbatim ++ b := by
  induction ps generalizing afterWord r with
  | nil =>
    rw [List.nil_append, outcome_join_raw h, map_eq_ok_iff] at hr
    obtain ⟨b, hb, rfl⟩ := hr
    exact ⟨gap, b, rfl, hb, rfl⟩
  | cons p ps ih =>
    obtain ⟨g, v⟩ := p
    rw [List.cons_append] at hr
    cases hv : v.read with
    | error f =>
      rw [outcome_join_fault hv] at hr
      cases hr
    | ok answer =>
      cases answer with
      | ok t =>
        rw [outcome_join_read hv, map_eq_ok_iff] at hr
        obtain ⟨r', hr', rfl⟩ := hr
        obtain ⟨a, b, ha, hb, rfl⟩ := ih hr'
        refine ⟨_, b, by rw [outcome_join_read hv, ha]; rfl, hb, ?_⟩
        simp
      | error why' =>
        rw [outcome_join_raw hv, map_eq_ok_iff] at hr
        obtain ⟨r', hr', rfl⟩ := hr
        obtain ⟨a, b, ha, hb, rfl⟩ := ih hr'
        refine ⟨_, b, by rw [outcome_join_raw hv, ha]; rfl, hb, ?_⟩
        simp

/-- Decoding returns a text exactly if every label can be looked up, and a word that cannot be
decoded stays raw between what the texts on either side of it decode to. -/
theorem decode_returns_iff (t : Text) :
    ((∃ r, (decode t).outcome = .ok r) ↔ ∀ p ∈ (split t).1, p.2.Nameable) ∧
    ((∃ r, (unfoldAndDecode t).outcome = .ok r) ↔ ∀ p ∈ (split (unfold t)).1, p.2.Nameable) ∧
    ∀ pre gap w post r, (split t).1 = pre ++ (gap, w) :: post → w.Undecodable →
      (decode t).outcome = .ok r →
      ∃ a b, (decode (unsplit pre gap)).outcome = .ok a ∧
        (decode (unsplit post (split t).2)).outcome = .ok b ∧ r = a ++ w.verbatim ++ b := by
  refine ⟨join_returns_iff, join_returns_iff, ?_⟩
  intro pre gap w post r hs hw hr
  obtain ⟨why, hwhy⟩ := read_eq_raw_iff.2 hw
  obtain ⟨hpre, hpost⟩ := split_around hs
  rw [decode, hs] at hr
  obtain ⟨a, b, ha, hb, rfl⟩ := outcome_join_around hwhy hr
  refine ⟨a, b, ?_, ?_, rfl⟩
  · rw [decode, hpre]
    exact ha
  · rw [decode, hpost]
    exact hb

end

theorem wellFormed_unknown : WellFormed ⟨"x", 'B', "YQ=="⟩ :=
  ⟨by decide, by decide, rfl, by decide⟩

theorem split_unknown :
    split "a =?x?B?YQ==?= b" =
      ([(("a " : Text), (⟨"x", 'B', "YQ=="⟩ : EncodedWord))], (" b" : Text)) := by
  have ha : Silent "a " ((⟨"x", 'B', "YQ=="⟩ : EncodedWord).verbatim ++ (" b" : Text)) :=
    silent_of_no_equals (by decide) _
  have hb : split " b" = ([], (" b" : Text)) :=
    split_of_silent (silent_of_no_equals (by decide) [])
  have h := split_append_word wellFormed_unknown ha
  rw [hb] at h
  exact h

section

attribute [local instance] Charset.Registry.bare

theorem decode_returns_unknown :
    (split "a =?x?B?YQ==?= b").1 = [] ++ (("a " : Text), (⟨"x", 'B', "YQ=="⟩ : EncodedWord)) :: [] ∧
    Undecodable ⟨"x", 'B', "YQ=="⟩ ∧
    ∃ r, (decode "a =?x?B?YQ==?= b").outcome = .ok r ∧
      ∃ a b, (decode (unsplit [] "a ")).outcome = .ok a ∧
        (decode (unsplit [] (split "a =?x?B?YQ==?= b").2)).outcome = .ok b ∧
        r = a ++ verbatim ⟨"x", 'B', "YQ=="⟩ ++ b := by
  have hs : (split "a =?x?B?YQ==?= b").1 =
      [] ++ (("a " : Text), (⟨"x", 'B', "YQ=="⟩ : EncodedWord)) :: [] := by
    rw [split_unknown]
    rfl
  have hl : Charset.Label.find? "x" = none := by decide +kernel
  have hu : Undecodable ⟨"x", 'B', "YQ=="⟩ := by
    refine .inl (?_ : Charset.Label.lookup "x" = .ok none)
    rw [Charset.Label.lookup, show Charset.Label.fault? "x" = none from rfl, hl]
  obtain ⟨hr, -, hraw⟩ := decode_returns_iff "a =?x?B?YQ==?= b"
  obtain ⟨r, h⟩ := hr.2 (by
    rw [split_unknown]
    intro p hp
    rw [List.mem_singleton.1 hp]
    unfold Nameable
    decide)
  exact ⟨hs, hu, r, h, hraw [] "a " _ [] r hs hu h⟩

/-- A U+0000 in a label ends the decoding. -/
theorem decode_nul_label : ¬∃ r, (decode "=?\x00?B?YQ==?=").outcome = .ok r := by
  have h : read? "=?\x00?B?YQ==?=" = some (⟨"\x00", 'B', "YQ=="⟩, []) :=
    read?_verbatim_append (w := ⟨"\x00", 'B', "YQ=="⟩) ⟨by decide, by decide, rfl, by decide⟩ []
  rw [decode, split_of_read? h, split_nil]
  intro hr
  have hn := join_returns_iff.1 hr ([], ⟨"\x00", 'B', "YQ=="⟩) List.mem_cons_self
  exact (hn ⟨0, by decide⟩ (by decide)).1 rfl

end

end Header

end Mime
