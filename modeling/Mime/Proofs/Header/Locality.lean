import Mime.Proofs.Header.Blanks
import Mime.Proofs.Header.Decomposition
import Mime.Proofs.Header.Encode

/-! Decoding is local. Where a text without words begins and ends with blanks, what is before it and
what is after it are split apart from each other (`split_parted`). If there is something else in it
than linear blanks, it is kept whatever words it stands between, and the two sides are decoded as if
they were alone: `decode_parted`. -/

namespace Mime

namespace EncodedWord

variable {c d : CodePoint} {g t : Text}

/-- A word that begins before a blank does not need what comes after it. -/
theorem Silent.before_append (hd : d.isBlank = true) (h : Silent (g ++ [d]) []) (y : Text) :
    Silent (g ++ [d]) y := by
  intro a b hg hb
  have hn := h a b hg hb
  rcases List.eq_nil_or_concat b with rfl | ⟨b, e, rfl⟩
  · exact absurd rfl hb
  · rw [List.concat_eq_append, ← List.append_assoc] at hg
    obtain rfl : d = e := List.cons.inj (List.append_inj_right' hg rfl) |>.1
    rw [List.append_nil, List.concat_eq_append, read?_append_blank hd, Option.map_eq_none_iff] at hn
    rw [List.concat_eq_append, List.append_assoc, List.singleton_append, read?_append_blank hd, hn,
      Option.map_none]

/-- No word reaches from one side to the other. -/
theorem split_parted (hc : t.head? = some c) (hcb : c.isBlank = true) (hd : t.getLast? = some d)
    (hdb : d.isBlank = true) (ht : Silent t []) (x y : Text) :
    split (x ++ (t ++ y)) = glue (split x) (glue ([], t) (split y)) := by
  have hend : split (t ++ y) = glue ([], t) (split y) := by
    obtain ⟨g, rfl⟩ := List.getLast?_eq_some_iff.1 hd
    exact split_append_of_silent (ht.before_append hdb y)
  obtain ⟨u, rfl⟩ := List.head?_eq_some_iff.1 hc
  rw [← hend]
  exact split_append_blank hcb x (u ++ y)

/-- A word has eight characters at the least. -/
theorem silent_of_short (h : t.length < 8) : Silent t [] := by
  rw [silent_nil_iff]
  rintro a w b hw rfl
  have hpos := List.length_pos_iff.2 hw.charset_ne_nil
  simp [verbatim, Text.ofString] at h
  omega

theorem glue_cons (p : Text × EncodedWord) (x y : List (Text × EncodedWord) × Text) :
    glue (p :: x.1, x.2) y = (p :: (glue x y).1, (glue x y).2) := by
  obtain ⟨ps, last⟩ := y
  cases ps <;> rfl

end EncodedWord

namespace Header

open EncodedWord

section

variable [Charset.Registry] {c d : CodePoint} {t x y : Text}

/-- What comes after `t` is joined as if nothing came before it. -/
theorem outcome_join_parted (ht : ¬IsLinear t) (afterWord : Bool)
    (x y : List (Text × EncodedWord) × Text) :
    (join afterWord (glue x (glue ([], t) y)).1 (glue x (glue ([], t) y)).2).outcome = do
      let a ← (join afterWord x.1 x.2).outcome
      let b ← (join false y.1 y.2).outcome
      return a ++ t ++ b := by
  obtain ⟨ps, last⟩ := x
  induction ps generalizing afterWord with
  | nil =>
    -- Everything up to the first word of `y` is one gap. It has `t` in it, so whether a word came
    -- before does not matter.
    have hkept : ¬IsLinear (last ++ t) := fun h => ht fun e he => h e (List.mem_append_right _ he)
    rw [← glue_assoc]
    exact outcome_join_glue (.inr hkept) y
  | cons p ps ih =>
    obtain ⟨gap, w⟩ := p
    rw [glue_cons (gap, w) (ps, last)]
    rcases outcome_join_word w with ⟨f, hf⟩ | ⟨decoded, shown, hw⟩
    · rw [hf, hf]
      rfl
    · rw [hw, hw, ih]
      cases (join decoded ps last).outcome with
      | error f => rfl
      | ok a =>
        cases (join false y.1 y.2).outcome with
        | error f => rfl
        | ok b => exact congrArg Except.ok (by simp only [List.append_assoc])

/-- Decoding gives a text exactly if it does so on both sides of `t`, and then the two texts with
`t` between them. -/
theorem decode_parted (hc : t.head? = some c) (hcb : c.isBlank = true) (hd : t.getLast? = some d)
    (hdb : d.isBlank = true) (hl : ∃ e ∈ t, e ≠ ' ' ∧ e ≠ '\t' ∧ e ≠ '\r' ∧ e ≠ '\n')
    (hw : ∀ (a : Text) (v : EncodedWord) (b : Text), v.WellFormed → t ≠ a ++ (v.verbatim ++ b))
    (x y r : Text) :
    (decode (x ++ t ++ y)).outcome = .ok r ↔
      ∃ a b, (decode x).outcome = .ok a ∧ (decode y).outcome = .ok b ∧ r = a ++ t ++ b := by
  have hlinear : ¬IsLinear t := by
    obtain ⟨e, he, hne⟩ := hl
    intro h
    rcases h e he with h | h | h | h
    · exact hne.1 h
    · exact hne.2.1 h
    · exact hne.2.2.1 h
    · exact hne.2.2.2 h
  rw [List.append_assoc, decode, split_parted hc hcb hd hdb (silent_nil_iff.2 hw),
    outcome_join_parted hlinear, ← decode, ← decode, bind_eq_ok_iff]
  constructor
  · rintro ⟨a, ha, h⟩
    obtain ⟨b, hb, h⟩ := bind_eq_ok_iff.1 h
    exact ⟨a, b, ha, hb, (Except.ok.inj h).symm⟩
  · rintro ⟨a, b, ha, hb, rfl⟩
    exact ⟨a, ha, bind_eq_ok_iff.2 ⟨b, hb, rfl⟩⟩

end

section

attribute [local instance] Charset.Registry.bare

/-- A text that ends in what could begin a word, and one that begins with what could end it. -/
theorem decode_parted_halves :
    ((("\u00A0" : Text).head? = some (CodePoint.ofChar '\u00A0') ∧
        (CodePoint.ofChar '\u00A0').isBlank = true ∧
        ("\u00A0" : Text).getLast? = some (CodePoint.ofChar '\u00A0')) ∧
      (∃ e ∈ ("\u00A0" : Text), e ≠ ' ' ∧ e ≠ '\t' ∧ e ≠ '\r' ∧ e ≠ '\n') ∧
      ∀ (a : Text) (v : EncodedWord) (b : Text), v.WellFormed → "\u00A0" ≠ a ++ (v.verbatim ++ b)) ∧
    (decode "=?UTF-8?B?YQ==?==?b").outcome = .ok "a=?b" ∧
    (decode "?q??= =?UTF-8?B?Yw==?=").outcome = .ok "?q??= c" ∧
    (decode ("=?UTF-8?B?YQ==?==?b" ++ "\u00A0" ++ "?q??= =?UTF-8?B?Yw==?=")).outcome =
      .ok ("a=?b" ++ "\u00A0" ++ "?q??= c") := by
  have hlast : split "=?b" = ([], ("=?b" : Text)) := split_of_silent (silent_of_short (by decide))
  have hx : split "=?UTF-8?B?YQ==?==?b" = ([([], ofText "a")], ("=?b" : Text)) := by
    have hg : Silent [] ((ofText "a").verbatim ++ ("=?b" : Text)) :=
      silent_of_no_equals (by decide) _
    have h := split_append_word (wellFormed_ofText "a") hg
    rw [hlast] at h
    exact h
  have hy : split "?q??= =?UTF-8?B?Yw==?=" = ([(("?q??= " : Text), ofText "c")], []) := by
    have hg : Silent "?q??= " ((ofText "c").verbatim ++ []) :=
      Silent.before_append (g := "?q??=") (d := ' ') (by decide) (silent_of_short (by decide)) _
    have h := split_append_word (wellFormed_ofText "c") hg
    rw [split_nil] at h
    exact h
  have ha : (decode "=?UTF-8?B?YQ==?==?b").outcome = .ok "a=?b" := by
    rw [decode, hx, outcome_join_read (read_ofText "a")]
    rfl
  have hb : (decode "?q??= =?UTF-8?B?Yw==?=").outcome = .ok "?q??= c" := by
    rw [decode, hy, outcome_join_read (read_ofText "c")]
    rfl
  have hblank : (CodePoint.ofChar '\u00A0').isBlank = true := by decide
  have hl : ∃ e ∈ ("\u00A0" : Text), e ≠ ' ' ∧ e ≠ '\t' ∧ e ≠ '\r' ∧ e ≠ '\n' := by decide
  have hw := silent_nil_iff.1 (silent_of_short (t := "\u00A0") (by decide))
  refine ⟨⟨⟨rfl, hblank, rfl⟩, hl, hw⟩, ha, hb, ?_⟩
  exact (decode_parted rfl hblank rfl hblank hl hw _ _ _).2 ⟨_, _, ha, hb, rfl⟩

end

end Header

end Mime
