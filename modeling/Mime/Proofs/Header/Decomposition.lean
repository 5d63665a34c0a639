import Mime.Proofs.Header.Lookup

/-! Decoding by the words of a text. Each text falls apart into gaps and leftmost words in one way
(`splits_iff`), and decoding puts the gaps and the texts of the words together again, looking at
each gap with the two words on either side of it and at nothing else: `decode_of_splits`. -/

namespace Mime

namespace EncodedWord

/-- A text falls apart into words, each with the gap before it, and what follows the last: no
word begins in a gap, and none stands in what follows the last. -/
inductive Splits : Text → List (Text × EncodedWord) → Text → Prop
  | last {t : Text} :
    (∀ (a : Text) (v : EncodedWord) (b : Text), v.WellFormed → t ≠ a ++ (v.verbatim ++ b)) →
      Splits t [] t
  | word {gap : Text} {w : EncodedWord} {rest last : Text} {more : List (Text × EncodedWord)} :
    w.WellFormed →
      (∀ (a : Text) (v : EncodedWord) (b : Text), v.WellFormed →
        gap ++ (w.verbatim ++ rest) = a ++ (v.verbatim ++ b) → gap.length ≤ a.length) →
      Splits rest more last → Splits (gap ++ (w.verbatim ++ rest)) ((gap, w) :: more) last

theorem silent_iff {g rest : Text} :
    Silent g rest ↔ ∀ (a : Text) (v : EncodedWord) (b : Text), v.WellFormed →
      g ++ rest = a ++ (v.verbatim ++ b) → g.length ≤ a.length := by
  constructor
  · intro h a v b hv he
    by_contra hlt
    -- The word would begin within the gap, at `u`.
    rcases List.append_eq_append_iff.1 he with ⟨u, rfl, -⟩ | ⟨u, rfl, hu⟩
    · simp at hlt
    · have hne : u ≠ [] := by
        rintro rfl
        simp at hlt
      have hn := h a u rfl hne
      rw [← hu, read?_verbatim_append hv] at hn
      cases hn
  · rintro h a b rfl hb
    cases hr : read? (b ++ rest) with
    | none => rfl
    | some p =>
      obtain ⟨hw, he⟩ := read?_eq_some_iff.1 hr
      have hle := h a p.1 p.2 hw (by rw [List.append_assoc, he])
      have hpos := List.length_pos_iff.2 hb
      rw [List.length_append] at hle
      omega

theorem silent_nil_iff {t : Text} :
    Silent t [] ↔ ∀ (a : Text) (v : EncodedWord) (b : Text), v.WellFormed →
      t ≠ a ++ (v.verbatim ++ b) := by
  constructor
  · intro h a v b hv he
    exact split_fst_ne_nil_iff.2 ⟨a, v, b, hv, he⟩ (split_fst_eq_nil_iff.2 h)
  · intro h
    apply split_fst_eq_nil_iff.1
    by_contra hne
    obtain ⟨a, v, b, hv, he⟩ := split_fst_ne_nil_iff.1 hne
    exact h a v b hv he

theorem splits_split (t : Text) : Splits t (split t).1 (split t).2 := by
  induction hn : t.length using Nat.strongRecOn generalizing t with
  | ind n ih =>
    subst hn
    rcases silent_or_word t with ht | ⟨g, w, rest, hw, rfl, hg⟩
    · rw [split_of_silent ht]
      exact .last (silent_nil_iff.1 ht)
    · rw [split_append_word hw hg]
      refine .word hw (silent_iff.1 hg) (ih rest.length ?_ rest rfl)
      simp [verbatim]
      omega

theorem split_of_splits {t last : Text} {ps : List (Text × EncodedWord)} (h : Splits t ps last) :
    split t = (ps, last) := by
  induction h with
  | last ht => exact split_of_silent (silent_nil_iff.2 ht)
  | word hw hg _ ih => rw [split_append_word hw (silent_iff.2 hg), ih]

/-- There is one way to split a text. -/
theorem splits_iff {t last : Text} {ps : List (Text × EncodedWord)} :
    Splits t ps last ↔ split t = (ps, last) := by
  constructor
  · exact split_of_splits
  · intro h
    have hs := splits_split t
    rwa [h] at hs

variable [Charset.Registry]

/-- The text of a word, if the word is decoded. -/
def text? (w : EncodedWord) : Option Text :=
  match w.read with
  | .ok (.ok t) => some t
  | _ => none

/-- What a word gives: its text, or else itself. -/
def shown (w : EncodedWord) : Text := w.text?.getD w.verbatim

theorem lookup_eq_ok {label : Text} (h : Charset.Label.fault? label = none) :
    Charset.Label.lookup label = .ok (Charset.Label.find? label) := by
  rw [Charset.Label.lookup, h]

theorem nameable_of_lookup {w : EncodedWord} {codec : Option Charset.Codec}
    (h : Charset.Label.lookup w.label = .ok codec) : w.Nameable := by
  rw [Nameable, ← Charset.Label.fault?_eq_none_iff]
  unfold Charset.Label.lookup at h
  cases hf : Charset.Label.fault? w.label with
  | some f =>
    rw [hf] at h
    cases h
  | none => rfl

end EncodedWord

namespace Header

open EncodedWord

section

variable [Charset.Registry]

/-- A gap between two words goes if it has linear blanks only and both words are decoded. -/
def between (w : EncodedWord) (gap : Text) (v : EncodedWord) : Text :=
  if IsLinear gap ∧ w.text?.isSome ∧ v.text?.isSome then [] else gap

/-- What the gaps and words after `w` give. -/
def meaningAfter (w : EncodedWord) : List (Text × EncodedWord) → Text → Text
  | [], last => last
  | (gap, v) :: more, last => between w gap v ++ v.shown ++ meaningAfter v more last

/-- What gaps and words give, the gap before the first word and what follows the last being kept
in any case. -/
def meaning : List (Text × EncodedWord) → Text → Text
  | [], last => last
  | (gap, w) :: more, last => gap ++ w.shown ++ meaningAfter w more last

/-- One more word: the flag says what it has to of the word before. -/
theorem outcome_join_cons {afterWord : Bool} {gap last : Text} {v : EncodedWord}
    {codec : Option Charset.Codec} (h : Charset.Label.lookup v.label = .ok codec)
    (more : List (Text × EncodedWord)) :
    (join afterWord ((gap, v) :: more) last).outcome =
      ((if IsLinear gap ∧ afterWord ∧ v.text?.isSome then [] else gap) ++ v.shown ++ ·) <$>
        (join v.text?.isSome more last).outcome := by
  cases hr : v.read with
  | error f => exact absurd (nameable_of_lookup h) (read_eq_error_iff.1 ⟨f, hr⟩)
  | ok answer =>
    cases answer with
    | ok t =>
      have ht : v.text? = some t := by simp only [text?, hr]
      have hd : (afterWord && gap.all isLinearBlank) = true ↔
          IsLinear gap ∧ afterWord = true ∧ v.text?.isSome = true := by
        rw [Bool.and_eq_true, all_isLinearBlank_iff, ht, and_comm]
        simp
      rw [outcome_join_read hr]
      simp only [hd, shown, ht, Option.getD_some, Option.isSome_some]
    | error why =>
      have ht : v.text? = none := by simp only [text?, hr]
      rw [outcome_join_raw hr]
      simp [shown, ht]

theorem outcome_join_after (w : EncodedWord) {ps : List (Text × EncodedWord)} {last : Text}
    (h : ∀ p ∈ ps, ∃ codec, Charset.Label.lookup p.2.label = .ok codec) :
    (join w.text?.isSome ps last).outcome = .ok (meaningAfter w ps last) := by
  induction ps generalizing w with
  | nil => rfl
  | cons p ps ih =>
    obtain ⟨gap, v⟩ := p
    obtain ⟨codec, hc⟩ := h (gap, v) List.mem_cons_self
    rw [outcome_join_cons hc, ih v fun q hq => h q (List.mem_cons_of_mem _ hq), meaningAfter, between]
    rfl

theorem outcome_join_meaning {ps : List (Text × EncodedWord)} {last : Text}
    (h : ∀ p ∈ ps, ∃ codec, Charset.Label.lookup p.2.label = .ok codec) :
    (join false ps last).outcome = .ok (meaning ps last) := by
  cases ps with
  | nil => rfl
  | cons p ps =>
    obtain ⟨gap, w⟩ := p
    obtain ⟨codec, hc⟩ := h (gap, w) List.mem_cons_self
    rw [outcome_join_cons hc, outcome_join_after w fun q hq => h q (List.mem_cons_of_mem _ hq)]
    simp [meaning, Functor.map, Except.map]

/-- A text splits in one way, and decoding gives what its gaps and words mean. A text without
words is left as it is. -/
theorem decode_of_splits (t : Text) :
    (∃! d : List (Text × EncodedWord) × Text, Splits t d.1 d.2) ∧
    (∀ ps last, Splits t ps last →
      (∀ p ∈ ps, ∃ codec, Charset.Label.lookup p.2.label = .ok codec) →
      (decode t).outcome = .ok (meaning ps last)) ∧
    ((∀ (a : Text) (v : EncodedWord) (b : Text), v.WellFormed → t ≠ a ++ (v.verbatim ++ b)) →
      (decode t).outcome = .ok t) := by
  refine ⟨⟨split t, splits_split t, ?_⟩, ?_, ?_⟩
  · intro d hd
    exact (split_of_splits hd).symm
  · intro ps last hs hp
    rw [decode, split_of_splits hs]
    exact outcome_join_meaning hp
  · intro h
    exact outcome_decode_of_silent (silent_nil_iff.2 h)

end

section

attribute [local instance] Charset.Registry.bare

/-- Two words that are decoded, with a gap that goes, and one that is not, with a gap that stays. -/
theorem decode_of_splits_mixed :
    (Splits "a =?utf-8?Q?b?= =?utf-8?Q?c?=\t=?x?Q?d?= e"
      [("a ", ⟨"utf-8", 'Q', "b"⟩), (" ", ⟨"utf-8", 'Q', "c"⟩), ("\t", ⟨"x", 'Q', "d"⟩)] " e" ∧
    Charset.Label.lookup "utf-8" = .ok (some (.text .utf8)) ∧
    Charset.Label.lookup "x" = .ok none ∧
    (decode "a =?utf-8?Q?b?= =?utf-8?Q?c?=\t=?x?Q?d?= e").outcome = .ok "a bc\t=?x?Q?d?= e") ∧
    (∀ (a : Text) (v : EncodedWord) (b : Text), v.WellFormed → "a =?b" ≠ a ++ (v.verbatim ++ b)) ∧
    (decode "a =?b").outcome = .ok "a =?b" := by
  have step {g : Text} {w : EncodedWord} {rest last : Text} {more : List (Text × EncodedWord)}
      (hw : w.WellFormed) (hg : ∀ c ∈ g, c ≠ '=') (hr : Splits rest more last) :
      Splits (g ++ (w.verbatim ++ rest)) ((g, w) :: more) last :=
    .word hw (silent_iff.1 (silent_of_no_equals hg _)) hr
  have h₀ : Splits " e" [] " e" := .last (silent_nil_iff.1 (silent_of_no_equals (by decide) []))
  have h₁ := step (g := "\t") (w := ⟨"x", 'Q', "d"⟩) (by decide) (by decide) h₀
  have h₂ := step (g := " ") (w := ⟨"utf-8", 'Q', "c"⟩) (by decide) (by decide) h₁
  have h₃ := step (g := "a ") (w := ⟨"utf-8", 'Q', "b"⟩) (by decide) (by decide) h₂
  have hu : Charset.Label.lookup "utf-8" = .ok (some (.text .utf8)) := by
    rw [lookup_eq_ok rfl, show Charset.Label.find? "utf-8" = some (.text .utf8) by decide +kernel]
  have hx : Charset.Label.lookup "x" = .ok none := by
    rw [lookup_eq_ok rfl, show Charset.Label.find? "x" = none by decide +kernel]
  have hn : ∀ (a : Text) (v : EncodedWord) (b : Text), v.WellFormed →
      "a =?b" ≠ a ++ (v.verbatim ++ b) := by
    intro a v b _ he
    have hl := congrArg List.length he
    simp [verbatim, Text.ofString] at hl
    omega
  refine ⟨⟨h₃, hu, hx, ?_⟩, hn, (decode_of_splits _).2.2 hn⟩
  refine ((decode_of_splits _).2.1 _ _ h₃ ?_).trans (congrArg _ ?_)
  · intro p hp
    simp only [List.mem_cons, List.not_mem_nil, or_false] at hp
    rcases hp with rfl | rfl | rfl
    · exact ⟨_, hu⟩
    · exact ⟨_, hu⟩
    · exact ⟨_, hx⟩
  · decide +kernel

end

end Header

end Mime
