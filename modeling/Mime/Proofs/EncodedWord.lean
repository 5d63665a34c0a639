import Mathlib.Data.List.TakeWhile
import Mime.Header.EncodedWord

/-! Where the encoded words of a text stand. A word is read exactly where a well-formed one is
written out (`read?_eq_some_iff`), and the decomposition into gaps and words is determined by
the first place where one stands (`split_append_of_silent`). -/

namespace Mime.EncodedWord

/-- What the syntax asks of a word: a charset that is not empty, no blank and no question mark
in charset and text, and the letter of an encoding. -/
structure WellFormed (w : EncodedWord) : Prop where
  charset_ne_nil : w.charset ≠ []
  charset : ∀ c ∈ w.charset, isToken c = true
  letter : isLetter w.letter = true
  text : ∀ c ∈ w.text, isToken c = true

theorem wellFormed_iff {w : EncodedWord} :
    w.WellFormed ↔ w.charset ≠ [] ∧ (∀ c ∈ w.charset, isToken c = true) ∧ isLetter w.letter = true ∧
      ∀ c ∈ w.text, isToken c = true :=
  ⟨fun h => ⟨h.1, h.2, h.3, h.4⟩, fun h => ⟨h.1, h.2.1, h.2.2.1, h.2.2.2⟩⟩

instance (w : EncodedWord) : Decidable w.WellFormed := decidable_of_iff _ wellFormed_iff.symm

/-- A run of token characters ends at a question mark. -/
theorem takeWhile_isToken {l : Text} (h : ∀ c ∈ l, isToken c = true) (r : Text) :
    (l ++ ("?" ++ r)).takeWhile isToken = l ∧ (l ++ ("?" ++ r)).dropWhile isToken = "?" ++ r := by
  have hq : isToken '?' = false := by decide
  constructor
  · rw [List.takeWhile_append_of_pos h, show ("?" : Text) ++ r = ('?' : CodePoint) :: r from rfl,
      List.takeWhile_cons, hq]
    simp
  · rw [List.dropWhile_append_of_pos h, show ("?" : Text) ++ r = ('?' : CodePoint) :: r from rfl,
      List.dropWhile_cons, hq]
    simp

theorem after?_append (lit r : Text) : Text.after? lit (lit ++ r) = some r :=
  Text.after?_eq_some_iff.2 rfl

theorem read?_verbatim_append {w : EncodedWord} (h : w.WellFormed) (rest : Text) :
    read? (w.verbatim ++ rest) = some (w, rest) := by
  obtain ⟨hc, hd⟩ := takeWhile_isToken h.charset (w.letter :: ("?" ++ (w.text ++ ("?=" ++ rest))))
  obtain ⟨ht, hu⟩ : (w.text ++ ("?=" ++ rest)).takeWhile isToken = w.text ∧
      (w.text ++ ("?=" ++ rest)).dropWhile isToken = "?=" ++ rest :=
    takeWhile_isToken h.text ("=" ++ rest)
  simp only [verbatim, List.append_assoc, List.cons_append, read?, after?_append,
    Option.bind_some, hc, hd, if_neg h.charset_ne_nil, h.letter, Bool.not_true, ht, hu]
  rfl

theorem wellFormed_of_read? {t rest : Text} {w : EncodedWord} (h : read? t = some (w, rest)) :
    w.WellFormed := by
  simp only [read?, Option.bind_eq_some_iff] at h
  obtain ⟨r, -, h⟩ := h
  split at h
  · cases h
  rename_i hne
  simp only [Option.bind_eq_some_iff] at h
  obtain ⟨r', -, h⟩ := h
  split at h
  · cases h
  split at h
  · cases h
  rename_i hletter
  simp only [Option.bind_eq_some_iff, Option.map_eq_some_iff, Prod.mk.injEq] at h
  obtain ⟨r₃, -, rest', -, rfl, -⟩ := h
  exact ⟨hne, fun c hc => List.mem_takeWhile_imp hc, by simpa using hletter,
    fun c hc => List.mem_takeWhile_imp hc⟩

/-- A word is read exactly where a well-formed word is written out. -/
theorem read?_eq_some_iff {t rest : Text} {w : EncodedWord} :
    read? t = some (w, rest) ↔ w.WellFormed ∧ t = w.verbatim ++ rest := by
  constructor
  · intro h
    exact ⟨wellFormed_of_read? h, eq_of_read? h⟩
  · rintro ⟨hw, rfl⟩
    exact read?_verbatim_append hw rest

theorem read?_cons_of_ne {c : CodePoint} (hc : c ≠ '=') (r : Text) : read? (c :: r) = none := by
  cases h : read? (c :: r) with
  | none => rfl
  | some p =>
    have := eq_of_read? h
    simp only [verbatim, Text.ofString] at this
    exact absurd (List.cons.inj this).1 hc

/-- No word begins in `g`, when `rest` comes after it. -/
def Silent (g rest : Text) : Prop := ∀ a b, g = a ++ b → b ≠ [] → read? (b ++ rest) = none

theorem Silent.tail {c : CodePoint} {g rest : Text} (h : Silent (c :: g) rest) : Silent g rest :=
  fun a b hg hb => h (c :: a) b (by rw [hg]; rfl) hb

theorem silent_of_no_equals {g : Text} (h : ∀ c ∈ g, c ≠ '=') (rest : Text) : Silent g rest := by
  rintro a b rfl hb
  cases b with
  | nil => exact absurd rfl hb
  | cons c b => exact read?_cons_of_ne (h c (by simp)) (b ++ rest)

/-- What is found in two texts, one right after the other: what follows the last word of the one
and the gap before the first word of the other are one gap. -/
def glue (x y : List (Text × EncodedWord) × Text) : List (Text × EncodedWord) × Text :=
  match y with
  | ([], last) => (x.1, x.2 ++ last)
  | ((gap, w) :: more, last) => (x.1 ++ (x.2 ++ gap, w) :: more, last)

theorem glue_nil_left (y : List (Text × EncodedWord) × Text) : glue ([], []) y = y := by
  obtain ⟨ps, last⟩ := y
  cases ps <;> rfl

theorem glue_assoc (x y z : List (Text × EncodedWord) × Text) :
    glue (glue x y) z = glue x (glue y z) := by
  obtain ⟨ps, l⟩ := y
  obtain ⟨qs, m⟩ := z
  cases ps <;> cases qs <;> simp [glue]

theorem split_eq_glue_word {t rest : Text} {w : EncodedWord} (h : read? t = some (w, rest)) :
    split t = glue ([([], w)], []) (split rest) := by
  rw [split_of_read? h]
  cases split rest with
  | mk ps last => cases ps <;> rfl

theorem split_eq_glue_cons {c : CodePoint} {t : Text} (h : read? (c :: t) = none) :
    split (c :: t) = glue ([], [c]) (split t) := by
  rw [split_cons h]
  cases split t with
  | mk ps last => cases ps <;> rfl

/-- What a text begins with, up to its first word at the most, goes to its first gap. -/
theorem split_append_of_silent {g t : Text} (h : Silent g t) :
    split (g ++ t) = glue ([], g) (split t) := by
  induction g with
  | nil => rw [List.nil_append, glue_nil_left]
  | cons c g ih =>
    have hc : read? (c :: (g ++ t)) = none := h [] (c :: g) rfl (List.cons_ne_nil _ _)
    rw [List.cons_append, split_eq_glue_cons hc, ih h.tail, ← glue_assoc]
    rfl

theorem split_append_word {g rest : Text} {w : EncodedWord} (hw : w.WellFormed)
    (h : Silent g (w.verbatim ++ rest)) :
    split (g ++ (w.verbatim ++ rest)) = ((g, w) :: (split rest).1, (split rest).2) := by
  rw [split_append_of_silent h, split_of_read? (read?_verbatim_append hw rest), glue,
    List.append_nil, List.nil_append]

theorem split_of_silent {g : Text} (h : Silent g []) : split g = ([], g) := by
  have hs := split_append_of_silent h
  rw [split_nil, glue, List.append_nil] at hs
  exact hs

/-- What is no word in a longer text is none in a shorter one. -/
theorem Silent.of_append {g r s : Text} (h : Silent g (r ++ s)) : Silent g r := by
  intro a b hg hb
  cases hr : read? (b ++ r) with
  | none => rfl
  | some p =>
    obtain ⟨hw, he⟩ := read?_eq_some_iff.1 hr
    have hn := h a b hg hb
    rw [← List.append_assoc, he, List.append_assoc, read?_verbatim_append hw] at hn
    cases hn

/-- Either no word stands in a text, or there is a first. -/
theorem silent_or_word (t : Text) :
    Silent t [] ∨ ∃ (g : Text) (w : EncodedWord) (rest : Text), w.WellFormed ∧
      t = g ++ (w.verbatim ++ rest) ∧ Silent g (w.verbatim ++ rest) := by
  induction t with
  | nil => exact .inl fun a b hab hb => absurd (List.append_eq_nil_iff.1 hab.symm).2 hb
  | cons c t ih =>
    cases h : read? (c :: t) with
    | some p =>
      obtain ⟨hw, ht⟩ := read?_eq_some_iff.1 h
      exact .inr ⟨[], p.1, p.2, hw, ht,
        fun a b hab hb => absurd (List.append_eq_nil_iff.1 hab.symm).2 hb⟩
    | none =>
      -- what begins at `c` is no word, and the rest has been decided
      have here {g r : Text} (hr : g ++ r = t) (hg : Silent g r) : Silent (c :: g) r := by
        intro a b hab hb
        cases a with
        | nil =>
          rw [List.nil_append] at hab
          rw [← hab, List.cons_append, hr]
          exact h
        | cons d a => exact hg a b (List.cons.inj hab).2 hb
      rcases ih with ht | ⟨g, w, rest, hw, rfl, hg⟩
      · exact .inl (here (List.append_nil t) ht)
      · exact .inr ⟨c :: g, w, rest, hw, rfl, here rfl hg⟩

theorem split_fst_eq_nil_iff {t : Text} : (split t).1 = [] ↔ Silent t [] := by
  constructor
  · intro h
    rcases silent_or_word t with ht | ⟨g, w, rest, hw, rfl, hg⟩
    · exact ht
    · rw [split_append_word hw hg] at h
      cases h
  · intro h
    rw [split_of_silent h]

/-- Splitting finds a word exactly in a text in which one stands. -/
theorem split_fst_ne_nil_iff {t : Text} :
    (split t).1 ≠ [] ↔
      ∃ (a : Text) (w : EncodedWord) (b : Text), w.WellFormed ∧ t = a ++ (w.verbatim ++ b) := by
  constructor
  · intro h
    rcases silent_or_word t with ht | ⟨g, w, rest, hw, ht, -⟩
    · exact absurd (split_fst_eq_nil_iff.2 ht) h
    · exact ⟨g, w, rest, hw, ht⟩
  · rintro ⟨a, w, b, hw, rfl⟩ h
    have hs := split_fst_eq_nil_iff.1 h a (w.verbatim ++ b) rfl (by simp [verbatim, Text.ofString])
    rw [List.append_nil, read?_verbatim_append hw] at hs
    cases hs

theorem unsplit_cons (g : Text) (w : EncodedWord) (ps : List (Text × EncodedWord)) (last : Text) :
    unsplit ((g, w) :: ps) last = g ++ (w.verbatim ++ unsplit ps last) := by
  simp [unsplit]

theorem unsplit_append (ps qs : List (Text × EncodedWord)) (last : Text) :
    unsplit (ps ++ qs) last = unsplit ps (unsplit qs last) := by
  simp [unsplit]

theorem unsplit_eq_append (ps : List (Text × EncodedWord)) (x y : Text) :
    unsplit ps (x ++ y) = unsplit ps x ++ y := by
  simp [unsplit]

/-- On either side of a word, a text is split as if the other side were not there. -/
theorem split_around {t gap : Text} {w : EncodedWord} {pre post : List (Text × EncodedWord)}
    (h : (split t).1 = pre ++ (gap, w) :: post) :
    split (unsplit pre gap) = (pre, gap) ∧
      split (unsplit post (split t).2) = (post, (split t).2) := by
  induction pre generalizing t with
  | nil =>
    rcases silent_or_word t with ht | ⟨g, w', rest, hw, rfl, hg⟩
    · rw [split_of_silent ht] at h
      cases h
    · rw [split_append_word hw hg] at h ⊢
      obtain ⟨he, hp⟩ := List.cons.inj h
      obtain ⟨rfl, rfl⟩ := Prod.mk.inj he
      have hs : Silent g [] := Silent.of_append (s := w'.verbatim ++ rest) hg
      refine ⟨split_of_silent hs, ?_⟩
      rw [← hp, unsplit_split]
  | cons p pre ih =>
    rcases silent_or_word t with ht | ⟨g, w', rest, hw, rfl, hg⟩
    · rw [split_of_silent ht] at h
      cases h
    · rw [split_append_word hw hg] at h ⊢
      have he : (g, w') = p := (List.cons.inj h).1
      have hp : (split rest).1 = pre ++ (gap, w) :: post := (List.cons.inj h).2
      obtain ⟨hpre, hpost⟩ := ih hp
      refine ⟨?_, hpost⟩
      -- the rest goes on after what the first of the two texts ends with
      have hrest : rest = unsplit pre gap ++ (w.verbatim ++ unsplit post (split rest).2) := by
        have hu := unsplit_split rest
        rw [hp, unsplit_append, unsplit_cons, unsplit_eq_append] at hu
        exact hu.symm
      have hs : Silent g (w'.verbatim ++ unsplit pre gap) := by
        rw [hrest, ← List.append_assoc] at hg
        exact hg.of_append
      rw [← he, unsplit_cons, split_append_word hw hs, hpre]

end Mime.EncodedWord
