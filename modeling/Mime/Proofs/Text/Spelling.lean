import Mime.Text.Blank
import Mime.Text.Lower

/-! Words as headers spell them: in any letter case, and with blanks around them. Trimming and
lower-casing give the word back: `lower_trim_of_spells`. -/

namespace Mime

theorem CodePoint.isBlank_of_visible {c : CodePoint} (h1 : 0x21 ≤ c.val) (h2 : c.val ≤ 0x7E) :
    c.isBlank = false := by
  simp only [isBlank, Bool.or_eq_false_iff, Bool.and_eq_false_iff, decide_eq_false_iff_not,
    beq_eq_false_iff_ne]
  omega

namespace Text

def IsBlank (t : Text) : Prop := ∀ c ∈ t, c.isBlank = true

instance (t : Text) : Decidable (IsBlank t) :=
  inferInstanceAs (Decidable (∀ c ∈ t, c.isBlank = true))

/-- A word of ASCII letters in whatever case, with blanks around it. -/
def Spells (word : String) (t : Text) : Prop :=
  ∃ (before : Text) (letters : List Char) (after : Text),
    t = before ++ (letters.map CodePoint.ofChar ++ after) ∧
      letters.map Char.toLower = word.toList ∧ IsBlank before ∧ IsBlank after

variable {before after t : Text}

theorem trimStart_append_left (h : IsBlank before) (t : Text) :
    trimStart (before ++ t) = trimStart t :=
  List.dropWhile_append_of_pos h

theorem trimEnd_append_right (h : IsBlank after) (t : Text) : trimEnd (t ++ after) = trimEnd t := by
  have hr : ∀ c ∈ after.reverse, c.isBlank = true := fun c hc => h c (List.mem_reverse.1 hc)
  rw [trimEnd, List.reverse_append, List.dropWhile_append_of_pos hr, trimEnd]

/-- Blanks around a text do not matter. -/
theorem trim_append (hb : IsBlank before) (ha : IsBlank after) (t : Text) :
    trim (before ++ (t ++ after)) = trim t := by
  have hnil : trimStart after = [] := by
    have := trimStart_append_left ha []
    rwa [List.append_nil] at this
  rw [trim, trimStart_append_left hb, trim]
  have happ : trimStart (t ++ after) = if (trimStart t).isEmpty then trimStart after
      else trimStart t ++ after := List.dropWhile_append
  rw [happ]
  split
  · rename_i h
    rw [hnil, List.isEmpty_iff.1 h]
  · exact trimEnd_append_right ha _

theorem trim_eq_self (h : ∀ c ∈ t, c.isBlank = false) : trim t = t := by
  have hdrop {s : Text} (hs : ∀ c ∈ s, c.isBlank = false) : s.dropWhile CodePoint.isBlank = s := by
    cases s with
    | nil => rfl
    | cons c s => exact List.dropWhile_cons_of_neg (by simp [hs c])
  have hr : ∀ c ∈ t.reverse, c.isBlank = false := fun c hc => h c (List.mem_reverse.1 hc)
  rw [trim, trimStart, hdrop h, trimEnd, hdrop hr, List.reverse_reverse]

/-- A text that begins and ends with something else than blanks is trimmed already. -/
theorem trim_enclosed {a b : CodePoint} (ha : a.isBlank = false) (hb : b.isBlank = false)
    (s : Text) : trim (a :: (s ++ [b])) = a :: (s ++ [b]) := by
  have hs : trimStart (a :: (s ++ [b])) = a :: (s ++ [b]) :=
    List.dropWhile_cons_of_neg (by simp [ha])
  have he : (a :: (s ++ [b])).reverse = b :: (a :: s).reverse := by simp
  rw [trim, hs, trimEnd, he, List.dropWhile_cons_of_neg (by simp [hb]), ← he, List.reverse_reverse]

theorem enclosedBy_iff {a b : CodePoint} : t.enclosedBy a b = true ↔ ∃ s, t = a :: (s ++ [b]) := by
  simp only [enclosedBy, Bool.and_eq_true, decide_eq_true_eq, beq_iff_eq]
  constructor
  · rintro ⟨⟨hlen, hhead⟩, hlast⟩
    cases t with
    | nil => cases hhead
    | cons c r =>
      obtain rfl : c = a := Option.some.inj hhead
      rcases List.eq_nil_or_concat r with rfl | ⟨s, d, rfl⟩
      · exact absurd hlen (by simp)
      · rw [List.concat_eq_append, ← List.cons_append, List.getLast?_concat] at hlast
        obtain rfl : d = b := Option.some.inj hlast
        exact ⟨s, by rw [List.concat_eq_append]⟩
  · rintro ⟨s, rfl⟩
    refine ⟨⟨by simp, rfl⟩, ?_⟩
    rw [← List.cons_append, List.getLast?_concat]

theorem inner_enclosed (a b : CodePoint) (s : Text) : inner (a :: (s ++ [b])) = s :=
  List.dropLast_concat

/-- Lower-casing is done character by character as long as the characters are ASCII. -/
theorem lowerAfter_ascii {l : List Char} (h : ∀ c ∈ l, c.toNat < 0x80) (before r : Text) :
    lowerAfter before (l.map CodePoint.ofChar ++ r) =
      (l.map Char.toLower).map CodePoint.ofChar ++
        lowerAfter ((l.map CodePoint.ofChar).reverse ++ before) r := by
  induction l generalizing before with
  | nil => rfl
  | cons c l ih =>
    have hc := h c List.mem_cons_self
    have hsigma : ¬((CodePoint.ofChar c).val = 0x3A3 ∧ casedNext before = true ∧
        ¬casedNext (l.map CodePoint.ofChar ++ r) = true) := by
      rintro ⟨hs, -⟩
      rw [CodePoint.val_ofChar] at hs
      omega
    rw [List.map_cons, List.cons_append, lowerAfter, if_neg hsigma, CodePoint.lower_ofChar hc,
      ih fun d hd => h d (List.mem_cons_of_mem _ hd)]
    simp

theorem lower_ascii {l : List Char} (h : ∀ c ∈ l, c.toNat < 0x80) :
    lower (l.map CodePoint.ofChar) = (l.map Char.toLower).map CodePoint.ofChar := by
  have := lowerAfter_ascii h [] []
  rwa [List.append_nil, lowerAfter, List.append_nil] at this

/-- A visible ASCII character. -/
def IsVisible (c : Char) : Prop := 0x21 ≤ c.toNat ∧ c.toNat ≤ 0x7E

instance (c : Char) : Decidable (IsVisible c) :=
  inferInstanceAs (Decidable (0x21 ≤ c.toNat ∧ c.toNat ≤ 0x7E))

/-- A word of such characters. -/
def IsWord (word : String) : Prop := ∀ c ∈ word.toList, IsVisible c

-- named, since instance search would sooner run through all characters that there are
instance (word : String) : Decidable (IsWord word) := List.decidableBAll IsVisible word.toList

theorem isVisible_of_toLower {c : Char} (h : IsVisible c.toLower) : IsVisible c := by
  unfold Char.toLower at h
  split at h
  · rename_i hc
    have h1 : 65 ≤ c.toNat := hc.1
    have h2 : c.toNat ≤ 90 := hc.2
    exact ⟨by omega, by omega⟩
  · exact h

theorem isBlank_of_isVisible {c : Char} (h : IsVisible c) :
    (CodePoint.ofChar c).isBlank = false :=
  CodePoint.isBlank_of_visible h.1 h.2

theorem IsBlank.ne_visible (h : IsBlank t) {c : Char} (hc : IsVisible c) : ∀ d ∈ t, d ≠ c := by
  rintro d hd rfl
  have := h _ hd
  rw [isBlank_of_isVisible hc] at this
  cases this

theorem isVisible_of_map_toLower {letters : List Char} {word : String}
    (h : letters.map Char.toLower = word.toList) (hw : IsWord word) :
    ∀ c ∈ letters, IsVisible c := by
  intro c hc
  apply isVisible_of_toLower
  apply hw
  rw [← h]
  exact List.mem_map_of_mem hc

/-- A visible character whose small letter is not in the word is not in a spelling of it. -/
theorem Spells.ne_of_not_mem {word : String} (h : Spells word t) {x : Char} (hx : IsVisible x)
    (hn : x.toLower ∉ word.toList) : ∀ c ∈ t, c ≠ x := by
  obtain ⟨before, letters, after, rfl, hl, hb, ha⟩ := h
  intro c hc
  rcases List.mem_append.1 hc with hc | hc
  · exact hb.ne_visible hx c hc
  · rcases List.mem_append.1 hc with hc | hc
    · obtain ⟨d, hd, rfl⟩ := List.mem_map.1 hc
      intro he
      apply hn
      rw [← hl, ← CodePoint.ofChar_inj.1 he]
      exact List.mem_map_of_mem hd
    · exact ha.ne_visible hx c hc

/-- A spelled word is found without the blanks around it. -/
theorem Spells.trim {word : String} (h : Spells word t) (hw : IsWord word) :
    ∃ letters : List Char, t.trim = letters.map CodePoint.ofChar ∧
      letters.map Char.toLower = word.toList ∧ ∀ c ∈ letters, IsVisible c := by
  obtain ⟨before, letters, after, rfl, hl, hb, ha⟩ := h
  have hv := isVisible_of_map_toLower hl hw
  refine ⟨letters, ?_, hl, hv⟩
  rw [trim_append hb ha]
  apply trim_eq_self
  intro c hc
  obtain ⟨d, hd, rfl⟩ := List.mem_map.1 hc
  exact isBlank_of_isVisible (hv d hd)

theorem lower_trim_of_spells {word : String} (h : Spells word t) (hw : IsWord word) :
    t.trim.lower = word := by
  obtain ⟨letters, ht, hl, hv⟩ := h.trim hw
  have hascii : ∀ c ∈ letters, c.toNat < 0x80 := fun c hc =>
    Nat.lt_of_le_of_lt (hv c hc).2 (by decide)
  rw [ht, lower_ascii hascii, hl]
  rfl

section

variable {x : CodePoint} {s : Text}

theorem cut_append_cons (h : ∀ c ∈ s, c ≠ x) (r : Text) : cut x (s ++ x :: r) = (s, some r) := by
  have hp : ∀ c ∈ s, (c != x) = true := fun c hc => bne_iff_ne.2 (h c hc)
  rw [cut, List.takeWhile_append_of_pos hp, List.dropWhile_append_of_pos hp]
  simp

theorem cut_of_not_mem (h : ∀ c ∈ s, c ≠ x) : cut x s = (s, none) := by
  have hp : ∀ c ∈ s, (c != x) = true := fun c hc => bne_iff_ne.2 (h c hc)
  have ht : s.takeWhile (· != x) = s := by
    rw [← List.append_nil s, List.takeWhile_append_of_pos hp]
    simp
  have hd : s.dropWhile (· != x) = [] := by
    rw [← List.append_nil s, List.dropWhile_append_of_pos hp]
    rfl
  rw [cut, ht, hd]
  rfl

end

end Text

end Mime
