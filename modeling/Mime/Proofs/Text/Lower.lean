import Mathlib.Data.List.DropRight
import Mathlib.Data.List.TakeWhile
import Mime.Text.Blank
import Mime.Text.Lower

/-! Lower-casing and trimming. The small letters of a character are blank exactly if the character
is, so that lower-casing neither makes nor removes blanks around a text:
`trim_lower_eq_self_iff`. -/

namespace Mime

namespace CodePoint

/-- The numbers of the blank characters. -/
def blanks : List Nat :=
  [0x09, 0x0A, 0x0B, 0x0C, 0x0D, 0x1C, 0x1D, 0x1E, 0x1F, 0x20, 0x85, 0xA0, 0x1680, 0x2000, 0x2001,
    0x2002, 0x2003, 0x2004, 0x2005, 0x2006, 0x2007, 0x2008, 0x2009, 0x200A, 0x2028, 0x2029, 0x202F,
    0x205F, 0x3000]

theorem val_mem_blanks {c : CodePoint} (h : c.isBlank = true) : c.val ∈ blanks := by
  simp only [isBlank, Bool.or_eq_true, Bool.and_eq_true, decide_eq_true_eq, beq_iff_eq] at h
  simp only [blanks, List.mem_cons, List.not_mem_nil, or_false]
  omega

/-- No blank is a capital letter, nor the small form of one. -/
theorem capitals_clear : ∀ r ∈ Case.capitals, ∀ n ∈ blanks,
    r.contains n = false ∧ r.contains ((n : Int) - r.shift).toNat = false := by
  decide +kernel

theorem isBlank_small {c : CodePoint} {r : Case.Run} (hr : r ∈ Case.capitals)
    (hc : r.contains c.val = true) :
    (ofNat (c.val + r.shift).toNat).isBlank = false ∧ c.isBlank = false := by
  constructor
  · by_contra hb
    rw [Bool.not_eq_false] at hb
    have hmem := val_mem_blanks hb
    have hpos : ∀ n ∈ blanks, 0 < n ∧ n ≠ replacement.val := by decide
    obtain ⟨hn, hne⟩ := hpos _ hmem
    have hlt : (c.val + r.shift).toNat < 0x110000 := by
      by_contra hlt
      rw [ofNat, dif_neg hlt] at hne
      exact hne rfl
    rw [val_ofNat hlt] at hmem hn
    have hback : (((c.val + r.shift).toNat : Int) - r.shift).toNat = c.val := by omega
    have hclear := (capitals_clear r hr _ hmem).2
    rw [hback, hc] at hclear
    cases hclear
  · by_contra hb
    rw [Bool.not_eq_false] at hb
    have hclear := (capitals_clear r hr _ (val_mem_blanks hb)).1
    rw [hc] at hclear
    cases hclear

/-- A character has small letters, which are blank if it is. -/
theorem isBlank_of_mem_lower (c : CodePoint) :
    c.lower ≠ [] ∧ ∀ d ∈ c.lower, d.isBlank = c.isBlank := by
  have hsame : [c] ≠ [] ∧ ∀ d ∈ [c], d.isBlank = c.isBlank :=
    ⟨List.cons_ne_nil c [], fun d hd => by rw [List.mem_singleton.1 hd]⟩
  unfold lower
  split
  · rename_i hc
    have hb : c.isBlank = false := by
      rw [show c = ofNat 0x130 from CodePoint.ext hc]
      decide
    rw [hb]
    exact ⟨List.cons_ne_nil _ _, by decide⟩
  · split
    · exact hsame
    · split
      · rename_i r hr
        have hfound := List.find?_some hr
        obtain ⟨hsmall, hc⟩ := isBlank_small (List.mem_of_find?_eq_some hr) hfound
        refine ⟨List.cons_ne_nil _ _, ?_⟩
        intro d hd
        rw [List.mem_singleton.1 hd, hsmall, hc]
      · exact hsame

end CodePoint

namespace Text

open CodePoint (isBlank)

theorem trimStart_eq_self_iff {t : Text} : t.trimStart = t ↔ t.head?.map isBlank ≠ some true := by
  cases t with
  | nil => simp [trimStart]
  | cons c r =>
    rw [trimStart, List.dropWhile_eq_self_iff]
    simp

theorem trimEnd_eq_self_iff {t : Text} : t.trimEnd = t ↔ t.getLast?.map isBlank ≠ some true := by
  rw [trimEnd, List.reverse_eq_iff, ← List.head?_reverse]
  exact trimStart_eq_self_iff

/-- A text is trimmed if there is no blank at its beginning and none at its end. -/
theorem trim_eq_self_iff {t : Text} :
    t.trim = t ↔ t.head?.map isBlank ≠ some true ∧ t.getLast?.map isBlank ≠ some true := by
  rw [← trimStart_eq_self_iff, ← trimEnd_eq_self_iff, trim]
  constructor
  · intro h
    have hs : t.trimStart = t := by
      apply (List.dropWhile_suffix isBlank).eq_of_length_le
      calc t.length = t.trimStart.trimEnd.length := by rw [h]
        _ ≤ t.trimStart.length := by
          rw [trimEnd, List.length_reverse]
          exact (List.dropWhile_suffix isBlank).length_le.trans_eq List.length_reverse
    rw [hs] at h
    exact ⟨hs, h⟩
  · intro h
    rw [h.1, h.2]

/-- The small letters of the first character, and of the rest after it. -/
theorem lowerAfter_cons (before : Text) (c : CodePoint) (r : Text) :
    ∃ p : Text, lowerAfter before (c :: r) = p ++ lowerAfter (c :: before) r ∧ p ≠ [] ∧
      ∀ d ∈ p, d.isBlank = c.isBlank := by
  rw [lowerAfter]
  split
  · rename_i hs
    have hc : c.isBlank = false := by
      rw [show c = CodePoint.ofNat 0x3A3 from CodePoint.ext hs.1]
      decide
    refine ⟨_, rfl, List.cons_ne_nil _ _, ?_⟩
    rw [hc]
    decide
  · exact ⟨c.lower, rfl, c.isBlank_of_mem_lower⟩

theorem lowerAfter_concat (before s : Text) (c : CodePoint) :
    ∃ x p : Text, lowerAfter before (s ++ [c]) = x ++ p ∧ p ≠ [] ∧
      ∀ d ∈ p, d.isBlank = c.isBlank := by
  induction s generalizing before with
  | nil =>
    obtain ⟨p, he, hp⟩ := lowerAfter_cons before c []
    refine ⟨[], p, ?_, hp⟩
    rw [List.nil_append, he, lowerAfter, List.append_nil, List.nil_append]
  | cons d s ih =>
    obtain ⟨q, he, -, -⟩ := lowerAfter_cons before d (s ++ [c])
    obtain ⟨x, p, hx, hp⟩ := ih (d :: before)
    refine ⟨q ++ x, p, ?_, hp⟩
    rw [List.cons_append, he, hx, List.append_assoc]

theorem head?_lower (t : Text) : t.lower.head?.map isBlank = t.head?.map isBlank := by
  cases t with
  | nil => rfl
  | cons c r =>
    obtain ⟨p, he, hp, hb⟩ := lowerAfter_cons [] c r
    obtain ⟨d, p, rfl⟩ := List.exists_cons_of_ne_nil hp
    rw [lower, he]
    exact congrArg some (hb d List.mem_cons_self)

theorem getLast?_lower (t : Text) : t.lower.getLast?.map isBlank = t.getLast?.map isBlank := by
  rcases List.eq_nil_or_concat t with rfl | ⟨s, c, rfl⟩
  · rfl
  · obtain ⟨x, p, he, hp, hb⟩ := lowerAfter_concat [] s c
    rw [List.concat_eq_append, lower, he, List.getLast?_append_of_ne_nil _ hp,
      List.getLast?_concat, List.getLast?_eq_some_getLast hp]
    exact congrArg some (hb _ (List.getLast_mem hp))

theorem trim_lower_eq_self_iff {t : Text} : t.lower.trim = t.lower ↔ t.trim = t := by
  rw [trim_eq_self_iff, trim_eq_self_iff, head?_lower, getLast?_lower]

end Text

end Mime
