import Mime.Proofs.Header.Decode
import Mime.Proofs.Text.Spelling

/-! Blanks part the words of a value. No word has a blank in it, so that the words on either side of
a blank are found as if the other side were not there (`split_append_blank`), and blanks around a
value are around what it decodes to (`outcome_decode_around`). -/

namespace Mime

namespace EncodedWord

open Text (IsBlank)

variable {c : CodePoint} {before after : Text} {w : EncodedWord}

theorem isBlank_of_mem_verbatim (hw : w.WellFormed) (hc : c ∈ w.verbatim) : c.isBlank = false := by
  have htoken {d : CodePoint} (hd : isToken d = true) : d.isBlank = false := by
    rw [isToken, Bool.and_eq_true, Bool.not_eq_true'] at hd
    exact hd.2
  have hletter : w.letter.isBlank = false := by
    have hl := hw.letter
    simp only [isLetter, Bool.or_eq_true, beq_iff_eq] at hl
    rcases hl with ((hl | hl) | hl) | hl <;> rw [hl] <;> decide
  have hopen : ∀ d ∈ ("=?" : Text), d.isBlank = false := by decide
  have hmark : ∀ d ∈ ("?" : Text), d.isBlank = false := by decide
  have hclose : ∀ d ∈ ("?=" : Text), d.isBlank = false := by decide
  rw [verbatim] at hc
  simp only [List.mem_append, List.mem_cons] at hc
  rcases hc with hc | hc | hc | rfl | hc | hc | hc
  · exact hopen c hc
  · exact htoken (hw.charset c hc)
  · exact hmark c hc
  · exact hletter
  · exact hmark c hc
  · exact htoken (hw.text c hc)
  · exact hclose c hc

/-- A word that begins before a blank ends before it. -/
theorem read?_append_blank (hc : c.isBlank = true) (a b : Text) :
    read? (a ++ c :: b) = (read? a).map fun p => (p.1, p.2 ++ c :: b) := by
  cases h : read? (a ++ c :: b) with
  | none =>
    cases ha : read? a with
    | none => rfl
    | some p =>
      obtain ⟨hw, rfl⟩ := read?_eq_some_iff.1 ha
      rw [List.append_assoc, read?_verbatim_append hw] at h
      cases h
  | some p =>
    obtain ⟨hw, he⟩ := read?_eq_some_iff.1 h
    rcases List.append_eq_append_iff.1 he with ⟨u, hv, hu⟩ | ⟨u, ha, hu⟩
    · cases u with
      | nil =>
        rw [List.append_nil] at hv
        have ha := read?_verbatim_append hw []
        rw [List.append_nil, hv] at ha
        rw [ha]
        exact congrArg (fun r => some (p.1, r)) hu.symm
      | cons d u =>
        obtain ⟨rfl, -⟩ := List.cons.inj hu
        have hd := isBlank_of_mem_verbatim hw (c := c) (by rw [hv]; simp)
        rw [hc] at hd
        cases hd
    · rw [ha, read?_verbatim_append hw, Option.map_some, ← hu]

/-- The words on either side of a blank are found apart from each other. -/
theorem split_append_blank (hc : c.isBlank = true) (a b : Text) :
    split (a ++ c :: b) = glue (split a) (split (c :: b)) := by
  induction hn : a.length using Nat.strongRecOn generalizing a with
  | ind n ih =>
    subst hn
    cases h : read? a with
    | some p =>
      have hlong : read? (a ++ c :: b) = some (p.1, p.2 ++ c :: b) := by
        rw [read?_append_blank hc, h, Option.map_some]
      rw [split_eq_glue_word hlong, split_eq_glue_word h, ih _ (length_of_read? h) _ rfl,
        glue_assoc]
    | none =>
      cases a with
      | nil => rw [List.nil_append, split_nil, glue_nil_left]
      | cons d a =>
        have hlong : read? (d :: (a ++ c :: b)) = none := by
          rw [← List.cons_append, read?_append_blank hc, h, Option.map_none]
        rw [List.cons_append, split_eq_glue_cons hlong, split_eq_glue_cons h,
          ih _ (Nat.lt_succ_self _) _ rfl, glue_assoc]

theorem silent_of_isBlank (h : IsBlank before) (t : Text) : Silent before t :=
  silent_of_no_equals (h.ne_visible (by decide)) t

/-- Blanks around a text belong to its first gap and to what follows its last word. -/
theorem split_around_blanks (hb : IsBlank before) (ha : IsBlank after) (t : Text) :
    split (before ++ (t ++ after)) = glue ([], before) (glue (split t) ([], after)) := by
  rw [split_append_of_silent (silent_of_isBlank hb _)]
  congr 1
  cases after with
  | nil =>
    rw [List.append_nil]
    exact Prod.ext rfl (List.append_nil _).symm
  | cons c after =>
    rw [split_append_blank (ha c List.mem_cons_self), split_of_silent (silent_of_isBlank ha [])]

end EncodedWord

namespace Header

open EncodedWord
open Text (IsBlank)

theorem IsLinear.isBlank {t : Text} (h : IsLinear t) : IsBlank t := by
  intro c hc
  rcases h c hc with rfl | rfl | rfl | rfl <;> decide

theorem IsLinear.unfold {t : Text} (h : IsLinear t) : IsLinear (Header.unfold t) :=
  fun c hc => h c (List.mem_filter.1 hc).1

variable [Charset.Registry] {before after : Text}

theorem outcome_join_append (afterWord : Bool) (ps : List (Text × EncodedWord))
    (last after : Text) :
    (join afterWord ps (last ++ after)).outcome =
      (· ++ after) <$> (join afterWord ps last).outcome := by
  induction ps generalizing afterWord with
  | nil => rfl
  | cons p ps ih =>
    obtain ⟨gap, w⟩ := p
    rcases outcome_join_word w with ⟨f, hf⟩ | ⟨decoded, shown, hw⟩
    · rw [hf, hf]
      rfl
    · rw [hw, hw, ih]
      simp only [Functor.map_map, List.append_assoc]

/-- The gap before the first word is kept where no word comes before it, or where it has something
else than linear blanks. -/
theorem outcome_join_glue {afterWord : Bool} (h : afterWord = false ∨ ¬IsLinear before)
    (x : List (Text × EncodedWord) × Text) :
    (join afterWord (glue ([], before) x).1 (glue ([], before) x).2).outcome =
      (before ++ ·) <$> (join false x.1 x.2).outcome := by
  obtain ⟨ps, last⟩ := x
  cases ps with
  | nil => rfl
  | cons p ps =>
    obtain ⟨gap, w⟩ := p
    have hkept : (afterWord && (before ++ gap).all isLinearBlank) = false := by
      rcases h with rfl | h
      · rfl
      · rw [List.all_append, Bool.eq_false_iff.2 (all_isLinearBlank_iff.not.2 h), Bool.false_and,
          Bool.and_false]
    show (join afterWord ((before ++ gap, w) :: ps) last).outcome = _
    rcases outcome_join_word w with ⟨f, hf⟩ | ⟨decoded, shown, hw⟩
    · rw [hf, hf]
      rfl
    · rw [hw, hw, Bool.and_right_comm, hkept]
      simp only [Functor.map_map, Bool.false_and, Bool.false_eq_true, if_false, List.append_assoc]

/-- Blanks around a value are around what it decodes to. -/
theorem outcome_decode_around (hb : IsBlank before) (ha : IsBlank after) (t : Text) :
    (decode (before ++ (t ++ after))).outcome =
      (fun r => before ++ (r ++ after)) <$> (decode t).outcome := by
  have hafter : glue (split t) ([], after) = ((split t).1, (split t).2 ++ after) := rfl
  rw [decode, split_around_blanks hb ha, outcome_join_glue (.inl rfl), hafter, outcome_join_append,
    decode, Functor.map_map]

theorem outcome_unfoldAndDecode_around (hb : IsLinear before) (ha : IsLinear after) (t : Text) :
    (unfoldAndDecode (before ++ (t ++ after))).outcome =
      (fun r => unfold before ++ (r ++ unfold after)) <$> (unfoldAndDecode t).outcome := by
  rw [unfoldAndDecode, unfold_append, unfold_append]
  exact outcome_decode_around hb.unfold.isBlank ha.unfold.isBlank (unfold t)

end Header

end Mime
