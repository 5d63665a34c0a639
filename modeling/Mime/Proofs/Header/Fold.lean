import Mime.Header.Fold

/-! The lines of a folded value. Every line but the first begins with one blank and goes on
with text, and no line has a character that the value has not. -/

namespace Mime.Header

theorem isFoldingBlank_iff {c : CodePoint} : isFoldingBlank c = true ↔ c = ' ' ∨ c = '\t' := by
  rw [isFoldingBlank, Bool.or_eq_true, beq_iff_eq, beq_iff_eq]

theorem isFoldingBlank_eq_false_iff {c : CodePoint} :
    isFoldingBlank c = false ↔ c ≠ ' ' ∧ c ≠ '\t' := by
  rw [← Bool.not_eq_true, isFoldingBlank_iff, not_or]

/-- A line that begins with one blank, which text follows. -/
def Continues (line : Text) : Prop :=
  ∃ blank c r, line = blank :: c :: r ∧ isFoldingBlank blank = true ∧ isFoldingBlank c = false

theorem Continues.append {line : Text} (h : Continues line) (more : Text) :
    Continues (line ++ more) := by
  obtain ⟨blank, c, r, rfl, hb, hc⟩ := h
  exact ⟨blank, c, r ++ more, rfl, hb, hc⟩

/-- There is no break directly before text, so a stretch that begins with text keeps it. -/
theorem stretches_fst_cons {c : CodePoint} (h : isFoldingBlank c = false) (t : Text) :
    ∃ r, (stretches (c :: t)).1 = c :: r := by
  cases t with
  | nil => exact ⟨[], rfl⟩
  | cons d t =>
    unfold stretches
    simp only [h, Bool.false_and, Bool.false_eq_true, if_false]
    exact ⟨_, rfl⟩

theorem continues_of_mem_stretches {t s : Text} (h : s ∈ (stretches t).2) : Continues s := by
  induction t with
  | nil => cases h
  | cons c t ih =>
    cases t with
    | nil => cases h
    | cons d r =>
      unfold stretches at h
      simp only at h
      split at h
      · rename_i hb
        rw [Bool.and_eq_true, Bool.not_eq_true'] at hb
        rcases List.mem_cons.1 h with rfl | h
        · obtain ⟨x, hx⟩ := stretches_fst_cons hb.2 r
          exact ⟨c, d, x, by rw [hx], hb.1, hb.2⟩
        · exact ih h
      · exact ih h

section

variable {width used : Int} {s : Text}

theorem fill_of_full (h : used + s.length > width ∧ 0 < used) (ss : List Text) :
    fill width used (s :: ss) =
      ([], (s ++ (fill width s.length ss).1) :: (fill width s.length ss).2) := if_pos h

theorem fill_of_room (h : ¬(used + s.length > width ∧ 0 < used)) (ss : List Text) :
    fill width used (s :: ss) =
      (s ++ (fill width (used + s.length) ss).1, (fill width (used + s.length) ss).2) := if_neg h

/-- An empty line takes what comes first, however long it is. -/
theorem fill_zero (width : Int) (s : Text) (ss : List Text) :
    fill width 0 (s :: ss) = (s ++ (fill width s.length ss).1, (fill width s.length ss).2) := by
  rw [fill_of_room fun h => Int.lt_irrefl 0 h.2, Int.zero_add]

end

/-- A new line is begun only with a stretch. -/
theorem continues_of_mem_fill {width used : Int} {ss : List Text} (hs : ∀ s ∈ ss, Continues s)
    {line : Text} (h : line ∈ (fill width used ss).2) : Continues line := by
  induction ss generalizing used with
  | nil => cases h
  | cons s more ih =>
    have hm : ∀ x ∈ more, Continues x := fun x hx => hs x (List.mem_cons_of_mem s hx)
    unfold fill at h
    split at h
    · rcases List.mem_cons.1 h with rfl | h
      · exact (hs s List.mem_cons_self).append _
      · exact ih hm h
    · exact ih hm h

theorem continues_of_mem_foldedLines {used width : Int} {t line : Text}
    (h : line ∈ (foldedLines used width t).2) : Continues line := by
  unfold foldedLines at h
  split at h
  · cases h
  · exact continues_of_mem_fill (fun s hs => continues_of_mem_stretches hs) h

/-- Whatever is already on the first line, the lines have the characters of the value only. -/
theorem mem_of_mem_foldedLines {used width : Int} {t : Text} {c : CodePoint}
    (h : c ∈ (foldedLines used width t).1 ++ (foldedLines used width t).2.flatten) : c ∈ t := by
  unfold foldedLines at h
  split at h
  · simpa using h
  · rw [← stretches_flatten t,
      ← fill_flatten width (used + (stretches t).1.length) (stretches t).2, ← List.append_assoc]
    rcases List.mem_append.1 h with h | h
    · exact List.mem_append_left _ (List.mem_of_mem_drop h)
    · exact List.mem_append_right _ h

theorem joinLines_append (s first : Text) (more : List Text) :
    joinLines (s ++ first) more = s ++ joinLines first more := List.append_assoc ..

theorem joinLines_cons (first line : Text) (more : List Text) :
    joinLines first (line :: more) = first ++ (lineBreak ++ joinLines line more) := by
  simp [joinLines]

end Mime.Header
