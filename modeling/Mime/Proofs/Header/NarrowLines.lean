import Mime.Proofs.Header.Layout

/-! Encoded values on lines of less than 21 columns. A word of four octets makes a line of 21, one of
fewer octets a line of 17, and there must be room for a character of four octets. So from 17 columns
on, characters that would have had room on lines of their own may make a line too long together:
`overflow_unavoidable_iff`. -/

namespace Mime.Header

open EncodedWord

/-- A line after the first, with the word of a run of characters. -/
def continuation (run : Text) : Text := " " ++ (ofText run).verbatim

/-- How a text is laid out in words where a line after the first has room for any one character and
no more: each line takes as many characters as come to four octets at most. -/
structure NarrowLayout (used width : Int) (t run : Text) (runs : List Text) : Prop where
  text : t = run ++ runs.flatten
  lines : linesOf (encodeWords used width t) = (lineOf run, runs.map continuation)
  first : run.utf8.length ≤ wordCapacity (width - used)
  others : ∀ r ∈ runs, r ≠ [] ∧ r.utf8.length ≤ 4
  tight : Tight 4 (wordCapacity (width - used)) 0 run runs

variable {used width : Int} {t : Text}

theorem length_continuation (run : Text) :
    (continuation run).length = 13 + (run.utf8.length + 2) / 3 * 4 := by
  have hs : (" " : Text).length = 1 := rfl
  rw [continuation, List.length_append, hs, length_verbatim_ofText]
  omega

theorem continuationCapacity_of_narrow (h : width < 21) : continuationCapacity width = 4 := by
  rw [continuationCapacity, wordCapacity_eq]
  omega

theorem exists_narrowLayout (ht : NeedsWords t) (used : Int) (hw : width < 21) :
    ∃ run runs, NarrowLayout used width t run runs := by
  obtain ⟨run, runs, htext, htight, ho⟩ := wordOctets_runs used width t
  obtain ⟨hfirst, hothers⟩ := length_le_of_wordOctets used width t
  rw [ho, continuationCapacity_of_narrow hw] at hothers
  rw [ho] at hfirst
  rw [continuationCapacity_of_narrow hw] at htight
  refine ⟨run, runs, htext, ?_, hfirst, ?_, htight⟩
  · rw [encodeWords, if_pos (needsEncoding_iff.2 ht), wordLines_eq ho, linesOf_wordLines]
    rfl
  · exact fun r hr => ⟨htight.ne_nil r hr, hothers _ (List.mem_map_of_mem hr)⟩

/-- A line that is longer than the width would be so with its first character alone, exactly if it
does not have several characters that make four octets while three would be within the width. -/
theorem overflow_unavoidable_iff (ht : NeedsWords t) (used : Int) (hw : width < 21) :
    ∃ run runs, NarrowLayout used width t run runs ∧ ∀ c s, c :: s ∈ runs →
      ((width < (continuation (c :: s)).length → width < (continuation [c]).length) ↔
        (17 ≤ width → (Text.utf8 (c :: s)).length = 4 → s = [])) := by
  obtain ⟨run, runs, hl⟩ := exists_narrowLayout ht used hw
  refine ⟨run, runs, hl, ?_⟩
  intro c s hr
  have hle := (hl.others _ hr).2
  have hc : 0 < c.utf8.length := List.length_pos_iff.2 c.utf8_ne_nil
  have hone : Text.utf8 [c] = c.utf8 := List.append_nil _
  have hall : (Text.utf8 (c :: s)).length = c.utf8.length + (Text.utf8 s).length :=
    List.length_append
  have hs : s = [] ↔ (Text.utf8 s).length = 0 := by rw [List.length_eq_zero_iff, utf8_eq_nil_iff]
  rw [length_continuation, length_continuation, hone, hs]
  omega

theorem overflow_unavoidable_iff_mixed :
    NeedsWords "aé€😀" ∧ (20 : Int) < 21 ∧
      linesOf (encodeWords 20 20 "aé€😀") =
        (([] : Text), [continuation "aé", continuation "€", continuation "😀"]) ∧
      ∃ run runs, NarrowLayout 20 20 "aé€😀" run runs ∧ ∀ c s, c :: s ∈ runs →
        (((20 : Int) < (continuation (c :: s)).length → (20 : Int) < (continuation [c]).length) ↔
          ((17 : Int) ≤ 20 → (Text.utf8 (c :: s)).length = 4 → s = [])) := by
  have hn : NeedsWords "aé€😀" := .inl ⟨'é', by decide, by decide⟩
  refine ⟨hn, by decide, ?_, overflow_unavoidable_iff hn 20 (by decide)⟩
  rw [encodeWords, if_pos (needsEncoding_iff.2 hn)]
  decide

/-- Two characters of two octets each on one line of 21 columns, where 20 would do for each. -/
theorem two_accents_overflow :
    ¬∀ (t : Text) (used width : Int), NeedsWords t → width < 21 → ∀ run runs,
      NarrowLayout used width t run runs → ∀ c s, c :: s ∈ runs →
        width < (continuation (c :: s)).length → width < (continuation [c]).length := by
  intro h
  have hn : NeedsWords "éé" := .inl ⟨'é', by decide, by decide⟩
  have hl : NarrowLayout 20 20 "éé" "" ["éé"] := {
    text := rfl
    lines := by
      rw [encodeWords, if_pos (needsEncoding_iff.2 hn)]
      decide
    first := by decide
    others := by decide
    tight := .more (by decide) (.last _) }
  exact absurd (h "éé" 20 20 hn (by decide) "" ["éé"] hl 'é' "é" List.mem_cons_self (by decide))
    (by decide)

end Mime.Header
