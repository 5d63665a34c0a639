import Mime.Proofs.Header.Decode
import Mime.Proofs.Header.Encode

/-! Reading undoes writing. A value that is folded or encoded and then read gives itself back,
surrogates being written as question marks: `unfoldAndDecode_foldAndEncode`. -/

namespace Mime.Header

open EncodedWord

/-- Unfolding removes what joining lines has put between them. -/
theorem unfold_joinLines (first : Text) (more : List Text) :
    unfold (joinLines first more) = unfold (first ++ more.flatten) := by
  rw [joinLines, unfold_append, unfold_append]
  congr 1
  induction more with
  | nil => rfl
  | cons line more ih =>
    rw [List.flatMap_cons, List.flatten_cons, unfold_append, unfold_append, unfold_append, ih]
    rfl

/-- A word for each of the texts, each after the same gap. -/
def wordsAfter (gap : Text) (ts : List Text) : Text :=
  ts.flatMap fun t => gap ++ (ofText t).verbatim

theorem wordsAfter_cons (gap t : Text) (ts : List Text) :
    wordsAfter gap (t :: ts) = gap ++ ((ofText t).verbatim ++ wordsAfter gap ts) := by
  rw [wordsAfter, List.flatMap_cons, List.append_assoc]
  rfl

theorem split_wordsAfter {gap : Text} (hg : gap.all isLinearBlank = true) (ts : List Text) :
    split (wordsAfter gap ts) = (ts.map fun t => (gap, ofText t), []) := by
  have he : ∀ c ∈ gap, c ≠ '=' := by
    rintro c hc rfl
    exact absurd (List.all_eq_true.1 hg _ hc) (by decide)
  induction ts with
  | nil => exact split_nil
  | cons t ts ih =>
    rw [wordsAfter_cons, split_append_word (wellFormed_ofText t) (silent_of_no_equals he _), ih]
    rfl

theorem ne_nil_of_needsEncoding {t : Text} (h : needsEncoding t = true) : t ≠ [] := by
  rintro rfl
  simp [needsEncoding, split_nil] at h

theorem written_of_plain {t : Text} (h : ∀ c ∈ t, IsPlain c) : t.written = t :=
  Text.written_eq_self fun c hc => isSurrogate_of_plain (h c hc)

theorem unfold_words {t : Text} (ts : List Text) :
    unfold (lineOf t ++ wordsAfter " " ts) = lineOf t ++ wordsAfter " " ts := by
  have hv (x : Text) : ∀ c ∈ (ofText x).verbatim, isLineBreak c = false := fun c hc =>
    isLineBreak_of_plain (isPlain_of_mem_verbatim hc)
  refine unfold_eq_self fun c hc => ?_
  rcases List.mem_append.1 hc with hc | hc
  · unfold lineOf at hc
    split at hc
    · cases hc
    · exact hv t c hc
  · obtain ⟨x, -, hx⟩ := List.mem_flatMap.1 hc
    rcases List.mem_append.1 hx with hx | hx
    · rw [List.mem_singleton.1 hx]
      rfl
    · exact hv x c hx

/-- A line of twenty characters has room for a word of any one character. -/
theorem startsLate_eq_false {width : Int} (h : 20 ≤ width) (t : Text) :
    startsLate 0 width t = false := by
  cases t with
  | nil => rfl
  | cons c r =>
    have hc := c.length_utf8_le
    simp only [startsLate, wordCapacity_eq, decide_eq_false_iff_not]
    omega

section

variable [Charset.Registry]

/-- After a word, the gaps before the others go. -/
theorem outcome_join_words {gap : Text} (hg : gap.all isLinearBlank = true) (ts : List Text) :
    (join true (ts.map fun t => (gap, ofText t)) []).outcome = .ok (Text.written ts.flatten) := by
  induction ts with
  | nil => rfl
  | cons t ts ih =>
    rw [List.map_cons, outcome_join_read (read_ofText t), ih, hg, List.flatten_cons,
      Text.written_append]
    rfl

/-- A line that is not empty, and words after it, are read as one text. -/
theorem outcome_decode_line {gap first : Text} (hg : gap.all isLinearBlank = true)
    (hf : first ≠ []) (more : List Text) :
    (decode (lineOf first ++ wordsAfter gap more)).outcome =
      .ok (Text.written (first ++ more.flatten)) := by
  have hs : split (lineOf first ++ wordsAfter gap more) =
      (([], ofText first) :: more.map fun t => (gap, ofText t), []) := by
    rw [lineOf, if_neg hf, split_of_read? (read?_verbatim_append (wellFormed_ofText first) _),
      split_wordsAfter hg]
  rw [decode, hs, outcome_join_read (read_ofText first), outcome_join_words hg,
    Text.written_append]
  rfl

/-- Words after an empty line keep the gap before the first of them. -/
theorem outcome_decode_late {gap : Text} (hg : gap.all isLinearBlank = true) (t : Text)
    (ts : List Text) :
    (decode (wordsAfter gap (t :: ts))).outcome =
      .ok (gap ++ Text.written (t ++ ts.flatten)) := by
  rw [decode, split_wordsAfter hg, List.map_cons, outcome_join_read (read_ofText t),
    outcome_join_words hg, Text.written_append]
  simp [Functor.map, Except.map]

/-- What reading makes of an encoded value, in whatever way its lines are put together. -/
theorem outcome_decode_wordLines {gap : Text} (hg : gap.all isLinearBlank = true)
    {used width : Int} {t first : Text} {more : List Text} (ht : t = first ++ more.flatten)
    (ht0 : t ≠ []) (hlate : first = [] ↔ t = [] ∨ startsLate used width t = true) :
    (decode (lineOf first ++ wordsAfter gap more)).outcome =
      .ok (if startsLate used width t then gap ++ t.written else t.written) := by
  by_cases hf : first = []
  · have hl : startsLate used width t = true := (hlate.1 hf).resolve_left ht0
    subst hf
    cases more with
    | nil => exact absurd ht ht0
    | cons x xs =>
      rw [if_pos hl, lineOf, if_pos rfl, List.nil_append, outcome_decode_late hg, ht]
      rfl
  · have hl : ¬startsLate used width t = true := fun h => hf (hlate.2 (.inr h))
    rw [if_neg hl, outcome_decode_line hg hf, ht]

theorem outcome_foldAndEncode_of_plain {t : Text} (h : needsEncoding t = false) {used : Int}
    (hu : 0 ≤ used) (width : Int) :
    (unfoldAndDecode (foldAndEncode used width t)).outcome = .ok t := by
  obtain ⟨hp, hs⟩ := plain_of_not_needsEncoding h
  have hb : unfold t = t := unfold_eq_self fun c hc =>
    isLineBreak_of_plain (hp c hc)
  rw [unfoldAndDecode, foldAndEncode, h, if_neg (by decide), fold, unfold_joinLines,
    foldedLines_flatten hu, hb, outcome_decode_of_silent hs]

theorem outcome_foldAndEncode_of_encoded {t : Text} (h : needsEncoding t = true)
    (used width : Int) :
    (unfoldAndDecode (foldAndEncode used width t)).outcome =
      .ok (if startsLate used width t then " " ++ t.written else t.written) := by
  obtain ⟨first, more, ht, -, hlate, hl⟩ := wordLines_pieces used width t
  have hw : (more.map fun x => " " ++ (ofText x).verbatim).flatten = wordsAfter " " more := by
    rw [wordsAfter, List.flatMap_def]
  rw [unfoldAndDecode, foldAndEncode, encodeWords, if_pos h, if_pos h, hl, unfold_joinLines, hw,
    unfold_words, outcome_decode_wordLines (by decide) ht (ne_nil_of_needsEncoding h) hlate]

/-- Reading gives back what was written, perhaps with a blank before it. -/
theorem exists_outcome_foldAndEncode {t : Text} (hs : ∀ c ∈ t, c.isSurrogate = false) {used : Int}
    (hu : 0 ≤ used) (width : Int) :
    ∃ lead, Text.IsBlank lead ∧
      (unfoldAndDecode (foldAndEncode used width t)).outcome = .ok (lead ++ t) := by
  cases hn : needsEncoding t with
  | false => exact ⟨[], by decide, outcome_foldAndEncode_of_plain hn hu width⟩
  | true =>
    rw [outcome_foldAndEncode_of_encoded hn, Text.written_eq_self hs]
    split
    · exact ⟨" ", by decide, rfl⟩
    · exact ⟨[], by decide, rfl⟩

theorem outcome_encode {t : Text} (hs : ∀ c ∈ t, c.isSurrogate = false) {s : Settings}
    (hw : 20 ≤ s.headerFoldWidth) : (decode (encode s t)).outcome = .ok t := by
  unfold encode encodeWords
  split
  · rename_i h
    obtain ⟨first, more, ht, -, hlate, hl⟩ := wordLines_pieces 0 s.headerFoldWidth t
    have hj : joinLines (lineOf first) (more.map fun x => " " ++ (ofText x).verbatim) =
        lineOf first ++ wordsAfter "\r\n " more := by
      rw [joinLines, List.flatMap_map]
      rfl
    rw [hl, hj, outcome_decode_wordLines (by decide) ht (ne_nil_of_needsEncoding h) hlate,
      startsLate_eq_false hw, Text.written_eq_self hs]
    rfl
  · rename_i h
    exact outcome_decode_of_silent (plain_of_not_needsEncoding (by simpa using h)).2

/-- Reading a written value gives it back, with a space before it if its first character did
not fit on the first line. On lines of at least twenty characters, unfolding is not needed. -/
theorem unfoldAndDecode_foldAndEncode :
    (∀ (t : Text) (used width : Int), 0 ≤ used →
      (NeedsWords t ∧ startsLate used width t = true →
        (unfoldAndDecode (foldAndEncode used width t)).outcome = .ok (" " ++ t.written)) ∧
      (¬(NeedsWords t ∧ startsLate used width t = true) →
        (unfoldAndDecode (foldAndEncode used width t)).outcome = .ok t.written)) ∧
    ∀ (t : Text) (s : Settings), (∀ c ∈ t, c.isSurrogate = false) → 20 ≤ s.headerFoldWidth →
      (decode (encode s t)).outcome = .ok t := by
  refine ⟨fun t used width hu => ⟨?_, ?_⟩, fun t s hs hw => outcome_encode hs hw⟩
  · rintro ⟨hn, hl⟩
    rw [outcome_foldAndEncode_of_encoded (needsEncoding_iff.2 hn), if_pos hl]
  · intro h
    cases hn : needsEncoding t with
    | true =>
      have hl : ¬startsLate used width t = true := fun hl => h ⟨needsEncoding_iff.1 hn, hl⟩
      rw [outcome_foldAndEncode_of_encoded hn, if_neg hl]
    | false =>
      rw [outcome_foldAndEncode_of_plain hn hu,
        written_of_plain (plain_of_not_needsEncoding hn).1]

end

section

attribute [local instance] Charset.Registry.bare

theorem unfoldAndDecode_foldAndEncode_accented :
    (NeedsWords "é" ∧ startsLate 70 76 "é" = true ∧
      (unfoldAndDecode (foldAndEncode 70 76 "é")).outcome = .ok " é") ∧
    (¬(NeedsWords "a b" ∧ startsLate 0 2 "a b" = true) ∧
      (unfoldAndDecode (foldAndEncode 0 2 "a b")).outcome = .ok "a b") ∧
    (decode (encode {} "é\r\n")).outcome = .ok "é\r\n" := by
  have hn : NeedsWords "é" := .inl ⟨'é', by decide, by decide⟩
  have hp : ¬(NeedsWords "a b" ∧ startsLate 0 2 "a b" = true) := by
    rw [← needsEncoding_iff, needsEncoding, split_of_silent (silent_of_no_equals (by decide) [])]
    decide
  refine ⟨⟨hn, by decide, ?_⟩, ⟨hp, ?_⟩, ?_⟩
  · exact (unfoldAndDecode_foldAndEncode.1 "é" 70 76 (by decide)).1 ⟨hn, by decide⟩
  · exact (unfoldAndDecode_foldAndEncode.1 "a b" 0 2 (by decide)).2 hp
  · exact unfoldAndDecode_foldAndEncode.2 "é\r\n" {} (by decide) (by decide)

end

end Mime.Header
