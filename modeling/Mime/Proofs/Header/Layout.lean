import Mathlib.Data.List.Forall2
import Mime.Proofs.Header.Fold
import Mime.Proofs.Header.RoundTrip

/-! The lines of an encoded value. Cut at its line breaks, it has a word to a line, each line is
within the width, and no line ends where the next character would have fitted: `layout_encodeWords`.
That a line has room for its word is arithmetic on octets (`length_le_of_distribute`); that it
is filled is a property of the runs of characters (`Tight`). -/

namespace Mime.Header

open EncodedWord

/-- What stands between the line breaks of a text. -/
def linesOf : Text → Text × List Text
  | [] => ([], [])
  | [c] => ([c], [])
  | c :: d :: r =>
    if c = '\r' ∧ d = '\n' then ([], (linesOf r).1 :: (linesOf r).2)
    else (c :: (linesOf (d :: r)).1, (linesOf (d :: r)).2)

theorem linesOf_cons {c : CodePoint} (h : c ≠ '\r') (t : Text) :
    linesOf (c :: t) = (c :: (linesOf t).1, (linesOf t).2) := by
  cases t with
  | nil => rfl
  | cons d r => exact if_neg fun hb => h hb.1

theorem linesOf_append {line : Text} (h : ∀ c ∈ line, c ≠ '\r') (rest : Text) :
    linesOf (line ++ rest) = (line ++ (linesOf rest).1, (linesOf rest).2) := by
  induction line with
  | nil => rfl
  | cons c line ih =>
    rw [List.cons_append, linesOf_cons (h c List.mem_cons_self),
      ih fun x hx => h x (List.mem_cons_of_mem c hx)]
    rfl

/-- Lines that are joined are found again. -/
theorem linesOf_joinLines {first : Text} {more : List Text} (hf : ∀ c ∈ first, c ≠ '\r')
    (hm : ∀ line ∈ more, ∀ c ∈ line, c ≠ '\r') : linesOf (joinLines first more) = (first, more) := by
  induction more generalizing first with
  | nil =>
    rw [joinLines, List.flatMap_nil, linesOf_append hf]
    simp [linesOf]
  | cons line more ih =>
    have hbreak (t : Text) : linesOf (lineBreak ++ t) = ([], (linesOf t).1 :: (linesOf t).2) := rfl
    rw [joinLines_cons, linesOf_append hf, hbreak,
      ih (hm line List.mem_cons_self) fun x hx => hm x (List.mem_cons_of_mem line hx),
      List.append_nil]

/-- Words keep to their capacities, if every new one has room for any character. -/
theorem length_le_of_distribute {next capacity : Nat} {current : Octets} {t : Text} (hn : 4 ≤ next)
    (hc : current.length ≤ capacity) :
    (distribute next capacity current t).1.length ≤ capacity ∧
      ∀ o ∈ (distribute next capacity current t).2, o.length ≤ next := by
  induction t generalizing capacity current with
  | nil => exact ⟨hc, by simp [distribute]⟩
  | cons c r ih =>
    unfold distribute
    split
    -- A character that opens a new word has at most four octets, which any word can hold.
    · obtain ⟨h₁, h₂⟩ := ih (c.length_utf8_le.trans hn)
      refine ⟨hc, fun o ho => ?_⟩
      rcases List.mem_cons.1 ho with rfl | ho
      · exact h₁
      · exact h₂ o ho
    · rename_i hfits
      refine ih ?_
      rw [List.length_append]
      exact Nat.le_of_not_lt hfits

theorem length_le_of_wordOctets (used width : Int) (t : Text) :
    (wordOctets used width t).1.length ≤ wordCapacity (width - used) ∧
      ∀ o ∈ (wordOctets used width t).2, o.length ≤ continuationCapacity width :=
  length_le_of_distribute (Nat.le_max_right (wordCapacity (width - 1)) 4) (Nat.zero_le _)

theorem length_verbatim_ofText (t : Text) :
    (ofText t).verbatim.length = 12 + (t.utf8.length + 2) / 3 * 4 := by
  have hs : wordStart.length = 10 := rfl
  have he : wordEnd.length = 2 := rfl
  rw [← word_utf8, word, List.length_append, List.length_append, List.length_map,
    Base64.length_encode, hs, he]
  omega

/-- What a line has room for is within its budget, and no longer than a word may be. -/
theorem length_verbatim_le {t : Text} {budget : Int} (ht : t ≠ [])
    (h : t.utf8.length ≤ wordCapacity budget) :
    ((ofText t).verbatim.length : Int) ≤ min budget 75 := by
  have hpos : 0 < t.utf8.length := List.length_pos_iff.2 fun h => ht (utf8_eq_nil_iff.1 h)
  rw [length_verbatim_ofText]
  rw [wordCapacity_eq] at h
  omega

/-- Where each line has room for any character, its own capacity is what bounds it. -/
theorem continuationCapacity_eq {width : Int} (h : 21 ≤ width) :
    continuationCapacity width = wordCapacity (width - 1) := by
  rw [continuationCapacity, wordCapacity_eq]
  omega

/-- Between two runs that follow each other, the line of the first is full. -/
theorem Tight.full {next capacity held : Nat} {run : Text} {runs : List Text}
    (h : Tight next capacity held run runs) {before : List Text} {r s : Text} {c : CodePoint}
    {after : List Text} (hr : run :: runs = before ++ r :: (c :: s) :: after) :
    (if before = [] then capacity else next) <
      (if before = [] then held else 0) + r.utf8.length + c.utf8.length := by
  induction h generalizing before with
  | last run =>
    have := congrArg List.length hr
    simp at this
    omega
  | more hc ht ih =>
    cases before with
    | nil =>
      simp only [List.nil_append, List.cons.injEq] at hr
      obtain ⟨rfl, ⟨rfl, rfl⟩, rfl⟩ := hr
      exact hc
    | cons x before =>
      have := ih (List.cons.inj hr).2
      simpa using this

theorem ne_return_of_mem_verbatim {t : Text} {c : CodePoint} (h : c ∈ (ofText t).verbatim) :
    c ≠ '\r' := (isPlain_of_mem_verbatim h).ne_return

theorem linesOf_wordLines (first : Text) (more : List Text) :
    linesOf (joinLines (lineOf first) (more.map fun x => " " ++ (ofText x).verbatim)) =
      (lineOf first, more.map fun x => " " ++ (ofText x).verbatim) := by
  apply linesOf_joinLines
  · intro c hc
    unfold lineOf at hc
    split at hc
    · cases hc
    · exact ne_return_of_mem_verbatim hc
  · intro line hl c hc
    obtain ⟨x, -, rfl⟩ := List.mem_map.1 hl
    rcases List.mem_append.1 hc with hc | hc
    · rw [List.mem_singleton.1 hc]
      decide
    · exact ne_return_of_mem_verbatim hc

section

variable [Charset.Registry]

/-- A text that is one encoded word and no longer than a reader has to accept, and that read on
its own gives the characters of `run`. -/
structure IsWordOf (t run : Text) : Prop where
  word : ∃ w : EncodedWord, w.WellFormed ∧ t = w.verbatim ∧ w.octets? = some run.utf8
  length_le : t.length ≤ 75
  outcome_decode : (decode t).outcome = .ok run.written

theorem isWordOf_ofText {run : Text} {budget : Int} (hr : run ≠ [])
    (h : run.utf8.length ≤ wordCapacity budget) : IsWordOf (ofText run).verbatim run where
  word := ⟨ofText run, wellFormed_ofText run, rfl, octets?_ofText run⟩
  length_le := by
    have := length_verbatim_le hr h
    omega
  outcome_decode := by
    have hd : (decode (lineOf run ++ wordsAfter [] [])).outcome =
        .ok (Text.written (run ++ [].flatten)) := outcome_decode_line rfl hr []
    rwa [lineOf, if_neg hr, wordsAfter, List.flatMap_nil, List.append_nil, List.flatten_nil,
      List.append_nil] at hd

/-- How a text is laid out in words: `line`, on which `used` characters stand already, and the
lines after it, each with the word of a run of characters. -/
structure Layout (used width : Int) (t : Text) (line : Text) (more : List Text) (run : Text)
    (runs : List Text) : Prop where
  text : t = run ++ runs.flatten
  ne_nil : ∀ r ∈ runs, r ≠ []
  empty : run = [] → line = []
  first : run ≠ [] → IsWordOf line run ∧ used + line.length ≤ width
  others : List.Forall₂ (fun l r =>
    (∃ word, l = (" " : Text) ++ word ∧ IsWordOf word r) ∧ (l.length : Int) ≤ width) more runs
  /-- The octets of a run and those of the character after it are too many for the line. -/
  full : ∀ before (r : Text) c s after, run :: runs = before ++ r :: (c :: s) :: after →
    wordCapacity (if before = [] then width - used else width - 1) < r.utf8.length + c.utf8.length

/-- A line after the first, which begins with a space. -/
theorem continuation_fits {run : Text} {width : Int} (hr : run ≠ [])
    (h : run.utf8.length ≤ wordCapacity (width - 1)) :
    (∃ word, (" " : Text) ++ (ofText run).verbatim = (" " : Text) ++ word ∧ IsWordOf word run) ∧
      (((" " : Text) ++ (ofText run).verbatim).length : Int) ≤ width := by
  refine ⟨⟨_, rfl, isWordOf_ofText hr h⟩, ?_⟩
  have hl := length_verbatim_le hr h
  have hs : (" " : Text).length = 1 := rfl
  rw [List.length_append, hs]
  omega

/-- An encoded value is laid out within its width, and no line of it ends too early. -/
theorem layout_encodeWords {t : Text} (ht : NeedsWords t) (used : Int) {width : Int}
    (hw : 21 ≤ width) :
    ∃ run runs, Layout used width t (linesOf (encodeWords used width t)).1
      (linesOf (encodeWords used width t)).2 run runs := by
  obtain ⟨run, runs, htext, htight, ho⟩ := wordOctets_runs used width t
  have hcap := continuationCapacity_eq hw
  have hfits := length_le_of_wordOctets used width t
  rw [ho, hcap] at hfits
  obtain ⟨hfirst, hothers⟩ := hfits
  rw [encodeWords, if_pos (needsEncoding_iff.2 ht), wordLines_eq ho, linesOf_wordLines]
  refine ⟨run, runs, htext, htight.ne_nil, ?_, ?_, ?_, ?_⟩
  · rintro rfl
    rfl
  · intro hr
    have hl := length_verbatim_le hr hfirst
    rw [lineOf, if_neg hr]
    refine ⟨isWordOf_ofText hr hfirst, ?_⟩
    show used + ((ofText run).verbatim.length : Int) ≤ width
    omega
  · rw [List.forall₂_map_left_iff, List.forall₂_same]
    intro r hr
    exact continuation_fits (htight.ne_nil r hr) (hothers _ (List.mem_map_of_mem hr))
  · intro before r c s after hr
    have hfull := htight.full hr
    rw [hcap] at hfull
    by_cases hb : before = []
    · simpa [hb] using hfull
    · simpa [hb] using hfull

end

section

attribute [local instance] Charset.Registry.bare

/-- Characters of two, three, four octets and one, on lines with room for three, six and six. -/
theorem layout_encodeWords_mixed :
    NeedsWords "é€😀a" ∧ (21 : Int) ≤ 21 ∧
      ∃ run runs, Layout 3 21 "é€😀a" (linesOf (encodeWords 3 21 "é€😀a")).1
        (linesOf (encodeWords 3 21 "é€😀a")).2 run runs := by
  have hn : NeedsWords "é€😀a" := .inl ⟨'é', by decide, by decide⟩
  exact ⟨hn, by decide, layout_encodeWords hn 3 (by decide)⟩

end

end Mime.Header
