import Mathlib.Data.Finset.Filter
import Mathlib.Data.Finset.Range
import Mime.Proofs.Header.FewestLines

/-! What wide gaps do to a folded value. A gap between runs of text is divided before its last blank
only, so the blanks before that one stay on the line of the run before them and may make it too
long: `onlyTextOverflows_fold`. Blanks that a value begins with may even come on a line of their own:
`lines_have_text_iff`. -/

namespace Mime.Header

def HasText (line : Text) : Prop := ∃ c ∈ line, c ≠ ' ' ∧ c ≠ '\t'

/-- Whether the line has a run of text that by itself, behind `lead` characters, is longer than the
width. -/
def HasLongRun (width lead : Int) (line : Text) : Prop :=
  ∃ before run after, line = before ++ run ++ after ∧ (∀ c ∈ run, c ≠ ' ' ∧ c ≠ '\t') ∧
    width < lead + run.length

/-- Every line that is longer than the width has a run of text that is so by itself. What stands
before the run is what the first line has on it already, and the one blank that any other line
begins with. -/
def OnlyTextOverflows (used width : Int) : List Text → Prop
  | [] => True
  | line :: lines => (width < used + line.length → HasLongRun width used line) ∧
      ∀ l ∈ lines, width < l.length → HasLongRun width 1 l

instance (line : Text) : Decidable (HasText line) :=
  inferInstanceAs (Decidable (∃ c ∈ line, c ≠ ' ' ∧ c ≠ '\t'))

/-- All places where a value may be broken. Its beginning is none unless characters stand before it. -/
def everyBreak (used : Int) (t : Text) : Finset Nat :=
  (Finset.range t.length).filter fun i => IsBreak t i ∧ (i = 0 → 0 < used)

variable {places : Finset Nat} {n i : Nat} {s t line lead rest : Text} {ss lines : List Text}
  {used width : Int} {c b : CodePoint}

theorem mem_everyBreak : i ∈ everyBreak used t ↔ IsBreak t i ∧ (i = 0 → 0 < used) := by
  rw [everyBreak, Finset.mem_filter, Finset.mem_range, and_iff_right_iff_imp]
  rintro ⟨⟨_, _, hb, -⟩, -⟩
  exact (List.getElem?_eq_some_iff.1 hb).1

/-- The pieces that folding never divides: each is the line of its own that it is where the value is
broken wherever it may be, and the filled lines are made up of them. -/
theorem exists_pieces (hc : ∀ c ∈ t, c ≠ '\r') (hu : 0 ≤ used) (width : Int) :
    ∃ piece pieces, (0 < used + (piece.length : Int) ∨ pieces = []) ∧ (∀ s ∈ pieces, s ≠ []) ∧
      physicalLines (broken (everyBreak used t) t) = piece :: pieces ∧
      physicalLines (fold used width t) =
        (piece ++ (fill width (used + piece.length) pieces).1) ::
          (fill width (used + piece.length) pieces).2 := by
  have hs : ∀ s ∈ (stretches t).2, s ≠ [] := fun s h =>
    ne_nil_of_isBreak (isBreak_of_mem_stretches h)
  have hp : ∀ i ∈ everyBreak used t, IsBreak t i := fun i hi => (mem_everyBreak.1 hi).1
  have hat : ∀ i ∈ starts (stretches t).1.length (stretches t).2, (i = 0 → 0 < used) →
      i ∈ everyBreak used t := fun i hi h0 => mem_everyBreak.2 ⟨isBreak_iff_mem_starts.2 hi, h0⟩
  rw [physicalLines_broken hc hp, physicalLines_fold hc, foldedLines_eq_filledLines hu,
    filledLines_eq hu]
  generalize stretches t = cut at hs hat
  obtain ⟨first, more⟩ := cut
  by_cases hsome : 0 < used + (first.length : Int)
  · refine ⟨first, more, .inl hsome, hs, ?_, rfl⟩
    rw [laidAt_of_forall_mem, List.append_nil]
    intro i hi
    have : first.length ≤ i := le_of_mem_starts hi
    exact hat i hi fun _ => by omega
  · have hnone : used = 0 ∧ first.length = 0 := by omega
    obtain ⟨rfl, hfirst⟩ := hnone
    obtain rfl := List.length_eq_zero_iff.1 hfirst
    cases more with
    | nil => exact ⟨[], [], .inr rfl, hs, rfl, rfl⟩
    | cons s more =>
      have hpos := List.length_pos_iff.2 (hs s List.mem_cons_self)
      refine ⟨s, more, .inl (by omega), fun x hx => hs x (List.mem_cons_of_mem s hx), ?_, ?_⟩
      · have hzero : 0 ∉ everyBreak 0 t := fun h => Int.lt_irrefl 0 ((mem_everyBreak.1 h).2 rfl)
        rw [List.length_nil, laidAt_of_not_mem hzero, laidAt_of_forall_mem]
        · rw [List.append_nil, List.nil_append]
        · intro i hi
          have := le_of_mem_starts hi
          exact hat i (Finset.mem_insert_of_mem hi) (by omega)
      · show ([] ++ (fill width 0 (s :: more)).1) :: (fill width 0 (s :: more)).2 = _
        rw [fill_zero, List.nil_append, Int.zero_add]

/-- Whatever may be said of lines that are too long holds of the filled ones exactly if it holds of
the pieces they are filled with: a line of several is within the width. -/
theorem forall_fill_iff {held : Int} {first others : Text → Prop} (hs : ∀ s ∈ ss, s ≠ [])
    (hheld : held = used + line.length) (hsome : 0 < held) :
    ((width < used + (line ++ (fill width held ss).1).length →
        first (line ++ (fill width held ss).1)) ∧
      ∀ l ∈ (fill width held ss).2, width < l.length → others l) ↔
    (width < used + line.length → first line) ∧ ∀ s ∈ ss, width < s.length → others s := by
  induction ss generalizing used line held first with
  | nil => simp [fill]
  | cons s ss ih =>
    have hpos := List.length_pos_iff.2 (hs s List.mem_cons_self)
    have hss : ∀ x ∈ ss, x ≠ [] := fun x hx => hs x (List.mem_cons_of_mem s hx)
    by_cases hfull : held + s.length > width ∧ 0 < held
    · have hnew := @ih s 0 s.length others hss (Int.zero_add _).symm (by omega)
      rw [Int.zero_add, Int.zero_add] at hnew
      rw [fill_of_full hfull, List.append_nil, List.forall_mem_cons, List.forall_mem_cons, hnew]
    · have hmore := @ih (line ++ s) used (held + s.length) first hss
        (by rw [List.length_append]; omega) (by omega)
      rw [fill_of_room hfull, ← List.append_assoc, hmore, List.forall_mem_cons]
      constructor
      · rintro ⟨-, hothers⟩
        exact ⟨fun h => absurd h (by omega), fun h => absurd h (by omega), hothers⟩
      · rintro ⟨-, -, hothers⟩
        refine ⟨fun h => absurd h ?_, hothers⟩
        rw [List.length_append]
        omega

theorem onlyTextOverflows_fold_iff (hc : ∀ c ∈ t, c ≠ '\r') (hu : 0 ≤ used) (width : Int) :
    OnlyTextOverflows used width (physicalLines (fold used width t)) ↔
      OnlyTextOverflows used width (physicalLines (broken (everyBreak used t) t)) := by
  obtain ⟨piece, pieces, hsome, hs, hbroken, hfold⟩ := exists_pieces hc hu width
  rw [hbroken, hfold]
  rcases hsome with hsome | rfl
  · exact forall_fill_iff hs rfl hsome
  · rw [fill, List.append_nil]

/-- Where text follows every blank, a stretch is one run of text, after a blank if it is not the
first. -/
theorem stretches_of_single (h : ∀ i < t.length, t[i]? = some (' ' : CodePoint) ∨
      t[i]? = some ('\t' : CodePoint) → IsBreak t i) :
    (∀ c ∈ (stretches t).1, c ≠ ' ' ∧ c ≠ '\t') ∧
      ∀ s ∈ (stretches t).2, ∃ b run, s = b :: run ∧ ∀ c ∈ run, c ≠ ' ' ∧ c ≠ '\t' := by
  induction t with
  | nil => exact ⟨fun _ hc => absurd hc List.not_mem_nil, fun _ hs => absurd hs List.not_mem_nil⟩
  | cons c t ih =>
    obtain ⟨hfirst, hmore⟩ := ih fun i hi hb => isBreak_cons_succ.1 (h (i + 1) (by simpa using hi) hb)
    by_cases h0 : IsBreak (c :: t) 0
    · rw [stretches_of_isBreak h0]
      exact ⟨fun _ hx => absurd hx List.not_mem_nil,
        List.forall_mem_cons.2 ⟨⟨c, _, rfl, hfirst⟩, hmore⟩⟩
    · rw [stretches_of_not_isBreak h0]
      refine ⟨List.forall_mem_cons.2 ⟨?_, hfirst⟩, hmore⟩
      rw [← not_or]
      intro hblank
      exact h0 (h 0 (by simp) (hblank.imp (congrArg some) (congrArg some)))

/-- A line that is longer than the width has a run of text that is so by itself, exactly if that is so
where the value is broken wherever it may be. It is so if text follows every blank. -/
theorem onlyTextOverflows_fold (hc : ∀ c ∈ t, c ≠ '\r' ∧ c ≠ '\n') (hu : 0 ≤ used) (width : Int) :
    (OnlyTextOverflows used width (physicalLines (fold used width t)) ↔
      OnlyTextOverflows used width (physicalLines (broken (everyBreak used t) t))) ∧
    ((∀ i < t.length, t[i]? = some (' ' : CodePoint) ∨ t[i]? = some ('\t' : CodePoint) →
        i ∈ everyBreak used t) →
      OnlyTextOverflows used width (physicalLines (fold used width t))) := by
  have hr : ∀ c ∈ t, c ≠ '\r' := fun c h => (hc c h).1
  refine ⟨onlyTextOverflows_fold_iff hr hu width, fun hsingle => ?_⟩
  have hp : ∀ i ∈ everyBreak used t, IsBreak t i := fun i hi => (mem_everyBreak.1 hi).1
  obtain ⟨hfirst, hmore⟩ := stretches_of_single fun i hi hb => hp i (hsingle i hi hb)
  have hall : ∀ i ∈ starts (stretches t).1.length (stretches t).2, i ∈ everyBreak used t := by
    intro i hi
    obtain ⟨blank, c, hb, -, hblank, -⟩ := isBreak_iff_mem_starts.2 hi
    refine hsingle i (List.getElem?_eq_some_iff.1 hb).1 ?_
    rw [hb]
    exact hblank.imp (congrArg some) (congrArg some)
  rw [onlyTextOverflows_fold_iff hr hu, physicalLines_broken hr hp, laidAt_of_forall_mem hall,
    List.append_nil]
  refine ⟨fun hlong => ⟨[], _, [], by simp, hfirst, hlong⟩, fun s hs hlong => ?_⟩
  obtain ⟨b, run, rfl, hrun⟩ := hmore s hs
  refine ⟨[b], run, [], by simp, hrun, ?_⟩
  rw [List.length_cons] at hlong
  omega

theorem onlyTextOverflows_fold_singleBlanks :
    (∀ c ∈ (" abc d" : Text), c ≠ '\r' ∧ c ≠ '\n') ∧ (0 : Int) ≤ 1 ∧
    (∀ i < (" abc d" : Text).length, (" abc d" : Text)[i]? = some (' ' : CodePoint) ∨
      (" abc d" : Text)[i]? = some ('\t' : CodePoint) → i ∈ everyBreak 1 " abc d") ∧
    physicalLines (fold 1 2 " abc d") = ["", " abc", " d"] ∧
    OnlyTextOverflows 1 2 (physicalLines (fold 1 2 " abc d")) ∧
    OnlyTextOverflows 1 2 (physicalLines (broken (everyBreak 1 " abc d") " abc d")) := by
  have hc : ∀ c ∈ (" abc d" : Text), c ≠ '\r' ∧ c ≠ '\n' := by decide
  have hsingle : ∀ i < (" abc d" : Text).length, (" abc d" : Text)[i]? = some (' ' : CodePoint) ∨
      (" abc d" : Text)[i]? = some ('\t' : CodePoint) → i ∈ everyBreak 1 " abc d" := by decide
  obtain ⟨hiff, hfolded⟩ := onlyTextOverflows_fold hc (by decide : (0 : Int) ≤ 1) 2
  exact ⟨hc, by decide, hsingle, by decide, hfolded hsingle, hiff.1 (hfolded hsingle)⟩

/-- No run on the line has more characters than the line has that are no blanks. -/
theorem lt_of_hasLongRun {lead : Int} (h : HasLongRun width lead line) :
    width < lead + line.countP (!isFoldingBlank ·) := by
  obtain ⟨before, run, after, rfl, hrun, hlong⟩ := h
  have hcount : run.countP (!isFoldingBlank ·) = run.length :=
    List.countP_eq_length.2 fun c hc => by simp [isFoldingBlank_eq_false_iff.2 (hrun c hc)]
  rw [List.countP_append, List.countP_append, hcount]
  omega

/-- Of four blanks three stay behind a single character, and are too many for the line. -/
theorem fold_wide_gap :
    ¬∀ (t : Text) (used width : Int), (∀ c ∈ t, c ≠ '\r' ∧ c ≠ '\n') → t.trimEnd = t → 0 ≤ used →
      0 ≤ width → OnlyTextOverflows used width (physicalLines (fold used width t)) := by
  intro h
  have hlines : physicalLines (fold 0 3 "a    b") = ["a   ", " b"] := by decide
  have hfirst := h "a    b" 0 3 (by decide) (by decide) (by decide) (by decide)
  rw [hlines] at hfirst
  exact absurd (lt_of_hasLongRun (hfirst.1 (by decide))) (by decide)

/-- Blanks before the first text are cut off but for the last of them. -/
theorem stretches_blanks_append (hl : ∀ d ∈ lead, d = ' ' ∨ d = '\t') (hb : b = ' ' ∨ b = '\t')
    (hc : c ≠ ' ' ∧ c ≠ '\t') (rest : Text) :
    stretches (lead ++ b :: c :: rest) =
      (lead, (b :: (stretches (c :: rest)).1) :: (stretches (c :: rest)).2) := by
  induction lead with
  | nil => exact stretches_of_isBreak ⟨b, c, rfl, rfl, hb, hc⟩
  | cons d lead ih =>
    obtain ⟨hd, hlead⟩ := List.forall_mem_cons.1 hl
    have hnext : ∀ x : CodePoint, (lead ++ b :: c :: rest)[0]? = some x → x = ' ' ∨ x = '\t' := by
      cases lead with
      | nil => exact fun x hx => Option.some.inj hx ▸ hb
      | cons e lead => exact fun x hx => Option.some.inj hx ▸ hlead e List.mem_cons_self
    have hbreak : ¬IsBreak (d :: (lead ++ b :: c :: rest)) 0 := by
      rintro ⟨_, x, -, hx, -, htext⟩
      exact not_or.2 htext (hnext x hx)
    rw [List.cons_append, stretches_of_not_isBreak hbreak, ih hlead]

/-- A stretch ends where the value may be broken or at its end. -/
theorem isBreak_or_eq_length (h : stretches t = (lead, s :: ss)) :
    IsBreak t (lead.length + s.length) ∨ lead.length + s.length = t.length := by
  cases ss with
  | nil =>
    have := stretches_flatten t
    rw [h] at this
    simp [← this]
  | cons x ss =>
    refine .inl (isBreak_iff_mem_starts.2 ?_)
    rw [h]
    exact Finset.mem_insert_of_mem (Finset.mem_insert_self ..)

/-- It does not end before that. -/
theorem le_of_isBreak_or (h : stretches t = (lead, s :: ss)) (hi : lead.length < i)
    (hb : IsBreak t i ∨ i = t.length) : lead.length + s.length ≤ i := by
  rcases hb with hb | rfl
  · have hat := isBreak_iff_mem_starts.1 hb
    rw [h] at hat
    have : i = lead.length ∨ lead.length + s.length ≤ i := mem_starts_cons hat
    omega
  · have hlen := congrArg List.length (stretches_flatten t)
    rw [h] at hlen
    simp only [List.flatten_cons, List.length_append] at hlen
    omega

/-- The first line has text, unless two blanks or more begin the value and cannot be left on the
line with what comes next. -/
theorem hasText_fst_iff (hl : ∀ d ∈ lead, d = ' ' ∨ d = '\t') (hc : c ≠ ' ' ∧ c ≠ '\t')
    (ht : t = lead ++ c :: rest) (width : Int) :
    HasText (foldedLines 0 width t).1 ↔ (2 ≤ lead.length →
      ∃ i, lead.length ≤ i ∧ (IsBreak t i ∨ i = t.length) ∧ (i : Int) ≤ width) := by
  obtain ⟨r, hr⟩ := stretches_fst_cons (isFoldingBlank_eq_false_iff.2 hc) rest
  rw [foldedLines_eq_filledLines (Int.le_refl 0), filledLines_eq (Int.le_refl 0), Int.zero_add]
  rcases List.eq_nil_or_concat lead with rfl | ⟨g, b, rfl⟩
  · rw [List.nil_append] at ht
    refine iff_of_true ⟨c, ?_, hc⟩ fun h => absurd h (by simp)
    rw [ht, hr]
    exact List.mem_append_left _ List.mem_cons_self
  · have hg : ∀ d ∈ g, d = ' ' ∨ d = '\t' := fun d hd => hl d (by simp [hd])
    have hcut : stretches t = (g, (b :: c :: r) :: (stretches (c :: rest)).2) := by
      rw [ht, List.concat_append, stretches_blanks_append hg (hl b (by simp)) hc, hr]
    rw [List.length_concat]
    by_cases hfull : g.length + ((b :: c :: r).length : Int) > width ∧ (0 : Int) < g.length
    · rw [hcut, fill_of_full hfull, List.append_nil]
      refine iff_of_false ?_ fun h => ?_
      · rintro ⟨d, hd, htext⟩
        exact (not_or.2 htext) (hg d hd)
      · obtain ⟨i, hi, hb, hw⟩ := h (by omega)
        have := le_of_isBreak_or hcut (by omega) hb
        omega
    · have hroom := fill_of_room hfull (stretches (c :: rest)).2
      refine iff_of_true ⟨c, ?_, hc⟩ fun h => ⟨_, ?_, isBreak_or_eq_length hcut, ?_⟩
      · rw [hcut, hroom]
        simp
      · rw [List.length_cons]
        omega
      · omega

/-- A text with something else than blanks begins with blanks, or none, and then with text. -/
theorem exists_lead (ht : HasText t) :
    ∃ (lead : Text) (c : CodePoint) (rest : Text), t = lead ++ c :: rest ∧
      (∀ d ∈ lead, d = ' ' ∨ d = '\t') ∧ c ≠ ' ' ∧ c ≠ '\t' := by
  induction t with
  | nil =>
    obtain ⟨c, hc, -⟩ := ht
    cases hc
  | cons d t ih =>
    by_cases hd : d = ' ' ∨ d = '\t'
    · obtain ⟨c, hc, htext⟩ := ht
      rcases List.mem_cons.1 hc with rfl | hc
      · exact absurd hd (not_or.2 htext)
      · obtain ⟨lead, c, rest, rfl, hl, hc⟩ := ih ⟨c, hc, htext⟩
        refine ⟨d :: lead, c, rest, rfl, ?_, hc⟩
        exact List.forall_mem_cons.2 ⟨hd, hl⟩
    · exact ⟨[], d, t, rfl, fun _ h => absurd h List.not_mem_nil, not_or.1 hd⟩

theorem hasText_of_mem_foldedLines (h : line ∈ (foldedLines used width t).2) : HasText line := by
  obtain ⟨_, c, -, hc, -, htext⟩ := isBreak_of_mem_foldedLines h
  exact ⟨c, List.mem_of_getElem? hc, htext⟩

/-- Every line of a folded value has text, unless the value begins with two blanks or more, and the
first place after its first text where it may be broken, or its end, is beyond the width. -/
theorem lines_have_text_iff (hc : ∀ c ∈ t, c ≠ '\r' ∧ c ≠ '\n') (ht : HasText t) (width : Int) :
    (∀ line ∈ physicalLines (fold 0 width t), HasText line) ↔
      ∀ (lead : Text) (c : CodePoint) (rest : Text), t = lead ++ c :: rest →
        (∀ d ∈ lead, d = ' ' ∨ d = '\t') → c ≠ ' ' ∧ c ≠ '\t' → 2 ≤ lead.length →
        ∃ i, lead.length ≤ i ∧ (IsBreak t i ∨ i = t.length) ∧ (i : Int) ≤ width := by
  rw [physicalLines_fold fun c h => (hc c h).1, List.forall_mem_cons]
  constructor
  · rintro ⟨hfirst, -⟩ lead c rest hlead hl htext
    exact (hasText_fst_iff hl htext hlead width).1 hfirst
  · intro h
    obtain ⟨lead, c, rest, hlead, hl, htext⟩ := exists_lead ht
    exact ⟨(hasText_fst_iff hl htext hlead width).2 (h lead c rest hlead hl htext),
      fun line hline => hasText_of_mem_foldedLines hline⟩

theorem lines_have_text_iff_leading :
    (∀ c ∈ ("  a b  c" : Text), c ≠ '\r' ∧ c ≠ '\n') ∧ HasText "  a b  c" ∧
    physicalLines (fold 0 3 "  a b  c") = ["  a", " b ", " c"] ∧
    ((∀ line ∈ physicalLines (fold 0 3 "  a b  c"), HasText line) ↔
      ∀ (lead : Text) (c : CodePoint) (rest : Text), "  a b  c" = lead ++ c :: rest →
        (∀ d ∈ lead, d = ' ' ∨ d = '\t') → c ≠ ' ' ∧ c ≠ '\t' → 2 ≤ lead.length →
        ∃ i, lead.length ≤ i ∧ (IsBreak "  a b  c" i ∨ i = ("  a b  c" : Text).length) ∧
          (i : Int) ≤ 3) := by
  have hc : ∀ c ∈ ("  a b  c" : Text), c ≠ '\r' ∧ c ≠ '\n' := by decide
  exact ⟨hc, by decide, by decide, lines_have_text_iff hc (by decide) 3⟩

theorem blanks_come_alone :
    ¬∀ (t : Text) (width : Int), (∀ c ∈ t, c ≠ '\r' ∧ c ≠ '\n') → HasText t →
      ∀ line ∈ physicalLines (fold 0 width t), HasText line := by
  intro h
  have hlines : physicalLines (fold 0 1 "   a") = ["  ", " a"] := by decide
  have hfirst := h "   a" 1 (by decide) (by decide) "  "
  rw [hlines] at hfirst
  exact absurd (hfirst List.mem_cons_self) (by decide)

end Mime.Header
