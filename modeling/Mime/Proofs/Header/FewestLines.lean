import Mime.Proofs.Header.Breaks
import Mime.Proofs.Header.Layout

/-! How well folding fills its lines. A line of a folded value is longer than the width only where it
cannot be broken, and there is no such folding with fewer lines: `fold_fewest`. Filling is greedy,
and no other choice of places gets ahead of it, since a line that has more on it already may take
one line more than a new one, but never two (`length_fill_le_of_le`). -/

namespace Mime.Header

/-- The lines of a text, of which there is at least one. -/
def physicalLines (t : Text) : List Text := (linesOf t).1 :: (linesOf t).2

/-- Whether place `i` is strictly inside a line that begins at place `n`, behind `used` characters
that are on it already. -/
def Inside (used : Int) (n : Nat) (line : Text) (i : Nat) : Prop :=
  (n < i ∨ i = n ∧ 0 < used) ∧ i < n + line.length

/-- None of the lines of `t` is longer than the width while it could be broken. The first of them
begins at place `n`, and `used` characters stand on it already. -/
def KeepsWidth (width : Int) (t : Text) : (used : Int) → (n : Nat) → List Text → Prop
  | _, _, [] => True
  | used, n, line :: lines =>
    (width < used + line.length → ∀ i, IsBreak t i → ¬Inside used n line i) ∧
      KeepsWidth width t 0 (n + line.length) lines

variable {places : Finset Nat} {n i : Nat} {s t line first : Text} {ss lines more : List Text}
  {used used' width : Int}

/-- What fits on the line goes there. -/
theorem fill_of_fits (h : used + ss.flatten.length ≤ width) :
    fill width used ss = (ss.flatten, []) := by
  induction ss generalizing used with
  | nil => rfl
  | cons s ss ih =>
    rw [List.flatten_cons, List.length_append] at h
    rw [fill_of_room (by omega), ih (by omega), List.flatten_cons]

/-- A line on which more stands already leads to no fewer lines, and to one more at most. -/
theorem length_fill_le_of_le (hu : 0 ≤ used) (h : used ≤ used') (ss : List Text) :
    (fill width used ss).2.length ≤ (fill width used' ss).2.length ∧
      (fill width used' ss).2.length ≤ (fill width used ss).2.length + 1 := by
  induction ss generalizing used used' with
  | nil => exact ⟨Nat.le_refl 0, Nat.zero_le 1⟩
  | cons s ss ih =>
    have hboth := @ih (used + s.length) (used' + s.length) (by omega) (by omega)
    have hnew := @ih s.length (used + s.length) (by omega) (by omega)
    by_cases hfull : used + s.length > width ∧ 0 < used
    · rw [fill_of_full hfull, fill_of_full (by omega)]
      exact ⟨Nat.le_refl _, Nat.le_succ _⟩
    · rw [fill_of_room hfull]
      by_cases hfull' : used' + s.length > width ∧ 0 < used'
      · rw [fill_of_full hfull', List.length_cons]
        exact ⟨hnew.2, Nat.succ_le_succ hnew.1⟩
      · rw [fill_of_room hfull']
        exact hboth

/-- To begin a line with the next stretch costs one line at most. -/
theorem length_fill_cons_le (hu : 0 ≤ used) (s : Text) (ss : List Text) :
    (fill width used (s :: ss)).2.length ≤ (fill width s.length ss).2.length + 1 := by
  by_cases hfull : used + s.length > width ∧ 0 < used
  · rw [fill_of_full hfull, List.length_cons]
  · rw [fill_of_room hfull]
    exact (length_fill_le_of_le (by omega) (by omega) ss).2

/-- No lines that keep to the width are fewer than the filled ones. The induction goes on with `line`
already laid, in both ways, so that only what stands on it may differ. -/
theorem length_fill_le_laidAt {m : Nat} {held : Int} (hu : 0 ≤ used) (hm : m = n + line.length)
    (hheld : held = used + line.length) (hs : ∀ s ∈ ss, s ≠ []) (hb : ∀ i ∈ starts m ss, IsBreak t i)
    (h : KeepsWidth width t used n
      ((line ++ (laidAt places m ss).1) :: (laidAt places m ss).2)) :
    (fill width held ss).2.length ≤ (laidAt places m ss).2.length := by
  induction ss generalizing used n line m held with
  | nil => exact Nat.le_refl 0
  | cons s ss ih =>
    have hpos := List.length_pos_iff.2 (hs s List.mem_cons_self)
    have hss : ∀ x ∈ ss, x ≠ [] := fun x hx => hs x (List.mem_cons_of_mem s hx)
    have hbreak : IsBreak t m := hb _ (Finset.mem_insert_self ..)
    have hlater : ∀ i ∈ starts (m + s.length) ss, IsBreak t i :=
      fun i hi => hb i (Finset.mem_insert_of_mem hi)
    by_cases hn : m ∈ places
    · rw [laidAt_of_mem hn, List.append_nil] at h
      have hrest := h.2
      rw [← hm] at hrest
      rw [laidAt_of_mem hn, List.length_cons]
      exact (length_fill_cons_le (by omega) s ss).trans
        (Nat.succ_le_succ (ih (Int.le_refl 0) rfl (Int.zero_add _).symm hss hlater hrest))
    · rw [laidAt_of_not_mem hn, ← List.append_assoc] at h
      rw [laidAt_of_not_mem hn]
      have hlen : (line ++ s).length = line.length + s.length := List.length_append
      have hline : (line ++ s).length ≤ (line ++ s ++ (laidAt places (m + s.length) ss).1).length :=
        (List.sublist_append_left ..).length_le
      -- The line can be broken before the stretch, so it must be within the width.
      have hroom : ¬(held + s.length > width ∧ 0 < held) := by
        rintro ⟨hlong, hsome⟩
        exact h.1 (by omega) m hbreak ⟨by omega, by omega⟩
      rw [fill_of_room hroom]
      exact ih hu (by omega) (by omega) hss hlater h

/-- The filled lines keep to the width. -/
theorem keepsWidth_fill {m : Nat} {held : Int} (hu : 0 ≤ used) (hm : m = n + line.length)
    (hheld : held = used + line.length) (hs : ∀ s ∈ ss, s ≠ [])
    (hb : ∀ i, IsBreak t i → m ≤ i → i ∈ starts m ss)
    (hl : width < held → ∀ i, IsBreak t i → ¬Inside used n line i) :
    KeepsWidth width t used n ((line ++ (fill width held ss).1) :: (fill width held ss).2) := by
  induction ss generalizing used n line m held with
  | nil =>
    rw [fill, List.append_nil]
    exact ⟨hheld ▸ hl, trivial⟩
  | cons s ss ih =>
    have hpos := List.length_pos_iff.2 (hs s List.mem_cons_self)
    have hss : ∀ x ∈ ss, x ≠ [] := fun x hx => hs x (List.mem_cons_of_mem s hx)
    have hat : ∀ i, IsBreak t i → m ≤ i → i = m ∨ m + s.length ≤ i :=
      fun i hi hn => mem_starts_cons (hb i hi hn)
    have hlater : ∀ i, IsBreak t i → m + s.length ≤ i → i ∈ starts (m + s.length) ss :=
      fun i hi hn => (Finset.mem_insert.1 (hb i hi (by omega))).resolve_left (by omega)
    by_cases hfull : held + s.length > width ∧ 0 < held
    · rw [fill_of_full hfull, List.append_nil]
      refine ⟨hheld ▸ hl, ?_⟩
      rw [← hm]
      refine ih (Int.le_refl 0) rfl (Int.zero_add _).symm hss hlater ?_
      rintro - i hi ⟨hafter, hbefore⟩
      have := hat i hi (by omega)
      omega
    · have hlen : (line ++ s).length = line.length + s.length := List.length_append
      rw [fill_of_room hfull, ← List.append_assoc]
      refine ih hu (by omega) (by omega) hss hlater ?_
      rintro hlong i hi ⟨hafter, hbefore⟩
      have := hat i hi
      omega

/-- The lines that a value is filled into, whether or not it fits on the first of them. -/
def filledLines (used width : Int) (t : Text) : Text × List Text :=
  let (first, more) := stretches t
  let (line, lines) := fill width (used + first.length) more
  ((first ++ line).drop (-used).toNat, lines)

theorem filledLines_eq (hu : 0 ≤ used) (width : Int) (t : Text) :
    filledLines used width t =
      ((stretches t).1 ++ (fill width (used + (stretches t).1.length) (stretches t).2).1,
        (fill width (used + (stretches t).1.length) (stretches t).2).2) := by
  have hd : (-used).toNat = 0 := by omega
  simp only [filledLines, hd, List.drop_zero]

theorem filledLines_of_fits (hu : 0 ≤ used) (h : used + t.length ≤ width) :
    filledLines used width t = (t, []) := by
  have hlen := congrArg List.length (stretches_flatten t)
  rw [List.length_append] at hlen
  rw [filledLines_eq hu, fill_of_fits (by omega), stretches_flatten]

/-- A value that fits on its line is no special case. -/
theorem foldedLines_eq_filledLines (hu : 0 ≤ used) (width : Int) (t : Text) :
    foldedLines used width t = filledLines used width t := by
  unfold foldedLines
  split
  · rename_i h
    rw [filledLines_of_fits hu h]
  · rfl

theorem physicalLines_joinLines (h : ∀ c ∈ first ++ more.flatten, c ≠ '\r') :
    physicalLines (joinLines first more) = first :: more := by
  rw [physicalLines, linesOf_joinLines]
  · exact fun c hc => h c (List.mem_append_left _ hc)
  · exact fun line hl c hc => h c (List.mem_append_right _ (List.mem_flatten_of_mem hl hc))

theorem laidAt_flatten (places : Finset Nat) (n : Nat) (ss : List Text) :
    (laidAt places n ss).1 ++ (laidAt places n ss).2.flatten = ss.flatten := by
  induction ss generalizing n with
  | nil => rfl
  | cons s ss ih =>
    have := ih (n + s.length)
    by_cases hn : n ∈ places
    · rw [laidAt_of_mem hn, List.flatten_cons, List.flatten_cons, ← this]
      simp
    · rw [laidAt_of_not_mem hn, List.flatten_cons, ← this, List.append_assoc]

/-- The lines of a value that is broken at some of the places for it. -/
theorem physicalLines_broken (hc : ∀ c ∈ t, c ≠ '\r') (hp : ∀ i ∈ places, IsBreak t i) :
    physicalLines (broken places t) =
      ((stretches t).1 ++ (laidAt places (stretches t).1.length (stretches t).2).1) ::
        (laidAt places (stretches t).1.length (stretches t).2).2 := by
  have hat : ∀ i ∈ places, i ∈ starts (stretches t).1.length (stretches t).2 :=
    fun i hi => isBreak_iff_mem_starts.1 (hp i hi)
  have hfirst : brokenFrom places 0 (stretches t).1 = (stretches t).1 := by
    apply brokenFrom_eq_self
    intro i hi
    have := le_of_mem_starts (hat i hi)
    omega
  have hmore := brokenFrom_flatten (n := (stretches t).1.length)
    (fun s hs => ne_nil_of_isBreak (isBreak_of_mem_stretches (t := t) hs)) fun i hi _ => hat i hi
  have hbroken : broken places t =
      joinLines ((stretches t).1 ++ (laidAt places (stretches t).1.length (stretches t).2).1)
        (laidAt places (stretches t).1.length (stretches t).2).2 := by
    conv => lhs; rw [← stretches_flatten t]
    rw [broken, brokenFrom_append, hfirst, Nat.zero_add, hmore, joinLines_append]
  rw [hbroken, physicalLines_joinLines]
  rwa [List.append_assoc, laidAt_flatten, stretches_flatten]

theorem physicalLines_fold (hc : ∀ c ∈ t, c ≠ '\r') (used width : Int) :
    physicalLines (fold used width t) =
      (foldedLines used width t).1 :: (foldedLines used width t).2 :=
  physicalLines_joinLines fun c h => hc c (mem_of_mem_foldedLines h)

theorem isBreak_of_mem_foldedLines (h : line ∈ (foldedLines used width t).2) : IsBreak line 0 :=
  (continues_of_mem_foldedLines h).isBreak

/-- A folded value is broken at places for it. -/
theorem exists_places_fold (hu : 0 ≤ used) (width : Int) (t : Text) :
    ∃ places : Finset Nat, (∀ i ∈ places, IsBreak t i) ∧ fold used width t = broken places t := by
  refine ⟨starts (foldedLines used width t).1.length (foldedLines used width t).2, ?_, ?_⟩
  · intro i hi
    have := isBreak_of_mem_starts (fun _ hl => isBreak_of_mem_foldedLines hl) hi
    rwa [foldedLines_flatten hu] at this
  · rw [fold, joinLines_eq_broken fun _ hl => ne_nil_of_isBreak (isBreak_of_mem_foldedLines hl),
      foldedLines_flatten hu]

/-- Folding keeps to the width as far as that is possible, and takes the fewest lines for it. A
value that fits is left alone, and so it would be if it were filled into lines like any other. -/
theorem fold_fewest (hc : ∀ c ∈ t, c ≠ '\r' ∧ c ≠ '\n') (hu : 0 ≤ used) (width : Int) :
    (∃ places : Finset Nat, (∀ i ∈ places, IsBreak t i) ∧ fold used width t = broken places t) ∧
    KeepsWidth width t used 0 (physicalLines (fold used width t)) ∧
    (∀ places : Finset Nat, (∀ i ∈ places, IsBreak t i) →
      KeepsWidth width t used 0 (physicalLines (broken places t)) →
      (physicalLines (fold used width t)).length ≤ (physicalLines (broken places t)).length) ∧
    (used + t.length ≤ width → fold used width t = t ∧
      joinLines (filledLines used width t).1 (filledLines used width t).2 = t) := by
  have hr : ∀ c ∈ t, c ≠ '\r' := fun c h => (hc c h).1
  have hs : ∀ s ∈ (stretches t).2, s ≠ [] := fun s h =>
    ne_nil_of_isBreak (isBreak_of_mem_stretches h)
  have hlines : physicalLines (fold used width t) =
      ((stretches t).1 ++ (fill width (used + (stretches t).1.length) (stretches t).2).1) ::
        (fill width (used + (stretches t).1.length) (stretches t).2).2 := by
    rw [physicalLines_fold hr, foldedLines_eq_filledLines hu, filledLines_eq hu]
  refine ⟨?_, ?_, ?_, ?_⟩
  · exact exists_places_fold hu width t
  · rw [hlines]
    refine keepsWidth_fill hu (Nat.zero_add _).symm rfl hs (fun _ hi _ => isBreak_iff_mem_starts.1 hi) ?_
    · rintro - i hi ⟨-, hbefore⟩
      have := le_of_mem_starts (isBreak_iff_mem_starts.1 hi)
      omega
  · intro places hp hk
    rw [physicalLines_broken hr hp] at hk
    rw [hlines, physicalLines_broken hr hp]
    exact Nat.succ_le_succ (length_fill_le_laidAt hu (Nat.zero_add _).symm rfl hs
      (fun _ hi => isBreak_iff_mem_starts.2 hi) hk)
  · intro hfits
    have hjoin : joinLines t [] = t := List.append_nil t
    rw [fold, foldedLines_eq_filledLines hu, filledLines_of_fits hu hfits]
    exact ⟨hjoin, hjoin⟩

theorem fold_fewest_overlong :
    (∀ c ∈ (" aa b\tc  dddddddd e" : Text), c ≠ '\r' ∧ c ≠ '\n') ∧ (0 : Int) ≤ 2 ∧
    fold 2 6 " aa b\tc  dddddddd e" = " aa\r\n b\tc \r\n dddddddd\r\n e" ∧
    KeepsWidth 6 " aa b\tc  dddddddd e" 2 0 (physicalLines (fold 2 6 " aa b\tc  dddddddd e")) ∧
    ∀ places : Finset Nat, (∀ i ∈ places, IsBreak " aa b\tc  dddddddd e" i) →
      KeepsWidth 6 " aa b\tc  dddddddd e" 2 0 (physicalLines (broken places " aa b\tc  dddddddd e")) →
      4 ≤ (physicalLines (broken places " aa b\tc  dddddddd e")).length := by
  have hc : ∀ c ∈ (" aa b\tc  dddddddd e" : Text), c ≠ '\r' ∧ c ≠ '\n' := by decide
  obtain ⟨-, hkeeps, hfewest, -⟩ := fold_fewest hc (by decide : (0 : Int) ≤ 2) 6
  exact ⟨hc, by decide, by decide, hkeeps, hfewest⟩

end Mime.Header
