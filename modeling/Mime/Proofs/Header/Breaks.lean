import Mathlib.Data.Finset.Insert
import Mime.Proofs.Header.Decode
import Mime.Proofs.Header.Fold

/-! Where a folded value is broken. Folding puts line breaks before some of the blanks that stand
directly before text, and changes nothing else: `fold_eq_broken`. Hence unfolding gives the value
back, and no blanks at the end of a value come on a line of their own. The places where that may be
are those where the stretches of the value begin (`isBreak_iff_mem_starts`). -/

namespace Mime.Header

/-- A place where a value may be broken: a space or tab, directly before a character that is
neither. -/
def IsBreak (t : Text) (i : Nat) : Prop :=
  ∃ blank c, t[i]? = some blank ∧ t[i + 1]? = some c ∧ (blank = ' ' ∨ blank = '\t') ∧
    c ≠ ' ' ∧ c ≠ '\t'

instance (t : Text) (i : Nat) : Decidable (IsBreak t i) :=
  match hb : t[i]?, hc : t[i + 1]? with
  | some blank, some c =>
    decidable_of_iff ((blank = ' ' ∨ blank = '\t') ∧ c ≠ ' ' ∧ c ≠ '\t')
      ⟨fun h => ⟨blank, c, hb, hc, h⟩, fun ⟨_, _, hb', hc', h⟩ => by
        cases hb.symm.trans hb'
        cases hc.symm.trans hc'
        exact h⟩
  | none, _ => isFalse fun ⟨_, _, hb', _⟩ => by cases hb.symm.trans hb'
  | some _, none => isFalse fun ⟨_, _, _, hc', _⟩ => by cases hc.symm.trans hc'

/-- A text with a line break at each of the places. Its first character is at place `n`. -/
def brokenFrom (places : Finset Nat) (n : Nat) (t : Text) : Text :=
  (t.zipIdx n).flatMap fun x => if x.2 ∈ places then lineBreak ++ [x.1] else [x.1]

def broken (places : Finset Nat) (t : Text) : Text := brokenFrom places 0 t

/-- The places where lines begin, of which the first begins at `n`. -/
def starts : Nat → List Text → Finset Nat
  | _, [] => ∅
  | n, line :: lines => insert n (starts (n + line.length) lines)

/-- Stretches, the first of which begins at place `n`, on lines that begin at the places. -/
def laidAt (places : Finset Nat) : (n : Nat) → List Text → Text × List Text
  | _, [] => ([], [])
  | n, s :: more =>
    let (line, lines) := laidAt places (n + s.length) more
    if n ∈ places then ([], (s ++ line) :: lines) else (s ++ line, lines)

variable {places : Finset Nat} {n i : Nat} {s t line first : Text} {ss lines more : List Text}
  {used width : Int}

theorem brokenFrom_cons (places : Finset Nat) (n : Nat) (c : CodePoint) (t : Text) :
    brokenFrom places n (c :: t) =
      (if n ∈ places then lineBreak ++ [c] else [c]) ++ brokenFrom places (n + 1) t := rfl

theorem brokenFrom_append (places : Finset Nat) (n : Nat) (s t : Text) :
    brokenFrom places n (s ++ t) =
      brokenFrom places n s ++ brokenFrom places (n + s.length) t := by
  rw [brokenFrom, List.zipIdx_append, List.flatMap_append]
  rfl

/-- A stretch without places stays as it is. -/
theorem brokenFrom_eq_self (h : ∀ i ∈ places, i < n ∨ n + t.length ≤ i) :
    brokenFrom places n t = t := by
  induction t generalizing n with
  | nil => rfl
  | cons c t ih =>
    have hn : n ∉ places := by
      intro hn
      have := h n hn
      rw [List.length_cons] at this
      omega
    rw [brokenFrom_cons, if_neg hn, ih]
    · rfl
    · intro i hi
      have := h i hi
      rw [List.length_cons] at this
      omega

/-- A stretch with no places inside it stays in one piece, perhaps after a line break. -/
theorem brokenFrom_stretch (hs : s ≠ []) (h : ∀ i ∈ places, i ≤ n ∨ n + s.length ≤ i) :
    brokenFrom places n s = (if n ∈ places then lineBreak else []) ++ s := by
  obtain ⟨c, r, rfl⟩ := List.exists_cons_of_ne_nil hs
  have hr : brokenFrom places (n + 1) r = r := by
    apply brokenFrom_eq_self
    intro i hi
    have := h i hi
    rw [List.length_cons] at this
    omega
  rw [brokenFrom_cons, hr]
  split <;> simp

/-- Unfolding removes the line breaks, wherever they are. -/
theorem unfold_brokenFrom (places : Finset Nat) (n : Nat) (t : Text) :
    unfold (brokenFrom places n t) = unfold t := by
  induction t generalizing n with
  | nil => rfl
  | cons c t ih =>
    have hbreak : unfold lineBreak = [] := by decide
    have hc : unfold (c :: t) = unfold [c] ++ unfold t := unfold_append [c] t
    rw [brokenFrom_cons, unfold_append, ih, hc]
    split
    · rw [unfold_append, hbreak, List.nil_append]
    · rfl

theorem le_of_mem_starts (h : i ∈ starts n lines) : n ≤ i := by
  induction lines generalizing n with
  | nil => exact absurd h (Finset.notMem_empty i)
  | cons line lines ih =>
    rcases Finset.mem_insert.1 h with rfl | h
    · exact Nat.le_refl i
    · exact Nat.le_trans (Nat.le_add_right n line.length) (ih h)

theorem mem_starts_cons (h : i ∈ starts n (s :: lines)) : i = n ∨ n + s.length ≤ i :=
  (Finset.mem_insert.1 h).imp_right le_of_mem_starts

theorem laidAt_of_mem (h : n ∈ places) (s : Text) (ss : List Text) :
    laidAt places n (s :: ss) = ([], (s ++ (laidAt places (n + s.length) ss).1) ::
      (laidAt places (n + s.length) ss).2) := if_pos h

theorem laidAt_of_not_mem (h : n ∉ places) (s : Text) (ss : List Text) :
    laidAt places n (s :: ss) = (s ++ (laidAt places (n + s.length) ss).1,
      (laidAt places (n + s.length) ss).2) := if_neg h

/-- Stretches that are broken only where one of them begins are joined lines of stretches. -/
theorem brokenFrom_flatten (hs : ∀ s ∈ ss, s ≠ [])
    (hp : ∀ i ∈ places, n ≤ i → i ∈ starts n ss) :
    brokenFrom places n ss.flatten =
      joinLines (laidAt places n ss).1 (laidAt places n ss).2 := by
  induction ss generalizing n with
  | nil => rfl
  | cons s ss ih =>
    have hinside : ∀ i ∈ places, i ≤ n ∨ n + s.length ≤ i := by
      intro i hi
      by_cases hn : n ≤ i
      · exact (mem_starts_cons (hp i hi hn)).imp_left Nat.le_of_eq
      · omega
    have hpos := List.length_pos_iff.2 (hs s List.mem_cons_self)
    have hlater : ∀ i ∈ places, n + s.length ≤ i → i ∈ starts (n + s.length) ss := by
      intro i hi hn
      exact (Finset.mem_insert.1 (hp i hi (by omega))).resolve_left (by omega)
    rw [List.flatten_cons, brokenFrom_append, brokenFrom_stretch (hs s List.mem_cons_self) hinside,
      ih (fun x hx => hs x (List.mem_cons_of_mem _ hx)) hlater]
    by_cases hn : n ∈ places
    · rw [if_pos hn, laidAt_of_mem hn, joinLines_cons, List.nil_append, joinLines_append,
        List.append_assoc]
    · rw [if_neg hn, laidAt_of_not_mem hn, joinLines_append, List.nil_append]

/-- Broken at all their beginnings, stretches have a line each. -/
theorem laidAt_of_forall_mem (h : ∀ i ∈ starts n ss, i ∈ places) : laidAt places n ss = ([], ss) := by
  induction ss generalizing n with
  | nil => rfl
  | cons s ss ih =>
    rw [laidAt_of_mem (h n (Finset.mem_insert_self ..)),
      ih fun i hi => h i (Finset.mem_insert_of_mem hi), List.append_nil]

theorem joinLines_eq_broken (hl : ∀ line ∈ more, line ≠ []) :
    joinLines first more = broken (starts first.length more) (first ++ more.flatten) := by
  have hfirst : brokenFrom (starts first.length more) 0 first = first := by
    apply brokenFrom_eq_self
    intro i hi
    have := le_of_mem_starts hi
    omega
  rw [broken, brokenFrom_append, hfirst, Nat.zero_add, brokenFrom_flatten hl fun _ hi _ => hi,
    laidAt_of_forall_mem fun _ hi => hi, ← joinLines_append, List.append_nil]

theorem IsBreak.append_left (h : IsBreak t i) (s : Text) : IsBreak (s ++ t) (s.length + i) := by
  obtain ⟨blank, c, hb, hc, ht⟩ := h
  refine ⟨blank, c, ?_, ?_, ht⟩
  · rw [List.getElem?_append_right (Nat.le_add_right ..), Nat.add_sub_cancel_left, hb]
  · rw [Nat.add_assoc, List.getElem?_append_right (Nat.le_add_right ..), Nat.add_sub_cancel_left, hc]

theorem IsBreak.append_right (h : IsBreak t i) (s : Text) : IsBreak (t ++ s) i := by
  obtain ⟨blank, c, hb, hc, ht⟩ := h
  have hlt : i + 1 < t.length := (List.getElem?_eq_some_iff.1 hc).1
  refine ⟨blank, c, ?_, ?_, ht⟩
  · rw [List.getElem?_append_left (Nat.lt_of_succ_lt hlt), hb]
  · rw [List.getElem?_append_left hlt, hc]

theorem Continues.isBreak (h : Continues line) : IsBreak line 0 := by
  obtain ⟨blank, c, r, rfl, hb, hc⟩ := h
  exact ⟨blank, c, rfl, rfl, isFoldingBlank_iff.1 hb, isFoldingBlank_eq_false_iff.1 hc⟩

theorem ne_nil_of_isBreak (h : IsBreak line i) : line ≠ [] := by
  rintro rfl
  obtain ⟨blank, c, hb, -⟩ := h
  cases hb

theorem isBreak_of_mem_starts (hl : ∀ line ∈ lines, IsBreak line 0)
    (h : i ∈ starts s.length lines) : IsBreak (s ++ lines.flatten) i := by
  induction lines generalizing s with
  | nil => exact absurd h (Finset.notMem_empty i)
  | cons line lines ih =>
    rcases Finset.mem_insert.1 h with rfl | h
    · exact ((hl line List.mem_cons_self).append_right _).append_left s
    · rw [List.flatten_cons, ← List.append_assoc]
      apply ih fun x hx => hl x (List.mem_cons_of_mem _ hx)
      rwa [List.length_append]

theorem isBreak_cons_succ {c : CodePoint} : IsBreak (c :: t) (i + 1) ↔ IsBreak t i := Iff.rfl

theorem stretches_of_isBreak {c : CodePoint} (h : IsBreak (c :: t) 0) :
    stretches (c :: t) = ([], (c :: (stretches t).1) :: (stretches t).2) := by
  obtain ⟨blank, d, hb, hd, hblank, htext⟩ := h
  cases t with
  | nil => cases hd
  | cons e r =>
    obtain rfl := Option.some.inj hb
    obtain rfl := Option.some.inj hd
    simp [stretches, isFoldingBlank_iff.2 hblank, isFoldingBlank_eq_false_iff.2 htext]

theorem stretches_of_not_isBreak {c : CodePoint} (h : ¬IsBreak (c :: t) 0) :
    stretches (c :: t) = (c :: (stretches t).1, (stretches t).2) := by
  cases t with
  | nil => rfl
  | cons d r =>
    refine if_neg fun hb => h ?_
    rw [Bool.and_eq_true, Bool.not_eq_true'] at hb
    exact ⟨c, d, rfl, rfl, isFoldingBlank_iff.1 hb.1, isFoldingBlank_eq_false_iff.1 hb.2⟩

theorem succ_mem_starts (h : i ∈ starts n lines) : i + 1 ∈ starts (n + 1) lines := by
  induction lines generalizing n with
  | nil => exact absurd h (Finset.notMem_empty i)
  | cons line lines ih =>
    rcases Finset.mem_insert.1 h with rfl | h
    · exact Finset.mem_insert_self ..
    · have := ih h
      rw [Nat.add_right_comm] at this
      exact Finset.mem_insert_of_mem this

theorem isBreak_of_mem_stretches (h : s ∈ (stretches t).2) : IsBreak s 0 :=
  (continues_of_mem_stretches h).isBreak

/-- A value may be broken exactly where its stretches begin, the first excepted. -/
theorem isBreak_iff_mem_starts :
    IsBreak t i ↔ i ∈ starts (stretches t).1.length (stretches t).2 := by
  constructor
  · intro h
    induction t generalizing i with
    | nil => exact absurd rfl (ne_nil_of_isBreak h)
    | cons c t ih =>
      by_cases hc : IsBreak (c :: t) 0
      · rw [stretches_of_isBreak hc]
        cases i with
        | zero => exact Finset.mem_insert_self ..
        | succ i =>
          refine Finset.mem_insert_of_mem ?_
          rw [List.length_nil, Nat.zero_add, List.length_cons]
          exact succ_mem_starts (ih (isBreak_cons_succ.1 h))
      · rw [stretches_of_not_isBreak hc]
        cases i with
        | zero => exact absurd h hc
        | succ i => exact succ_mem_starts (ih (isBreak_cons_succ.1 h))
  · intro h
    have := isBreak_of_mem_starts (fun _ hs => isBreak_of_mem_stretches hs) h
    rwa [stretches_flatten] at this

/-- Blanks at the end, and the character before them, are no places to break. -/
theorem lt_length_of_isBreak {body trail : Text} {c : CodePoint}
    (ht : ∀ d ∈ trail, d = ' ' ∨ d = '\t') (h : IsBreak (body ++ c :: trail) i) :
    i < body.length := by
  obtain ⟨blank, d, -, hd, -, hspace, htab⟩ := h
  by_contra hlt
  have hi : i + 1 = body.length + ((i - body.length) + 1) := by omega
  rw [hi, List.getElem?_append_right (Nat.le_add_right ..), Nat.add_sub_cancel_left,
    List.getElem?_cons_succ] at hd
  rcases ht d (List.mem_of_getElem? hd) with rfl | rfl
  · exact hspace rfl
  · exact htab rfl

theorem broken_append_blanks {body trail : Text} {c : CodePoint}
    (ht : ∀ d ∈ trail, d = ' ' ∨ d = '\t') (hp : ∀ i ∈ places, IsBreak (body ++ c :: trail) i) :
    broken places (body ++ c :: trail) = broken places body ++ c :: trail := by
  have htrail : brokenFrom places body.length (c :: trail) = c :: trail := by
    apply brokenFrom_eq_self
    intro i hi
    exact .inl (lt_length_of_isBreak ht (hp i hi))
  rw [broken, brokenFrom_append, Nat.zero_add, htrail, broken]

/-- What comes on an empty line first is not moved to the next. -/
theorem fill_zero_ne_nil (width : Int) (hs : ∀ s ∈ lines, s ≠ []) (h : lines ≠ []) :
    (fill width 0 lines).1 ≠ [] := by
  obtain ⟨s, lines, rfl⟩ := List.exists_cons_of_ne_nil h
  rw [fill_zero]
  intro he
  exact hs s List.mem_cons_self (List.append_eq_nil_iff.1 he).1

/-- Where the first line is all free, the value does not begin with a line break. -/
theorem foldedLines_fst_ne_nil (h : (foldedLines 0 width t).2 ≠ []) :
    (foldedLines 0 width t).1 ≠ [] := by
  have hs : ∀ s ∈ (stretches t).2, s ≠ [] := fun s hs =>
    ne_nil_of_isBreak (isBreak_of_mem_stretches hs)
  rw [foldedLines] at h ⊢
  split at h
  · exact absurd rfl h
  · rename_i hw
    rw [if_neg hw]
    intro he
    obtain ⟨hfirst, hline⟩ := List.append_eq_nil_iff.1 he
    rw [hfirst] at hline
    have hnil : (stretches t).2 = [] := by
      by_contra hne
      exact fill_zero_ne_nil width hs hne hline
    have hmore : (fill width (0 + (stretches t).1.length) (stretches t).2).2 ≠ [] := h
    rw [hnil] at hmore
    exact hmore rfl

/-- A folded value is the value with line breaks at some of the places for them, each of which begins
a line. It does not begin with a line break unless something precedes it on the first line, blanks
at its end stay behind the character before them, and unfolding removes what was put in. -/
theorem fold_eq_broken (hu : 0 ≤ used) (width : Int) (t : Text) :
    ∃ (first : Text) (more : List Text),
      first ++ more.flatten = t ∧ (∀ line ∈ more, IsBreak line 0) ∧
      fold used width t = joinLines first more ∧
      fold used width t = broken (starts first.length more) t ∧
      (∀ i ∈ starts first.length more, IsBreak t i) ∧
      (used = 0 → 0 ∉ starts first.length more) ∧
      (∀ (body : Text) (c : CodePoint) (trail : Text), t = body ++ c :: trail →
        (∀ d ∈ trail, d = ' ' ∨ d = '\t') →
        fold used width t = broken (starts first.length more) body ++ c :: trail) ∧
      unfold (fold used width t) = unfold t ∧
      ((∀ c ∈ t, c ≠ '\r' ∧ c ≠ '\n') → unfold (fold used width t) = t) := by
  have ht : (foldedLines used width t).1 ++ (foldedLines used width t).2.flatten = t :=
    foldedLines_flatten hu t
  have hl : ∀ line ∈ (foldedLines used width t).2, IsBreak line 0 := fun line hline =>
    (continues_of_mem_foldedLines hline).isBreak
  have hb : fold used width t =
      broken (starts (foldedLines used width t).1.length (foldedLines used width t).2) t := by
    rw [fold, joinLines_eq_broken fun line hline => ne_nil_of_isBreak (hl line hline), ht]
  have hi : ∀ i ∈ starts (foldedLines used width t).1.length (foldedLines used width t).2,
      IsBreak t i := by
    intro i hi
    have := isBreak_of_mem_starts hl hi
    rwa [ht] at this
  have hunfold : unfold (fold used width t) = unfold t := by
    rw [hb, broken, unfold_brokenFrom]
  refine ⟨_, _, ht, hl, rfl, hb, hi, ?_, ?_, hunfold, ?_⟩
  · rintro rfl hzero
    have hne : (foldedLines 0 width t).2 ≠ [] := by
      intro he
      rw [he] at hzero
      exact Finset.notMem_empty 0 hzero
    have hlen := List.length_pos_iff.2 (foldedLines_fst_ne_nil hne)
    have := le_of_mem_starts hzero
    omega
  · rintro body c trail rfl htrail
    exact hb.trans (broken_append_blanks htrail hi)
  · intro hc
    rw [hunfold]
    apply unfold_eq_self
    intro c hcm
    rw [isLineBreak, Bool.or_eq_false_iff, beq_eq_false_iff_ne, beq_eq_false_iff_ne]
    exact hc c hcm

theorem fold_eq_broken_letters :
    (0 : Int) ≤ 0 ∧ fold 0 3 " a  b\tc  " = " a \r\n b\r\n\tc  " ∧
    ∃ (first : Text) (more : List Text), first ++ more.flatten = " a  b\tc  " ∧
      fold 0 3 " a  b\tc  " = broken (starts first.length more) " a  b\tc  " ∧
      0 ∉ starts first.length more ∧ unfold (fold 0 3 " a  b\tc  ") = " a  b\tc  " := by
  obtain ⟨first, more, ht, -, -, hb, -, hzero, -, -, hunfold⟩ :=
    fold_eq_broken (by decide : (0 : Int) ≤ 0) 3 " a  b\tc  "
  exact ⟨by decide, by decide, first, more, ht, hb, hzero rfl, hunfold (by decide)⟩

end Mime.Header
