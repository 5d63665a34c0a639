import Mime.Header.Parameter
import Mime.Proofs.Text.Spelling

/-! Structured values as they are written: a primary token, and after it the parameters, each
behind a semicolon, with its value bare or between quotes and with blanks around the semicolons
and the equals signs. All of them are found, in order: `parameterList_of_tailForm`. -/

namespace Mime.Header

open Text (IsBlank)

/-- A value between quotes: a quote or a backslash has a backslash before it, and any other
character may have one. -/
inductive Escaped : Text → Text → Prop
  | nil : Escaped [] []
  | plain {c : CodePoint} {v q : Text} : c ≠ '"' → c ≠ '\\' → Escaped v q →
      Escaped (c :: v) (c :: q)
  | escaped {c : CodePoint} {v q : Text} : Escaped v q →
      Escaped (c :: v) (('\\' : CodePoint) :: c :: q)

/-- The forms of a value. -/
inductive ValueForm : Text → Text → Prop
  | bare {v : Text} : v.trim = v → (∀ c ∈ v, c ≠ ';' ∧ c ≠ '"') → ValueForm v v
  | quoted {v q : Text} : Escaped v q → ValueForm v (('"' : CodePoint) :: (q ++ [('"' : CodePoint)]))

structure IsName (n : Text) : Prop where
  ne_nil : n ≠ []
  trim : n.trim = n
  plain : ∀ c ∈ n, c ≠ ';' ∧ c ≠ '=' ∧ c ≠ '"'

/-- The forms of a name with its value, between two semicolons. -/
inductive SegmentForm : Text × Text → Text → Prop
  | intro {name value form a b c d : Text} : IsName name → ValueForm value form → IsBlank a →
      IsBlank b → IsBlank c → IsBlank d →
      SegmentForm (name, value) (a ++ (name ++ b) ++ ('=' : CodePoint) :: (c ++ (form ++ d)))

/-- The forms of all parameters, which follow the primary token. -/
inductive TailForm : List (Text × Text) → Text → Prop
  | nil : TailForm [] []
  | cons {p : Text × Text} {ps : List (Text × Text)} {s r : Text} : SegmentForm p s →
      TailForm ps r → TailForm (p :: ps) ((';' : CodePoint) :: (s ++ r))

/-- A stretch without a separating semicolon, from one state of quoting to another. -/
inductive Runs : Quoting → Text → Quoting → Prop
  | nil {q : Quoting} : Runs q [] q
  | cons {q q' : Quoting} {c : CodePoint} {s : Text} : ¬(q = .outside ∧ c = ';') →
      Runs (q.after c) s q' → Runs q (c :: s) q'

section

variable {q q' q'' : Quoting} {s t v name value form : Text} {p : Text × Text}
  {ps : List (Text × Text)} {r : Text}

theorem Runs.append (hs : Runs q s q') (ht : Runs q' t q'') : Runs q (s ++ t) q'' := by
  induction hs with
  | nil => exact ht
  | cons hc _ ih => exact .cons hc (ih ht)

theorem Runs.segments (h : Runs q s q') : segments q s = (s, []) := by
  induction h with
  | nil => rfl
  | cons hc _ ih => simp only [Header.segments, ih, if_neg hc]

theorem Runs.foldl (h : Runs q s q') : s.foldl Quoting.after q = q' := by
  induction h with
  | nil => rfl
  | cons _ _ ih => exact ih

theorem runs_of_plain (h : ∀ c ∈ s, c ≠ ';' ∧ c ≠ '"') : Runs .outside s .outside := by
  induction s with
  | nil => exact .nil
  | cons c s ih =>
    obtain ⟨hc, hq⟩ := h c List.mem_cons_self
    have hafter : Quoting.after .outside c = .outside := if_neg hq
    refine .cons (fun hn => hc hn.2) ?_
    rw [hafter]
    exact ih fun d hd => h d (List.mem_cons_of_mem c hd)

theorem Escaped.runs (h : Escaped v t) : Runs .inside t .inside := by
  induction h with
  | nil => exact .nil
  | @plain c v q hq hb _ ih =>
    have hafter : Quoting.after .inside c = .inside := (if_neg hb).trans (if_neg hq)
    refine .cons (fun hn => Quoting.noConfusion hn.1) ?_
    rw [hafter]
    exact ih
  | escaped _ ih =>
    exact .cons (fun hn => Quoting.noConfusion hn.1) (.cons (fun hn => Quoting.noConfusion hn.1) ih)

theorem ValueForm.runs (h : ValueForm value form) : Runs .outside form .outside := by
  cases h with
  | bare _ hv => exact runs_of_plain hv
  | quoted he =>
    refine .cons (by decide) (he.runs.append ?_)
    exact .cons (by decide) .nil

theorem runs_of_isBlank (h : IsBlank s) : Runs .outside s .outside :=
  runs_of_plain fun c hc =>
    ⟨h.ne_visible (by decide) c hc, h.ne_visible (by decide) c hc⟩

theorem SegmentForm.runs (h : SegmentForm p s) : Runs .outside s .outside := by
  cases h with
  | intro hn hv ha hb hc hd =>
    have hname : Runs .outside _ .outside := runs_of_plain fun c hc =>
      ⟨(hn.plain c hc).1, (hn.plain c hc).2.2⟩
    refine ((runs_of_isBlank ha).append (hname.append (runs_of_isBlank hb))).append ?_
    refine .cons (by decide) ((runs_of_isBlank hc).append ?_)
    exact hv.runs.append (runs_of_isBlank hd)

theorem unescape_cons {c : CodePoint} (h : c ≠ '\\') (s : Text) :
    unescape (c :: s) = c :: unescape s := by
  cases s with
  | nil => exact if_neg h
  | cons d s => exact if_neg h

theorem unescape_escaped (h : Escaped v t) : unescape t = v := by
  induction h with
  | nil => rfl
  | plain _ hb _ ih => rw [unescape_cons hb, ih]
  | escaped _ ih => exact (if_pos rfl).trans (congrArg _ ih)

/-- A value is read the same in each of its forms. -/
theorem unquote_valueForm (h : ValueForm value form) {c d : Text} (hc : IsBlank c)
    (hd : IsBlank d) : unquote (c ++ (form ++ d)) = value := by
  rw [unquote, Text.trim_append hc hd]
  cases h with
  | bare ht hv =>
    have hn : Text.enclosedBy '"' '"' value = false := by
      rw [Bool.eq_false_iff]
      intro he
      obtain ⟨s, rfl⟩ := Text.enclosedBy_iff.1 he
      exact (hv _ List.mem_cons_self).2 rfl
    simp only [ht, hn]
    rfl
  | @quoted q he =>
    have ht := Text.trim_enclosed (a := '"') (b := '"') (by decide) (by decide) q
    have hn : Text.enclosedBy '"' '"' (('"' : CodePoint) :: (q ++ [('"' : CodePoint)])) = true :=
      Text.enclosedBy_iff.2 ⟨q, rfl⟩
    simp only [ht, hn, if_true, Text.inner_enclosed, unescape_escaped he]

theorem parameterOf?_segmentForm (h : SegmentForm p s) : parameterOf? s = some p := by
  cases h with
  | @intro name value form a b c d hn hv ha hb hc hd =>
    have hmem : ∀ x ∈ a ++ (name ++ b), x ≠ '=' := by
      intro x hx
      rcases List.mem_append.1 hx with hx | hx
      · exact ha.ne_visible (by decide) x hx
      · rcases List.mem_append.1 hx with hx | hx
        · exact (hn.plain x hx).2.1
        · exact hb.ne_visible (by decide) x hx
    have htrim : Text.trim (a ++ (name ++ b)) = name := by rw [Text.trim_append ha hb, hn.trim]
    rw [parameterOf?, Text.cut_append_cons hmem]
    simp only [htrim, if_neg hn.ne_nil, unquote_valueForm hv hc hd]

/-- After a stretch that ends outside of quotes, the parameters are cut apart and read. -/
theorem segments_tailForm (h : TailForm ps r) (hs : Runs .outside s .outside) :
    ∃ ss, segments .outside (s ++ r) = (s, ss) ∧ ss.filterMap parameterOf? = ps := by
  induction h generalizing s with
  | nil => exact ⟨[], by rw [List.append_nil, hs.segments], rfl⟩
  | @cons p ps seg r hp _ ih =>
    obtain ⟨ss, hss, hps⟩ := ih hp.runs
    refine ⟨seg :: ss, ?_, ?_⟩
    · rw [segments_append hs.foldl, hs.segments, hss]
      rfl
    · rw [List.filterMap_cons_some (parameterOf?_segmentForm hp), hps]

variable {token : Text}

/-- The parameters are found in order. -/
theorem parameterList_of_tailForm (ht : ∀ c ∈ token, c ≠ ';' ∧ c ≠ '"') (h : TailForm ps r) :
    parameterList (token ++ r) = ps := by
  obtain ⟨ss, hss, hps⟩ := segments_tailForm h (runs_of_plain ht)
  rw [parameterList, hss]
  exact hps

/-- The primary token comes without the blanks around it. -/
theorem primary_of_tailForm (ht : ∀ c ∈ token, c ≠ ';' ∧ c ≠ '"') (h : TailForm ps r) :
    primary (token ++ r) = token.trim := by
  have hn : ∀ c ∈ token, c ≠ ';' := fun c hc => (ht c hc).1
  cases h with
  | nil => rw [List.append_nil, primary, Text.cut_of_not_mem hn]
  | cons _ _ => rw [primary, Text.cut_append_cons hn]

end

end Mime.Header
