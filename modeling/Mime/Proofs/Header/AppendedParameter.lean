import Mime.Proofs.Header.Parameter

/-! Values with something appended. A semicolon after a value whose quotes are closed separates, so
the parameters of the value come first whatever follows, even quotes that are never closed, and the
parameters that follow count only under names that are new: `parameters_appended`. -/

namespace Mime.Header

/-- A text in which each quote that opens is closed again. Between the two a quote may stand behind
a backslash. -/
inductive QuotesClosed : Text → Prop
  | nil : QuotesClosed []
  | plain {c : CodePoint} {h : Text} : c ≠ '"' → QuotesClosed h → QuotesClosed (c :: h)
  | quoted {v q h : Text} : Escaped v q → QuotesClosed h →
      QuotesClosed (('"' : CodePoint) :: (q ++ ('"' : CodePoint) :: h))

/-- A text that closes the quotes, seen from a place in or out of them. -/
def Closes : Quoting → Text → Prop
  | .outside, h => QuotesClosed h
  | .inside, h => ∃ v q rest, h = q ++ ('"' : CodePoint) :: rest ∧ Escaped v q ∧ QuotesClosed rest
  | .escaped, h => ∃ c v q rest, h = c :: (q ++ ('"' : CodePoint) :: rest) ∧ Escaped v q ∧
      QuotesClosed rest

variable {h : Text}

theorem closes_of_foldl {q : Quoting} (hq : h.foldl Quoting.after q = .outside) : Closes q h := by
  -- A quote is closed by a whole stretch at once, but the state goes on by one character, so each of
  -- the states is taken through the induction.
  induction h generalizing q with
  | nil =>
    obtain rfl : q = .outside := hq
    exact .nil
  | cons c h ih =>
    have hafter := ih hq
    cases q with
    | outside =>
      by_cases hc : c = '"'
      · subst hc
        obtain ⟨v, q, rest, rfl, hv, hrest⟩ := hafter
        exact .quoted hv hrest
      · rw [Quoting.after, if_neg hc] at hafter
        exact .plain hc hafter
    | inside =>
      by_cases hb : c = '\\'
      · subst hb
        obtain ⟨d, v, q, rest, rfl, hv, hrest⟩ := hafter
        exact ⟨d :: v, ('\\' : CodePoint) :: d :: q, rest, rfl, .escaped hv, hrest⟩
      · by_cases hc : c = '"'
        · subst hc
          exact ⟨[], [], h, rfl, .nil, hafter⟩
        · rw [Quoting.after, if_neg hb, if_neg hc] at hafter
          obtain ⟨v, q, rest, rfl, hv, hrest⟩ := hafter
          exact ⟨c :: v, c :: q, rest, rfl, .plain hc hb hv, hrest⟩
    | escaped =>
      obtain ⟨v, q, rest, rfl, hv, hrest⟩ := hafter
      exact ⟨c, v, q, rest, rfl, hv, hrest⟩

/-- The quotes are closed if none is open at the end. -/
theorem quotesClosed_iff : QuotesClosed h ↔ h.foldl Quoting.after .outside = .outside := by
  constructor
  · intro hh
    induction hh with
    | nil => rfl
    | plain hc _ ih =>
      rw [List.foldl_cons, Quoting.after, if_neg hc]
      exact ih
    | @quoted v q h hv _ ih =>
      show (q ++ ('"' : CodePoint) :: h).foldl Quoting.after .inside = .outside
      rw [List.foldl_append, hv.runs.foldl]
      exact ih
  · exact closes_of_foldl

theorem parameterList_append (hh : QuotesClosed h) (r : Text) :
    parameterList (h ++ (';' : CodePoint) :: r) =
      parameterList h ++ parameterList ((';' : CodePoint) :: r) := by
  have hr : (segments .outside ((';' : CodePoint) :: r)).2 =
      (segments .outside r).1 :: (segments .outside r).2 := rfl
  rw [parameterList, segments_append (quotesClosed_iff.1 hh), List.filterMap_append, ← hr]
  rfl

/-- The first semicolon of all is in the value or the one after it. -/
theorem primary_append (h r : Text) : primary (h ++ (';' : CodePoint) :: r) = primary h := by
  have hstop : ((';' : CodePoint) :: r).takeWhile (· != (';' : CodePoint)) = [] :=
    List.takeWhile_cons_of_neg (by simp)
  have htake : (h ++ (';' : CodePoint) :: r).takeWhile (· != (';' : CodePoint)) =
      h.takeWhile (· != (';' : CodePoint)) := by
    rw [List.takeWhile_append, hstop, List.append_nil]
    split
    · rename_i hlength
      exact ((List.takeWhile_prefix _).eq_of_length hlength).symm
    · rfl
  rw [primary, primary, Text.cut, Text.cut, htake]

/-- The keys that were seen only take pairs away. -/
theorem firsts_eq_filter (seen : List Text) (ps : List (Text × Text)) :
    firsts seen ps = (firsts [] ps).filter fun p => p.1 ∉ seen := by
  induction ps generalizing seen with
  | nil => rfl
  | cons p ps ih =>
    have hfirst : firsts [] (p :: ps) = p :: (firsts [] ps).filter fun q => q.1 ∉ [p.1] := by
      rw [firsts, if_neg List.not_mem_nil, ih [p.1]]
    rw [hfirst, firsts]
    split
    · rename_i hp
      rw [ih, List.filter_cons_of_neg (by simpa using hp), List.filter_filter]
      refine List.filter_congr fun q _ => ?_
      by_cases hq : q.1 = p.1 <;> simp [hq, hp]
    · rename_i hp
      rw [ih, List.filter_cons_of_pos (by simpa using hp), List.filter_filter]
      congr 1
      refine List.filter_congr fun q _ => ?_
      by_cases hq : q.1 = p.1 <;> simp [hq]

/-- Of the later pairs those stay whose keys were not among the earlier ones. -/
theorem firsts_append (seen : List Text) (ps qs : List (Text × Text)) :
    firsts seen (ps ++ qs) =
      firsts seen ps ++ firsts ((firsts seen ps).map Prod.fst ++ seen) qs := by
  induction ps generalizing seen with
  | nil => rfl
  | cons p ps ih =>
    rw [List.cons_append, firsts, firsts]
    split
    · exact ih seen
    · -- Whether the key of `p` stands before the later ones or after them makes no difference.
      have hkeys : ∀ later : List Text,
          firsts (later ++ p.1 :: seen) qs = firsts (p.1 :: (later ++ seen)) qs := by
        intro later
        rw [firsts_eq_filter, firsts_eq_filter (p.1 :: (later ++ seen))]
        refine List.filter_congr fun q _ => ?_
        simp only [List.mem_append, List.mem_cons, or_left_comm]
      rw [ih, hkeys]
      rfl

/-- Whatever stands behind a semicolon after a value whose quotes are closed, a look-up turns to it
only for what the value does not have. The primary token stays, and so do the parameters, which are
followed by those under new names. -/
theorem parameters_appended (hh : QuotesClosed h) (r : Text) :
    (∀ name : Option Text, lookup? name (h ++ (';' : CodePoint) :: r) =
      (lookup? name h).or (lookup? name ((';' : CodePoint) :: r))) ∧
    primary (h ++ (';' : CodePoint) :: r) = primary h ∧
    parameters (h ++ (';' : CodePoint) :: r) = parameters h ++
      (parameters ((';' : CodePoint) :: r)).filter fun p => p.1 ∉ (parameters h).map Prod.fst := by
  refine ⟨?_, primary_append h r, ?_⟩
  · intro name
    cases name with
    | none => exact congrArg some (primary_append h r)
    | some n =>
      simp only [lookup?, parameter?]
      rw [parameterList_append hh, List.find?_append, Option.map_or]
  · rw [parameters, parameterList_append hh, List.map_append, firsts_append, List.append_nil,
      firsts_eq_filter (List.map _ _)]
    rfl

/-- What follows gives a name again, and ends in a quote that is not closed. -/
theorem parameters_appended_open :
    QuotesClosed "a; n=\"x;\\\"y\"; m=1" ∧
    lookup? (some "N") ("a; n=\"x;\\\"y\"; m=1" ++ (';' : CodePoint) :: ("N=z; k=\"v;" : Text)) =
      some ("x;\"y" : Text) ∧
    lookup? (some "k") ("a; n=\"x;\\\"y\"; m=1" ++ (';' : CodePoint) :: ("N=z; k=\"v;" : Text)) =
      some ("\"v;" : Text) ∧
    parameters ("a; n=\"x;\\\"y\"; m=1" ++ (';' : CodePoint) :: ("N=z; k=\"v;" : Text)) =
      [(("n" : Text), ("x;\"y" : Text)), (("m" : Text), ("1" : Text)),
        (("k" : Text), ("\"v;" : Text))] := by
  have hh : QuotesClosed "a; n=\"x;\\\"y\"; m=1" := quotesClosed_iff.2 (by decide)
  obtain ⟨hlookup, -, hall⟩ := parameters_appended hh "N=z; k=\"v;"
  exact ⟨hh, (hlookup _).trans (by decide), (hlookup _).trans (by decide), hall.trans (by decide)⟩

end Mime.Header
