import Mime.Proofs.Header.Parameter
import Mime.Proofs.Text.Lower

/-! Parameters that are written out and read back. A value may be any text, between quotes if need
be; blanks around the semicolons and the equals signs do not matter, and neither does the letter case
of the names: `parameters_written`. -/

namespace Mime.Header

open Text (IsBlank)

/-- A backslash before each quote and each backslash. -/
def escape (v : Text) : Text :=
  v.flatMap fun c : CodePoint => if c = '"' ∨ c = '\\' then [('\\' : CodePoint), c] else [c]

abbrev Blanks := { t : Text // IsBlank t }

/-- A parameter as somebody chose to write it. Only a value that begins and ends with something else
than blanks, and has no semicolon and no quote in it, may go without quotes. -/
structure WrittenParameter where
  name : Text
  value : Text
  quoted : Bool
  beforeSemicolon : Blanks
  afterSemicolon : Blanks
  beforeEquals : Blanks
  afterEquals : Blanks
  isName : IsName name
  bare : quoted = false → value.trim = value ∧ ∀ c ∈ value, c ≠ ';' ∧ c ≠ '"'

namespace WrittenParameter

/-- The value, in the form that was chosen for it. -/
def form (w : WrittenParameter) : Text :=
  if w.quoted then ('"' : CodePoint) :: (escape w.value ++ [('"' : CodePoint)]) else w.value

def text (w : WrittenParameter) : Text :=
  w.beforeSemicolon.1 ++ (';' : CodePoint) :: (w.afterSemicolon.1 ++ (w.name ++ w.beforeEquals.1) ++
    ('=' : CodePoint) :: (w.afterEquals.1 ++ w.form))

end WrittenParameter

variable {seen : List Text} {ps : List (Text × Text)} {key : Text}

/-- The first of the pairs with one key stay, in their order. -/
theorem firsts_eq_eraseDupsBy (seen : List Text) (ps : List (Text × Text)) :
    firsts seen ps = (ps.filter fun p => p.1 ∉ seen).eraseDupsBy fun a b => a.1 == b.1 := by
  induction ps generalizing seen with
  | nil => rfl
  | cons p ps ih =>
    rw [firsts]
    split
    · rename_i hs
      rw [ih, List.filter_cons_of_neg (by simpa using hs)]
    · rename_i hs
      rw [List.filter_cons_of_pos (by simpa using hs), List.eraseDupsBy_cons, ih, List.filter_filter]
      congr 3
      funext q
      simp only [List.mem_cons, not_or, beq_eq_false_iff_ne]
      exact Bool.decide_and ..

theorem lookup_firsts (hk : key ∉ seen) :
    (firsts seen ps).lookup key = (ps.find? (·.1 == key)).map (·.2) := by
  induction ps generalizing seen with
  | nil => rfl
  | cons p ps ih =>
    rw [firsts]
    by_cases hp : p.1 = key
    · rw [if_neg (hp ▸ hk), List.find?_cons_of_pos (by simp [hp]), List.lookup_cons, hp]
      simp
    · rw [List.find?_cons_of_neg (by simp [hp])]
      split
      · exact ih hk
      · rw [List.lookup_cons, beq_false_of_ne (Ne.symm hp)]
        exact ih fun hmem => (List.mem_cons.1 hmem).elim (Ne.symm hp) hk

/-- Looking for one parameter and reading all of them agree. -/
theorem parameter?_eq_lookup (name t : Text) :
    parameter? name t = (parameters t).lookup name.trim.lower := by
  rw [parameter?, parameters, lookup_firsts List.not_mem_nil, List.find?_map, Option.map_map]
  rfl

theorem escaped_escape (v : Text) : Escaped v (escape v) := by
  induction v with
  | nil => exact .nil
  | cons c v ih =>
    rw [escape, List.flatMap_cons]
    split
    · exact .escaped ih
    · rename_i hc
      obtain ⟨hq, hb⟩ := not_or.1 hc
      exact .plain hq hb ih

theorem WrittenParameter.valueForm (w : WrittenParameter) : ValueForm w.value w.form := by
  rw [form]
  split
  · exact .quoted (escaped_escape w.value)
  · rename_i hq
    obtain ⟨ht, hv⟩ := w.bare (Bool.not_eq_true _ ▸ hq)
    exact .bare ht hv

/-- Written parameters are parameters in their forms, the blanks before the first semicolon apart.
Blanks before a later semicolon end the parameter before it. -/
theorem exists_tailForm (ws : List WrittenParameter) :
    ∃ lead r, ws.flatMap WrittenParameter.text = lead ++ r ∧ IsBlank lead ∧
      TailForm (ws.map fun w => (w.name, w.value)) r := by
  induction ws with
  | nil => exact ⟨[], [], rfl, by decide, .nil⟩
  | cons w ws ih =>
    obtain ⟨lead, r, he, hlead, hr⟩ := ih
    have hsegment := SegmentForm.intro w.isName w.valueForm w.afterSemicolon.2 w.beforeEquals.2
      w.afterEquals.2 hlead
    refine ⟨w.beforeSemicolon.1, _, ?_, w.beforeSemicolon.2, .cons hsegment hr⟩
    rw [List.flatMap_cons, he, WrittenParameter.text]
    simp only [List.append_assoc, List.cons_append]

variable {token : Text}

/-- What was written is read back: the token without the blanks around it, and the parameters in
order under their names in lower case, the first of a name being taken. A look-up by any spelling of
a name finds the same value. -/
theorem parameters_written (ht : ∀ c ∈ token, c ≠ ';' ∧ c ≠ '"') (ws : List WrittenParameter) :
    primary (token ++ ws.flatMap WrittenParameter.text) = token.trim ∧
    parameters (token ++ ws.flatMap WrittenParameter.text) =
      (ws.map fun w => (w.name.lower, w.value)).eraseDupsBy (fun a b => a.1 == b.1) ∧
    ∀ w ∈ ws, ∀ n : Text, n.lower = w.name.lower →
      ∃ v, (parameters (token ++ ws.flatMap WrittenParameter.text)).lookup w.name.lower = some v ∧
        parameter? n (token ++ ws.flatMap WrittenParameter.text) = some v := by
  obtain ⟨lead, r, he, hlead, hr⟩ := exists_tailForm ws
  have hplain : ∀ c ∈ token ++ lead, c ≠ ';' ∧ c ≠ '"' := by
    intro c hc
    rcases List.mem_append.1 hc with hc | hc
    · exact ht c hc
    · exact ⟨hlead.ne_visible (by decide) c hc, hlead.ne_visible (by decide) c hc⟩
  have hlist := parameterList_of_tailForm hplain hr
  rw [he, ← List.append_assoc]
  refine ⟨?_, ?_, ?_⟩
  · rw [primary_of_tailForm hplain hr]
    exact Text.trim_append (by decide : IsBlank []) hlead token
  · rw [parameters, hlist, List.map_map, firsts_eq_eraseDupsBy]
    simp only [List.not_mem_nil, not_false_eq_true, decide_true, List.filter_true]
    rfl
  · intro w hw n hn
    have htrim : n.trim = n := by
      rw [← Text.trim_lower_eq_self_iff, hn, Text.trim_lower_eq_self_iff]
      exact w.isName.trim
    rw [parameter?_eq_lookup, htrim, hn]
    have hsome : ((parameters ((token ++ lead) ++ r)).lookup w.name.lower).isSome := by
      rw [parameters, hlist, lookup_firsts List.not_mem_nil, Option.isSome_map, List.find?_isSome]
      refine ⟨(w.name.lower, w.value), ?_, beq_self_eq_true _⟩
      rw [List.map_map]
      exact List.mem_map_of_mem hw
    obtain ⟨v, hv⟩ := Option.isSome_iff_exists.1 hsome
    exact ⟨v, hv, hv⟩

/-- A file name full of what could end it early, and the same name once more in another case. -/
def fileNames : List WrittenParameter :=
  let space : Blanks := ⟨" \t", by decide⟩
  [{ name := "FileName", value := " a;b=\"c\\", quoted := true,
     beforeSemicolon := space, afterSemicolon := space, beforeEquals := space, afterEquals := space,
     isName := ⟨by decide, by decide, by decide⟩, bare := by decide },
   { name := "filename", value := "c=\\d", quoted := false,
     beforeSemicolon := space, afterSemicolon := space, beforeEquals := space, afterEquals := space,
     isName := ⟨by decide, by decide, by decide⟩, bare := by decide }]

theorem parameters_written_fileNames :
    (∀ c ∈ ("inline" : Text), c ≠ ';' ∧ c ≠ '"') ∧
    parameters ("inline" ++ fileNames.flatMap WrittenParameter.text) =
      [(("filename" : Text), (" a;b=\"c\\" : Text))] ∧
    parameter? "FILENAME" ("inline" ++ fileNames.flatMap WrittenParameter.text) =
      some (" a;b=\"c\\" : Text) := by
  have ht : ∀ c ∈ ("inline" : Text), c ≠ ';' ∧ c ≠ '"' := by decide
  obtain ⟨-, hall, hone⟩ := parameters_written ht fileNames
  have hfirst : (fileNames.map fun w => (w.name.lower, w.value)).eraseDupsBy
      (fun a b => a.1 == b.1) = [(("filename" : Text), (" a;b=\"c\\" : Text))] := by decide
  obtain ⟨v, hv, hfound⟩ := hone _ List.mem_cons_self "FILENAME" (by decide)
  rw [hall, hfirst] at hv
  exact ⟨ht, hall.trans hfirst, hfound.trans hv.symm⟩

end Mime.Header
