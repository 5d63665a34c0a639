import Mathlib.Logic.Function.Basic
import Mime.Header.Fields

/-! Header fields as a multimap from names in lower case to lists of values. Whatever is added, set
and removed, the values of a name are those of the map: `values_edited`. An edit leaves the fields of
other names alone, and setting a value keeps the place and the spelling of the first field. -/

namespace Mime.Fields

inductive Edit where
  | add (name value : Text)
  | set (name value : Text)
  | remove (name : Text)

namespace Edit

def name : Edit → Text
  | add name _ => name
  | set name _ => name
  | remove name => name

def apply (h : Fields) : Edit → Fields
  | add name value => h.add name value
  | set name value => h.set name value
  | remove name => h.remove name

/-- What the values of the name become. -/
def values (vs : List Text) : Edit → List Text
  | add _ value => vs ++ [value]
  | set _ value => [value]
  | remove _ => []

end Edit

def edited (h : Fields) (es : List Edit) : Fields := es.foldl Edit.apply h

/-- Lists of values under names in lower case. -/
abbrev Multimap := Text → List Text

namespace Multimap

def edit (m : Multimap) (e : Edit) : Multimap :=
  Function.update m e.name.lower (e.values (m e.name.lower))

def edited (m : Multimap) (es : List Edit) : Multimap := es.foldl edit m

/-- The map that the fields make when they are added one by one. -/
def ofFields (h : Fields) : Multimap := edited (fun _ => []) (h.map fun f => .add f.1 f.2)

/-- Every name has the values in the fields that it has in the map. -/
def Represents (m : Multimap) (h : Fields) : Prop := ∀ name, h.values name = m name.lower

variable {m : Multimap} {h : Fields}

theorem edit_apply (m : Multimap) (e : Edit) (key : Text) :
    m.edit e key = if e.name.lower = key then e.values (m key) else m key := by
  rw [edit, Function.update_apply]
  by_cases hk : e.name.lower = key
  · rw [if_pos hk.symm, if_pos hk, hk]
  · rw [if_neg (Ne.symm hk), if_neg hk]

theorem Represents.apply (hm : m.Represents h) (e : Edit) : (m.edit e).Represents (e.apply h) := by
  intro name
  rw [edit_apply, ← hm name]
  cases e with
  | add n value =>
    show (h.add n value).values name = if n.lower = name.lower then _ else _
    rw [values_add]
    split
    · rfl
    · exact List.append_nil _
  | set n value => exact values_set n value name h
  | remove n => exact values_remove n name h

theorem Represents.edited (hm : m.Represents h) (es : List Edit) :
    (m.edited es).Represents (h.edited es) := by
  induction es generalizing m h with
  | nil => exact hm
  | cons e es ih => exact ih (hm.apply e)

theorem represents_nil : Represents (fun _ => []) [] := by
  intro name
  rfl

/-- Fields are what adding them one by one makes of none. -/
theorem edited_adds (h before : Fields) :
    Fields.edited before (h.map fun f => .add f.1 f.2) = before ++ h := by
  induction h generalizing before with
  | nil => exact (List.append_nil before).symm
  | cons f h ih =>
    show Fields.edited (before ++ [f]) _ = _
    rw [ih, List.append_assoc]
    rfl

theorem represents_ofFields (h : Fields) : (ofFields h).Represents h := by
  have hr := represents_nil.edited (h.map fun f => .add f.1 f.2)
  rwa [edited_adds, List.nil_append] at hr

end Multimap

/-- The fields of all other names. -/
def others (name : Text) (h : Fields) : Fields := h.filter fun f => f.1.lower ≠ name.lower

variable {name : Text} {f : Text × Text} {h pre post : Fields}

theorem others_cons_of_eq (hf : f.1.lower = name.lower) : others name (f :: h) = others name h :=
  List.filter_cons_of_neg (by simp [hf])

theorem others_append (name : Text) (h h' : Fields) :
    others name (h ++ h') = others name h ++ others name h' := List.filter_append ..

theorem remove_eq_others (name : Text) (h : Fields) : h.remove name = h.others name := by
  refine List.filter_congr fun f _ => ?_
  by_cases hf : f.1.lower = name.lower
  · simp [sameName, hf]
  · simp [sameName, hf]

theorem others_others (name : Text) (h : Fields) : (h.others name).others name = h.others name := by
  rw [others, others, List.filter_filter]
  simp only [Bool.and_self]

/-- Setting a value that has a field already: the first field takes it, and any other goes. -/
theorem set_append_cons (hpre : ∀ x ∈ pre, x.1.lower ≠ name.lower) (hf : f.1.lower = name.lower)
    (value : Text) : (pre ++ f :: post).set name value = pre ++ (f.1, value) :: others name post := by
  induction pre with
  | nil =>
    have hs : sameName name f = true := by rw [sameName, hf, beq_self_eq_true]
    rw [List.nil_append, set, if_pos hs, remove_eq_others]
    rfl
  | cons x pre ih =>
    have hx : ¬sameName name x = true := by
      rw [sameName, beq_iff_eq]
      exact hpre x List.mem_cons_self
    rw [List.cons_append, set, if_neg hx, ih fun y hy => hpre y (List.mem_cons_of_mem x hy)]
    rfl

theorem set_of_forall_ne (hh : ∀ x ∈ h, x.1.lower ≠ name.lower) (value : Text) :
    h.set name value = h ++ [(name, value)] := by
  induction h with
  | nil => rfl
  | cons x h ih =>
    have hx : ¬sameName name x = true := by
      rw [sameName, beq_iff_eq]
      exact hh x List.mem_cons_self
    rw [set, if_neg hx, ih fun y hy => hh y (List.mem_cons_of_mem x hy)]
    rfl

/-- Where a name occurs, it occurs for a first time. -/
theorem exists_first (hh : ∃ f ∈ h, f.1.lower = name.lower) :
    ∃ pre f post, h = pre ++ f :: post ∧ f.1.lower = name.lower ∧
      ∀ x ∈ pre, x.1.lower ≠ name.lower := by
  have hsome : (h.find? fun f => f.1.lower = name.lower).isSome := by
    rw [List.find?_isSome]
    simpa using hh
  obtain ⟨f, hf⟩ := Option.isSome_iff_exists.1 hsome
  obtain ⟨hname, pre, post, he, hpre⟩ := List.find?_eq_some_iff_append.1 hf
  refine ⟨pre, f, post, he, by simpa using hname, ?_⟩
  intro x hx
  simpa using hpre x hx

/-- An edit leaves the fields of other names as they are and where they are. -/
theorem others_apply (h : Fields) (e : Edit) : (e.apply h).others e.name = h.others e.name := by
  have hone (name value : Text) : others name [(name, value)] = [] := others_cons_of_eq rfl
  cases e with
  | add name value =>
    show others name (h ++ [(name, value)]) = others name h
    rw [others_append, hone, List.append_nil]
  | remove name =>
    show others name (h.remove name) = others name h
    rw [remove_eq_others, others_others]
  | set name value =>
    show others name (h.set name value) = others name h
    by_cases hh : ∃ f ∈ h, f.1.lower = name.lower
    · obtain ⟨pre, f, post, rfl, hf, hpre⟩ := exists_first hh
      have hv : ((f.1, value) : Text × Text).1.lower = name.lower := hf
      rw [set_append_cons hpre hf, others_append, others_append, others_cons_of_eq hf,
        others_cons_of_eq hv, others_others]
    · have hne : ∀ x ∈ h, x.1.lower ≠ name.lower := fun x hx he => hh ⟨x, hx, he⟩
      rw [set_of_forall_ne hne, others_append, hone, List.append_nil]

/-- Under any edits the values of a name are those of the map, each edit keeps the fields of other
names, and a value that is set takes the place of the first field of its name, which keeps its
spelling and is the only one left. -/
theorem values_edited (h : Fields) :
    (∀ es name, (h.edited es).values name = (Multimap.ofFields h).edited es name.lower) ∧
    (∀ es e, (h.edited (es ++ [e])).others e.name = (h.edited es).others e.name) ∧
    ∀ es name value, (∃ f ∈ h.edited es, f.1.lower = name.lower) →
      ∃ pre f post, h.edited es = pre ++ f :: post ∧ f.1.lower = name.lower ∧
        (∀ x ∈ pre, x.1.lower ≠ name.lower) ∧
        h.edited (es ++ [.set name value]) = pre ++ (f.1, value) :: others name post ∧
        (h.edited (es ++ [.set name value])).filter (fun x => x.1.lower = name.lower) =
          [(f.1, value)] := by
  have hlast (es : List Edit) (e : Edit) : h.edited (es ++ [e]) = e.apply (h.edited es) := by
    rw [edited, List.foldl_append]
    rfl
  refine ⟨?_, ?_, ?_⟩
  · intro es name
    exact (Multimap.represents_ofFields h).edited es name
  · intro es e
    rw [hlast, others_apply]
  · intro es name value hh
    obtain ⟨pre, f, post, he, hf, hpre⟩ := exists_first hh
    have hset : h.edited (es ++ [.set name value]) = pre ++ (f.1, value) :: others name post := by
      rw [hlast, he]
      exact set_append_cons hpre hf value
    refine ⟨pre, f, post, he, hf, hpre, hset, ?_⟩
    rw [hset, List.filter_append, List.filter_cons_of_pos (by simp [hf])]
    have hp : pre.filter (fun x => x.1.lower = name.lower) = [] :=
      List.filter_eq_nil_iff.2 fun x hx => by simp [hpre x hx]
    have ho : (others name post).filter (fun x => x.1.lower = name.lower) = [] := by
      refine List.filter_eq_nil_iff.2 fun x hx => ?_
      have hne := (List.mem_filter.1 hx).2
      simpa using hne
    rw [hp, ho]
    rfl

/-- Two spellings of one name with another name between them. -/
def received : Fields := [("Received", "a"), ("To", "b"), ("RECEIVED", "c")]

theorem values_edited_received :
    (∃ f ∈ received.edited [.add "to" "d"], f.1.lower = Text.lower "received") ∧
    received.edited [.add "to" "d", .set "received" "e"] =
      ([("Received", "e"), ("To", "b"), ("to", "d")] : Fields) ∧
    ∃ f : Text × Text,
      (received.edited [.add "to" "d", .set "received" "e"]).filter
        (fun x => x.1.lower = Text.lower "received") = [(f.1, ("e" : Text))] := by
  have hh : ∃ f ∈ received.edited [.add "to" "d"], f.1.lower = Text.lower "received" :=
    ⟨("Received", "a"), by decide, by decide⟩
  obtain ⟨pre, f, post, -, -, -, -, hone⟩ :=
    (values_edited received).2.2 [.add "to" "d"] "received" "e" hh
  exact ⟨hh, by decide, f, hone⟩

end Mime.Fields
