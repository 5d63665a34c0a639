import Mime.Text.Lower

/-! Header fields: an ordered list of names and raw values, whose names are compared without
regard to case. -/

namespace Mime

abbrev Fields := List (Text × Text)

namespace Fields

def sameName (name : Text) (f : Text × Text) : Bool := f.1.lower == name.lower

/-- All values of a name, in order. -/
def values (name : Text) (h : Fields) : List Text := (h.filter (sameName name)).map (·.2)

def first? (name : Text) (h : Fields) : Option Text := (h.values name).head?

def add (name value : Text) (h : Fields) : Fields := h ++ [(name, value)]

def remove (name : Text) (h : Fields) : Fields := h.filter (!sameName name ·)

/-- Puts one value in the place of all values of a name. It takes the position and the
spelling of the first, or else goes to the end. -/
def set (name value : Text) : Fields → Fields
  | [] => [(name, value)]
  | f :: r => if sameName name f then (f.1, value) :: remove name r else f :: set name value r

@[simp] theorem values_add (name value other : Text) (h : Fields) :
    (h.add name value).values other =
      h.values other ++ (if name.lower = other.lower then [value] else []) := by
  simp only [add, values, List.filter_append, List.map_append]
  by_cases hn : name.lower = other.lower <;> simp [sameName, hn]

@[simp] theorem values_remove (name other : Text) (h : Fields) :
    (h.remove name).values other = if name.lower = other.lower then [] else h.values other := by
  simp only [remove, values, List.filter_filter]
  split
  · rename_i hn
    simp [sameName, hn]
  · rename_i hn
    congr 1
    refine List.filter_congr fun f _ => ?_
    by_cases hf : f.1.lower = other.lower
    · simp [sameName, hf, Ne.symm hn]
    · simp [sameName, hf]

@[simp] theorem values_set (name value other : Text) (h : Fields) :
    (h.set name value).values other =
      if name.lower = other.lower then [value] else h.values other := by
  induction h with
  | nil => by_cases hn : name.lower = other.lower <;> simp [set, values, sameName, hn]
  | cons f r ih =>
    unfold set
    split
    · rename_i hf
      have hf : f.1.lower = name.lower := by simpa [sameName] using hf
      have hr := values_remove name other r
      unfold values at hr ⊢
      by_cases hn : name.lower = other.lower
      · simp only [hn, if_true] at hr ⊢
        simp [sameName, hf, hn] at hr ⊢
        exact hr
      · simp only [hn, if_false] at hr ⊢
        simp [sameName, hf, hn] at hr ⊢
        exact hr
    · rename_i hf
      have hf : f.1.lower ≠ name.lower := by simpa [sameName] using hf
      unfold values at ih ⊢
      by_cases hn : name.lower = other.lower
      · have : f.1.lower ≠ other.lower := hn ▸ hf
        simp only [hn, if_true] at ih ⊢
        simpa [List.filter_cons, sameName, this] using ih
      · simp only [hn, if_false] at ih ⊢
        by_cases ho : f.1.lower = other.lower
        · simpa [List.filter_cons, sameName, ho] using ih
        · simpa [List.filter_cons, sameName, ho] using ih

end Fields

end Mime
