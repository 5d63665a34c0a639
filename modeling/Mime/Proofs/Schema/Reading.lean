import Mathlib.Data.List.Forall2
import Mime.Part.Schema

/-! Readings put together. One that is made of others gives a value exactly if all of them do, and
otherwise has the errors of all of them, in their order and each below its place. -/

namespace Mime

namespace Json

theorem eq_arr_or (v : Json) : (∃ vs, v = .arr vs) ∨ ∀ vs, v ≠ .arr vs := by
  cases v <;> simp

theorem eq_obj_or (v : Json) : (∃ fs, v = .obj fs) ∨ ∀ fs, v ≠ .obj fs := by
  cases v <;> simp

end Json

namespace Schema

/-- The error, with its place below `ps`. -/
def Error.below (ps : List Place) (e : Error) : Error := ⟨ps ++ e.place, e.fault⟩

namespace Reading

variable {α β γ : Type}

/-- All that is wrong; nothing, if there is a value. -/
def errors : Reading α → List Error
  | .ok _ => []
  | .error es => es

variable {ps : List Place} {r : Reading α} {a : α}

theorem below_eq_ok_iff : below ps r = .ok a ↔ r = .ok a := by
  cases r with
  | ok b => rfl
  | error es => simp [below]

theorem below_returns_iff : (∃ a, below ps r = .ok a) ↔ ∃ a, r = .ok a :=
  exists_congr fun _ => below_eq_ok_iff

variable {f : α → β → γ} {x : Reading α} {y : Reading β} {c : γ}

theorem both_eq_ok_iff : both f x y = .ok c ↔ ∃ a b, x = .ok a ∧ y = .ok b ∧ f a b = c := by
  cases x <;> cases y <;> simp [both]

theorem both_returns_iff :
    (∃ c, both f x y = .ok c) ↔ (∃ a, x = .ok a) ∧ ∃ b, y = .ok b := by
  constructor
  · rintro ⟨c, h⟩
    obtain ⟨a, b, ha, hb, -⟩ := both_eq_ok_iff.1 h
    exact ⟨⟨a, ha⟩, b, hb⟩
  · rintro ⟨⟨a, ha⟩, b, hb⟩
    exact ⟨f a b, both_eq_ok_iff.2 ⟨a, b, ha, hb, rfl⟩⟩

end Reading

open Reading

variable {α : Type} {f : Reader α} {name : Text} {fs : List (Text × Json)}

/-- What is read gives a value. -/
def Accepts (f : Reader α) (v : Json) : Prop := ∃ a, f v = .ok a

theorem items_eq_ok_iff {n : Nat} {vs : List Json} {as : List α} :
    items f n vs = .ok as ↔ List.Forall₂ (fun v a => f v = .ok a) vs as := by
  induction vs generalizing n as with
  | nil =>
    rw [items, List.forall₂_nil_left_iff]
    exact ⟨fun h => (Except.ok.inj h).symm, fun h => h ▸ rfl⟩
  | cons v vs ih =>
    rw [items, both_eq_ok_iff, List.forall₂_cons_left_iff]
    refine exists₂_congr fun a bs => ?_
    rw [below_eq_ok_iff, ih, eq_comm (a := a :: bs)]

theorem items_returns_iff {n : Nat} {vs : List Json} :
    (∃ as, items f n vs = .ok as) ↔ ∀ v ∈ vs, Accepts f v := by
  induction vs generalizing n with
  | nil => exact iff_of_true ⟨[], rfl⟩ fun v hv => absurd hv List.not_mem_nil
  | cons v vs ih =>
    rw [items, both_returns_iff, below_returns_iff, ih, List.forall_mem_cons]
    rfl

section Fields

variable {d : Option α} {a : α} {v : Json}

theorem fieldOr_of_none (h : Json.field? name fs = none) : fieldOr name fs (some a) f = .ok a := by
  rw [fieldOr, h]

theorem fieldOr_of_some (h : Json.field? name fs = some v) :
    fieldOr name fs d f = below [.field name] (f v) := by
  unfold fieldOr
  rw [h]

theorem fieldOr_eq_ok_iff :
    fieldOr name fs d f = .ok a ↔
      Json.field? name fs = none ∧ d = some a ∨
        ∃ v, Json.field? name fs = some v ∧ f v = .ok a := by
  cases h : Json.field? name fs with
  | none => cases d <;> simp [fieldOr, h, below, fail]
  | some v => simp [fieldOr_of_some h, below_eq_ok_iff]

/-- A field with a default is read if its value is, if there is one. -/
theorem fieldOr_returns_iff :
    (∃ b, fieldOr name fs (some a) f = .ok b) ↔
      ∀ v, Json.field? name fs = some v → Accepts f v := by
  cases h : Json.field? name fs with
  | none =>
    rw [fieldOr_of_none h]
    exact iff_of_true ⟨a, rfl⟩ fun v hv => nomatch hv
  | some v =>
    rw [fieldOr_of_some h, below_returns_iff]
    exact ⟨fun hv w hw => Option.some.inj hw ▸ hv, fun hv => hv v rfl⟩

theorem required_returns_iff :
    (∃ b, fieldOr name fs none f = .ok b) ↔ ∃ v, Json.field? name fs = some v ∧ Accepts f v := by
  cases h : Json.field? name fs with
  | none => simp [fieldOr, h, below, fail]
  | some v => simp [fieldOr_of_some h, below_returns_iff, Accepts]

end Fields

end Schema

end Mime
