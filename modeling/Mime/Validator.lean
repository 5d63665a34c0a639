import Mime.Json
import Mime.Text.Utf8

/-! Reading JSON values as what they have to be. A reader gives a value, or everything that is
wrong, each fault with the place where it is. What the readers for texts, lists, objects and the
like do is up to a validator, which keeps to some rules. -/

namespace Mime.Schema

inductive Place where
  | field (name : Text)
  | index (n : Nat)
  deriving DecidableEq

inductive Fault where
  | notMember
  | notList
  | notPair
  | missing
  | tooLong
  | notText
  | notOctets
  /-- The text holds surrogates, so that it has no octets. -/
  | notUnicode
  | notModel
  | notTagged
  | noTag
  | unknownTag
  /-- A reader is inside itself too many times. -/
  | tooDeep
  deriving DecidableEq

def Fault.code : Fault → Text
  | notMember => "enum"
  | notList => "list_type"
  | notPair => "tuple_type"
  | missing => "missing"
  | tooLong => "too_long"
  | notText => "string_type"
  | notOctets => "bytes_type"
  | notUnicode => "string_unicode"
  | notModel => "model_type"
  | notTagged => "model_attributes_type"
  | noTag => "union_tag_not_found"
  | unknownTag => "union_tag_invalid"
  | tooDeep => "recursion_loop"

structure Error where
  place : List Place
  fault : Fault
  deriving DecidableEq

/-- A value, or all that is wrong with what should have been one. -/
abbrev Reading (α : Type) := Except (List Error) α

namespace Reading

variable {α β γ : Type}

def fail (f : Fault) : Reading α := .error [⟨[], f⟩]

/-- Puts the places of all errors below `ps`. -/
def below (ps : List Place) (r : Reading α) : Reading α :=
  match r with
  | .ok a => .ok a
  | .error es => .error (es.map fun e => ⟨ps ++ e.place, e.fault⟩)

/-- Reads two things, with the errors of both. -/
def both (f : α → β → γ) (x : Reading α) (y : Reading β) : Reading γ :=
  match x, y with
  | .ok a, .ok b => .ok (f a b)
  | .error es, .ok _ => .error es
  | .ok _, .error es => .error es
  | .error es, .error es' => .error (es ++ es')

end Reading

open Reading

abbrev Reader (α : Type) := Json → Reading α

section Readers

variable {α β : Type}

/-- The items of a list, each below its index; `n` items came before. -/
def items (f : Reader α) : (n : Nat) → List Json → Reading (List α)
  | _, [] => .ok []
  | n, v :: vs => both List.cons (below [.index n] (f v)) (items f (n + 1) vs)

/-- Reads a field below its name. If it is absent, the default is taken, and without one it is
missed. -/
def fieldOr (name : Text) (fs : List (Text × Json)) (default : Option α) (f : Reader α) :
    Reading α :=
  match Json.field? name fs with
  | some v => below [.field name] (f v)
  | none => match default with
    | some a => .ok a
    | none => below [.field name] (fail .missing)

/-- The fields of an object in the order in which they are read. -/
inductive Record : Type → Type 1 where
  | nil : Record Unit
  | field {α β : Type} (name : Text) (default : Option α) (read : Reader α) (rest : Record β) :
    Record (α × β)

/-- Reads all fields, with the errors of all; fields of other names are passed over. -/
def Record.read : {α : Type} → Record α → List (Text × Json) → Reading α
  | _, .nil, _ => .ok ()
  | _, .field name default f rest, fs =>
    both Prod.mk (fieldOr name fs default f) (rest.read fs)

/-- The reader that `f` makes of itself, not more than `n` times inside itself. -/
def entered (f : Reader α → Reader α) : (n : Nat) → Reader α
  | 0 => fun _ => fail .tooDeep
  | n + 1 => f (entered f n)

end Readers

structure Validator where
  text : Reader Text
  octets : Reader Octets
  /-- A text among some, each of which stands for a value. -/
  member {α : Type} (members : List (Text × α)) : Reader α
  pair {α β : Type} (first : Reader α) (second : Reader β) : Reader (α × β)
  list {α : Type} (item : Reader α) : Reader (List α)
  nullable {α : Type} (f : Reader α) : Reader (Option α)
  /-- An object with those fields. -/
  model {α : Type} (r : Record α) : Reader α
  /-- An object that tells by the field `key` for which of the readers it is. -/
  tagged {α : Type} (key : Text) (choices : List (Text × Reader α)) : Reader α
  /-- The reader that `f` makes of itself. -/
  recursive {α : Type} (f : Reader α → Reader α) : Reader α
  /-- How many times such a reader may be inside itself. -/
  guard : Nat
  text_eq_ok_iff {v : Json} {t : Text} : text v = .ok t ↔ v = .str t
  octets_eq_ok_iff {v : Json} {o : Octets} :
    octets v = .ok o ↔ ∃ t : Text, v = .str t ∧ t.hasSurrogate = false ∧ t.utf8 = o
  member_eq_ok_iff {α : Type} {members : List (Text × α)} {v : Json} {a : α} :
    member members v = .ok a ↔ ∃ t, v = .str t ∧ members.lookup t = some a
  pair_eq_ok_iff {α β : Type} {f : Reader α} {g : Reader β} {v : Json} {p : α × β} :
    pair f g v = .ok p ↔ ∃ a b, v = .arr [a, b] ∧ f a = .ok p.1 ∧ g b = .ok p.2
  list_arr {α : Type} {f : Reader α} {vs : List Json} : list f (.arr vs) = items f 0 vs
  list_other {α : Type} {f : Reader α} {v : Json} (h : ∀ vs, v ≠ .arr vs) :
    list f v = fail .notList
  nullable_null {α : Type} {f : Reader α} : nullable f .null = .ok none
  nullable_other {α : Type} {f : Reader α} {v : Json} (h : v ≠ .null) :
    nullable f v = some <$> f v
  model_obj {α : Type} {r : Record α} {fs : List (Text × Json)} : model r (.obj fs) = r.read fs
  model_other {α : Type} {r : Record α} {v : Json} (h : ∀ fs, v ≠ .obj fs) :
    model r v = fail .notModel
  tagged_known {α : Type} {key t : Text} {choices : List (Text × Reader α)}
    {fs : List (Text × Json)} {f : Reader α} (hk : Json.field? key fs = some (.str t))
    (hf : choices.lookup t = some f) : tagged key choices (.obj fs) = below [.field t] (f (.obj fs))
  /-- A tag that is none of the names is a fault, whatever is read under the names. -/
  tagged_unknown {key : Text} {names : List Text} {fs : List (Text × Json)} {v : Json}
    (hk : Json.field? key fs = some v) (hv : ∀ t ∈ names, v ≠ .str t) :
    ∃ f, ∀ {α : Type} (choices : List (Text × Reader α)), choices.map Prod.fst = names →
      tagged key choices (.obj fs) = fail f
  tagged_absent {α : Type} {key : Text} {choices : List (Text × Reader α)}
    {fs : List (Text × Json)} (hk : Json.field? key fs = none) :
    tagged key choices (.obj fs) = fail .noTag
  tagged_other {α : Type} {key : Text} {choices : List (Text × Reader α)} {v : Json}
    (h : ∀ fs, v ≠ .obj fs) : tagged key choices v = fail .notTagged
  recursive_eq {α : Type} {f : Reader α → Reader α} : recursive f = entered f guard

namespace Lax

variable {α β : Type}

def text : Reader Text
  | .str t => .ok t
  | _ => fail .notText

def octets : Reader Octets
  | .str t => if t.hasSurrogate then fail .notUnicode else .ok t.utf8
  | _ => fail .notOctets

def member (members : List (Text × α)) : Reader α
  | .str t => match members.lookup t with
    | some a => .ok a
    | none => fail (if t.hasSurrogate then .notUnicode else .notMember)
  | _ => fail .notMember

def pair (f : Reader α) (g : Reader β) : Reader (α × β)
  | .arr [] => both Prod.mk (below [.index 0] (fail .missing)) (below [.index 1] (fail .missing))
  | .arr [a] => both Prod.mk (below [.index 0] (f a)) (below [.index 1] (fail .missing))
  | .arr [a, b] => both Prod.mk (below [.index 0] (f a)) (below [.index 1] (g b))
  | .arr _ => fail .tooLong
  | _ => fail .notPair

def list (f : Reader α) : Reader (List α)
  | .arr vs => items f 0 vs
  | _ => fail .notList

def nullable (f : Reader α) : Reader (Option α)
  | .null => .ok none
  | v => some <$> f v

def model (r : Record α) : Reader α
  | .obj fs => r.read fs
  | _ => fail .notModel

def tagged (key : Text) (choices : List (Text × Reader α)) : Reader α
  | .obj fs => match Json.field? key fs with
    | some (.str t) => match choices.lookup t with
      | some f => below [.field t] (f (.obj fs))
      | none => fail .unknownTag
    | some _ => fail .unknownTag
    | none => fail .noTag
  | _ => fail .notTagged

theorem pair_eq_ok_iff {f : Reader α} {g : Reader β} {v : Json} {p : α × β} :
    pair f g v = .ok p ↔ ∃ a b, v = .arr [a, b] ∧ f a = .ok p.1 ∧ g b = .ok p.2 := by
  cases v with
  | arr vs =>
    rcases vs with _ | ⟨a, _ | ⟨b, _ | ⟨c, vs⟩⟩⟩
    · simp [pair, both, below, fail]
    · cases hf : f a <;> simp [pair, both, below, fail, hf]
    · constructor
      · intro h
        refine ⟨a, b, rfl, ?_⟩
        rw [pair] at h
        cases hf : f a <;> cases hg : g b <;> simp_all [both, below, Prod.ext_iff]
      · rintro ⟨_, _, ⟨⟩, hf, hg⟩
        rw [pair, hf, hg]
        rfl
    · simp [pair, fail]
  | _ => simp [pair, fail]

end Lax

/-- The validator that takes what it can. -/
def Validator.lax : Validator where
  text := Lax.text
  octets := Lax.octets
  member := Lax.member
  pair := Lax.pair
  list := Lax.list
  nullable := Lax.nullable
  model := Lax.model
  tagged := Lax.tagged
  recursive f := entered f 255
  guard := 255
  text_eq_ok_iff {v _} := by cases v <;> simp [Lax.text, fail]
  octets_eq_ok_iff {v _} := by
    cases v with
    | str t => cases ht : t.hasSurrogate <;> simp [Lax.octets, ht, fail]
    | _ => simp [Lax.octets, fail]
  member_eq_ok_iff {_ members v _} := by
    cases v with
    | str t => cases hm : members.lookup t <;> simp [Lax.member, hm, fail]
    | _ => simp [Lax.member, fail]
  pair_eq_ok_iff := Lax.pair_eq_ok_iff
  list_arr := rfl
  list_other {_ _ v} h := by
    cases v with
    | arr vs => exact absurd rfl (h vs)
    | _ => rfl
  nullable_null := rfl
  nullable_other {_ _ v} h := by
    cases v with
    | null => exact absurd rfl h
    | _ => rfl
  model_obj := rfl
  model_other {_ _ v} h := by
    cases v with
    | obj fs => exact absurd rfl (h fs)
    | _ => rfl
  tagged_known hk hf := by simp only [Lax.tagged, hk, hf]
  tagged_unknown {_ _ _ v} hk hv := by
    refine ⟨.unknownTag, fun choices hn => ?_⟩
    cases v with
    | str t =>
      have hf : choices.lookup t = none := by
        rw [List.lookup_eq_none_iff]
        intro c hc
        rw [bne_iff_ne]
        rintro rfl
        exact hv c.1 (hn ▸ List.mem_map_of_mem hc) rfl
      simp only [Lax.tagged, hk, hf]
    | _ => simp only [Lax.tagged, hk]
  tagged_absent hk := by simp only [Lax.tagged, hk]
  tagged_other {_ _ _ v} h := by
    cases v with
    | obj fs => exact absurd rfl (h fs)
    | _ => rfl
  recursive_eq := rfl

end Mime.Schema
