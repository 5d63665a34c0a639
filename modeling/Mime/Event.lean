import Mime.Json

/-! Notices. A computation that has something to report returns its events beside its
outcome, in the order in which they arise, and says whether it asked the charset detector. -/

namespace Mime

inductive Level where
  | debug
  | info
  | warning
  | error
  | critical
  deriving DecidableEq

structure Event where
  level : Level
  name : Text
  fields : List (Text × Json)

/-- An outcome with the events on the way to it. -/
structure Traced (ε α : Type) where
  outcome : Except ε α
  events : List Event := []
  consulted : Bool := false

namespace Traced

variable {ε α β : Type}

/-- What follows an error does not happen, and what came before it stays on record. -/
def andThen (x : Traced ε α) (f : α → Traced ε β) : Traced ε β :=
  match x.outcome with
  | .error e => ⟨.error e, x.events, x.consulted⟩
  | .ok a => ⟨(f a).outcome, x.events ++ (f a).events, x.consulted || (f a).consulted⟩

instance : Monad (Traced ε) where
  pure a := ⟨.ok a, [], false⟩
  bind := andThen

def throw (e : ε) : Traced ε α := ⟨.error e, [], false⟩

def ofExcept (r : Except ε α) : Traced ε α := ⟨r, [], false⟩

def report (e : Event) : Traced ε Unit := ⟨.ok (), [e], false⟩

/-- The detector's answer, which is not known to the computation before it asks. -/
def consult (answer : α) : Traced ε α := ⟨.ok answer, [], true⟩

/-- The same, with the error told in another way. -/
def mapError {ε' : Type} (f : ε → ε') (x : Traced ε α) : Traced ε' α :=
  ⟨x.outcome.mapError f, x.events, x.consulted⟩

@[simp] theorem outcome_mapError {ε' : Type} (f : ε → ε') (x : Traced ε α) :
    (x.mapError f).outcome = x.outcome.mapError f := rfl

@[simp] theorem consulted_mapError {ε' : Type} (f : ε → ε') (x : Traced ε α) :
    (x.mapError f).consulted = x.consulted := rfl

@[simp] theorem outcome_pure (a : α) : (pure a : Traced ε α).outcome = .ok a := rfl

@[simp] theorem outcome_bind (x : Traced ε α) (f : α → Traced ε β) :
    (x >>= f).outcome = x.outcome >>= fun a => (f a).outcome := by
  show (andThen x f).outcome = _
  unfold andThen
  cases x.outcome <;> rfl

@[simp] theorem outcome_map (f : α → β) (x : Traced ε α) :
    (f <$> x).outcome = f <$> x.outcome := by
  show (andThen x fun a => pure (f a)).outcome = _
  unfold andThen
  cases x.outcome <;> rfl

/-- The detector is asked if the one half or the other asks it. -/
theorem consulted_bind {x : Traced ε α} {a : α} (h : x.outcome = .ok a) (f : α → Traced ε β) :
    (x >>= f).consulted = (x.consulted || (f a).consulted) := by
  show (andThen x f).consulted = _
  rw [andThen, h]

@[simp] theorem consulted_map (f : α → β) (x : Traced ε α) : (f <$> x).consulted = x.consulted := by
  show (andThen x fun a => pure (f a)).consulted = _
  unfold andThen
  cases x.outcome with
  | error e => rfl
  | ok a => exact Bool.or_false _

@[simp] theorem outcome_ofExcept (r : Except ε α) : (ofExcept r).outcome = r := rfl

@[simp] theorem outcome_report (e : Event) : (report e : Traced ε Unit).outcome = .ok () := rfl

@[simp] theorem outcome_consult (a : α) : (consult a : Traced ε α).outcome = .ok a := rfl

end Traced

end Mime
