import Mime.Text.Blank
import Mime.Text.Lower

/-! Structured header values: a primary token and `;`-separated parameters `name=value`.
Semicolons inside double quotes do not separate. -/

namespace Mime.Header

/-- Where a character stands with respect to double quotes. -/
inductive Quoting where
  | outside
  | inside
  /-- Inside, right after a backslash. -/
  | escaped
  deriving DecidableEq

def Quoting.after (q : Quoting) (c : CodePoint) : Quoting :=
  match q with
  | .escaped => .inside
  | .inside => if c = '\\' then .escaped else if c = '"' then .outside else .inside
  | .outside => if c = '"' then .inside else .outside

/-- The text up to the first separating semicolon, and the segments after it. -/
def segments : Quoting → Text → Text × List Text
  | _, [] => ([], [])
  | q, c :: r =>
    let (first, more) := segments (q.after c) r
    if q = .outside ∧ c = ';' then ([], first :: more) else (c :: first, more)

/-- A semicolon outside of quotes separates what comes before it from what comes after. -/
theorem segments_append {q : Quoting} {a b : Text} (h : a.foldl Quoting.after q = .outside) :
    segments q (a ++ (';' : CodePoint) :: b) =
      ((segments q a).1, (segments q a).2 ++ (segments .outside b).1 :: (segments .outside b).2) := by
  induction a generalizing q with
  | nil =>
    simp only [List.foldl_nil] at h
    subst h
    simp [segments, Quoting.after]
  | cons c a ih =>
    simp only [List.cons_append, segments, ih h]
    split <;> rfl

/-- Every backslash goes, and makes the character after it stand for itself. -/
def unescape : Text → Text
  | [] => []
  | [c] => if c = '\\' then [] else [c]
  | c :: d :: r => if c = '\\' then d :: unescape r else c :: unescape (d :: r)

/-- A value without the blanks around it and without its quotes. -/
def unquote (t : Text) : Text :=
  let t := t.trim
  if t.enclosedBy '"' '"' then unescape t.inner else t

/-- Name and value of a segment; a segment without `=` or without a name is no parameter. -/
def parameterOf? (segment : Text) : Option (Text × Text) :=
  match segment.cut '=' with
  | (_, none) => none
  | (name, some value) => if name.trim = [] then none else some (name.trim, unquote value)

def parameterList (t : Text) : List (Text × Text) :=
  (segments .outside t).2.filterMap parameterOf?

/-- The text before the first semicolon of all. -/
def primary (t : Text) : Text := (t.cut ';').1.trim

/-- The value of the first parameter of that name, which is compared without regard to case. -/
def parameter? (name : Text) (t : Text) : Option Text :=
  ((parameterList t).find? (·.1.lower == name.trim.lower)).map (·.2)

/-- The parameter of a name or, if no name is given, the primary token. -/
def lookup? (name : Option Text) (t : Text) : Option Text :=
  match name with
  | none => some (primary t)
  | some n => parameter? n t

/-- Keeps the first of the pairs with one key. -/
def firsts : (seen : List Text) → List (Text × Text) → List (Text × Text)
  | _, [] => []
  | seen, (k, v) :: r => if k ∈ seen then firsts seen r else (k, v) :: firsts (k :: seen) r

/-- All parameters under their names in lower case, the first of a name being taken. -/
def parameters (t : Text) : List (Text × Text) :=
  firsts [] ((parameterList t).map fun p => (p.1.lower, p.2))

end Mime.Header
