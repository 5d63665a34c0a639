import Mime.Text.Basic

/-! Folding of long header values. A line may be broken before the last blank of a run that
text follows, so that every continuation line starts with one blank and carries text. The
lines are filled greedily up to a width. -/

namespace Mime.Header

def isFoldingBlank (c : CodePoint) : Bool := c == ' ' || c == '\t'

def lineBreak : Text := "\r\n"

/-- The value cut at every place where it may be broken: what stands before the first such
place, and the stretches that begin at each of them. -/
def stretches : Text → Text × List Text
  | [] => ([], [])
  | [c] => ([c], [])
  | c :: d :: r =>
    let (first, more) := stretches (d :: r)
    if isFoldingBlank c && !isFoldingBlank d then ([], (c :: first) :: more)
    else (c :: first, more)

/-- Nothing is lost in cutting. -/
theorem stretches_flatten (t : Text) : (stretches t).1 ++ (stretches t).2.flatten = t := by
  induction t with
  | nil => rfl
  | cons c t ih =>
    cases t with
    | nil => rfl
    | cons d r =>
      unfold stretches
      simp only
      split <;> simpa using ih

/-- Puts stretches on a line that has `used` characters, and on new lines, each of which is
begun where the next stretch would not fit, unless the line is still empty. The result is what
the line at hand gets, and the lines after it. -/
def fill (width : Int) : (used : Int) → List Text → Text × List Text
  | _, [] => ([], [])
  | used, s :: more =>
    if used + s.length > width ∧ 0 < used then
      let (line, lines) := fill width s.length more
      ([], (s ++ line) :: lines)
    else
      let (line, lines) := fill width (used + s.length) more
      (s ++ line, lines)

/-- Nothing is lost in filling. -/
theorem fill_flatten (width used : Int) (ss : List Text) :
    (fill width used ss).1 ++ (fill width used ss).2.flatten = ss.flatten := by
  induction ss generalizing used with
  | nil => rfl
  | cons s more ih =>
    unfold fill
    split
    · simpa using ih s.length
    · simpa using ih (used + s.length)

/-- The lines of a folded value, `used` characters of the first being already taken. A negative
count makes room and skips as many characters of a value that has to be folded. -/
def foldedLines (used width : Int) (t : Text) : Text × List Text :=
  if used + t.length ≤ width then (t, [])
  else
    let (first, more) := stretches t
    let (line, lines) := fill width (used + first.length) more
    ((first ++ line).drop (-used).toNat, lines)

def joinLines (first : Text) (more : List Text) : Text := first ++ more.flatMap (lineBreak ++ ·)

def fold (used width : Int) (t : Text) : Text :=
  joinLines (foldedLines used width t).1 (foldedLines used width t).2

/-- Where characters are taken already, the lines make up the value. -/
theorem foldedLines_flatten {used width : Int} (h : 0 ≤ used) (t : Text) :
    (foldedLines used width t).1 ++ (foldedLines used width t).2.flatten = t := by
  unfold foldedLines
  split
  · simp
  · have hd : (-used).toNat = 0 := by omega
    simp only [hd, List.drop_zero, List.append_assoc, fill_flatten]
    exact stretches_flatten t

end Mime.Header
