import Mime.Text.Basic

/-! Lines of a message, each kept with the line break that ends it: a carriage return, a line
feed, or both in this order. -/

namespace Mime

namespace Line

def isBreak (c : CodePoint) : Bool := c == '\r' || c == '\n'

def split : Text → List Text
  | [] => []
  | [c] => [[c]]
  | c :: d :: r =>
    if c = '\r' ∧ d = '\n' then [c, d] :: split r
    else if isBreak c then [c] :: split (d :: r)
    else match split (d :: r) with
      | [] => [[c]]
      | l :: ls => (c :: l) :: ls

/-- Whether a line has nothing before its line break. -/
def isEmpty (l : Text) : Bool := l.head?.any isBreak

/-- A text without the line break at its end, if there is one. -/
def withoutBreak (t : Text) : Text :=
  match t.reverse with
  | [] => []
  | c :: r =>
    if c = '\n' then (match r with
      | d :: r' => if d = '\r' then r'.reverse else r.reverse
      | [] => [])
    else if c = '\r' then r.reverse
    else t

end Line

end Mime
