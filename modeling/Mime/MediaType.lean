import Mime.Text.Blank
import Mime.Text.Lower

/-! Media types and patterns of them. An asterisk on either side stands for any half. -/

namespace Mime

structure MediaType where
  major : Text
  minor : Text
  deriving DecidableEq

namespace MediaType

/-- A text without a slash is no media type. -/
def ofText? (t : Text) : Option MediaType :=
  match t.cut '/' with
  | (_, none) => none
  | (major, some minor) => some ⟨major.trim.lower, minor.trim.lower⟩

def halfMatches (a b : Text) : Bool := a == "*" || b == "*" || a == b

def matchesPattern (a b : MediaType) : Bool := halfMatches a.major b.major && halfMatches a.minor b.minor

/-- Whether a type matches one of the patterns. What is no media type never matches. -/
def matchesAny (type : Option Text) (patterns : List (Option Text)) : Bool :=
  match type.bind ofText? with
  | none => false
  | some t => patterns.any fun p => ((p.bind ofText?).map t.matchesPattern).getD false

end MediaType

end Mime
