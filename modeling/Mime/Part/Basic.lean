import Mime.Header.Fields
import Mime.Text.Octets

/-! Parts of a message. A part has header fields with raw values and at most one body, which
is decoded text, raw octets that are still transfer-encoded, or a list of child parts. -/

namespace Mime

inductive Kind where
  | message
  | bodyPart
  deriving DecidableEq

/-- A body whose children are given as values of `α`. -/
inductive Body (α : Type) where
  | text (t : Text)
  | stream (content : Octets)
  | multipart (subtype : Text) (parts : List α)

/-- A part whose children are given as values of `α`. -/
structure Node (α : Type) where
  kind : Kind
  headers : Fields
  body : Option (Body α)

/-- A part with its children inside it. -/
inductive Part where
  | mk (node : Node Part)

def Part.node : Part → Node Part
  | mk n => n

namespace Body

variable {α : Type}

def children : Body α → List α
  | multipart _ parts => parts
  | _ => []

/-- What a body is called in a complaint about it. -/
def shapeName : Option (Body α) → Text
  | none => "NoneType"
  | some (text _) => "TextBody"
  | some (stream _) => "StreamBody"
  | some (multipart ..) => "Multipart"

end Body

namespace Node

variable {α : Type}

def isMultipart (n : Node α) : Bool :=
  match n.body with
  | some (.multipart ..) => true
  | _ => false

def children (n : Node α) : List α := (n.body.map Body.children).getD []

def contentType? (n : Node α) : Option Text := n.headers.first? "Content-Type"

def contentId? (n : Node α) : Option Text := n.headers.first? "Content-ID"

def disposition? (n : Node α) : Option Text := n.headers.first? "Content-Disposition"

def transferEncoding? (n : Node α) : Option Text :=
  n.headers.first? "Content-Transfer-Encoding"

end Node

/-- Why a body does not do what is asked of it. -/
inductive BodyFault where
  | takesNoChildren (shape : Text)
  | hasNoStream (shape : Text)

def BodyFault.message : BodyFault → Text
  | takesNoChildren shape => "'" ++ shape ++ "' object has no attribute 'add_part'"
  | hasNoStream shape => "'" ++ shape ++ "' object has no attribute 'get_input_stream'"

end Mime
