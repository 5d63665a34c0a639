import Mime.Part.Basic
import Mime.Header.Decode
import Mime.Header.Parameter
import Mime.MediaType

/-! What the header fields of a part say about it: its media type, its disposition, and
whether it is to be shown. -/

namespace Mime.Node

variable {α : Type}

def defaultMimeType : Text := "text/plain"

/-- The primary token of a value on one line, in lower case, unless it is empty. -/
def lowerToken? (value : Option Text) : Option Text :=
  match value.map fun v => Header.primary (Header.unfold v) with
  | none => none
  | some t => if t = [] then none else some t.lower

def mimeType (n : Node α) : Text := (lowerToken? n.contentType?).getD defaultMimeType

def dispositionType? (n : Node α) : Option Text := lowerToken? n.disposition?

def hasType (n : Node α) (patterns : List Text) : Bool :=
  MediaType.matchesAny (some n.mimeType) (patterns.map some)

def isAttachment (n : Node α) : Bool := n.dispositionType? == some "attachment"

/-- Text and images are shown, unless they are attachments. -/
def isViewable (n : Node α) : Bool := !n.isAttachment && n.hasType ["text/*", "image/*"]

end Mime.Node
