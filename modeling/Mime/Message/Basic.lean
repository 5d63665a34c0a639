import Mime.Message.HeaderBlock
import Mime.Message.Parameter
import Mime.MediaType

/-! Messages as they are read from the wire: fields, and a payload that is text, a list of
messages, or absent. Octets beyond ASCII are carried in the text. -/

namespace Mime

/-- What a message is if it does not say so itself. -/
inductive DefaultType where
  | plainText
  | message
  deriving DecidableEq

namespace DefaultType

def type : DefaultType → MediaType
  | plainText => ⟨"text", "plain"⟩
  | message => ⟨"message", "rfc822"⟩

/-- How many further defaults may come into play below. -/
def rank : DefaultType → Nat
  | plainText => 0
  | message => 1

end DefaultType

inductive Payload (α : Type) where
  | absent
  | text (t : Text)
  | parts (ms : List α)

inductive Message where
  | mk (fields : Fields) (default : DefaultType) (payload : Payload Message)
    (defects : List Defect)

namespace Message

/-- Why a message cannot be read, or its payload not be taken. -/
inductive Fault where
  | unencodable (u : Unencodable)
  | charset (r : Charset.Refusal)
  | segments (f : SegmentFault)
  /-- The charset parameter has an extended value, which names no charset. -/
  | extendedCharset

/-- The fault is that a text cannot be encoded. -/
def Fault.isUnencodable : Fault → Bool
  | unencodable _ => true
  | charset (.label (.surrogates _)) => true
  | _ => false

def Fault.message : Fault → Text
  | unencodable u => u.asciiMessage
  | charset r => r.message
  | segments f => f.message
  | extendedCharset => "decode() argument 'encoding' must be str, not tuple"

def fields : Message → Fields
  | .mk f _ _ _ => f

def payload : Message → Payload Message
  | .mk _ _ p _ => p

def default : Message → DefaultType
  | .mk _ d _ _ => d

def defects : Message → List Defect
  | .mk _ _ _ ds => ds

/-- A value to be looked into: if it has surrogates, the octets that it carries are replaced
characters, and it must not hold anything else beyond ASCII. -/
def legible (value : Text) : Except Unencodable Text :=
  if value.hasSurrogate then
    (fun o => (Charset.asciiUnits o).replacing) <$> value.octets
  else .ok value

/-- The first value of a name, to be looked into. -/
def legible? (name : Text) (fields : Fields) : Except Unencodable (Option Text) :=
  match fields.first? name with
  | none => .ok none
  | some value => some <$> legible value

/-- The type that a value names; without exactly one slash it names plain text. -/
def typeOf (value : Text) : MediaType :=
  match ((value.cut ';').1.trim.lower).pieces '/' with
  | (major, [minor]) => ⟨major, minor⟩
  | _ => DefaultType.type .plainText

def contentType (default : DefaultType) (fields : Fields) : Except Unencodable MediaType := do
  match ← legible? "content-type" fields with
  | none => return DefaultType.type default
  | some value => return typeOf value

def liftUnencodable {α : Type} (r : Except Unencodable α) : Except Fault α :=
  r.mapError .unencodable

/-- The value of a parameter of the content type. -/
def parameter? (name : Text) (fields : Fields) : Except Fault (Option Value) := do
  match ← liftUnencodable (legible? "content-type" fields) with
  | none => return none
  | some value => (findParameter? name value).mapError .segments

end Message

end Mime
