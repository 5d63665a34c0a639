import Mime.Message.Reader
import Mime.Part.Basic
import Mime.Event

/-! From messages to parts. Fields are taken over as they are, and the payload of a leaf
becomes its raw octets. -/

namespace Mime

namespace Message

/-- In what the releases of the message reader differ. -/
class Release where
  /-- A payload is left as it is if on the way to its text something cannot be encoded. -/
  keepsUnencodable : Bool

@[reducible] def Release.earlier : Release := ⟨false⟩

@[reducible] def Release.later : Release := ⟨true⟩

variable [Charset.Registry]

/-- Octets decoded with a charset, and as ASCII if there is no such charset. -/
def decodeWith (label : Text) (o : Octets) : Except Fault Text :=
  match Charset.decode .replacing label o with
  | .ok r => .ok r
  | .error (.refused r) => .error (.charset r)
  | .error _ => .ok (Charset.asciiUnits o).replacing

/-- The octets that a text carries, decoded with the declared charset. -/
def carriedText (fields : Fields) (t : Text) : Except Fault Text := do
  let o ← liftUnencodable t.octets
  match ← parameter? "charset" fields with
  | some (.extended ..) => .error .extendedCharset
  | some (.plain label) => decodeWith label o
  | none => decodeWith "ascii" o

variable [Release]

/-- The text of a payload. Without surrogates there is nothing to decode. -/
def payloadText (fields : Fields) (t : Text) : Except Fault Text :=
  if !t.hasSurrogate then .ok t
  else match carriedText fields t with
    | .ok r => .ok r
    | .error f => if Release.keepsUnencodable && f.isUnencodable then .ok t else .error f

/-- The raw octets of a leaf. Its text must by then be ASCII or carry octets. -/
def leafOctets (fields : Fields) : Payload Message → Except Fault Octets
  | .text t => do
    let _ ← liftUnencodable (legible? "content-transfer-encoding" fields)
    liftUnencodable (← payloadText fields t).octets
  | _ => do
    let _ ← liftUnencodable (legible? "content-transfer-encoding" fields)
    return []

mutual

/-- The part that a message is. Children of a message type are messages themselves. -/
def toPart (kind : Kind) : Message → Except Fault Part
  | .mk fields d (.parts ms) _ => do
    let type ← liftUnencodable (contentType d fields)
    let parts ← toParts (if type.major = "message" then .message else .bodyPart) ms
    return .mk ⟨kind, fields, some (.multipart type.minor parts)⟩
  | .mk fields _ (.text t) _ => do
    return .mk ⟨kind, fields, some (.stream (← leafOctets fields (.text t)))⟩
  | .mk fields _ .absent _ => do
    return .mk ⟨kind, fields, some (.stream (← leafOctets fields .absent))⟩

def toParts (kind : Kind) : List Message → Except Fault (List Part)
  | [] => .ok []
  | m :: ms => do return (← toPart kind m) :: (← toParts kind ms)

end

end Message

namespace Part

/-- Why octets are not made into a part. -/
inductive ReadFault where
  | unreadable (f : Message.Fault)
  | unconvertible (f : Message.Fault)

def ReadFault.message : ReadFault → Text
  | unreadable f => "Failed to parse .eml file: " ++ f.message
  | unconvertible f => f.message

def defectNotice (ds : List Defect) : Event :=
  ⟨.debug, "eml_parse_defects", [("defects", .arr (ds.map fun d => .str d.name))]⟩

variable [Charset.Registry] [Message.Release]

/-- Reads the octets of a message. Defects of the message as a whole are reported. -/
def ofOctets (o : Octets) : Traced ReadFault Part := do
  let m ← .ofExcept ((Message.ofOctets o).mapError .unreadable)
  unless m.defects = [] do .report (defectNotice m.defects)
  .ofExcept ((m.toPart .message).mapError .unconvertible)

end Part

end Mime
