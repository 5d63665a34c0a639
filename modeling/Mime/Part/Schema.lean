import Mime.Part.Basic
import Mime.Validator

/-! What JSON values have to be to be read as parts, and how parts are written as JSON. The names
of the fields, their order and their defaults are said here, the rest is up to a validator. -/

namespace Mime.Schema

namespace Validator

variable (V : Validator)

def kind : Reader Kind := V.member [("message", .message), ("body_part", .bodyPart)]

def headers : Reader Fields := V.list (V.pair V.text V.text)

/-- The field by which a body tells what it is. -/
def tag (name : Text) : Reader Unit := V.member [(name, ())]

def textBody : Reader (Body Part) := fun v =>
  (fun f => .text f.2.1) <$> V.model
    (.field "kind" (some ()) (V.tag "text") <|
      .field "text" none V.text .nil) v

def streamBody : Reader (Body Part) := fun v =>
  (fun f => .stream f.2.1) <$> V.model
    (.field "kind" (some ()) (V.tag "stream") <|
      .field "content" (some []) V.octets .nil) v

def multipartBody (part : Reader Part) : Reader (Body Part) := fun v =>
  (fun f => .multipart f.2.1 f.2.2.1) <$> V.model
    (.field "kind" (some ()) (V.tag "multipart") <|
      .field "subtype" (some ("mixed" : Text)) V.text <|
      .field "parts" (some []) (V.list part) .nil) v

/-- The kinds of bodies, with the parts in them read by `part`. -/
def bodies (part : Reader Part) : List (Text × Reader (Body Part)) :=
  [("text", V.textBody), ("multipart", V.multipartBody part), ("stream", V.streamBody)]

def body (part : Reader Part) : Reader (Option (Body Part)) :=
  V.nullable (V.tagged "kind" (V.bodies part))

/-- A part, with the parts in its body read by `part`. -/
def partWith (part : Reader Part) : Reader Part := fun v =>
  (fun f => .mk ⟨f.1, f.2.1, f.2.2.1⟩) <$> V.model
    (.field "kind" (some .bodyPart) V.kind <|
      .field "headers" (some []) V.headers <|
      .field "body" (some none) (V.body part) .nil) v

def part : Reader Part := V.recursive V.partWith

end Validator

def kindText : Kind → Text
  | .message => "message"
  | .bodyPart => "body_part"

def headersJson (h : Fields) : Json := .arr (h.map fun f => .arr [.str f.1, .str f.2])

mutual

/-- A part as JSON, its raw octets as `content` writes them. -/
def dump (content : Octets → Json) : Part → Json
  | .mk ⟨k, h, b⟩ =>
    .obj [("kind", .str (kindText k)), ("headers", headersJson h), ("body", dumpBody content b)]

def dumpBody (content : Octets → Json) : Option (Body Part) → Json
  | none => .null
  | some (.text t) => .obj [("kind", .str "text"), ("text", .str t)]
  | some (.stream o) => .obj [("kind", .str "stream"), ("content", content o)]
  | some (.multipart s ps) =>
    .obj [("kind", .str "multipart"), ("subtype", .str s), ("parts", .arr (dumpParts content ps))]

def dumpParts (content : Octets → Json) : List Part → List Json
  | [] => []
  | p :: ps => dump content p :: dumpParts content ps

end

end Mime.Schema
