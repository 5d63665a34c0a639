import Mime.Part.Classify
import Mime.Part.Graph
import Mime.Transfer.Decode
import Mime.Settings

/-! The text of a part. Octets are decoded with the declared charset if there is one that
fits; otherwise a detector is asked, and as a last resort they are read as UTF-8 with
replacement characters. -/

namespace Mime

/-- Guesses the text of octets, or gives up. -/
abbrev Detector := Octets → Option Text

def TextContent.isUtf8Compatible (charset : Text) : Bool :=
  (["us-ascii", "ascii", "utf-8", "utf8"] : List Text).contains charset.trim.lower

namespace TextContent

def charsetField (charset : Option Text) : List (Text × Json) :=
  [("charset", (charset.map Json.str).getD .null)]

/-- What is left when no declared charset worked: the detector, then UTF-8. -/
def guess (detector : Detector) (payload : Octets) : Traced Charset.Refusal Text := do
  match ← .consult (detector payload) with
  | some t => return t
  | none => return (Charset.Utf8.units payload).replacing

variable [Charset.Registry]

/-- Decodes octets under a declared charset. No charset, or one that UTF-8 includes, means
UTF-8. -/
def decode (detector : Detector) (payload : Octets) (charset : Option Text) :
    Traced Charset.Refusal Text :=
  match charset.filter (fun c => c ≠ [] ∧ ¬isUtf8Compatible c) with
  | none =>
    match (Charset.Utf8.units payload).strict? with
    | some t => pure t
    | none => do
      .report ⟨.debug, "utf8_decode_failed", charsetField charset⟩
      guess detector payload
  | some c =>
    match Charset.decode .strict c payload with
    | .ok t => pure t
    | .error (.refused r) => .throw r
    | .error _ => do
      .report ⟨.debug, "declared_charset_failed", charsetField charset⟩
      guess detector payload

end TextContent

def Transfer.Result.traced {ε : Type} (r : Transfer.Result) :
    Traced ε (Except Transfer.Fault Octets) := ⟨.ok r.outcome, r.events, false⟩

/-- Why the text of a part is not read. -/
inductive TextFault where
  | charset (r : Charset.Refusal)
  /-- The body is read in pieces of a size that octets in memory cannot be read by. -/
  | readSize

def TextFault.message : TextFault → Text
  | charset r => r.message
  | readSize => Stream.indexMessage

namespace Node

variable {α : Type}

def transferToken? (n : Node α) : Option Text :=
  n.transferEncoding?.map fun v => Header.primary (Header.unfold v)

/-- The declared charset, or the default if none is declared. -/
def charset (s : Settings) (n : Node α) : Text :=
  match n.contentType?.bind fun v => Header.parameter? "charset" (Header.unfold v) with
  | some (c :: t) => c :: t
  | _ => s.defaultCharset

variable [Charset.Registry]

/-- The text of a text part. There is none for parts of other types, for parts without a
leaf body, and for octets whose transfer encoding cannot be undone. -/
def text? (s : Settings) (detector : Detector) (n : Node α) :
    Traced TextFault (Option Text) :=
  if !n.hasType ["text/*"] then pure none
  else match n.body with
    | some (.text t) => pure (some t)
    | some (.stream content) =>
      if !Transfer.sizeFits n.transferToken? s.qpReadChunkSize then .throw .readSize
      else do
        let r ← (Transfer.decode n.transferToken? s.qpReadChunkSize (.ofOctets content)).traced
        match r with
        | .ok payload =>
          some <$> (TextContent.decode detector payload (some (n.charset s))).mapError .charset
        | .error f =>
          .report ⟨.warning, "text_part_decode_failed",
            [("transfer_encoding", (f.encoding?.map Json.str).getD .null)]⟩
          return none
    | _ => pure none

end Node

namespace Graph

/-- Puts the text of a part in the place of its body. -/
def materialize [Charset.Registry] (s : Settings) (detector : Detector) (g : Graph) (p : PartId) :
    Traced TextFault (Option Text × Graph) := do
  match ← (g.node p).text? s detector with
  | none => return (none, g)
  | some t => return (some t, g.setBody p (some (.text t)))

end Graph

end Mime
