import Mime.Message.Basic
import Mime.Message.Multipart

/-! Reading messages. The content type decides what the lines after the header block are:
parts between boundaries, the fields of a delivery status, a message of its own, or text. -/

namespace Mime.Message

def joinLines (ls : List Text) : Payload Message := .text ls.flatten

def isMultipartType (m : Message) : Bool :=
  match contentType m.default m.fields with
  | .ok type => type.major = "multipart"
  | .error _ => false

mutual

/-- Drops the line break at the end of the last text in a part, as it belongs to the boundary
line after the part. What ends with a multipart keeps its text. -/
def trimLast : Message → Message
  | .mk fs d (.text t) ds =>
    if isMultipartType (.mk fs d .absent ds) then .mk fs d (.text t) ds
    else .mk fs d (.text (Line.withoutBreak t)) ds
  | .mk fs d (.parts ms) ds =>
    if isMultipartType (.mk fs d .absent ds) then .mk fs d (.parts ms) ds
    else .mk fs d (.parts (trimLastOf ms)) ds
  | .mk fs d .absent ds => .mk fs d .absent ds

def trimLastOf : List Message → List Message
  | [] => []
  | [m] => [trimLast m]
  | m :: m' :: ms => m :: trimLastOf (m' :: ms)

end

/-- What a message without a content type of its own is, inside one of the given type. -/
def defaultWithin (type : MediaType) : DefaultType :=
  if type = ⟨"multipart", "digest"⟩ then .message else .plainText

/-- Nested reading comes to an end: lines get fewer, or a default is used up. -/
def Descends (n k : Nat) (lines : List Text) (d : DefaultType) : Prop :=
  Prod.Lex (· < ·) (· < ·) (n, k) (lines.length, DefaultType.rank d)

theorem Descends.of_lt {n k : Nat} {lines : List Text} {d : DefaultType} (h : n < lines.length) :
    Descends n k lines d := Prod.Lex.left _ _ h

theorem Descends.of_message {d : DefaultType} {lines : List Text} {type : MediaType} {n : Nat}
    (h : contentType d (HeaderBlock.ofLines lines).fields = .ok type) (hm : type.major = "message")
    (hn : n ≤ (HeaderBlock.ofLines lines).rest.length) : Descends n 0 lines d := by
  by_cases hf : (HeaderBlock.ofLines lines).fields = []
  · rw [hf] at h
    have ht : DefaultType.type d = type := by
      simpa [contentType, legible?, Fields.first?, Fields.values, pure, bind, Except.pure,
        Except.bind] using h
    have hr := HeaderBlock.length_rest_le lines
    cases d with
    | plainText =>
      subst ht
      exact absurd hm (by decide)
    | message =>
      rcases Nat.lt_or_eq_of_le (Nat.le_trans hn hr) with hlt | heq
      · exact .of_lt hlt
      · rw [heq]
        exact Prod.Lex.right _ (by decide)
  · exact .of_lt (Nat.lt_of_le_of_lt hn (HeaderBlock.length_rest_lt hf))

variable [Charset.Registry]

def boundary? (fields : Fields) : Except Fault (Option Text) := do
  match ← parameter? "boundary" fields with
  | none => return none
  | some v => return some (← v.collapse.mapError .charset).trimEnd

/-- Multipart messages have to be sent as they are. -/
def encodingDefects (fields : Fields) : Except Fault (List Defect) := do
  match ← liftUnencodable (legible? "content-transfer-encoding" fields) with
  | none => return []
  | some value =>
    let t := value.lower
    return if t = "7bit" ∨ t = "8bit" ∨ t = "binary" then [] else [.invalidMultipartEncoding]

def ofLines (d : DefaultType) (lines : List Text) : Except Fault Message :=
  let block := HeaderBlock.ofLines lines
  match htype : contentType d block.fields with
  | .error u => .error (.unencodable u)
  | .ok type =>
    if hmessage : type.major = "message" then
      if type.minor = "delivery-status" then do
        let ms ← (blocks block.rest).attach.mapM fun ⟨b, hb⟩ =>
          have := Descends.of_message htype hmessage (length_of_mem_blocks hb)
          ofLines .plainText b
        return .mk block.fields d (.parts ms) block.defects
      else do
        have := Descends.of_message htype hmessage (Nat.le_refl _)
        let m ← ofLines .plainText block.rest
        return .mk block.fields d (.parts [m]) block.defects
    else if type.major = "multipart" then do
      match ← boundary? block.fields with
      | none => return .mk block.fields d (joinLines block.rest) (block.defects ++ [.noBoundary])
      | some boundary =>
        let defects := block.defects ++ (← encodingDefects block.fields)
        match hdivide : divide (boundaryLine? boundary) block.rest with
        | .undivided ls =>
          return .mk block.fields d (joinLines ls) (defects ++ [.startBoundaryNotFound])
        | .divided s =>
          let ms ← s.parts.attach.mapM fun ⟨p, hp⟩ =>
            have : Descends p.length (defaultWithin type).rank lines d :=
              .of_lt (Nat.lt_of_lt_of_le (length_of_mem_divide hdivide hp)
                (HeaderBlock.length_rest_le lines))
            ofLines (defaultWithin type) p
          return .mk block.fields d (.parts (ms.map trimLast))
            (if s.closed then defects else defects ++ [.closeBoundaryNotFound])
    else .ok (.mk block.fields d (joinLines block.rest) block.defects)
termination_by (lines.length, d.rank)
decreasing_by all_goals exact this

/-- A multipart message as a whole has to have parts. -/
def wholeDefects (m : Message) : List Defect :=
  match m.payload with
  | .parts _ => []
  | _ => if isMultipartType m then [.multipartWithoutParts] else []

/-- Reads a message, with all defects of the message as a whole. -/
def ofOctets (o : Octets) : Except Fault Message := do
  let m ← ofLines .plainText (Line.split (Text.ofOctets o))
  return .mk m.fields m.default m.payload (m.defects ++ wholeDefects m)

end Mime.Message
