import Mime.Transfer.Stream
import Mime.Base64.Decode
import Mime.QuotedPrintable.Decoder
import Mime.Text.Blank
import Mime.Text.Lower
import Mime.Event

/-! Undoing the transfer encoding of a body. Base64 and quoted-printable are decoded; any
other encoding, known or not, leaves the octets as they are. -/

namespace Mime.Transfer

inductive Encoding where
  | base64
  | quotedPrintable
  | identity
  /-- An encoding of that name is not known. -/
  | unknown (name : Text)

/-- The token that is compared: without blanks around it and in lower case. -/
def token (name : Option Text) : Text := (name.getD []).trim.lower

def Encoding.ofToken (t : Text) : Encoding :=
  if t = "base64" then .base64
  else if t = "quoted-printable" then .quotedPrintable
  else if t = [] ∨ t = "7bit" ∨ t = "8bit" ∨ t = "binary" then .identity
  else .unknown t

/-- Whether a body is read in pieces, and not as a whole. -/
def Encoding.inPieces : Encoding → Bool
  | quotedPrintable => true
  | _ => false

/-- Why a body could not be decoded. -/
inductive Fault where
  /-- The number of octets other than white space is not a multiple of four. -/
  | length (octets : Nat)
  | base64 (f : Base64.Fault)
  /-- A read of the stream failed; the token tells which encoding was asked for. -/
  | read (token reason : Text)

def Fault.message : Fault → Text
  | length n => "base64 payload length " ++ Text.ofNat n ++ " is not a multiple of 4"
  | base64 f => "invalid base64 payload: " ++ f.message
  | read _ reason => "failed to read body stream: " ++ reason

/-- The encoding that a fault is reported for. -/
def Fault.encoding? : Fault → Option Text
  | length _ => some "base64"
  | base64 _ => some "base64"
  | read token _ => if token = [] then none else some token

/-- The octets that may stand anywhere in base64: space, tab, line breaks, vertical tab, form feed. -/
def isSpace (b : UInt8) : Bool :=
  b == 0x20 || b == 0x09 || b == 0x0D || b == 0x0A || b == 0x0B || b == 0x0C

def compact (o : Octets) : Octets := o.filter (!isSpace ·)

def decodeBase64 (o : Octets) : Except Fault Octets :=
  if (compact o).length % 4 ≠ 0 then .error (.length (compact o).length)
  else match Base64.decode .strict (compact o) with
    | .ok r => .ok r
    | .error f => .error (.base64 f)

/-- Reads pieces of one size until one is empty, and feeds each to a decoder. -/
def feedAll (size : Int) (s : Stream) (d : QuotedPrintable.Decoder) :
    Except Text QuotedPrintable.Decoder × Stream :=
  match h : s.read size with
  | .error reason => (.error reason, s)
  | .ok ([], s') => (.ok d, s')
  | .ok (b :: o, s') =>
    have : s'.rest.length < s.rest.length := by
      rw [← Stream.rest_of_read h, List.length_append, List.length_cons]
      omega
    feedAll size s' (d.feed (b :: o))
termination_by s.rest.length

def malformedNotice (d : QuotedPrintable.Decoder) : List Event :=
  if d.malformed = 0 then []
  else [⟨.debug, "quoted_printable_malformed_escapes", [("count", .int d.malformed)]⟩]

/-- Ends the input of a decoder, and reports the malformed escapes if there were any. -/
def finish {ε : Type} (d : QuotedPrintable.Decoder) : Traced ε QuotedPrintable.Decoder :=
  ⟨.ok d.finish, malformedNotice d.finish, false⟩

/-- The outcome of decoding a body, with the number of reads that succeeded. -/
structure Result where
  outcome : Except Fault Octets
  reads : Nat
  events : List Event

/-- The size of a read: the one asked for, or else the default; zero counts as not asked for. -/
def readSize (asked : Option Int) (default : Int) : Int :=
  match asked with
  | none => default
  | some 0 => default
  | some n => n

def readAll (token : Text) (s : Stream) (f : Octets → Except Fault Octets) : Result :=
  match s.read (-1) with
  | .error reason => ⟨.error (.read token reason), s.reads, []⟩
  | .ok (o, s') => ⟨f o, s'.reads, []⟩

/-- Decodes what a stream holds under the encoding of that name, none being the identity. -/
def decode (name : Option Text) (size : Int) (s : Stream) : Result :=
  let t := token name
  match Encoding.ofToken t with
  | .base64 => readAll t s decodeBase64
  | .quotedPrintable =>
    match feedAll size s .fresh with
    | (.error reason, s') => ⟨.error (.read t reason), s'.reads, []⟩
    | (.ok d, s') => ⟨.ok d.finish.output.toList, s'.reads, malformedNotice d.finish⟩
  | .identity => readAll t s .ok
  | .unknown n =>
    let r := readAll t s .ok
    { r with events :=
        ⟨.debug, "unknown_transfer_encoding_passthrough", [("transfer_encoding", .str n)]⟩ :: r.events }

/-- Whether a body in memory can be read by that size at all. -/
def sizeFits (name : Option Text) (size : Int) : Bool :=
  !(Encoding.ofToken (token name)).inPieces || Stream.fitsIndex size

end Mime.Transfer
