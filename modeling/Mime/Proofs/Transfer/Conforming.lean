import Mime.Proofs.QuotedPrintable.Body
import Mime.Proofs.Text.Spelling
import Mime.Proofs.Transfer.Base64
import Mime.Proofs.Transfer.Reads

/-! Decoding a body undoes every encoder: base64 with white space anywhere, any form of each octet
in quoted-printable with soft breaks anywhere, and the octets as they are. The pieces in which
quoted-printable is read do not matter (`outcome_feedAll`), so the octets come back whatever the
size of a read: `decode_of_conforming`. -/

namespace Mime.Transfer

open QuotedPrintable (BodyForm Decoder)

/-- Reading in pieces feeds the decoder everything. -/
theorem outcome_feedAll {s : Stream} {size : Int} (hs : size ≠ 0) (hf : s.failure = none)
    (d : Decoder) : (feedAll size s d).1 = .ok (d.feed s.rest) := by
  have h := feedAll_reads hs s d
  rw [Stream.failureWithin, hf, Option.filter_none] at h
  exact (Prod.mk.inj h).1

theorem token_of_spells {word : String} {name : Text} (h : Text.Spells word name)
    (hw : Text.IsWord word) : token (some name) = word :=
  Text.lower_trim_of_spells h hw

/-- The bodies that octets may be sent as under a transfer encoding of that name. -/
inductive Sends (o : Octets) : Option Text → Octets → Prop
  | base64 {name : Text} {body : Octets} : Text.Spells "base64" name →
      Base64.Denotes (withoutWhiteSpace body) o → Sends o (some name) body
  | quotedPrintable {name : Text} {body : Octets} : Text.Spells "quoted-printable" name →
      BodyForm o body → Sends o (some name) body
  | plain {word : String} {name : Text} : word ∈ ["", "7bit", "8bit", "binary"] →
      Text.Spells word name → Sends o (some name) o
  | undeclared : Sends o none o

variable {name : Text} {o body : Octets} {size : Int}

theorem decodeBase64_of_denotes (h : Base64.Denotes (withoutWhiteSpace body) o) :
    decodeBase64 body = .ok o := by
  rw [decodeBase64_eq_ok_iff]
  exact ⟨Base64.length_of_denotes h, Base64.decode_of_denotes .strict h⟩

theorem outcome_decode_base64 (hn : Text.Spells "base64" name)
    (h : Base64.Denotes (withoutWhiteSpace body) o) :
    (decode (some name) size (.ofOctets body)).outcome = .ok o := by
  have ht : token (some name) = "base64" := token_of_spells hn (by decide)
  have he : Encoding.ofToken "base64" = .base64 := rfl
  rw [decode]
  simp only [ht, he]
  exact decodeBase64_of_denotes h

theorem outcome_feedAll_of_bodyForm (hs : size ≠ 0) (h : BodyForm o body) :
    (feedAll size (.ofOctets body) .fresh).1 = .ok ⟨.normal, (#[] : Array UInt8) ++ o, 0⟩ := by
  rw [outcome_feedAll hs rfl]
  exact congrArg Except.ok (Decoder.feed_bodyForm h #[] 0)

/-- Nothing is reported, as there is no malformed escape. -/
theorem decode_quotedPrintable (hn : Text.Spells "quoted-printable" name) (hs : size ≠ 0)
    (h : BodyForm o body) :
    (decode (some name) size (.ofOctets body)).outcome = .ok o ∧
      (decode (some name) size (.ofOctets body)).events = [] := by
  have ht : token (some name) = "quoted-printable" := token_of_spells hn (by decide)
  have he : Encoding.ofToken "quoted-printable" = .quotedPrintable := rfl
  have hf := outcome_feedAll_of_bodyForm hs h
  rw [decode]
  simp only [ht, he]
  cases hr : feedAll size (.ofOctets body) .fresh with
  | mk outcome s' =>
    rw [hr] at hf
    obtain rfl : outcome = .ok ⟨.normal, (#[] : Array UInt8) ++ o, 0⟩ := hf
    simp [Decoder.finish, malformedNotice]

theorem ofToken_of_mem {word : String} (h : word ∈ ["", "7bit", "8bit", "binary"]) :
    Encoding.ofToken word = .identity ∧ Text.IsWord word := by
  simp only [List.mem_cons, List.not_mem_nil, or_false] at h
  rcases h with rfl | rfl | rfl | rfl <;> exact ⟨rfl, by decide⟩

theorem outcome_decode_identity {name : Option Text}
    (h : Encoding.ofToken (token name) = .identity) :
    (decode name size (.ofOctets o)).outcome = .ok o := by
  rw [decode]
  simp only [h]
  rfl

/-- Whatever octets are sent as, they are what is decoded. -/
theorem outcome_decode_of_sends {name : Option Text} (hs : size ≠ 0) (h : Sends o name body) :
    (decode name size (.ofOctets body)).outcome = .ok o := by
  cases h with
  | base64 hn hb => exact outcome_decode_base64 hn hb
  | quotedPrintable hn hb => exact (decode_quotedPrintable hn hs hb).1
  | plain hw hn =>
    obtain ⟨hi, hv⟩ := ofToken_of_mem hw
    refine outcome_decode_identity ?_
    rw [token_of_spells hn hv]
    exact hi
  | undeclared => exact outcome_decode_identity rfl

/-- Base64 and quoted-printable are undone, in whatever way they are laid out, and quoted-printable
in reads of any size but zero and without a malformed escape. What octets are written as in base64
is among the groups that denote them. -/
theorem decode_of_conforming (asked : Option Int) (default : Int) (b body : Octets) (name : Text) :
    Base64.Denotes (Base64.encode b) b ∧
    (Text.Spells "base64" name → Base64.Denotes (withoutWhiteSpace body) b →
      (decode (some name) (readSize asked default) (.ofOctets body)).outcome = .ok b) ∧
    (Text.Spells "quoted-printable" name → BodyForm b body → readSize asked default ≠ 0 →
      (decode (some name) (readSize asked default) (.ofOctets body)).outcome = .ok b ∧
      (decode (some name) (readSize asked default) (.ofOctets body)).events = [] ∧
      ∃ d s, feedAll (readSize asked default) (.ofOctets body) .fresh = (.ok d, s) ∧
        d.finish.malformed = 0) := by
  refine ⟨Base64.denotes_encode b, fun hn h => outcome_decode_base64 hn h, fun hn h hs => ?_⟩
  obtain ⟨ho, he⟩ := decode_quotedPrintable hn hs h
  have hf := outcome_feedAll_of_bodyForm hs h
  exact ⟨ho, he, _, _, Prod.ext hf rfl, rfl⟩

/-- `café` in base64 with a line broken inside the padding, and in quoted-printable with both kinds
of soft break, read three octets at a time. -/
theorem decode_of_conforming_cafe :
    (Text.Spells "base64" " Base64\t" ∧
      Base64.Denotes (withoutWhiteSpace
        [0x59, 0x32, 0x46, 0x6D, 0x0D, 0x0A, 0x36, 0x51, 0x3D, 0x20, 0x0B, 0x3D])
          [0x63, 0x61, 0x66, 0xE9] ∧
      (decode (some " Base64\t") (readSize (some 3) 0) (.ofOctets
        [0x59, 0x32, 0x46, 0x6D, 0x0D, 0x0A, 0x36, 0x51, 0x3D, 0x20, 0x0B, 0x3D])).outcome =
          .ok [0x63, 0x61, 0x66, 0xE9]) ∧
    Text.Spells "quoted-printable" "Quoted-Printable" ∧
      BodyForm [0x63, 0x61, 0x66, 0xE9]
        [0x63, 0x3D, 0x0D, 0x0A, 0x3D, 0x36, 0x31, 0x66, 0x3D, 0x0A, 0x3D, 0x65, 0x39] ∧
      readSize (some 3) 0 ≠ 0 ∧
      (decode (some "Quoted-Printable") (readSize (some 3) 0) (.ofOctets
        [0x63, 0x3D, 0x0D, 0x0A, 0x3D, 0x36, 0x31, 0x66, 0x3D, 0x0A, 0x3D, 0x65, 0x39])).outcome =
          .ok [0x63, 0x61, 0x66, 0xE9] := by
  have hb : Text.Spells "base64" " Base64\t" :=
    ⟨" ", "Base64".toList, "\t", rfl, by decide, by decide, by decide⟩
  have hq : Text.Spells "quoted-printable" "Quoted-Printable" :=
    ⟨[], "Quoted-Printable".toList, [], rfl, by decide, by decide, by decide⟩
  have hc : withoutWhiteSpace
      [0x59, 0x32, 0x46, 0x6D, 0x0D, 0x0A, 0x36, 0x51, 0x3D, 0x20, 0x0B, 0x3D] =
        Base64.encode [0x63, 0x61, 0x66, 0xE9] := by decide
  have hd : Base64.Denotes (withoutWhiteSpace
      [0x59, 0x32, 0x46, 0x6D, 0x0D, 0x0A, 0x36, 0x51, 0x3D, 0x20, 0x0B, 0x3D])
        [0x63, 0x61, 0x66, 0xE9] := by
    rw [hc]
    exact Base64.denotes_encode _
  have hf : BodyForm [0x63, 0x61, 0x66, 0xE9]
      [0x63, 0x3D, 0x0D, 0x0A, 0x3D, 0x36, 0x31, 0x66, 0x3D, 0x0A, 0x3D, 0x65, 0x39] :=
    .literal (by decide) (.softBreak (.escape (by decide) (by decide) (.literal (by decide)
      (.shortBreak (.escape (by decide) (by decide) .nil)))))
  refine ⟨⟨hb, hd, ?_⟩, hq, hf, by decide, ?_⟩
  · exact (decode_of_conforming (some 3) 0 _ _ _).2.1 hb hd
  · exact ((decode_of_conforming (some 3) 0 _ _ _).2.2 hq hf (by decide)).1

end Mime.Transfer
