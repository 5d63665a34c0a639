import Mime.Proofs.Header.Parameter
import Mime.Proofs.Part.TextContent
import Mime.Proofs.Transfer.Conforming
import Mime.Proofs.Utf8

/-! Text that is sent in UTF-8 comes back, in whatever way the header fields are spelled and the
octets are laid out, and no detector is asked: `text?_of_sends`. What it takes is that the octets
can be read by the size that is set, where they are read in pieces. -/

namespace Mime

open Text (Spells)

/-- A word without a semicolon is a primary token. -/
theorem Text.Spells.primary {word : String} {t : Text} (h : Spells word t)
    (hw : IsWord word) (hsemi : ';' ∉ word.toList) : Spells word (Header.primary t) := by
  obtain ⟨letters, ht, hl, -⟩ := h.trim hw
  have hcut : t.cut ';' = (t, none) := cut_of_not_mem (h.ne_of_not_mem (by decide) hsemi)
  have hp : Header.primary t = letters.map CodePoint.ofChar := by
    rw [Header.primary, hcut]
    exact ht
  rw [hp]
  exact ⟨[], letters, [], (List.append_nil _).symm, hl, by decide, by decide⟩

/-- The primary token names a transfer encoding if the whole value does. -/
theorem Transfer.Sends.primary {o body : Octets} {value : Option Text} (h : Sends o value body) :
    Sends o (value.map Header.primary) body := by
  cases h with
  | base64 hn hb => exact .base64 (hn.primary (by decide) (by decide)) hb
  | quotedPrintable hn hb => exact .quotedPrintable (hn.primary (by decide) (by decide)) hb
  | @plain word name hw hn =>
    have hsemi : ∀ w ∈ ["", "7bit", "8bit", "binary"], ';' ∉ w.toList := by decide
    exact .plain hw (hn.primary (ofToken_of_mem hw).2 (hsemi word hw))
  | undeclared => exact .undeclared

/-- A name of UTF-8, or of what UTF-8 includes. -/
def IsUtf8Label (t : Text) : Prop :=
  ∃ word ∈ ["us-ascii", "ascii", "utf-8", "utf8"], Spells word t

theorem IsUtf8Label.isUtf8Compatible {t : Text} (h : IsUtf8Label t) :
    TextContent.isUtf8Compatible t = true := by
  obtain ⟨word, hw, ht⟩ := h
  have hv : ∀ w ∈ ["us-ascii", "ascii", "utf-8", "utf8"], Text.IsWord w := by decide
  have hc : ∀ w ∈ ["us-ascii", "ascii", "utf-8", "utf8"],
      (["us-ascii", "ascii", "utf-8", "utf8"] : List Text).contains (Text.ofString w) = true := by
    decide
  rw [TextContent.isUtf8Compatible, Text.lower_trim_of_spells ht (hv word hw)]
  exact hc word hw

theorem IsUtf8Label.ne_nil {t : Text} (h : IsUtf8Label t) : t ≠ [] := by
  rintro rfl
  have := h.isUtf8Compatible
  revert this
  decide

/-- A value, on one line, of a content type under which octets are text in UTF-8. The type is
`text`, and the first parameter that says the charset, or else the default, is a name of UTF-8. -/
inductive SaysUtf8Text (default : Text) : Text → Prop
  | intro {token tail minor : Text} {major : List Char} {ps : List (Text × Text)} :
      (∀ c ∈ token, c ≠ ';' ∧ c ≠ '"') →
      token.trim = major.map CodePoint.ofChar ++ ('/' : CodePoint) :: minor →
      major.map Char.toLower = "text".toList → Header.TailForm ps tail →
      IsUtf8Label (((ps.find? (·.1.lower == ("charset" : Text))).map (·.2)).getD default) →
      SaysUtf8Text default (token ++ tail)

namespace SaysUtf8Text

variable {default line : Text}

theorem primary (h : SaysUtf8Text default line) :
    ∃ (major : List Char) (minor : Text), major.map Char.toLower = "text".toList ∧
      Header.primary line = major.map CodePoint.ofChar ++ ('/' : CodePoint) :: minor := by
  cases h with
  | @intro token tail minor major ps ht htoken hm hps _ =>
    refine ⟨major, minor, hm, ?_⟩
    rw [Header.primary_of_tailForm ht hps, htoken]

theorem parameter (h : SaysUtf8Text default line) :
    IsUtf8Label ((Header.parameter? "charset" line).getD default) := by
  have hname : Text.lower (Text.trim "charset") = "charset" := by decide
  cases h with
  | intro ht _ _ hps hc =>
    rw [Header.parameter?, Header.parameterList_of_tailForm ht hps, hname]
    exact hc

end SaysUtf8Text

/-- Every subtype of `text` is matched. -/
theorem MediaType.matchesAny_text {major : List Char} (hm : major.map Char.toLower = "text".toList)
    (minor : Text) :
    matchesAny (some (Text.lower (major.map CodePoint.ofChar ++ ('/' : CodePoint) :: minor)))
      [some "text/*"] = true := by
  have hascii : ∀ c ∈ major, c.toNat < 0x80 := fun c hc =>
    Nat.lt_of_le_of_lt (Text.isVisible_of_map_toLower hm (by decide) c hc).2 (by decide)
  have hslash (before : Text) : Text.lowerAfter before (('/' : CodePoint) :: minor) =
      ('/' : CodePoint) :: Text.lowerAfter (('/' : CodePoint) :: before) minor := rfl
  have hlower := Text.lowerAfter_ascii hascii [] (('/' : CodePoint) :: minor)
  rw [hm, hslash, ← Text.ofString] at hlower
  have hplain : ∀ c ∈ Text.ofString "text", c ≠ '/' := by decide
  have hpattern : ofText? "text/*" = some ⟨"text", "*"⟩ := by decide
  have htext : Text.lower (Text.trim "text") = "text" := by decide
  rw [Text.lower, hlower, matchesAny, Option.bind_some, ofText?, Text.cut_append_cons hplain]
  simp [hpattern, htext, matchesPattern, halfMatches]

namespace Node

variable {α : Type} {s : Settings} {detector : Detector} {n : Node α} {value : Text}

theorem hasType_of_saysUtf8Text {default : Text} (hv : n.contentType? = some value)
    (h : SaysUtf8Text default (Header.unfold value)) : n.hasType ["text/*"] = true := by
  obtain ⟨major, minor, hm, hp⟩ := h.primary
  have hl : n.mimeType = Text.lower (Header.primary (Header.unfold value)) := by
    rw [mimeType, hv, lowerToken?, Option.map_some, hp]
    simp
  rw [hasType, hl, hp]
  exact MediaType.matchesAny_text hm minor

theorem charset_of_saysUtf8Text (hv : n.contentType? = some value)
    (h : SaysUtf8Text s.defaultCharset (Header.unfold value)) : IsUtf8Label (n.charset s) := by
  have hc := h.parameter
  rw [charset, hv, Option.bind_some]
  cases hp : Header.parameter? "charset" (Header.unfold value) with
  | none =>
    rw [hp] at hc
    exact hc
  | some label =>
    rw [hp] at hc
    cases label with
    | nil => exact absurd rfl hc.ne_nil
    | cons c t => exact hc

section

variable [Charset.Registry]

/-- Octets in UTF-8 are read as the text that they were written from, and nobody is asked. -/
theorem decode_utf8 {t c : Text} (ht : ∀ c ∈ t, c.isSurrogate = false) (hc : IsUtf8Label c) :
    TextContent.decode detector t.utf8 (some c) = pure t := by
  have hn : ¬TextContent.LookedUp c := TextContent.not_lookedUp_iff.2 (.inr hc.isUtf8Compatible)
  rw [TextContent.decode, TextContent.filter_compatible hn]
  simp only [Charset.Utf8.strict?_units_utf8 ht]

/-- A text that is sent in UTF-8 is what is read from the part, if the size of the settings fits
where it is used. -/
theorem text?_of_sends {t : Text} {body : Octets} (ht : ∀ c ∈ t, c.isSurrogate = false)
    (hs : s.qpReadChunkSize ≠ 0)
    (hfits : Transfer.sizeFits n.transferToken? s.qpReadChunkSize = true)
    (hv : n.contentType? = some value)
    (hc : SaysUtf8Text s.defaultCharset (Header.unfold value))
    (hb : n.body = some (.stream body))
    (he : Transfer.Sends t.utf8 (n.transferEncoding?.map Header.unfold) body) :
    (n.text? s detector).outcome = .ok (some t) ∧ (n.text? s detector).consulted = false := by
  have htoken : n.transferToken? = (n.transferEncoding?.map Header.unfold).map Header.primary := by
    rw [transferToken?, Option.map_map]
    rfl
  have hp : (Transfer.decode n.transferToken? s.qpReadChunkSize (.ofOctets body)).outcome =
      .ok t.utf8 := by
    rw [htoken]
    exact Transfer.outcome_decode_of_sends hs he.primary
  obtain ⟨ho, hk⟩ := text?_of_payload s detector (hasType_of_saysUtf8Text hv hc) hb hfits hp
  rw [decode_utf8 ht (charset_of_saysUtf8Text hv hc)] at ho hk
  exact ⟨ho, hk⟩

end

section

attribute [local instance] Charset.Registry.bare

/-- A folded content type with a second parameter, and one octet behind a soft break. -/
theorem text?_of_sends_accented :
    (∀ c ∈ Text.ofString "é", c.isSurrogate = false) ∧ ({} : Settings).qpReadChunkSize ≠ 0 ∧
    SaysUtf8Text ({} : Settings).defaultCharset
      (Header.unfold "Text/HTML; format=flowed;\r\n CharSet = \"Utf-8\"") ∧
    Transfer.Sends (Text.utf8 "é") (some (Header.unfold "\r\n Quoted-Printable"))
      [0x3D, 0x43, 0x33, 0x3D, 0x0D, 0x0A, 0x3D, 0x61, 0x39] ∧
    ((⟨.bodyPart, [("content-TYPE", "Text/HTML; format=flowed;\r\n CharSet = \"Utf-8\""),
        ("Content-Transfer-Encoding", "\r\n Quoted-Printable")],
      some (.stream [0x3D, 0x43, 0x33, 0x3D, 0x0D, 0x0A, 0x3D, 0x61, 0x39])⟩ : Node PartId).text?
        {} fun _ => some "a").outcome = .ok (some "é") := by
  have ht : ∀ c ∈ Text.ofString "é", c.isSurrogate = false := by decide
  have hformat : Header.SegmentForm ("format", "flowed")
      (Text.ofString " " ++ (Text.ofString "format" ++ []) ++ ('=' : CodePoint) ::
        ([] ++ (Text.ofString "flowed" ++ []))) :=
    .intro ⟨by decide, by decide, by decide⟩ (.bare (by decide) (by decide)) (by decide) (by decide)
      (by decide) (by decide)
  have hcharset : Header.SegmentForm ("CharSet", "Utf-8")
      (Text.ofString " " ++ (Text.ofString "CharSet" ++ Text.ofString " ") ++ ('=' : CodePoint) ::
        (Text.ofString " " ++
          (('"' : CodePoint) :: (Text.ofString "Utf-8" ++ [('"' : CodePoint)]) ++ []))) :=
    .intro ⟨by decide, by decide, by decide⟩ (.quoted (.plain (by decide) (by decide)
      (.plain (by decide) (by decide) (.plain (by decide) (by decide) (.plain (by decide) (by decide)
        (.plain (by decide) (by decide) .nil))))))
      (by decide) (by decide) (by decide) (by decide)
  have htail : Header.TailForm [("format", "flowed"), ("CharSet", "Utf-8")]
      (Text.ofString "; format=flowed; CharSet = \"Utf-8\"") := .cons hformat (.cons hcharset .nil)
  have htoken : Text.trim "Text/HTML" =
      ("Text".toList.map CodePoint.ofChar) ++ ('/' : CodePoint) :: Text.ofString "HTML" := by decide
  have hc : SaysUtf8Text ({} : Settings).defaultCharset
      (Header.unfold "Text/HTML; format=flowed;\r\n CharSet = \"Utf-8\"") :=
    .intro (by decide) htoken (by decide) htail
      ⟨"utf-8", by decide, [], "Utf-8".toList, [], rfl, by decide, by decide, by decide⟩
  have he : Transfer.Sends (Text.utf8 "é") (some (Header.unfold "\r\n Quoted-Printable"))
      [0x3D, 0x43, 0x33, 0x3D, 0x0D, 0x0A, 0x3D, 0x61, 0x39] :=
    .quotedPrintable ⟨" ", "Quoted-Printable".toList, [], by decide, by decide, by decide, by decide⟩
      (.escape (by decide) (by decide) (.softBreak (.escape (by decide) (by decide) .nil)))
  exact ⟨ht, by decide, hc, he, And.left (text?_of_sends ht (by decide) (by decide) rfl hc rfl he)⟩

end

/-- The environment may set a size by which octets in memory cannot be read, and then there is no
text of a body that is read in pieces. -/
theorem text?_oversize :
    (Settings.ofEnvironment
      [("MIME_UTILITY_QP_READ_CHUNK_SIZE", "9223372036854775808")]).toOption.map
        Settings.qpReadChunkSize = some (2 ^ 63) ∧
    SaysUtf8Text ({} : Settings).defaultCharset (Header.unfold "text/plain") ∧
    Transfer.Sends (Text.utf8 "ab") (some (Header.unfold "quoted-printable"))
      [0x61, 0x3D, 0x0D, 0x0A, 0x62] ∧
    ¬∃ (_ : Charset.Registry) (r : Option Text),
      ((⟨.bodyPart, [("Content-Type", "text/plain"),
          ("Content-Transfer-Encoding", "quoted-printable")],
        some (.stream [0x61, 0x3D, 0x0D, 0x0A, 0x62])⟩ : Node PartId).text?
          { qpReadChunkSize := 2 ^ 63 } fun _ => none).outcome = .ok r := by
  refine ⟨by decide +kernel, ?_, ?_, ?_⟩
  · have hline : Header.unfold "text/plain" = Text.ofString "text/plain" ++ [] := by decide
    have htoken : Text.trim "text/plain" =
        ("text".toList.map CodePoint.ofChar) ++ ('/' : CodePoint) :: Text.ofString "plain" := by
      decide
    rw [hline]
    exact .intro (by decide) htoken (by decide) .nil
      ⟨"us-ascii", by decide, [], "us-ascii".toList, [], rfl, by decide, by decide, by decide⟩
  · exact .quotedPrintable
      ⟨[], "quoted-printable".toList, [], rfl, by decide, by decide, by decide⟩
      (.literal (by decide) (.softBreak (.literal (by decide) .nil)))
  · rintro ⟨_, r, h⟩
    rw [text?_of_size _ _ (by decide) rfl (by decide)] at h
    cases h

end Node

end Mime
