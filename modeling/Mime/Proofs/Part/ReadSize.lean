import Mime.Proofs.Part.TextContent
import Mime.Proofs.Transfer.Conforming

/-! The size of the reads of a quoted-printable body. All sizes but zero by which octets in memory
can be read come to the same text, that of the body as a whole. A read of size zero takes no octets,
which looks like the end of the body, so under this size the text is that of an empty body; under a
size that is out of range there is no text at all: `text?_sizes_iff`. -/

namespace Mime

/-- The settings with another size for the reads of quoted-printable. -/
def Settings.withReadSize (s : Settings) (size : Int) : Settings :=
  { s with qpReadChunkSize := size }

namespace Transfer

variable {name : Option Text} {size : Int} {o : Octets}

/-- The octets that are taken by reads of one size until one is empty. -/
def reached (size : Int) (o : Octets) : Octets := if size = 0 then [] else o

theorem outcome_feedAll_reached (size : Int) (o : Octets) (d : QuotedPrintable.Decoder) :
    (feedAll size (.ofOctets o) d).1 = .ok (d.feed (reached size o)) := by
  by_cases hs : size = 0
  · subst hs
    rw [feedAll]
    rfl
  · rw [reached, if_neg hs]
    exact outcome_feedAll hs rfl d

theorem sizeFits_quotedPrintable (ht : token name = "quoted-printable") :
    sizeFits name size = Stream.fitsIndex size := by
  have he : Encoding.ofToken "quoted-printable" = .quotedPrintable := rfl
  rw [sizeFits, ht, he, Encoding.inPieces]
  exact Bool.false_or _

theorem outcome_decode_reached (ht : token name = "quoted-printable") :
    (decode name size (.ofOctets o)).outcome =
      .ok (QuotedPrintable.decode (reached size o)) := by
  have he : Encoding.ofToken "quoted-printable" = .quotedPrintable := rfl
  have hfed := outcome_feedAll_reached size o .fresh
  rw [decode]
  simp only [ht, he]
  generalize feedAll size (.ofOctets o) .fresh = fed at hfed ⊢
  obtain ⟨outcome, s'⟩ := fed
  subst hfed
  rfl

end Transfer

namespace TextContent

variable [Charset.Registry] {detector : Detector} {payload : Octets} {charset : Text}

/-- A charset that is looked up and cannot be. -/
def Unnameable (charset : Text) : Prop :=
  LookedUp charset ∧ ∃ c ∈ charset, c.val = 0 ∨ c.isSurrogate = true

/-- What is said of such a charset does not depend on the octets. -/
theorem outcome_decode_of_unnameable (detector : Detector) (h : Unnameable charset) :
    ∃ r, ∀ payload, (decode detector payload (some charset)).outcome = .error r := by
  obtain ⟨hlook, c, hc, hbad⟩ := h
  cases hf : Charset.Label.fault? charset with
  | none =>
    obtain ⟨h0, hs⟩ := Charset.Label.fault?_eq_none_iff.1 hf c hc
    rw [hs] at hbad
    exact absurd hbad (by simp [h0])
  | some f =>
    refine ⟨.label f, fun payload => ?_⟩
    have hlabel : Charset.decode .strict charset payload = .error (.refused (.label f)) := by
      rw [Charset.decode, Charset.Label.lookup, hf]
    rw [outcome_decode_declared hlook, hlabel]

/-- No octets are the empty text under every other charset. -/
theorem outcome_decode_nil (h : ¬Unnameable charset) :
    (decode detector [] (some charset)).outcome = .ok [] := by
  by_cases hlook : LookedUp charset
  · have hf : Charset.Label.fault? charset = none := by
      rw [Charset.Label.fault?_eq_none_iff]
      intro c hc
      rw [← Bool.not_eq_true]
      exact ⟨fun h0 => h ⟨hlook, c, hc, .inl h0⟩, fun hs => h ⟨hlook, c, hc, .inr hs⟩⟩
    have hempty : Charset.decode .strict charset [] = .ok [] := by
      rw [Charset.decode, Charset.Label.lookup, hf]
      rfl
    rw [outcome_decode_declared hlook, hempty]
  · rw [outcome_decode_utf8 hlook]
    rfl

/-- When some octets are read like none. -/
theorem outcome_decode_eq_nil_iff :
    (decode detector payload (some charset)).outcome =
        (decode detector [] (some charset)).outcome ↔
      Unnameable charset ∨ (decode detector payload (some charset)).outcome = .ok [] := by
  by_cases h : Unnameable charset
  · obtain ⟨r, hr⟩ := outcome_decode_of_unnameable detector h
    simp [h, hr]
  · simp [h, outcome_decode_nil h]

end TextContent

namespace Node

section

variable {α : Type} [Charset.Registry] {n : Node α} {content : Octets}

/-- The octets of the part are read as no octets are: its charset cannot be looked up, or its text
is empty. -/
def ReadsAsEmpty (s : Settings) (detector : Detector) (n : Node α) (content : Octets) : Prop :=
  TextContent.Unnameable (n.charset s) ∨
    (TextContent.decode detector (QuotedPrintable.decode content) (some (n.charset s))).outcome =
      .ok []

/-- What is read by a size: nothing if it is out of range, else the octets that are reached. -/
theorem outcome_text?_withReadSize (ht : n.hasType ["text/*"] = true)
    (hb : n.body = some (.stream content))
    (hq : Transfer.token n.transferToken? = "quoted-printable") (s : Settings)
    (detector : Detector) (size : Int) :
    (n.text? (s.withReadSize size) detector).outcome =
      if Stream.fitsIndex size then
        some <$> (TextContent.decode detector (QuotedPrintable.decode
          (Transfer.reached size content)) (some (n.charset s))).outcome.mapError .charset
      else .error .readSize := by
  have hfits : Transfer.sizeFits n.transferToken? size = Stream.fitsIndex size :=
    Transfer.sizeFits_quotedPrintable hq
  cases hs : Stream.fitsIndex size with
  | false =>
    rw [text?_of_size (s.withReadSize size) detector ht hb (hfits.trans hs)]
    rfl
  | true =>
    exact (text?_of_payload (s.withReadSize size) detector ht hb (hfits.trans hs)
      (Transfer.outcome_decode_reached hq)).1

theorem readsAsEmpty_iff {s : Settings} {detector : Detector} :
    n.ReadsAsEmpty s detector content ↔
      (TextContent.decode detector (QuotedPrintable.decode content) (some (n.charset s))).outcome =
        (TextContent.decode detector (QuotedPrintable.decode []) (some (n.charset s))).outcome :=
  TextContent.outcome_decode_eq_nil_iff.symm

/-- Two sizes that are in range come to the same, if both or neither are zero, or zero loses
nothing. -/
theorem reached_same_iff {s : Settings} {detector : Detector} {a b : Int} :
    (TextContent.decode detector (QuotedPrintable.decode (Transfer.reached a content))
        (some (n.charset s))).outcome =
      (TextContent.decode detector (QuotedPrintable.decode (Transfer.reached b content))
        (some (n.charset s))).outcome ↔
      (a = 0 ↔ b = 0) ∨ n.ReadsAsEmpty s detector content := by
  rw [readsAsEmpty_iff]
  unfold Transfer.reached
  by_cases ha : a = 0
  · by_cases hb : b = 0
    · simp [ha, hb]
    · simp [ha, hb, eq_comm]
  · by_cases hb : b = 0
    · simp [ha, hb]
    · simp [ha, hb]

/-- A part of text under two sizes. -/
theorem same_iff_of_text (ht : n.hasType ["text/*"] = true) (hb : n.body = some (.stream content))
    (hq : Transfer.token n.transferToken? = "quoted-printable") {s : Settings}
    {detector : Detector} {a b : Int} :
    (n.text? (s.withReadSize a) detector).outcome =
        (n.text? (s.withReadSize b) detector).outcome ↔
      Stream.fitsIndex a = Stream.fitsIndex b ∧
        ((a = 0 ↔ b = 0) ∨ n.ReadsAsEmpty s detector content) := by
  have hcharset {x y : Except Charset.Refusal Text} :
      some <$> x.mapError TextFault.charset = some <$> y.mapError TextFault.charset ↔ x = y := by
    cases x <;> cases y <;> simp [Functor.map, Except.map, ok_mapError, error_mapError]
  have hsize {x : Except Charset.Refusal Text} :
      some <$> x.mapError TextFault.charset ≠ .error .readSize := by
    cases x <;> simp [Functor.map, Except.map, ok_mapError, error_mapError]
  rw [outcome_text?_withReadSize ht hb hq, outcome_text?_withReadSize ht hb hq]
  cases ha : Stream.fitsIndex a with
  | true =>
    cases hb : Stream.fitsIndex b with
    | true => simp [hcharset, reached_same_iff]
    | false => simp [hsize]
  | false =>
    cases hb : Stream.fitsIndex b with
    | true => simp [hsize.symm]
    | false =>
      -- zero is in range, so neither size is zero
      have ha0 : a ≠ 0 := by
        rintro rfl
        cases ha
      have hb0 : b ≠ 0 := by
        rintro rfl
        cases hb
      simp [ha0, hb0]

/-- Under two sizes a quoted-printable body of text reads the same exactly if both or neither are
in range, and both or neither are zero, or it reads as an empty body does. Under a size out of range
it is not read, under zero it is read as if it had no octets, and under all others to the end. -/
theorem text?_sizes_iff (hb : n.body = some (.stream content))
    (hq : Transfer.token n.transferToken? = "quoted-printable") (s : Settings)
    (detector : Detector) (a b : Int) :
    ((n.text? (s.withReadSize a) detector).outcome =
        (n.text? (s.withReadSize b) detector).outcome ↔
      n.hasType ["text/*"] = false ∨ Stream.fitsIndex a = Stream.fitsIndex b ∧
        ((a = 0 ↔ b = 0) ∨ n.ReadsAsEmpty s detector content)) ∧
    (n.hasType ["text/*"] = true → (n.text? (s.withReadSize a) detector).outcome =
      if Stream.fitsIndex a then
        some <$> (TextContent.decode detector (QuotedPrintable.decode
          (if a = 0 then [] else content)) (some (n.charset s))).outcome.mapError .charset
      else .error .readSize) := by
  refine ⟨?_, fun ht => outcome_text?_withReadSize ht hb hq s detector a⟩
  cases ht : n.hasType ["text/*"] with
  | false =>
    rw [text?_of_other _ detector ht, text?_of_other _ detector ht]
    exact iff_of_true rfl (.inl rfl)
  | true =>
    rw [same_iff_of_text ht hb hq]
    simp

end

/-- A letter on either side of a soft break. -/
def brokenLetters : Node PartId :=
  ⟨.bodyPart, [("Content-Type", "text/plain"), ("Content-Transfer-Encoding", "quoted-printable")],
    some (.stream [0x61, 0x3D, 0x0D, 0x0A, 0x62])⟩

section

attribute [local instance] Charset.Registry.bare

theorem text?_sizes_iff_brokenLetters :
    Transfer.token brokenLetters.transferToken? = "quoted-printable" ∧
    (brokenLetters.text? (({} : Settings).withReadSize 2) fun _ => none).outcome =
      (brokenLetters.text? (({} : Settings).withReadSize (-1)) fun _ => none).outcome ∧
    (brokenLetters.text? (({} : Settings).withReadSize 2) fun _ => none).outcome =
      .ok (some "ab") := by
  have hq : Transfer.token brokenLetters.transferToken? = "quoted-printable" := by decide
  obtain ⟨hsame, hwhole⟩ := text?_sizes_iff rfl hq {} (fun _ => none) 2 (-1)
  exact ⟨hq, hsame.2 (.inr ⟨by decide, .inl (by decide)⟩), hwhole (by decide)⟩

/-- The environment may set the size to zero, and then the letters are lost. -/
theorem text?_size_zero :
    (Settings.ofEnvironment [("MIME_UTILITY_QP_READ_CHUNK_SIZE", "0")]).toOption.map
      Settings.qpReadChunkSize = some 0 ∧
    ¬∀ a b : Int, (brokenLetters.text? (({} : Settings).withReadSize a) fun _ => none).outcome =
      (brokenLetters.text? (({} : Settings).withReadSize b) fun _ => none).outcome := by
  refine ⟨by decide +kernel, fun h => ?_⟩
  have hq : Transfer.token brokenLetters.transferToken? = "quoted-printable" := by decide
  have hnone := outcome_text?_withReadSize (by decide) rfl hq {} (fun _ => none) 0
  have hall := outcome_text?_withReadSize (by decide) rfl hq {} (fun _ => none) 1
  rw [h 0 1, hall] at hnone
  cases hnone

end

end Node

end Mime
