import Mime.Part.TextContent
import Mime.Proofs.Charset.Label
import Mime.Proofs.Except

/-! When the text of a part is read. A transfer encoding that cannot be undone, a charset that is
not known and octets that a charset has no meaning for all come to some text or to none; what ends
the reading is a charset that refuses the octets, or a size of the reads that is out of range, and
nothing else does: `text?_returns_iff`. -/

namespace Mime

namespace TextContent

variable {detector : Detector} {payload : Octets} {charset : Text}

/-- A charset that is looked up: it is declared, and UTF-8 does not include it. -/
def LookedUp (charset : Text) : Prop := charset ≠ [] ∧ isUtf8Compatible charset = false

theorem not_lookedUp_iff : ¬LookedUp charset ↔ charset = [] ∨ isUtf8Compatible charset = true := by
  rw [LookedUp, not_and_or, not_not, Bool.not_eq_false]

/-- There is always something to fall back on. -/
theorem guess_returns (detector : Detector) (payload : Octets) :
    ∃ t, (guess detector payload).outcome = .ok t := by
  unfold guess
  rw [Traced.outcome_bind, Traced.outcome_consult, ok_bind]
  split <;> exact ⟨_, rfl⟩

theorem outcome_report_guess (e : Event) :
    (Traced.report e >>= fun _ => guess detector payload).outcome =
      (guess detector payload).outcome := by
  rw [Traced.outcome_bind, Traced.outcome_report, ok_bind]

/-- No charset, and every charset that UTF-8 includes, counts as none declared. -/
theorem filter_compatible (h : ¬LookedUp charset) :
    (some charset).filter (fun c => c ≠ [] ∧ ¬isUtf8Compatible c) = none := by
  rcases not_lookedUp_iff.1 h with rfl | h
  · rfl
  · simp [h]

variable [Charset.Registry]

theorem outcome_decode_utf8 (h : ¬LookedUp charset) :
    (decode detector payload (some charset)).outcome =
      match (Charset.Utf8.units payload).strict? with
      | some t => .ok t
      | none => (guess detector payload).outcome := by
  rw [decode, filter_compatible h]
  cases (Charset.Utf8.units payload).strict? with
  | some t => rfl
  | none => exact outcome_report_guess _

theorem outcome_decode_declared (h : LookedUp charset) :
    (decode detector payload (some charset)).outcome =
      match Charset.decode .strict charset payload with
      | .ok t => .ok t
      | .error (.refused r) => .error r
      | .error _ => (guess detector payload).outcome := by
  have hf : (some charset).filter (fun c => c ≠ [] ∧ ¬isUtf8Compatible c) = some charset := by
    simp [h.1, h.2]
  rw [decode, hf]
  dsimp only
  rcases Charset.decode .strict charset payload with (r | _ | _) | t
  · rfl
  · exact outcome_report_guess _
  · exact outcome_report_guess _
  · rfl

/-- Octets are read as some text, unless their charset refuses them. -/
theorem returns_iff :
    (∃ t, (decode detector payload (some charset)).outcome = .ok t) ↔
      ¬(LookedUp charset ∧ Charset.Refuses .strict charset payload) := by
  by_cases h : LookedUp charset
  · rw [outcome_decode_declared h, ← Charset.decode_refused_iff]
    rcases Charset.decode .strict charset payload with (r | _ | _) | t
    · simp [h]
    · simpa using guess_returns detector payload
    · simpa using guess_returns detector payload
    · simp
  · refine iff_of_true ?_ fun hr => h hr.1
    rw [outcome_decode_utf8 h]
    split
    · exact ⟨_, rfl⟩
    · exact guess_returns detector payload

end TextContent

namespace Node

section

variable {α : Type} [Charset.Registry] (s : Settings) (detector : Detector) {n : Node α}
variable {content payload : Octets}

/-- A part of text in octets that cannot be read by the size of the settings, or that its charset
refuses once they are no longer transfer-encoded. -/
def Unreadable (s : Settings) (n : Node α) : Prop :=
  n.hasType ["text/*"] = true ∧ ∃ content, n.body = some (.stream content) ∧
    (Transfer.sizeFits n.transferToken? s.qpReadChunkSize = false ∨
      ∃ payload, (Transfer.decode n.transferToken? s.qpReadChunkSize
          (.ofOctets content)).outcome = .ok payload ∧
        TextContent.LookedUp (n.charset s) ∧ Charset.Refuses .strict (n.charset s) payload)

theorem text?_of_other (h : n.hasType ["text/*"] = false) : n.text? s detector = pure none := by
  rw [text?, if_pos (by simp [h])]

/-- A part without octets has its text at hand, or none. -/
theorem text?_of_no_stream (h : ¬∃ content, n.body = some (.stream content)) :
    ∃ r, n.text? s detector = pure r := by
  unfold text?
  split
  · exact ⟨_, rfl⟩
  · cases hb : n.body with
    | none => exact ⟨_, rfl⟩
    | some body =>
      cases body with
      | text t => exact ⟨_, rfl⟩
      | stream content => exact absurd ⟨content, hb⟩ h
      | multipart subtype parts => exact ⟨_, rfl⟩

theorem text?_of_size (ht : n.hasType ["text/*"] = true) (hb : n.body = some (.stream content))
    (hs : Transfer.sizeFits n.transferToken? s.qpReadChunkSize = false) :
    n.text? s detector = .throw .readSize := by
  rw [text?, if_neg (by simp [ht]), hb]
  exact if_pos (by simp [hs])

/-- Octets that are no longer transfer-encoded are read under the declared charset. -/
theorem text?_of_payload (ht : n.hasType ["text/*"] = true) (hb : n.body = some (.stream content))
    (hs : Transfer.sizeFits n.transferToken? s.qpReadChunkSize = true)
    (hp : (Transfer.decode n.transferToken? s.qpReadChunkSize (.ofOctets content)).outcome =
      .ok payload) :
    (n.text? s detector).outcome =
        some <$> (TextContent.decode detector payload
          (some (n.charset s))).outcome.mapError .charset ∧
      (n.text? s detector).consulted =
        (TextContent.decode detector payload (some (n.charset s))).consulted := by
  rw [text?, if_neg (by simp [ht]), hb]
  dsimp only
  rw [if_neg (by simp [hs])]
  have hr : ((Transfer.decode n.transferToken? s.qpReadChunkSize (.ofOctets content)).traced :
      Traced TextFault _).outcome = .ok (.ok payload) := congrArg Except.ok hp
  refine ⟨?_, ?_⟩
  · rw [Traced.outcome_bind, hr, ok_bind]
    exact Traced.outcome_map _ _
  · rw [Traced.consulted_bind hr]
    exact Traced.consulted_map _ _

theorem text?_of_fault {f : Transfer.Fault} (ht : n.hasType ["text/*"] = true)
    (hb : n.body = some (.stream content))
    (hs : Transfer.sizeFits n.transferToken? s.qpReadChunkSize = true)
    (hf : (Transfer.decode n.transferToken? s.qpReadChunkSize (.ofOctets content)).outcome =
      .error f) :
    (n.text? s detector).outcome = .ok none := by
  rw [text?, if_neg (by simp [ht]), hb]
  simp [Transfer.Result.traced, hs, hf, ok_bind]

/-- A part of text in octets. -/
theorem returns_iff_of_stream (ht : n.hasType ["text/*"] = true)
    (hb : n.body = some (.stream content)) :
    (∃ r, (n.text? s detector).outcome = .ok r) ↔ ¬n.Unreadable s := by
  cases hs : Transfer.sizeFits n.transferToken? s.qpReadChunkSize with
  | false =>
    rw [text?_of_size s detector ht hb hs]
    simp [Traced.throw, Unreadable, ht, hb, hs]
  | true =>
    cases hp : (Transfer.decode n.transferToken? s.qpReadChunkSize
        (.ofOctets content)).outcome with
    | ok payload =>
      rw [(text?_of_payload s detector ht hb hs hp).1, map_returns_iff, mapError_returns_iff,
        TextContent.returns_iff]
      simp [Unreadable, ht, hb, hs, hp]
    | error f =>
      refine iff_of_true ⟨none, text?_of_fault s detector ht hb hs hp⟩ fun h => ?_
      simp [Unreadable, hb, hs, hp] at h

theorem returns_iff : (∃ r, (n.text? s detector).outcome = .ok r) ↔ ¬n.Unreadable s := by
  by_cases ht : n.hasType ["text/*"] = true
  · by_cases hb : ∃ content, n.body = some (.stream content)
    · obtain ⟨content, hb⟩ := hb
      exact returns_iff_of_stream s detector ht hb
    · obtain ⟨r, hr⟩ := text?_of_no_stream s detector hb
      refine iff_of_true ⟨r, congrArg Traced.outcome hr⟩ fun h => ?_
      obtain ⟨-, content, h, -⟩ := h
      exact hb ⟨content, h⟩
  · have hr := text?_of_other s detector (Bool.eq_false_iff.2 ht)
    exact iff_of_true ⟨none, congrArg Traced.outcome hr⟩ fun h => ht h.1

/-- The text of a part can be read, or there is none, unless its octets cannot be read by the size
that is set or its charset refuses them; and so it is for putting the text in the place of the
body. -/
theorem text?_returns_iff (s : Settings) (detector : Detector) (n : Node α) (g : Graph)
    (p : PartId) :
    ((∃ r, (n.text? s detector).outcome = .ok r) ↔ ¬n.Unreadable s) ∧
      ((∃ r, (g.materialize s detector p).outcome = .ok r) ↔ ¬(g.node p).Unreadable s) := by
  refine ⟨returns_iff s detector, ?_⟩
  rw [← returns_iff s detector, Graph.materialize]
  cases h : ((g.node p).text? s detector).outcome with
  | error e => simp [h, error_bind]
  | ok r => cases r <;> simp [h, ok_bind]

end

/-- Reading can end in an error: here a U+0000 stands where the charset should. -/
theorem text?_nul_charset :
    ¬∃ (_ : Charset.Registry) (r : Option Text),
      ((⟨.bodyPart, [("Content-Type", "text/plain; charset=\"\x00\"")],
        some (.stream [0x61])⟩ : Node PartId).text? {} fun _ => some "a").outcome = .ok r := by
  rintro ⟨_, r, h⟩
  cases h

end Node

end Mime
