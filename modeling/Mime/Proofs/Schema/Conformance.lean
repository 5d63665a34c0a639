import Mime.Proofs.Except
import Mime.Proofs.Schema.Reading

/-! Which JSON values are parts. What a part is to be is said of its fields one by one, and of the
parts in its body. A value is read as a part exactly if it is that and the parts in it are not
nested deeper than a validator goes: `accepts_part_iff`. -/

namespace Mime

namespace Schema

open Reading

def IsText (v : Json) : Prop := ∃ t, v = .str t

/-- A text that UTF-8 has octets for. -/
def IsOctets (v : Json) : Prop := ∃ t : Text, v = .str t ∧ t.hasSurrogate = false

inductive IsListOf (P : Json → Prop) : Json → Prop where
  | arr {vs : List Json} (items : ∀ v ∈ vs, P v) : IsListOf P (.arr vs)

/-- What the body of a part is to be, given what the parts in it are to be. -/
inductive BodyConforms (P : Json → Prop) : Json → Prop where
  | null : BodyConforms P .null
  | text {fs : List (Text × Json)} {t : Text} (tag : Json.field? "kind" fs = some (.str "text"))
      (text : Json.field? "text" fs = some (.str t)) : BodyConforms P (.obj fs)
  | stream {fs : List (Text × Json)} (tag : Json.field? "kind" fs = some (.str "stream"))
      (content : ∀ v, Json.field? "content" fs = some v → IsOctets v) : BodyConforms P (.obj fs)
  | multipart {fs : List (Text × Json)} (tag : Json.field? "kind" fs = some (.str "multipart"))
      (subtype : ∀ v, Json.field? "subtype" fs = some v → IsText v)
      (parts : ∀ v, Json.field? "parts" fs = some v → IsListOf P v) : BodyConforms P (.obj fs)

/-- What stands in the list of parts of a multipart body. -/
def bodyParts : Json → List Json
  | .obj bs => match Json.field? "kind" bs, Json.field? "parts" bs with
    | some (.str t), some (.arr vs) => if t = "multipart" then vs else []
    | _, _ => []
  | _ => []

/-- The parts in the body of a part. -/
def partsOf : Json → List Json
  | .obj fs => (Json.field? "body" fs).elim [] bodyParts
  | _ => []

/-- Below the value there are `n` parts, each of them in the one before. -/
def Nests : Nat → Json → Prop
  | 0, _ => True
  | n + 1, v => ∃ w ∈ partsOf v, Nests n w

instance decidableNests : (n : Nat) → (v : Json) → Decidable (Nests n v)
  | 0, _ => .isTrue trivial
  | n + 1, v =>
    have : DecidablePred (Nests n) := decidableNests n
    inferInstanceAs (Decidable (∃ w ∈ partsOf v, Nests n w))

theorem isListOf_arr_iff {P : Json → Prop} {vs : List Json} :
    IsListOf P (.arr vs) ↔ ∀ v ∈ vs, P v :=
  ⟨fun ⟨h⟩ => h, .arr⟩

theorem mem_bodyParts_iff {w : Json} {bs : List (Text × Json)} :
    w ∈ bodyParts (.obj bs) ↔ Json.field? "kind" bs = some (.str "multipart") ∧
      ∃ vs, Json.field? "parts" bs = some (.arr vs) ∧ w ∈ vs := by
  rw [bodyParts]
  constructor
  · intro h
    split at h
    · rename_i t vs ht hvs
      split_ifs at h with hm
      · exact ⟨ht.trans (by rw [hm]), vs, hvs, h⟩
      · exact absurd h List.not_mem_nil
    · exact absurd h List.not_mem_nil
  · rintro ⟨ht, vs, hvs, hw⟩
    rw [ht, hvs]
    exact hw

theorem IsListOf.imp {P Q : Json → Prop} {v : Json} (hv : IsListOf P v) (h : ∀ w, P w → Q w) :
    IsListOf Q v := by
  obtain ⟨items⟩ := hv
  exact .arr fun w hw => h w (items w hw)

section Bodies

variable {P Q : Json → Prop} {v w : Json}

/-- Only of the parts in a body does it matter what parts are to be. -/
theorem BodyConforms.imp (hv : BodyConforms P v) (h : ∀ w ∈ bodyParts v, P w → Q w) :
    BodyConforms Q v := by
  obtain _ | ⟨tag, text⟩ | ⟨tag, content⟩ | ⟨tag, subtype, parts⟩ := hv
  · exact .null
  · exact .text tag text
  · exact .stream tag content
  · refine .multipart tag subtype fun l hl => ?_
    obtain ⟨items⟩ := parts l hl
    exact .arr fun w hw => h w (mem_bodyParts_iff.2 ⟨tag, _, hl, hw⟩) (items w hw)

end Bodies

variable {V : Validator} {v : Json}

section Values

theorem mem_of_lookup {α : Type} {choices : List (Text × α)} {t : Text} {a : α}
    (h : choices.lookup t = some a) : (t, a) ∈ choices := by
  obtain ⟨before, after, rfl, -⟩ := List.lookup_eq_some_iff.1 h
  exact List.mem_append_right before List.mem_cons_self

theorem kind_eq_ok_iff {k : Kind} : V.kind v = .ok k ↔ v = .str (kindText k) := by
  rw [Validator.kind, V.member_eq_ok_iff]
  constructor
  · rintro ⟨t, rfl, h⟩
    have hm := mem_of_lookup h
    simp only [List.mem_cons, Prod.mk.injEq, List.not_mem_nil, or_false] at hm
    obtain ⟨rfl, rfl⟩ | ⟨rfl, rfl⟩ := hm
    · rfl
    · rfl
  · rintro rfl
    exact ⟨_, rfl, by cases k <;> rfl⟩

theorem tag_str (name : Text) : V.tag name (.str name) = .ok () :=
  V.member_eq_ok_iff.2 ⟨name, rfl, by simp⟩

theorem headerField_eq_ok_iff {f : Text × Text} :
    V.pair V.text V.text v = .ok f ↔ v = .arr [.str f.1, .str f.2] := by
  simp [V.pair_eq_ok_iff, V.text_eq_ok_iff]

theorem headers_eq_ok_iff {h : Fields} : V.headers v = .ok h ↔ v = headersJson h := by
  obtain ⟨vs, rfl⟩ | hv := v.eq_arr_or
  · rw [Validator.headers, V.list_arr, items_eq_ok_iff, headersJson, Json.arr.injEq,
      ← List.forall₂_eq_eq_eq, List.forall₂_map_right_iff]
    simp only [headerField_eq_ok_iff]
  · rw [Validator.headers, V.list_other hv]
    exact iff_of_false (fun h => nomatch h) (hv _)

theorem accepts_text_iff : Accepts V.text v ↔ IsText v := exists_congr fun _ => V.text_eq_ok_iff

theorem accepts_octets_iff : Accepts V.octets v ↔ IsOctets v := by
  constructor
  · rintro ⟨o, h⟩
    obtain ⟨t, hv, ht, -⟩ := V.octets_eq_ok_iff.1 h
    exact ⟨t, hv, ht⟩
  · rintro ⟨t, hv, ht⟩
    exact ⟨t.utf8, V.octets_eq_ok_iff.2 ⟨t, hv, ht, rfl⟩⟩

/-- A list is read if its items are. -/
theorem accepts_list_iff {α : Type} {f : Reader α} :
    Accepts (V.list f) v ↔ IsListOf (Accepts f) v := by
  obtain ⟨vs, rfl⟩ | hv := v.eq_arr_or
  · rw [Accepts, V.list_arr, items_returns_iff, isListOf_arr_iff]
  · rw [Accepts, V.list_other hv]
    refine iff_of_false ?_ fun h => ?_
    · rintro ⟨as, h⟩
      cases h
    · obtain ⟨-⟩ := h
      exact hv _ rfl

end Values

section Parts

variable {part : Reader Part} {fs : List (Text × Json)}

/-- After the tag, which has been looked at, come the other fields. -/
theorem read_tag {α : Type} {name : Text} {rest : Record α}
    (h : Json.field? "kind" fs = some (.str name)) :
    (Record.field "kind" (some ()) (V.tag name) rest).read fs = Prod.mk () <$> rest.read fs := by
  rw [Record.read, fieldOr_of_some h, tag_str]
  cases rest.read fs <;> rfl

theorem read_last {α : Type} {name : Text} {d : Option α} {f : Reader α} :
    (Record.field name d f .nil).read fs = (·, ()) <$> fieldOr name fs d f := by
  rw [Record.read, Record.read]
  cases fieldOr name fs d f <;> rfl

/-- A body is read by the reader for what it is. -/
theorem body_of_tag {t : Text} {f : Reader (Body Part)}
    (ht : Json.field? "kind" fs = some (.str t)) (hf : (V.bodies part).lookup t = some f) :
    V.body part (.obj fs) = some <$> below [.field t] (f (.obj fs)) := by
  have hn : Json.obj fs ≠ .null := nofun
  rw [Validator.body, V.nullable_other hn, V.tagged_known ht hf]

theorem body_text (h : Json.field? "kind" fs = some (.str "text")) :
    V.body part (.obj fs) =
      below [.field "text"] ((some ∘ .text) <$> fieldOr "text" fs none V.text) := by
  rw [body_of_tag h rfl, Validator.textBody, V.model_obj, read_tag h, read_last]
  cases fieldOr "text" fs none V.text <;> rfl

theorem body_stream (h : Json.field? "kind" fs = some (.str "stream")) :
    V.body part (.obj fs) =
      below [.field "stream"] ((some ∘ .stream) <$> fieldOr "content" fs (some []) V.octets) := by
  rw [body_of_tag h rfl, Validator.streamBody, V.model_obj, read_tag h, read_last]
  cases fieldOr "content" fs (some []) V.octets <;> rfl

theorem body_multipart (h : Json.field? "kind" fs = some (.str "multipart")) :
    V.body part (.obj fs) = below [.field "multipart"]
      (both (fun s ps => some (.multipart s ps))
        (fieldOr "subtype" fs (some ("mixed" : Text)) V.text)
        (fieldOr "parts" fs (some []) (V.list part))) := by
  rw [body_of_tag h rfl, Validator.multipartBody, V.model_obj, read_tag h, Record.read, read_last]
  cases fieldOr "subtype" fs (some ("mixed" : Text)) V.text <;>
    cases fieldOr "parts" fs (some []) (V.list part) <;> rfl

/-- A body is of one of the three kinds, or else what is wrong with it does not depend on how the
parts in it are read. -/
theorem body_obj_cases (V : Validator) (fs : List (Text × Json)) :
    Json.field? "kind" fs = some (.str "text") ∨ Json.field? "kind" fs = some (.str "stream") ∨
      Json.field? "kind" fs = some (.str "multipart") ∨
        ∃ f, ∀ part, V.body part (.obj fs) = fail f := by
  have hn : Json.obj fs ≠ .null := nofun
  cases h : Json.field? "kind" fs with
  | none =>
    refine .inr (.inr (.inr ⟨.noTag, fun part => ?_⟩))
    rw [Validator.body, V.nullable_other hn, V.tagged_absent h]
    rfl
  | some v =>
    by_cases hv : ∃ t ∈ (["text", "multipart", "stream"] : List Text), v = .str t
    · obtain ⟨t, ht, rfl⟩ := hv
      simp only [List.mem_cons, List.not_mem_nil, or_false] at ht
      rcases ht with rfl | rfl | rfl
      · exact .inl rfl
      · exact .inr (.inr (.inl rfl))
      · exact .inr (.inl rfl)
    · obtain ⟨f, hf⟩ := V.tagged_unknown h fun t ht he => hv ⟨t, ht, he⟩
      refine .inr (.inr (.inr ⟨f, fun part => ?_⟩))
      rw [Validator.body, V.nullable_other hn, hf (V.bodies part) rfl]
      rfl

theorem body_null : V.body part .null = .ok none := V.nullable_null

theorem body_other (hn : v ≠ .null) (ho : ∀ fs, v ≠ .obj fs) :
    V.body part v = fail .notTagged := by
  rw [Validator.body, V.nullable_other hn, V.tagged_other ho]
  rfl

theorem accepts_body_text (h : Json.field? "kind" fs = some (.str "text")) :
    Accepts (V.body part) (.obj fs) ↔ ∃ t, Json.field? "text" fs = some (.str t) := by
  rw [Accepts, body_text h, below_returns_iff, map_returns_iff, required_returns_iff]
  simp only [accepts_text_iff, IsText]
  constructor
  · rintro ⟨v, hv, t, rfl⟩
    exact ⟨t, hv⟩
  · rintro ⟨t, hv⟩
    exact ⟨_, hv, t, rfl⟩

theorem accepts_body_stream (h : Json.field? "kind" fs = some (.str "stream")) :
    Accepts (V.body part) (.obj fs) ↔
      ∀ v, Json.field? "content" fs = some v → IsOctets v := by
  rw [Accepts, body_stream h, below_returns_iff, map_returns_iff, fieldOr_returns_iff]
  simp only [accepts_octets_iff]

theorem accepts_body_multipart (h : Json.field? "kind" fs = some (.str "multipart")) :
    Accepts (V.body part) (.obj fs) ↔
      (∀ v, Json.field? "subtype" fs = some v → IsText v) ∧
        ∀ v, Json.field? "parts" fs = some v → IsListOf (Accepts part) v := by
  rw [Accepts, body_multipart h, below_returns_iff, both_returns_iff, fieldOr_returns_iff,
    fieldOr_returns_iff]
  simp only [accepts_text_iff, accepts_list_iff]

/-- A body in an object is read exactly if it is what it is to be. -/
theorem accepts_body_obj_iff :
    Accepts (V.body part) (.obj fs) ↔ BodyConforms (Accepts part) (.obj fs) := by
  constructor
  · intro h
    obtain ht | hs | hm | ⟨f, hf⟩ := body_obj_cases V fs
    · obtain ⟨t, htext⟩ := (accepts_body_text ht).1 h
      exact .text ht htext
    · exact .stream hs ((accepts_body_stream hs).1 h)
    · obtain ⟨hsubtype, hparts⟩ := (accepts_body_multipart hm).1 h
      exact .multipart hm hsubtype hparts
    · obtain ⟨b, hb⟩ := h
      rw [hf] at hb
      cases hb
  · rintro (_ | ⟨ht, htext⟩ | ⟨hs, hcontent⟩ | ⟨hm, hsubtype, hparts⟩)
    · exact (accepts_body_text ht).2 ⟨_, htext⟩
    · exact (accepts_body_stream hs).2 hcontent
    · exact (accepts_body_multipart hm).2 ⟨hsubtype, hparts⟩

/-- A body is read exactly if it is what it is to be, where a part is to be what is read. -/
theorem accepts_body_iff : Accepts (V.body part) v ↔ BodyConforms (Accepts part) v := by
  obtain ⟨fs, rfl⟩ | ho := v.eq_obj_or
  · exact accepts_body_obj_iff
  by_cases hn : v = .null
  · subst hn
    exact iff_of_true ⟨none, body_null⟩ .null
  · refine iff_of_false ?_ fun h => ?_
    · rintro ⟨b, h⟩
      rw [body_other hn ho] at h
      cases h
    · obtain _ | ⟨-, -⟩ | ⟨-, -⟩ | ⟨-, -, -⟩ := h
      · exact hn rfl
      all_goals exact ho _ rfl

theorem partWith_obj : V.partWith part (.obj fs) =
    both (fun k (r : Fields × Option (Body Part)) => .mk ⟨k, r.1, r.2⟩)
      (fieldOr "kind" fs (some .bodyPart) V.kind)
      (both Prod.mk (fieldOr "headers" fs (some []) V.headers)
        (fieldOr "body" fs (some none) (V.body part))) := by
  rw [Validator.partWith, V.model_obj, Record.read, Record.read, read_last]
  cases fieldOr "kind" fs (some .bodyPart) V.kind <;>
    cases fieldOr "headers" fs (some []) V.headers <;>
    cases fieldOr "body" fs (some none) (V.body part) <;> rfl

theorem partWith_other (h : ∀ fs, v ≠ .obj fs) : V.partWith part v = fail .notModel := by
  rw [Validator.partWith, V.model_other h]
  rfl

end Parts

end Schema

end Mime
