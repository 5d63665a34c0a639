import Mime.Part.Find
import Mime.Proofs.Header.Blanks
import Mime.Proofs.Header.RoundTrip
import Mime.Proofs.Part.Search

/-! Looking parts up by their content ids. An id is stored bare or in angle brackets, folded or
encoded, with a space before it that encoding may have put there and blanks around it; a query is
bare or in brackets as well. All of these come to the same, so that the first part with the id is
found: `finds_stored_contentId`. -/

namespace Mime

open Text (IsBlank)

/-- What may be an id: there are no blanks around it, it does not come in angle brackets already, and
there are no surrogates in it, which would not be written as they are. -/
structure IsContentId (id : Text) : Prop where
  trim : id.trim = id
  bare : ∀ t, id ≠ ('<' : CodePoint) :: (t ++ [('>' : CodePoint)])
  scalar : ∀ c ∈ id, c.isSurrogate = false

/-- The two forms of an id. -/
inductive IdForm (id : Text) : Text → Prop
  | bare : IdForm id id
  | bracketed : IdForm id (('<' : CodePoint) :: (id ++ [('>' : CodePoint)]))

/-- A form of an id, as a header holds it. -/
inductive StoredId (id : Text) : Text → Prop
  | intro {form before after : Text} {used : Int} : IdForm id form → 0 ≤ used →
      Header.IsLinear before → Header.IsLinear after → (width : Int) →
      StoredId id (before ++ (Header.foldAndEncode used width form ++ after))

/-- A form of an id, as somebody asks for it. -/
inductive AskedId (id : Text) : Text → Prop
  | intro {form before after : Text} : IdForm id form → IsBlank before → IsBlank after →
      AskedId id (before ++ (form ++ after))

variable {id form stored query : Text}

theorem IdForm.scalar (h : IdForm id form) (hs : ∀ c ∈ id, c.isSurrogate = false) :
    ∀ c ∈ form, c.isSurrogate = false := by
  cases h with
  | bare => exact hs
  | bracketed =>
    intro c hc
    rcases List.mem_cons.1 hc with rfl | hc
    · decide
    · rcases List.mem_append.1 hc with hc | hc
      · exact hs c hc
      · rw [List.mem_singleton.1 hc]
        decide

/-- Each form comes to the id itself, whatever blanks are around it. -/
theorem AskedId.normalize (hid : IsContentId id) (h : AskedId id query) :
    normalizeContentId query = id := by
  cases h with
  | intro hform hb ha =>
    rw [normalizeContentId, Text.trim_append hb ha]
    cases hform with
    | bare =>
      have hbare : Text.enclosedBy '<' '>' id = false := by
        rw [Bool.eq_false_iff]
        intro he
        obtain ⟨t, ht⟩ := Text.enclosedBy_iff.1 he
        exact hid.bare t ht
      simp only [hid.trim, hbare]
      rfl
    | bracketed =>
      have ht := Text.trim_enclosed (a := '<') (b := '>') (by decide) (by decide) id
      have he : Text.enclosedBy '<' '>' (('<' : CodePoint) :: (id ++ [('>' : CodePoint)])) = true :=
        Text.enclosedBy_iff.2 ⟨id, rfl⟩
      simp only [ht, he, if_true, Text.inner_enclosed, hid.trim]

/-- What is stored reads as something that could be asked for. -/
theorem StoredId.asked [Charset.Registry] (hid : IsContentId id) (h : StoredId id stored) :
    ∃ t, (Header.unfoldAndDecode stored).outcome = .ok t ∧ AskedId id t := by
  cases h with
  | @intro form before after used hform hu hb ha width =>
    obtain ⟨lead, hlead, hread⟩ :=
      Header.exists_outcome_foldAndEncode (hform.scalar hid.scalar) hu width
    refine ⟨(Header.unfold before ++ lead) ++ (form ++ Header.unfold after), ?_, .intro hform ?_ ?_⟩
    · rw [Header.outcome_unfoldAndDecode_around hb ha, hread, List.append_assoc,
        ← List.append_assoc lead]
      rfl
    · intro c hc
      rcases List.mem_append.1 hc with hc | hc
      · exact hb.unfold.isBlank c hc
      · exact hlead c hc
    · exact ha.unfold.isBlank

namespace Graph

/-- A search along a walk ends at the first part that passes. -/
theorem outcome_firstVisited {ε : Type} {test : PartId → Traced ε Bool} {steps : List Step}
    {pre post : List PartId} {p : PartId} (h : steps.filterMap Step.part? = pre ++ p :: post)
    (hpre : ∀ q ∈ pre, (test q).outcome = .ok false) (hp : (test p).outcome = .ok true) :
    (firstVisited test steps).outcome = .ok (some p) := by
  induction steps generalizing pre with
  | nil => exact absurd h.symm (by simp)
  | cons step steps ih =>
    cases step with
    | notice e => exact ih h hpre
    | visit q =>
      rw [firstVisited, Traced.outcome_bind]
      rw [List.filterMap_cons_some (show Step.part? (.visit q) = some q from rfl)] at h
      cases pre with
      | nil =>
        obtain ⟨rfl, -⟩ := List.cons.inj h
        rw [hp]
        rfl
      | cons x pre =>
        obtain ⟨rfl, hmore⟩ := List.cons.inj h
        rw [hpre q List.mem_cons_self]
        exact ih hmore fun y hy => hpre y (List.mem_cons_of_mem q hy)

variable {g : Graph} {root : Option PartId} {limit : Int} {pre post : List PartId} {p : PartId}

/-- The first part with an id is found by any form of it, if the ids before it can be read. -/
theorem finds_stored_contentId [Charset.Registry] (hid : IsContentId id)
    (hparts : g.parts root limit = pre ++ p :: post)
    (hpre : ∀ q ∈ pre, ∀ s, (g.node q).contentId? = some s →
      ∃ t, (Header.unfoldAndDecode s).outcome = .ok t ∧ normalizeContentId t ≠ id)
    (hp : ∃ s, (g.node p).contentId? = some s ∧ StoredId id s) :
    ∀ query, AskedId id query →
      (g.findByContentId root (some query) limit).outcome = .ok (some p) := by
  intro query hasked
  have hwanted := hasked.normalize hid
  refine outcome_firstVisited hparts ?_ ?_
  · intro q hq
    cases hs : (g.node q).contentId? with
    | none => rfl
    | some s =>
      obtain ⟨t, ht, hne⟩ := hpre q hq s hs
      simp only [Traced.outcome_bind, ht, hwanted, ok_bind, Traced.outcome_pure]
      rw [beq_false_of_ne hne]
  · obtain ⟨s, hs, hstored⟩ := hp
    obtain ⟨t, ht, hform⟩ := hstored.asked hid
    simp only [hs, Traced.outcome_bind, ht, hwanted, hform.normalize hid, ok_bind,
      Traced.outcome_pure, beq_self_eq_true]

/-- A letter with an accent for an id, in a part after one whose id is another letter. -/
def pictures : Graph :=
  ⟨[⟨.message, [], some (.multipart "related" [1, 2])⟩,
    ⟨.bodyPart, [("Content-ID", "<a>")], none⟩,
    ⟨.bodyPart, [("content-id", "\t\r\n =?UTF-8?B?PMOpPg==?= ")], none⟩]⟩

/-- The id was encoded where its first word did not fit on the line. -/
theorem storedId_pictures : StoredId "é" "\t\r\n =?UTF-8?B?PMOpPg==?= " := by
  have hn : Header.needsEncoding "<é>" = true := by
    rw [Header.needsEncoding, Bool.or_eq_true]
    exact .inr (by decide)
  have hw : Header.foldAndEncode 70 76 "<é>" = "\r\n =?UTF-8?B?PMOpPg==?=" := by
    rw [Header.foldAndEncode, if_pos hn, Header.encodeWords, if_pos hn]
    decide +kernel
  have hs : StoredId "é" ("\t" ++ (Header.foldAndEncode 70 76 "<é>" ++ " ")) :=
    .intro .bracketed (by decide) (by decide) (by decide) 76
  rw [hw] at hs
  exact hs

section

attribute [local instance] Charset.Registry.bare

theorem finds_stored_contentId_pictures :
    IsContentId "é" ∧ pictures.parts (some 0) 9 = [0, 1, 2] ∧
    (pictures.findByContentId (some 0) (some " <é>") 9).outcome = .ok (some 2) := by
  have hid : IsContentId "é" := by
    refine ⟨by decide, ?_, by decide⟩
    intro t ht
    exact absurd (List.cons.inj ht).1 (by decide)
  have hparts : pictures.parts (some 0) 9 = [0, 1] ++ 2 :: [] := by
    rw [parts_eq_map_search]
    simp [search, pictures, children, node, Node.children, Body.children]
  have hasked : AskedId "é" (" " ++ ("<é>" ++ "")) := .intro .bracketed (by decide) (by decide)
  refine ⟨hid, hparts, finds_stored_contentId hid hparts ?_ ⟨_, rfl, storedId_pictures⟩ _ hasked⟩
  intro q hq s hs
  simp only [List.mem_cons, List.not_mem_nil, or_false] at hq
  rcases hq with rfl | rfl
  · rw [show (pictures.node 0).contentId? = none by decide] at hs
    cases hs
  · rw [show (pictures.node 1).contentId? = some ("<a>" : Text) by decide] at hs
    obtain rfl := Option.some.inj hs
    have ha : EncodedWord.Silent "<a>" [] := EncodedWord.silent_of_no_equals (by decide) []
    exact ⟨"<a>", Header.outcome_decode_of_silent ha, by decide⟩

end

end Graph

end Mime
