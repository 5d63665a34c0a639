import Mime.Part.Find
import Mime.Proofs.Part.TextContent

/-! Putting the text of a part in the place of its body shows in the body alone. What else is
asked of a graph depends on the fields of its parts, on their children and on their texts, and
these stay as they are, however often and in whatever order it is done: `materialize_silent`. -/

namespace Mime

namespace Node

variable {α : Type} [Charset.Registry] {s : Settings} {detector : Detector} {n : Node α} {t : Text}

/-- A text is read off raw octets, or it is the body itself. -/
theorem body_of_text?_eq_some (h : (n.text? s detector).outcome = .ok (some t)) :
    n.hasType ["text/*"] = true ∧
      ((∃ content, n.body = some (.stream content)) ∨ n.body = some (.text t)) := by
  cases ht : n.hasType ["text/*"] with
  | false =>
    rw [text?_of_other s detector ht] at h
    cases h
  | true =>
    rw [text?, if_neg (by simp [ht])] at h
    refine ⟨rfl, ?_⟩
    cases hb : n.body with
    | none => simp [hb] at h
    | some body =>
      cases body with
      | text u =>
        rw [hb] at h
        cases h
        exact .inr rfl
      | stream content => exact .inl ⟨content, rfl⟩
      | multipart subtype parts => simp [hb] at h

theorem leaf_of_text?_eq_some (h : (n.text? s detector).outcome = .ok (some t)) :
    n.children = [] ∧ n.isMultipart = false := by
  rcases (body_of_text?_eq_some h).2 with ⟨content, hb⟩ | hb
  · rw [children, isMultipart, hb]
    exact ⟨rfl, rfl⟩
  · rw [children, isMultipart, hb]
    exact ⟨rfl, rfl⟩

/-- The text that was put in the place of the body is the text of the part. -/
theorem text?_with_text (ht : n.hasType ["text/*"] = true) :
    ({ n with body := some (.text t) } : Node α).text? s detector = pure (some t) := by
  have h : ({ n with body := some (.text t) } : Node α).hasType ["text/*"] = true := ht
  rw [text?, if_neg (by simp [h])]

end Node

namespace Graph

theorem setBody_eq_self (g : Graph) (p : PartId) : g.setBody p (g.node p).body = g := by
  have h : g.nodes.modify p (fun n => { n with body := (g.node p).body }) = g.nodes := by
    refine List.ext_getElem? fun i => ?_
    rw [List.getElem?_modify]
    by_cases hi : p = i
    · subst hi
      cases hn : g.nodes[p]? with
      | none => simp
      | some n =>
        have hp : g.node p = n := by rw [node, List.getD_eq_getElem?_getD, hn, Option.getD_some]
        simp [hp]
    · simp [hi]
  exact congrArg Graph.mk h

theorem walkFrom_congr {g g' : Graph} (h : ∀ p, g'.children p = g.children p) (limit : Int)
    (visited : List PartId) (stack : List (PartId × Nat)) :
    g'.walkFrom limit visited stack = g.walkFrom limit visited stack := by
  induction visited, stack using walkFrom.induct g limit with
  | case1 visited => rw [walkFrom, walkFrom]
  | case2 visited p depth stack hv ih => rw [walkFrom, walkFrom, dif_pos hv, dif_pos hv, ih]
  | case3 visited p depth stack hv hc ih =>
    rw [walkFrom, walkFrom, dif_neg hv, dif_neg hv, dif_pos hc, dif_pos ((h p).trans hc), ih]
  | case4 visited p depth stack hv hc hl ih =>
    rw [walkFrom, walkFrom, dif_neg hv, dif_neg hv, dif_neg hc, dif_neg (h p ▸ hc), if_pos hl,
      if_pos hl, ih]
  | case5 visited p depth stack hv hc hl _ ih =>
    rw [walkFrom, walkFrom, dif_neg hv, dif_neg hv, dif_neg hc, dif_neg (h p ▸ hc), if_neg hl,
      if_neg hl, h p, ih]

section

variable [Charset.Registry] {s : Settings} {detector : Detector} {g g' : Graph} {p : PartId}

/-- The graph after the text of a part was put in the place of its body, or could not be. -/
def materialized (s : Settings) (detector : Detector) (g : Graph) (p : PartId) : Graph :=
  match (g.materialize s detector p).outcome with
  | .ok (_, g') => g'
  | .error _ => g

def materializedAll (s : Settings) (detector : Detector) (g : Graph) (ps : List PartId) : Graph :=
  ps.foldl (materialized s detector) g

/-- The graph with a text, if there is one, in the place of a body. -/
def putText (g : Graph) (p : PartId) : Option Text → Graph
  | none => g
  | some t => g.setBody p (some (.text t))

theorem outcome_materialize (s : Settings) (detector : Detector) (g : Graph) (p : PartId) :
    (g.materialize s detector p).outcome =
      (fun r => (r, g.putText p r)) <$> ((g.node p).text? s detector).outcome := by
  rw [materialize, Traced.outcome_bind]
  rcases ((g.node p).text? s detector).outcome with e | _ | t
  · rfl
  · rfl
  · rfl

theorem materialized_of_ok {r : Option Text} (h : ((g.node p).text? s detector).outcome = .ok r) :
    g.materialized s detector p = g.putText p r := by
  rw [materialized, outcome_materialize, h]
  rfl

theorem materialized_of_error {e : TextFault}
    (h : ((g.node p).text? s detector).outcome = .error e) : g.materialized s detector p = g := by
  rw [materialized, outcome_materialize, h]
  rfl

/-- Only a part of the graph has a text. -/
theorem lt_size_of_text? {t : Text} (h : ((g.node p).text? s detector).outcome = .ok (some t)) :
    p < g.size := by
  by_contra hp
  rw [node_of_size_le (Nat.not_lt.1 hp)] at h
  rcases (Node.body_of_text?_eq_some h).2 with ⟨content, hb⟩ | hb <;> cases hb

/-- The parts of the two graphs are the same, but some have their text for a body. -/
structure SameTexts (s : Settings) (detector : Detector) (g g' : Graph) : Prop where
  size : g'.size = g.size
  node : ∀ p, g'.node p = g.node p ∨
    ∃ t, ((g.node p).text? s detector).outcome = .ok (some t) ∧
      g'.node p = { g.node p with body := some (.text t) }

namespace SameTexts

theorem refl (s : Settings) (detector : Detector) (g : Graph) : SameTexts s detector g g :=
  ⟨rfl, fun _ => .inl rfl⟩

theorem headers (h : SameTexts s detector g g') (p : PartId) :
    (g'.node p).headers = (g.node p).headers := by
  rcases h.node p with he | ⟨t, -, he⟩
  · rw [he]
  · rw [he]

/-- A part with a text has no children, before or after. -/
theorem children (h : SameTexts s detector g g') (p : PartId) :
    g'.children p = g.children p := by
  rcases h.node p with he | ⟨t, ht, he⟩
  · rw [Graph.children, he, Graph.children]
  · rw [Graph.children, he, Graph.children, (Node.leaf_of_text?_eq_some ht).1]
    rfl

theorem isMultipart (h : SameTexts s detector g g') (p : PartId) :
    (g'.node p).isMultipart = (g.node p).isMultipart := by
  rcases h.node p with he | ⟨t, ht, he⟩
  · rw [he]
  · rw [he, (Node.leaf_of_text?_eq_some ht).2]
    rfl

theorem outcome_text? (h : SameTexts s detector g g') (p : PartId) :
    ((g'.node p).text? s detector).outcome = ((g.node p).text? s detector).outcome := by
  rcases h.node p with he | ⟨t, ht, he⟩
  · rw [he]
  · rw [he, Node.text?_with_text (Node.body_of_text?_eq_some ht).1, ht]
    rfl

/-- One more part gives its text, or does not. -/
theorem materialized (h : SameTexts s detector g g') (p : PartId) :
    SameTexts s detector g (g'.materialized s detector p) := by
  cases hr : ((g'.node p).text? s detector).outcome with
  | error e => rwa [materialized_of_error hr]
  | ok r =>
    rw [materialized_of_ok hr]
    cases r with
    | none => exact h
    | some t =>
      refine ⟨(size_setBody g' p _).trans h.size, fun q => ?_⟩
      rw [putText, node_setBody]
      split
      · rename_i hq
        obtain ⟨rfl, -⟩ := hq
        refine .inr ⟨t, h.outcome_text? p ▸ hr, ?_⟩
        rcases h.node p with he | ⟨u, -, he⟩
        · rw [he]
        · rw [he]
      · exact h.node q

theorem materializedAll (h : SameTexts s detector g g') (ps : List PartId) :
    SameTexts s detector g (g'.materializedAll s detector ps) := by
  induction ps generalizing g' with
  | nil => exact h
  | cons p ps ih => exact ih (h.materialized p)

end SameTexts

namespace SameTexts

variable {ε : Type} {root : Option PartId} {limit : Int}

theorem walk (h : SameTexts s detector g g') (root : Option PartId) (limit : Int) :
    g'.walk root limit = g.walk root limit := by
  cases root with
  | none => rfl
  | some r => exact walkFrom_congr h.children limit [] [(r, 0)]

theorem walkParts (h : SameTexts s detector g g') (root : Option PartId) (limit : Int) :
    (g'.walkParts root limit : Traced ε (List PartId)) = g.walkParts root limit := by
  rw [Graph.walkParts, Graph.walkParts, parts, parts, h.walk]

theorem findByContentId (h : SameTexts s detector g g') (root : Option PartId)
    (id : Option Text) (limit : Int) :
    g'.findByContentId root id limit = g.findByContentId root id limit := by
  have hid (p : PartId) : (g'.node p).contentId? = (g.node p).contentId? := by
    rw [Node.contentId?, h.headers, Node.contentId?]
  simp only [Graph.findByContentId, h.walk, hid]

theorem mimeType (h : SameTexts s detector g g') (p : PartId) :
    (g'.node p).mimeType = (g.node p).mimeType := by
  rw [Node.mimeType, Node.contentType?, h.headers, Node.mimeType, Node.contentType?]

theorem isViewable (h : SameTexts s detector g g') (p : PartId) :
    (g'.node p).isViewable = (g.node p).isViewable := by
  rw [Node.isViewable, Node.hasType, h.mimeType, Node.isAttachment, Node.dispositionType?,
    Node.disposition?, h.headers]
  rfl

theorem findByType (h : SameTexts s detector g g') (root : Option PartId)
    (patterns : List (Option Text)) (limit : Int) :
    (g'.findByType root patterns limit : Traced ε (Option PartId)) =
      g.findByType root patterns limit := by
  simp only [Graph.findByType, h.walk, h.mimeType]

theorem sortLeaf (h : SameTexts s detector g g') : g'.sortLeaf = g.sortLeaf := by
  funext lists p
  rw [Graph.sortLeaf, Graph.sortLeaf, h.isMultipart, h.isViewable]

theorem collect (h : SameTexts s detector g g') (root : Option PartId) (limit : Int)
    (viewables attachments : List PartId) :
    (g'.collect root limit viewables attachments : Traced ε (List PartId × List PartId)) =
      g.collect root limit viewables attachments := by
  rw [Graph.collect, Graph.collect, h.walkParts, h.sortLeaf]

/-- A call gives what it would have given at first. -/
theorem materialize (h : SameTexts s detector g g') (p : PartId) :
    Prod.fst <$> (g'.materialize s detector p).outcome =
      Prod.fst <$> (g.materialize s detector p).outcome := by
  rw [outcome_materialize, outcome_materialize, h.outcome_text?]
  cases ((g.node p).text? s detector).outcome <;> rfl

end SameTexts

/-- Whatever is asked of the two graphs, they give the same answer. -/
structure AnswersAlike (s : Settings) (detector : Detector) (g g' : Graph) : Prop where
  walkParts : ∀ (ε : Type) root limit,
    (g'.walkParts root limit : Traced ε (List PartId)) = g.walkParts root limit
  findByContentId : ∀ root id limit,
    g'.findByContentId root id limit = g.findByContentId root id limit
  findByType : ∀ (ε : Type) root patterns limit,
    (g'.findByType root patterns limit : Traced ε (Option PartId)) =
      g.findByType root patterns limit
  collect : ∀ (ε : Type) root limit viewables attachments,
    (g'.collect root limit viewables attachments : Traced ε (List PartId × List PartId)) =
      g.collect root limit viewables attachments
  text? : ∀ p, ((g'.node p).text? s detector).outcome = ((g.node p).text? s detector).outcome
  materialize : ∀ p, Prod.fst <$> (g'.materialize s detector p).outcome =
    Prod.fst <$> (g.materialize s detector p).outcome

theorem SameTexts.answersAlike (h : SameTexts s detector g g') : AnswersAlike s detector g g' where
  walkParts _ := h.walkParts
  findByContentId := h.findByContentId
  findByType _ := h.findByType
  collect _ := h.collect
  text? := h.outcome_text?
  materialize := h.materialize

/-- A call that gives a text. -/
theorem materialize_eq_some {t : Text}
    (h : (g.materialize s detector p).outcome = .ok (some t, g')) :
    g'.size = g.size ∧ (∀ q, q ≠ p → g'.node q = g.node q) ∧
      g'.node p = { g.node p with body := some (.text t) } ∧
      ∀ u, (g.node p).body = some (.text u) → u = t ∧ g' = g := by
  rw [outcome_materialize] at h
  obtain ⟨r, hr, he⟩ := map_eq_ok_iff.1 h
  obtain ⟨rfl, rfl⟩ := Prod.mk.inj he
  refine ⟨size_setBody g p _, fun q hq => ?_, ?_, fun u hu => ?_⟩
  · rw [putText, node_setBody, if_neg fun hp => hq hp.1.symm]
  · rw [putText, node_setBody, if_pos ⟨rfl, lt_size_of_text? hr⟩]
  · rcases (Node.body_of_text?_eq_some hr).2 with ⟨content, hb⟩ | hb
    · rw [hb] at hu
      cases hu
    · rw [hb] at hu
      obtain rfl : t = u := by
        cases hu
        rfl
      exact ⟨rfl, by rw [putText, ← hb, setBody_eq_self]⟩

/-- A call that gives a text changes no more than the body of that part, and not even this if it is
a text already; another call changes nothing. After any calls, whatever is asked of the graph is
answered as at first. -/
theorem materialize_silent (s : Settings) (detector : Detector) (g : Graph) :
    (∀ p t g', (g.materialize s detector p).outcome = .ok (some t, g') →
      g'.size = g.size ∧ (∀ q, q ≠ p → g'.node q = g.node q) ∧
        g'.node p = { g.node p with body := some (.text t) } ∧
        ∀ u, (g.node p).body = some (.text u) → u = t ∧ g' = g) ∧
    (∀ p g', (g.materialize s detector p).outcome = .ok (none, g') → g' = g) ∧
    (∀ p e, (g.materialize s detector p).outcome = .error e →
      g.materialized s detector p = g) ∧
    ∀ ps, AnswersAlike s detector g (g.materializedAll s detector ps) := by
  refine ⟨fun p t g' h => materialize_eq_some h, fun p g' h => ?_, fun p e h => ?_, fun ps => ?_⟩
  · rw [outcome_materialize] at h
    obtain ⟨r, -, he⟩ := map_eq_ok_iff.1 h
    obtain ⟨rfl, rfl⟩ := Prod.mk.inj he
    rfl
  · rw [materialized, h]
  · exact ((SameTexts.refl s detector g).materializedAll ps).answersAlike

end

/-- One letter in raw octets, in a part that is in its multipart twice. -/
def letterTwice : Graph :=
  ⟨[⟨.message, [], some (.multipart "mixed" [1, 1])⟩,
    ⟨.bodyPart, [("Content-Type", "text/plain")], some (.stream [0x61])⟩]⟩

section

attribute [local instance] Charset.Registry.bare

/-- The letter is read, then the call for the multipart changes nothing, then it is read again. -/
theorem materialize_silent_letterTwice :
    (letterTwice.materialize {} (fun _ => none) 1).outcome =
      .ok (some "a", letterTwice.setBody 1 (some (.text "a"))) ∧
    (letterTwice.setBody 1 (some (.text "a"))).node 0 = letterTwice.node 0 ∧
    Prod.fst <$> ((letterTwice.materializedAll {} (fun _ => none) [1, 0]).materialize {}
      (fun _ => none) 1).outcome = .ok (some "a") := by
  have hr : ((letterTwice.node 1).text? {} fun _ => none).outcome = .ok (some "a") := by
    have h : ((letterTwice.node 1).text? {} fun _ => none).outcome.toOption =
        some (some (Text.ofString "a")) := by decide +kernel
    cases ho : ((letterTwice.node 1).text? {} fun _ => none).outcome with
    | error e =>
      rw [ho] at h
      cases h
    | ok r =>
      rw [ho] at h
      exact congrArg _ (Option.some.inj h)
  have hm : (letterTwice.materialize {} (fun _ => none) 1).outcome =
      .ok (some "a", letterTwice.setBody 1 (some (.text "a"))) := by
    rw [outcome_materialize, hr]
    rfl
  obtain ⟨hsome, -, -, hall⟩ := materialize_silent {} (fun _ => none) letterTwice
  obtain ⟨-, hnode, -, -⟩ := hsome 1 "a" _ hm
  refine ⟨hm, hnode 0 (by decide), ?_⟩
  rw [(hall [1, 0]).materialize 1, hm]
  rfl

end

end Graph

end Mime
