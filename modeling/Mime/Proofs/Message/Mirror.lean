import Mime.Message.ToPart
import Mime.Proofs.Except
import Mime.Proofs.Part.Tree

/-! A message and the part that is made of it, walked side by side. Every message below it gives
one part with the same fields, `mirrors_walk`, and whether there is a part at all is for each of
them to say alone, `toPart_returns_iff`. -/

namespace Mime

namespace Message

mutual

/-- A message and what is below it, a message before its children. -/
def walk : Message → List Message
  | .mk fields d (.parts ms) ds => .mk fields d (.parts ms) ds :: walkAll ms
  | .mk fields d (.text t) ds => [.mk fields d (.text t) ds]
  | .mk fields d .absent ds => [.mk fields d .absent ds]

def walkAll : List Message → List Message
  | [] => []
  | m :: ms => walk m ++ walkAll ms

end

def isContainer (m : Message) : Bool :=
  match m.payload with
  | .parts _ => true
  | _ => false

def leaves (m : Message) : List Message := m.walk.filter (!·.isContainer)

theorem walk_leaf {m : Message} (hm : m.isContainer = false) : m.walk = [m] := by
  obtain ⟨fields, d, payload, ds⟩ := m
  cases payload with
  | parts ms => cases hm
  | text t => rw [walk]
  | absent => rw [walk]

theorem liftUnencodable_eq_ok_iff {α : Type} {x : Except Unencodable α} {a : α} :
    liftUnencodable x = .ok a ↔ x = .ok a := mapError_eq_ok_iff

variable [Charset.Registry] [Release]

/-- Nothing of the message by itself, without what is below it, fails to be converted. -/
def Convertible (m : Message) : Prop :=
  match m.payload with
  | .parts _ => ∃ type, contentType m.default m.fields = .ok type
  | payload => ∃ o, leafOctets m.fields payload = .ok o

/-- The part has the fields of the message, and of its payload the octets or a child for each. -/
def Mirrors (m : Message) (n : Node Part) : Prop :=
  n.headers = m.fields ∧
    match m.payload with
    | .parts ms => ∃ type ps, contentType m.default m.fields = .ok type ∧
        n.body = some (.multipart type.minor ps) ∧ ps.length = ms.length
    | payload => ∃ o, leafOctets m.fields payload = .ok o ∧ n.body = some (.stream o)

theorem toPart_parts_eq_ok_iff {kind : Kind} {fields : Fields} {d : DefaultType}
    {ms : List Message} {ds : List Defect} {p : Part} :
    (mk fields d (.parts ms) ds).toPart kind = .ok p ↔
      ∃ type ps, contentType d fields = .ok type ∧
        toParts (if type.major = "message" then .message else .bodyPart) ms = .ok ps ∧
        p = .mk ⟨kind, fields, some (.multipart type.minor ps)⟩ := by
  rw [toPart]
  constructor
  · intro h
    obtain ⟨type, ht, h⟩ := bind_eq_ok_iff.1 h
    obtain ⟨ps, hps, h⟩ := bind_eq_ok_iff.1 h
    exact ⟨type, ps, liftUnencodable_eq_ok_iff.1 ht, hps, (Except.ok.inj h).symm⟩
  · rintro ⟨type, ps, ht, hps, rfl⟩
    rw [liftUnencodable_eq_ok_iff.2 ht, ok_bind, hps]
    rfl

theorem toPart_leaf_eq_ok_iff {kind : Kind} {m : Message} (hm : m.isContainer = false) {p : Part} :
    m.toPart kind = .ok p ↔
      ∃ o, leafOctets m.fields m.payload = .ok o ∧ p = .mk ⟨kind, m.fields, some (.stream o)⟩ := by
  have lift {fields : Fields} {payload : Payload Message} :
      (do return .mk ⟨kind, fields, some (.stream (← leafOctets fields payload))⟩ :
        Except Fault Part) = .ok p ↔
      ∃ o, leafOctets fields payload = .ok o ∧ p = .mk ⟨kind, fields, some (.stream o)⟩ := by
    rw [bind_eq_ok_iff]
    exact exists_congr fun o => and_congr_right fun _ =>
      ⟨fun h => (Except.ok.inj h).symm, fun h => h ▸ rfl⟩
  obtain ⟨fields, d, payload, ds⟩ := m
  cases payload with
  | parts ms => cases hm
  | text t =>
    rw [toPart]
    exact lift
  | absent =>
    rw [toPart]
    exact lift

theorem toParts_cons_eq_ok_iff {kind : Kind} {m : Message} {ms : List Message} {qs : List Part} :
    toParts kind (m :: ms) = .ok qs ↔
      ∃ p ps, m.toPart kind = .ok p ∧ toParts kind ms = .ok ps ∧ qs = p :: ps := by
  rw [toParts]
  constructor
  · intro h
    obtain ⟨p, hp, h⟩ := bind_eq_ok_iff.1 h
    obtain ⟨ps, hps, h⟩ := bind_eq_ok_iff.1 h
    exact ⟨p, ps, hp, hps, (Except.ok.inj h).symm⟩
  · rintro ⟨p, ps, hp, hps, rfl⟩
    rw [hp, ok_bind, hps]
    rfl

theorem toParts_eq_ok_iff {kind : Kind} {ms : List Message} {ps : List Part} :
    toParts kind ms = .ok ps ↔ List.Forall₂ (fun m p => m.toPart kind = .ok p) ms ps := by
  induction ms generalizing ps with
  | nil =>
    rw [toParts, List.forall₂_nil_left_iff]
    exact ⟨fun h => (Except.ok.inj h).symm, fun h => h ▸ rfl⟩
  | cons m ms ih =>
    rw [toParts_cons_eq_ok_iff, List.forall₂_cons_left_iff]
    exact exists₂_congr fun p qs => and_congr_right fun _ => and_congr_left fun _ => ih

theorem kind_toPart {kind : Kind} {m : Message} {p : Part} (h : m.toPart kind = .ok p) :
    p.node.kind = kind := by
  cases hm : m.isContainer with
  | false =>
    obtain ⟨o, -, rfl⟩ := (toPart_leaf_eq_ok_iff hm).1 h
    rfl
  | true =>
    obtain ⟨fields, d, payload, ds⟩ := m
    cases payload with
    | parts ms =>
      obtain ⟨type, ps, -, -, rfl⟩ := toPart_parts_eq_ok_iff.1 h
      rfl
    | text t => cases hm
    | absent => cases hm

theorem convertible_leaf_iff {m : Message} (hm : m.isContainer = false) :
    m.Convertible ↔ ∃ o, leafOctets m.fields m.payload = .ok o := by
  obtain ⟨fields, d, payload, ds⟩ := m
  cases payload with
  | parts ms => cases hm
  | text t => exact .rfl
  | absent => exact .rfl

theorem mirrors_leaf_iff {m : Message} (hm : m.isContainer = false) {n : Node Part} :
    m.Mirrors n ↔
      n.headers = m.fields ∧ ∃ o, leafOctets m.fields m.payload = .ok o ∧
        n.body = some (.stream o) := by
  obtain ⟨fields, d, payload, ds⟩ := m
  cases payload with
  | parts ms => cases hm
  | text t => exact .rfl
  | absent => exact .rfl

theorem Mirrors.isMultipart {m : Message} {n : Node Part} (h : m.Mirrors n) :
    n.isMultipart = m.isContainer := by
  cases hm : m.isContainer with
  | false =>
    obtain ⟨-, o, -, hb⟩ := (mirrors_leaf_iff hm).1 h
    rw [Node.isMultipart, hb]
  | true =>
    obtain ⟨fields, d, payload, ds⟩ := m
    cases payload with
    | parts ms =>
      obtain ⟨-, type, ps, -, hb, -⟩ := h
      rw [Node.isMultipart, hb]
    | text t => cases hm
    | absent => cases hm

theorem toPart_leaf_returns_iff {kind : Kind} {m : Message} (hm : m.isContainer = false) :
    (∃ p, m.toPart kind = .ok p) ↔ ∀ l ∈ m.walk, l.Convertible := by
  rw [walk_leaf hm, List.forall_mem_singleton, convertible_leaf_iff hm]
  constructor
  · rintro ⟨p, h⟩
    obtain ⟨o, ho, -⟩ := (toPart_leaf_eq_ok_iff hm).1 h
    exact ⟨o, ho⟩
  · rintro ⟨o, ho⟩
    exact ⟨_, (toPart_leaf_eq_ok_iff hm).2 ⟨o, ho, rfl⟩⟩

mutual

theorem toPart_returns_iff (kind : Kind) :
    (m : Message) → ((∃ p, m.toPart kind = .ok p) ↔ ∀ l ∈ m.walk, l.Convertible)
  | .mk fields d (.parts ms) ds => by
    rw [walk, List.forall_mem_cons]
    constructor
    · rintro ⟨p, h⟩
      obtain ⟨type, ps, ht, hps, -⟩ := toPart_parts_eq_ok_iff.1 h
      exact ⟨⟨type, ht⟩, (toParts_returns_iff _ ms).1 ⟨ps, hps⟩⟩
    · rintro ⟨⟨type, ht⟩, h⟩
      obtain ⟨ps, hps⟩ := (toParts_returns_iff _ ms).2 h
      exact ⟨_, toPart_parts_eq_ok_iff.2 ⟨type, ps, ht, hps, rfl⟩⟩
  | .mk _ _ (.text _) _ => toPart_leaf_returns_iff rfl
  | .mk _ _ .absent _ => toPart_leaf_returns_iff rfl

theorem toParts_returns_iff (kind : Kind) :
    (ms : List Message) → ((∃ ps, toParts kind ms = .ok ps) ↔ ∀ l ∈ walkAll ms, l.Convertible)
  | [] => by simp [toParts, walkAll]
  | m :: ms => by
    rw [walkAll, List.forall_mem_append, ← toPart_returns_iff kind m, ← toParts_returns_iff kind ms]
    constructor
    · rintro ⟨qs, h⟩
      obtain ⟨p, ps, hp, hps, -⟩ := toParts_cons_eq_ok_iff.1 h
      exact ⟨⟨p, hp⟩, ps, hps⟩
    · rintro ⟨⟨p, hp⟩, ps, hps⟩
      exact ⟨p :: ps, toParts_cons_eq_ok_iff.2 ⟨p, ps, hp, hps, rfl⟩⟩

end

/-- The node is that of the part which the message gives for some kind. -/
def Converts (m : Message) (n : Node Part) : Prop := ∃ kind, m.toPart kind = .ok (.mk n)

theorem converts_leaf_iff {m : Message} (hm : m.isContainer = false) {n : Node Part} :
    m.Converts n ↔ ∃ o, leafOctets m.fields m.payload = .ok o ∧
      n = ⟨n.kind, m.fields, some (.stream o)⟩ := by
  constructor
  · rintro ⟨kind, h⟩
    obtain ⟨o, ho, hp⟩ := (toPart_leaf_eq_ok_iff hm).1 h
    obtain rfl := Part.mk.inj hp
    exact ⟨o, ho, rfl⟩
  · rintro ⟨o, ho, hn⟩
    exact ⟨n.kind, (toPart_leaf_eq_ok_iff hm).2 ⟨o, ho, congrArg Part.mk hn⟩⟩

theorem converts_walk_leaf {kind : Kind} {m : Message} (hm : m.isContainer = false) {p : Part}
    (h : m.toPart kind = .ok p) : List.Forall₂ Converts m.walk p.walk := by
  obtain ⟨o, ho, rfl⟩ := (toPart_leaf_eq_ok_iff hm).1 h
  rw [walk_leaf hm, Part.walk]
  exact .cons ⟨kind, h⟩ .nil

mutual

/-- Walked in the same order, every message meets the node that is made of it. -/
theorem converts_walk {kind : Kind} :
    {m : Message} → {p : Part} → m.toPart kind = .ok p → List.Forall₂ Converts m.walk p.walk
  | .mk fields d (.parts ms) ds, p, h => by
    have hc := h
    obtain ⟨type, ps, -, hps, rfl⟩ := toPart_parts_eq_ok_iff.1 h
    rw [walk, Part.walk]
    exact .cons ⟨kind, hc⟩ (converts_walkAll (toParts_eq_ok_iff.1 hps))
  | .mk _ _ (.text _) _, p, h => converts_walk_leaf rfl h
  | .mk _ _ .absent _, p, h => converts_walk_leaf rfl h

theorem converts_walkAll {kind : Kind} :
    {ms : List Message} → {ps : List Part} →
      List.Forall₂ (fun m p => m.toPart kind = .ok p) ms ps →
        List.Forall₂ Converts (walkAll ms) (Part.walkAll ps)
  | [], [], _ => by
    rw [walkAll, Part.walkAll]
    exact .nil
  | m :: ms, p :: ps, h => by
    obtain ⟨hp, hps⟩ := List.forall₂_cons.1 h
    rw [walkAll, Part.walkAll]
    exact List.rel_append (converts_walk hp) (converts_walkAll hps)

end

theorem Converts.mirrors {m : Message} {n : Node Part} (h : m.Converts n) : m.Mirrors n := by
  cases hm : m.isContainer with
  | false =>
    obtain ⟨o, ho, hn⟩ := (converts_leaf_iff hm).1 h
    rw [mirrors_leaf_iff hm, hn]
    exact ⟨rfl, o, ho, rfl⟩
  | true =>
    obtain ⟨fields, d, payload, ds⟩ := m
    cases payload with
    | parts ms =>
      obtain ⟨kind, h⟩ := h
      obtain ⟨type, ps, ht, hps, hp⟩ := toPart_parts_eq_ok_iff.1 h
      obtain rfl := Part.mk.inj hp
      exact ⟨rfl, type, ps, ht, rfl, (toParts_eq_ok_iff.1 hps).length_eq.symm⟩
    | text t => cases hm
    | absent => cases hm

/-- Walked in the same order, message and part agree at every point. -/
theorem mirrors_walk {kind : Kind} {m : Message} {p : Part} (h : m.toPart kind = .ok p) :
    List.Forall₂ Mirrors m.walk p.walk :=
  (converts_walk h).imp fun _ _ => Converts.mirrors

theorem mirrors_leaves {kind : Kind} {m : Message} {p : Part} (h : m.toPart kind = .ok p) :
    List.Forall₂ Mirrors m.leaves p.leaves := by
  refine List.rel_filter (fun l n hl => ?_) (mirrors_walk h)
  show (!l.isContainer) = true ↔ (!n.isMultipart) = true
  rw [hl.isMultipart]

end Message

end Mime
