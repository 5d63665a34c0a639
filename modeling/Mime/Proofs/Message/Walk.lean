import Mime.Proofs.Message.Payload

/-! The part of a message, walked. Where the payloads of the leaves are ASCII texts or absent, the
walk of the part shows the message at every step, and there is a part at all exactly if the fields
that are looked into on the way can be read: `walk_toPart_iff`. -/

namespace Mime

namespace Payload

/-- What a leaf holds; an absent payload holds nothing. -/
def octets : Payload Message → Octets
  | .text t => t.map fun c => UInt8.ofNat c.val
  | _ => []

def IsAscii : Payload Message → Prop
  | .text t => ∀ c ∈ t, c.val < 0x80
  | _ => True

end Payload

theorem CodePoint.ofOctet_ofNat {c : CodePoint} (hc : c.val < 0x80) :
    ofOctet (UInt8.ofNat c.val) = c := by
  have hb : (UInt8.ofNat c.val).toNat = c.val :=
    UInt8.toNat_ofNat_of_lt' (Nat.lt_trans hc (by decide))
  apply CodePoint.ext
  rw [val_ofOctet, hb, if_pos hc]

theorem Payload.ofOctets_octets {t : Text} (ht : (Payload.text t).IsAscii) :
    Text.ofOctets (Payload.text t).octets = t := by
  rw [octets, Text.ofOctets, List.map_map]
  exact (List.map_congr_left fun c hc => CodePoint.ofOctet_ofNat (ht c hc)).trans (List.map_id t)

namespace Message

/-- What is there for the taking is given if the field that is looked into first can be read. -/
theorem look_eq_ok_iff {name : Text} {fields : Fields} {o o' : Octets} :
    (do
      let _ ← liftUnencodable (legible? name fields)
      return o' : Except Fault Octets) = .ok o ↔ Readable name fields ∧ o = o' := by
  rw [bind_eq_ok_iff, ← legible?_returns_iff, ← exists_and_right]
  exact exists_congr fun r => and_congr liftUnencodable_eq_ok_iff
    ⟨fun h => (Except.ok.inj h).symm, fun h => h ▸ rfl⟩

section

variable [Charset.Registry] [Release]

theorem leafOctets_eq_ok_iff {fields : Fields} {payload : Payload Message} (h : payload.IsAscii)
    {o : Octets} :
    leafOctets fields payload = .ok o ↔
      Readable "content-transfer-encoding" fields ∧ o = payload.octets := by
  cases payload with
  | text t =>
    have ht : payloadText fields t = .ok t := by
      have hs : t.hasSurrogate = false := Text.hasSurrogate_eq_false_iff.2 fun c hc =>
        CodePoint.isSurrogate_eq_false_iff.2 (.inl (Nat.lt_trans (h c hc) (by decide)))
      rw [payloadText, hs, if_pos (by decide)]
    have ho : t.octets = .ok (Payload.text t).octets :=
      Text.octets_eq_ok_iff.2 (Payload.ofOctets_octets h).symm
    rw [leafOctets, ht]
    dsimp only [ok_bind]
    rw [ho]
    exact look_eq_ok_iff
  | absent => exact look_eq_ok_iff
  | parts ms => exact look_eq_ok_iff

end

mutual

/-- How far the message goes down below itself. -/
def height : Message → Nat
  | .mk _ _ (.parts ms) _ => heightBelow ms
  | .mk _ _ (.text _) _ => 0
  | .mk _ _ .absent _ => 0

/-- How far it is from a message to the lowest that its children lead to. -/
def heightBelow : List Message → Nat
  | [] => 0
  | m :: ms => max (height m + 1) (heightBelow ms)

end

section

variable [Charset.Registry] [Release]

theorem height_toPart_leaf {kind : Kind} {m : Message} (hm : m.isContainer = false) {p : Part}
    (h : m.toPart kind = .ok p) : p.height = m.height := by
  obtain ⟨o, -, rfl⟩ := (toPart_leaf_eq_ok_iff hm).1 h
  obtain ⟨fields, d, payload, ds⟩ := m
  cases payload with
  | parts ms => cases hm
  | text t => rw [Part.height, height]
  | absent => rw [Part.height, height]

mutual

theorem height_toPart {kind : Kind} :
    {m : Message} → {p : Part} → m.toPart kind = .ok p → p.height = m.height
  | .mk _ _ (.parts ms) _, p, h => by
    obtain ⟨type, ps, -, hps, rfl⟩ := toPart_parts_eq_ok_iff.1 h
    rw [Part.height, height, heightBelow_toParts (toParts_eq_ok_iff.1 hps)]
  | .mk _ _ (.text _) _, p, h => height_toPart_leaf rfl h
  | .mk _ _ .absent _, p, h => height_toPart_leaf rfl h

theorem heightBelow_toParts {kind : Kind} :
    {ms : List Message} → {ps : List Part} →
      List.Forall₂ (fun m p => m.toPart kind = .ok p) ms ps →
        Part.heightBelow ps = heightBelow ms
  | [], [], _ => by rw [Part.heightBelow, heightBelow]
  | m :: ms, p :: ps, h => by
    obtain ⟨hp, hps⟩ := List.forall₂_cons.1 h
    rw [Part.heightBelow, heightBelow, height_toPart hp, heightBelow_toParts hps]

end

end

end Message

/-- The part of that number is what the message should become: with the same fields, with what the
payload holds, or with as many children, which are messages just if the type of the message says
so. -/
def Graph.Mirrors (g : Graph) (m : Message) (i : PartId) : Prop :=
  (g.node i).headers = m.fields ∧
    match m.payload with
    | .parts ms => ∃ type ids, Message.contentType m.default m.fields = .ok type ∧
        (g.node i).body = some (.multipart type.minor ids) ∧ ids.length = ms.length ∧
        ∀ c ∈ ids, (g.node c).kind = .message ↔ type.major = "message"
    | payload => (g.node i).body = some (.stream payload.octets)

theorem forall₂_comp {α β γ : Type} {R : α → β → Prop} {S : β → γ → Prop} :
    {xs : List α} → {ys : List β} → {zs : List γ} → List.Forall₂ R xs ys → List.Forall₂ S ys zs →
      List.Forall₂ (fun x z => ∃ y, R x y ∧ S y z) xs zs
  | _, _, _, .nil, .nil => .nil
  | _, _, _, .cons hr hrs, .cons hs hss => .cons ⟨_, hr, hs⟩ (forall₂_comp hrs hss)

namespace Message

section

variable [Charset.Registry] [Release]

theorem mirrors_of_shows_leaf {g : Graph} {m : Message} {i : PartId}
    (hm : m.isContainer = false) (h : m.payload.IsAscii) {n : Node Part} (hn : m.Converts n)
    (hi : g.Shows n i) : g.Mirrors m i := by
  obtain ⟨o, ho, hn⟩ := (converts_leaf_iff hm).1 hn
  obtain ⟨-, rfl⟩ := (leafOctets_eq_ok_iff h).1 ho
  rw [hn] at hi
  obtain ⟨fields, d, payload, ds⟩ := m
  cases payload with
  | parts ms => cases hm
  | text t => exact hi.2
  | absent => exact hi.2

theorem mirrors_of_shows_container {g : Graph} {m : Message} {i : PartId}
    (hm : m.isContainer = true) {n : Node Part} (hn : m.Converts n) (hi : g.Shows n i) :
    g.Mirrors m i := by
  obtain ⟨fields, d, payload, ds⟩ := m
  cases payload with
  | text t => cases hm
  | absent => cases hm
  | parts ms =>
    obtain ⟨kind, hn⟩ := hn
    obtain ⟨type, ps, ht, hps, hp⟩ := toPart_parts_eq_ok_iff.1 hn
    obtain rfl := Part.mk.inj hp
    obtain ⟨-, hh, ids, hb, hk⟩ := hi
    have hc : List.Forall₂ (fun c _ => (g.node c).kind =
        (if type.major = "message" then .message else .bodyPart) ∧ True) ids ms := by
      refine (forall₂_comp hk (toParts_eq_ok_iff.1 hps).flip).imp ?_
      rintro c m ⟨q, hq, hm⟩
      exact ⟨hq.trans (kind_toPart hm), trivial⟩
    obtain ⟨hkinds, hlen⟩ := (List.forall₂_and_left _ _).1 hc
    refine ⟨hh, type, ids, ht, hb, hlen.length_eq, fun c hc => ?_⟩
    rw [hkinds c hc]
    split_ifs with htype
    · exact ⟨fun _ => htype, fun _ => rfl⟩
    · exact ⟨fun h => absurd h (by decide), fun h => absurd h htype⟩

theorem mirrors_of_shows {g : Graph} {m : Message} {i : PartId}
    (h : m.isContainer = false → m.payload.IsAscii) {n : Node Part} (hn : m.Converts n)
    (hi : g.Shows n i) : g.Mirrors m i := by
  cases hm : m.isContainer with
  | false => exact mirrors_of_shows_leaf hm (h hm) hn hi
  | true => exact mirrors_of_shows_container hm hn hi

variable {kind : Kind} {m : Message}

theorem toPart_returns_iff_readable (h : ∀ l ∈ m.leaves, l.payload.IsAscii) :
    (∃ p, m.toPart kind = .ok p) ↔
      (∀ c ∈ m.walk, c.isContainer = true → Readable "content-type" c.fields) ∧
        ∀ l ∈ m.leaves, Readable "content-transfer-encoding" l.fields := by
  rw [toPart_returns_iff, forall_mem_walk_iff]
  refine and_congr (forall₂_congr fun c _ => forall_congr' convertible_container_iff)
    (forall₂_congr fun l hl => ?_)
  have hi : l.isContainer = false := by simpa using (List.mem_filter.1 hl).2
  rw [convertible_leaf_iff hi]
  exact ⟨fun ⟨o, ho⟩ => ((leafOctets_eq_ok_iff (h l hl)).1 ho).1,
    fun hr => ⟨_, (leafOctets_eq_ok_iff (h l hl)).2 ⟨hr, rfl⟩⟩⟩

theorem mirrors_parts (h : ∀ l ∈ m.leaves, l.payload.IsAscii) {p : Part}
    (hp : m.toPart kind = .ok p) {limit : Int} (hl : (m.height : Int) ≤ limit) :
    List.Forall₂ (Graph.ofPart p).Mirrors m.walk ((Graph.ofPart p).parts (some 0) limit) := by
  rw [← height_toPart hp] at hl
  have hw := forall₂_comp (converts_walk hp) (Graph.shows_parts_ofPart hl)
  have ha : ∀ l ∈ m.walk, l.isContainer = false → l.payload.IsAscii := fun l hm hi =>
    h l (List.mem_filter.2 ⟨hm, by rw [hi]; rfl⟩)
  refine ((List.forall₂_and_left _ _).2 ⟨ha, hw⟩).imp ?_
  rintro l i ⟨hleaf, n, hn, hi⟩
  exact mirrors_of_shows hleaf hn hi

/-- With leaves whose payloads are ASCII texts or absent, a message becomes a part exactly if the
fields that are looked into can be read, the content type of a container and the encoding of a
leaf. The part is of the given kind, and shows the message at every step of a walk that is deep
enough. -/
theorem walk_toPart_iff (kind : Kind) (h : ∀ l ∈ m.leaves, l.payload.IsAscii) :
    ((∃ p, m.toPart kind = .ok p) ↔
      (∀ c ∈ m.walk, c.isContainer = true → Readable "content-type" c.fields) ∧
        ∀ l ∈ m.leaves, Readable "content-transfer-encoding" l.fields) ∧
      ∀ p, m.toPart kind = .ok p → ((Graph.ofPart p).node 0).kind = kind ∧
        ∀ limit : Int, m.height ≤ limit →
          List.Forall₂ (Graph.ofPart p).Mirrors m.walk ((Graph.ofPart p).parts (some 0) limit) := by
  refine ⟨toPart_returns_iff_readable h, fun p hp => ⟨?_, fun limit => mirrors_parts h hp⟩⟩
  rw [Graph.kind_of_holds (Graph.holds_ofPart p), kind_toPart hp]

end

/-- A text, and a message that is passed on and is empty. -/
def passedOn : Message :=
  .mk [("Content-Type", "multipart/mixed")] .plainText
    (.parts [.mk [("Received", "a"), ("Received", "b")] .plainText (.text "hi") [],
      .mk [("Content-Type", "message/rfc822")] .plainText
        (.parts [.mk [] .plainText .absent []]) []]) []

section

attribute [local instance] Charset.Registry.bare Release.later

theorem walk_toPart_passedOn :
    (∀ l ∈ passedOn.leaves, l.payload.IsAscii) ∧
      ∃ p, passedOn.toPart .message = .ok p ∧ ((Graph.ofPart p).node 0).kind = .message ∧
        List.Forall₂ (Graph.ofPart p).Mirrors passedOn.walk
          ((Graph.ofPart p).parts (some 0) 2) := by
  have ha : ∀ l ∈ passedOn.leaves, l.payload.IsAscii :=
    List.forall_mem_cons.2 ⟨fun c => (by decide : ∀ c ∈ ("hi" : Text), c.val < 0x80) c,
      List.forall_mem_singleton.2 trivial⟩
  have hs : ∀ l ∈ passedOn.walk, ∀ f ∈ l.fields, f.2.hasSurrogate = false := by decide
  obtain ⟨hr, hp⟩ := walk_toPart_iff .message ha
  obtain ⟨p, h⟩ := hr.2 ⟨fun c hc _ => readable_of_no_surrogate (hs c hc),
    fun l hl => readable_of_no_surrogate (hs l (List.mem_of_mem_filter hl))⟩
  exact ⟨ha, p, h, (hp p h).1, (hp p h).2 2 (by decide)⟩

end

/-- An ASCII payload under an encoding that has a surrogate beside a letter that is none: there is
no part. -/
theorem toPart_unreadable_encoding :
    (Payload.text "x").IsAscii ∧
      ¬∃ (_ : Charset.Registry) (_ : Release) (p : Part),
        toPart .message (.mk [("Content-Transfer-Encoding", [.ofNat 0xDCE9, .ofNat 0xE9])]
          .plainText (.text "x") []) = .ok p := by
  refine ⟨fun c => (by decide : ∀ c ∈ ("x" : Text), c.val < 0x80) c, ?_⟩
  rintro ⟨_, _, p, h⟩
  cases h

end Message

end Mime
