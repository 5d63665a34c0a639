import Mime.Proofs.Charset.Carried
import Mime.Proofs.Charset.Label
import Mime.Proofs.Message.Mirror
import Mime.Proofs.Message.ParameterText

/-! Payloads that carry octets. A text with surrogates is decoded first, so the octets of a leaf
come through exactly if they are ASCII, or if the reader keeps what it cannot decode for a content
type that it cannot look into: `toPart_keeps_octets_iff`. -/

namespace Mime

namespace Message

/-- If the first value of a name has surrogates, it carries octets throughout. -/
def Readable (name : Text) (fields : Fields) : Prop :=
  ∀ value, fields.first? name = some value → value.hasSurrogate = true →
    ∃ o, value = Text.ofOctets o

theorem readable_of_no_surrogate {name : Text} {fields : Fields}
    (h : ∀ f ∈ fields, f.2.hasSurrogate = false) : Readable name fields := by
  intro value hv hs
  obtain ⟨f, hf, rfl⟩ := List.mem_map.1 (List.mem_of_head? hv)
  rw [h f (List.mem_of_mem_filter hf)] at hs
  cases hs

theorem legible_returns_iff {value : Text} :
    (∃ r, legible value = .ok r) ↔
      (value.hasSurrogate = true → ∃ o, value = Text.ofOctets o) := by
  unfold legible
  cases hs : value.hasSurrogate with
  | false => simp
  | true =>
    rw [if_pos rfl, map_returns_iff]
    constructor
    · rintro ⟨o, h⟩ -
      exact ⟨o, Text.octets_eq_ok_iff.1 h⟩
    · intro h
      obtain ⟨o, ho⟩ := h rfl
      exact ⟨o, Text.octets_eq_ok_iff.2 ho⟩

theorem legible?_returns_iff {name : Text} {fields : Fields} :
    (∃ r, legible? name fields = .ok r) ↔ Readable name fields := by
  unfold legible? Readable
  cases fields.first? name with
  | none => simp
  | some value =>
    dsimp only
    rw [map_returns_iff, legible_returns_iff]
    constructor
    · intro h v hv
      obtain rfl := Option.some.inj hv
      exact h
    · intro h
      exact h value rfl

theorem contentType_returns_iff {d : DefaultType} {fields : Fields} :
    (∃ type, contentType d fields = .ok type) ↔ Readable "content-type" fields := by
  rw [← legible?_returns_iff, contentType]
  constructor
  · rintro ⟨type, h⟩
    obtain ⟨r, hr, -⟩ := bind_eq_ok_iff.1 h
    exact ⟨r, hr⟩
  · rintro ⟨r, hr⟩
    rw [hr, ok_bind]
    cases r with
    | none => exact ⟨_, rfl⟩
    | some value => exact ⟨_, rfl⟩

/-- Of a parameter only the content type that it is in can be unencodable. -/
theorem parameter?_unencodable_iff (name : Text) {fields : Fields} :
    (∃ f, parameter? name fields = .error f ∧ f.isUnencodable = true) ↔
      ¬Readable "content-type" fields := by
  rw [← legible?_returns_iff, parameter?]
  cases legible? "content-type" fields with
  | error u => simp [liftUnencodable, error_mapError, error_bind, Fault.isUnencodable]
  | ok r =>
    refine iff_of_false ?_ (fun h => h ⟨r, rfl⟩)
    rintro ⟨f, h, hf⟩
    cases r with
    | none => cases h
    | some value =>
      have h : (findParameter? name value).mapError Fault.segments = .error f := h
      cases hp : findParameter? name value with
      | error e =>
        rw [hp] at h
        obtain rfl := Except.error.inj h
        cases hf
      | ok v =>
        rw [hp] at h
        cases h

section

variable [Charset.Registry]

theorem ascii_of_decodeWith {label : Text} {o : Octets}
    (h : decodeWith label o = .ok (Text.ofOctets o)) : ∀ b ∈ o, b < 0x80 := by
  unfold decodeWith at h
  split at h
  · rename_i r hr
    obtain rfl := Except.ok.inj h
    exact Charset.ascii_of_decode hr
  · cases h
  · exact (Charset.scalar_asciiUnits o).ascii (Except.ok.inj h)

theorem isUnencodable_of_decodeWith {label : Text} {o : Octets} {f : Fault}
    (hl : Text.Scalar label) (h : decodeWith label o = .error f) : f.isUnencodable = false := by
  unfold decodeWith at h
  split at h
  · cases h
  · rename_i r hr
    obtain rfl := Except.error.inj h
    rcases r with (_ | run) | _ | message
    · rfl
    · exact absurd hr (Charset.decode_ne_surrogates hl)
    · rfl
    · rfl
  · cases h

theorem carriedText_ofOctets {fields : Fields} {o : Octets} :
    carriedText fields (Text.ofOctets o) = (do
      match ← parameter? "charset" fields with
      | some (.extended ..) => .error .extendedCharset
      | some (.plain label) => decodeWith label o
      | none => decodeWith "ascii" o) := by
  rw [carriedText, Text.octets_ofOctets]
  rfl

theorem ascii_of_carriedText {fields : Fields} {o : Octets}
    (h : carriedText fields (Text.ofOctets o) = .ok (Text.ofOctets o)) : ∀ b ∈ o, b < 0x80 := by
  rw [carriedText_ofOctets] at h
  obtain ⟨value?, -, h⟩ := bind_eq_ok_iff.1 h
  rcases value? with _ | label | ⟨origin, t⟩
  · exact ascii_of_decodeWith h
  · exact ascii_of_decodeWith h
  · cases h

/-- Octets that a text carries can be encoded unless the content type cannot be looked into, as the
charset that it names has no surrogates. -/
theorem carriedText_unencodable_iff {fields : Fields} {o : Octets} :
    (∃ f, carriedText fields (Text.ofOctets o) = .error f ∧ f.isUnencodable = true) ↔
      ¬Readable "content-type" fields := by
  rw [carriedText_ofOctets, ← parameter?_unencodable_iff "charset"]
  cases hp : parameter? "charset" fields with
  | error f => simp [error_bind]
  | ok value? =>
    refine iff_of_false ?_ (fun ⟨f, h, _⟩ => nomatch h)
    rintro ⟨f, h, hf⟩
    rcases value? with _ | label | ⟨origin, t⟩
    · rw [isUnencodable_of_decodeWith (by decide) h] at hf
      cases hf
    · rw [isUnencodable_of_decodeWith (scalar_of_parameter? hp) h] at hf
      cases hf
    · obtain rfl := Except.error.inj h
      cases hf

end

/-- A message whose payload is a text that carries the octets. -/
def Carries (m : Message) (o : Octets) : Prop := m.payload = .text (Text.ofOctets o)

theorem Carries.isContainer {m : Message} {o : Octets} (h : m.Carries o) :
    m.isContainer = false := by
  unfold Carries at h
  unfold Message.isContainer
  rw [h]

theorem forall_mem_walk_iff {m : Message} {P : Message → Prop} :
    (∀ l ∈ m.walk, P l) ↔
      (∀ c ∈ m.walk, c.isContainer = true → P c) ∧ ∀ l ∈ m.leaves, P l := by
  constructor
  · intro h
    exact ⟨fun c hc _ => h c hc, fun l hl => h l (List.mem_of_mem_filter hl)⟩
  · rintro ⟨hc, hl⟩ l hm
    cases hi : l.isContainer with
    | true => exact hc l hm hi
    | false => exact hl l (List.mem_filter.2 ⟨hm, by rw [hi]; rfl⟩)

section

variable [Charset.Registry] [Release]

theorem payloadText_ofOctets {fields : Fields} {o : Octets} :
    payloadText fields (Text.ofOctets o) = .ok (Text.ofOctets o) ↔
      (∀ b ∈ o, b < 0x80) ∨
        Release.keepsUnencodable = true ∧ ¬Readable "content-type" fields := by
  rw [← Text.hasSurrogate_ofOctets, payloadText, ← carriedText_unencodable_iff (o := o)]
  cases hs : (Text.ofOctets o).hasSurrogate with
  | false => simp
  | true =>
    have hnot : ¬∀ b ∈ o, b < 0x80 := by
      rw [← Text.hasSurrogate_ofOctets, hs]
      exact Bool.true_eq_false.mp
    -- what the octets decode to cannot be the payload itself, which then would be ASCII
    cases hc : carriedText fields (Text.ofOctets o) with
    | ok r =>
      have hne : r ≠ Text.ofOctets o := by
        rintro rfl
        exact hnot (ascii_of_carriedText hc)
      simp [hne]
    | error f => simp

/-- A leaf whose octets come through: they are ASCII, or the reader keeps them for a content type
that it cannot look into. -/
def Keeps (m : Message) (o : Octets) : Prop :=
  Readable "content-transfer-encoding" m.fields ∧
    ((∀ b ∈ o, b < 0x80) ∨ Release.keepsUnencodable = true ∧ ¬Readable "content-type" m.fields)

theorem Carries.leafOctets_eq_ok_iff {m : Message} {o : Octets} (h : m.Carries o) :
    leafOctets m.fields m.payload = .ok o ↔ m.Keeps o := by
  rw [h, leafOctets, Keeps, ← legible?_returns_iff, ← payloadText_ofOctets]
  constructor
  · intro h
    obtain ⟨r, hr, h⟩ := bind_eq_ok_iff.1 h
    obtain ⟨t, ht, h⟩ := bind_eq_ok_iff.1 h
    obtain rfl := Text.octets_eq_ok_iff.1 (liftUnencodable_eq_ok_iff.1 h)
    exact ⟨⟨r, liftUnencodable_eq_ok_iff.1 hr⟩, ht⟩
  · rintro ⟨⟨r, hr⟩, ht⟩
    rw [liftUnencodable_eq_ok_iff.2 hr, ok_bind, ht, ok_bind, liftUnencodable_eq_ok_iff,
      Text.octets_ofOctets]

theorem Mirrors.body_eq_stream_iff {m : Message} {n : Node Part} {o : Octets}
    (hn : m.Mirrors n) (h : m.Carries o) : n.body = some (.stream o) ↔ m.Keeps o := by
  obtain ⟨-, o', ho, hb⟩ := (mirrors_leaf_iff h.isContainer).1 hn
  rw [← h.leafOctets_eq_ok_iff, ho, hb]
  constructor
  · intro he
    cases he
    rfl
  · intro he
    rw [Except.ok.inj he]

theorem Carries.convertible {m : Message} {o : Octets} (h : m.Carries o) (hk : m.Keeps o) :
    m.Convertible :=
  (convertible_leaf_iff h.isContainer).2 ⟨o, h.leafOctets_eq_ok_iff.2 hk⟩

theorem convertible_of_carries {ls : List Message} {os : List Octets}
    (h : List.Forall₂ Carries ls os) (hk : List.Forall₂ Keeps ls os) :
    ∀ l ∈ ls, l.Convertible := by
  induction h with
  | nil => exact fun l hl => absurd hl List.not_mem_nil
  | cons hc _ ih =>
    obtain ⟨hfirst, hrest⟩ := List.forall₂_cons.1 hk
    exact List.forall_mem_cons.2 ⟨hc.convertible hfirst, ih hrest⟩

theorem bodies_eq_streams_iff {ls : List Message} {ns : List (Node Part)} {os : List Octets}
    (hn : List.Forall₂ Mirrors ls ns) (h : List.Forall₂ Carries ls os) :
    ns.map (·.body) = os.map (fun o => some (.stream o)) ↔ List.Forall₂ Keeps ls os := by
  induction hn generalizing os with
  | nil =>
    cases h
    exact iff_of_true rfl .nil
  | cons hm _ ih =>
    cases h with
    | cons hc hrest =>
      rw [List.map_cons, List.map_cons, List.cons.injEq, hm.body_eq_stream_iff hc, ih hrest,
        List.forall₂_cons]

theorem convertible_container_iff {m : Message} (hm : m.isContainer = true) :
    m.Convertible ↔ Readable "content-type" m.fields := by
  obtain ⟨fields, d, payload, ds⟩ := m
  cases payload with
  | parts ms => exact contentType_returns_iff
  | text t => cases hm
  | absent => cases hm

/-- A part has as its leaves, in order, exactly the octets that the leaves of the message
carry, and there is such a part, just if the types of the containers can be read and the octets
of every leaf come through. -/
theorem toPart_keeps_octets_iff {kind : Kind} {m : Message} {os : List Octets}
    (h : List.Forall₂ Carries m.leaves os) :
    (∃ p, m.toPart kind = .ok p ∧ p.leaves.map (·.body) = os.map (fun o => some (.stream o))) ↔
      (∀ c ∈ m.walk, c.isContainer = true → Readable "content-type" c.fields) ∧
        List.Forall₂ Keeps m.leaves os := by
  constructor
  · rintro ⟨p, hp, hb⟩
    have hw := (toPart_returns_iff kind m).1 ⟨p, hp⟩
    refine ⟨fun c hc hi => ?_, (bodies_eq_streams_iff (mirrors_leaves hp) h).1 hb⟩
    exact (convertible_container_iff hi).1 (hw c hc)
  · rintro ⟨hc, hl⟩
    have hw : ∀ l ∈ m.walk, l.Convertible := by
      rw [forall_mem_walk_iff]
      refine ⟨fun c hm hi => (convertible_container_iff hi).2 (hc c hm hi), ?_⟩
      exact convertible_of_carries h hl
    obtain ⟨p, hp⟩ := (toPart_returns_iff kind m).2 hw
    exact ⟨p, hp, (bodies_eq_streams_iff (mirrors_leaves hp) h).2 hl⟩

end

/-- ASCII in one leaf; in the other a letter beyond ASCII, under a type with a surrogate that
carries no octet. -/
def twoLeaves : Message :=
  .mk [("Content-Type", "multipart/mixed")] .plainText
    (.parts [.mk [] .plainText (.text (Text.ofOctets [0x41, 0x0D, 0x0A])) [],
      .mk [("Content-Type", Text.ofString "text/plain; charset=" ++ [.ofNat 0xD800])] .plainText
        (.text (Text.ofOctets [0xE9])) []]) []

section

attribute [local instance] Charset.Registry.bare Release.later

theorem toPart_twoLeaves :
    List.Forall₂ Carries twoLeaves.leaves [[0x41, 0x0D, 0x0A], [0xE9]] ∧
      ∃ p, twoLeaves.toPart .message = .ok p ∧
        p.leaves.map (·.body) = [some (.stream [0x41, 0x0D, 0x0A]), some (.stream [0xE9])] := by
  have hc : List.Forall₂ Carries twoLeaves.leaves [[0x41, 0x0D, 0x0A], [0xE9]] :=
    .cons rfl (.cons rfl .nil)
  have hencoding : ∀ l ∈ twoLeaves.leaves, l.fields.first? "content-transfer-encoding" = none := by
    decide
  have htype : ∀ c ∈ twoLeaves.walk, c.isContainer = true →
      ∀ f ∈ c.fields, f.2.hasSurrogate = false := by decide
  have hread : ∀ l ∈ twoLeaves.leaves, Readable "content-transfer-encoding" l.fields := by
    intro l hl value hv
    rw [hencoding l hl] at hv
    cases hv
  have hsurrogate : ¬Readable "content-type"
      [("Content-Type", Text.ofString "text/plain; charset=" ++ [.ofNat 0xD800])] := by
    intro h
    obtain ⟨o, ho⟩ := h _ rfl (by decide)
    cases Text.octets_eq_ok_iff.2 ho
  have hk : List.Forall₂ Keeps twoLeaves.leaves [[0x41, 0x0D, 0x0A], [0xE9]] :=
    .cons ⟨hread _ (.head _), .inl (by simp)⟩
      (.cons ⟨hread _ (.tail _ (.head _)), .inr ⟨rfl, hsurrogate⟩⟩ .nil)
  refine ⟨hc, (toPart_keeps_octets_iff hc).2 ⟨fun c hm hi => ?_, hk⟩⟩
  exact readable_of_no_surrogate (htype c hm hi)

end

/-- An octet beyond ASCII, without any field: there is no part at all, whatever the release. -/
theorem toPart_eight_bit : ¬∃ (_ : Charset.Registry) (_ : Release) (p : Part),
    toPart .message (.mk [] .plainText (.text (Text.ofOctets [0xE9])) []) = .ok p := by
  rintro ⟨_, _, p, h⟩
  cases h

end Message

end Mime
