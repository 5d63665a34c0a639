import Mathlib.Data.List.TakeWhile
import Mime.Charset.Decode
import Mime.Proofs.Except

/-! Labels under which no octets are read: those that cannot be looked up, the one name of the
encoding that refuses all octets, and those of codecs that object to them. -/

namespace Mime

theorem Text.surrogateRun?_eq_none_iff {t : Text} :
    t.surrogateRun? = none ↔ ∀ c ∈ t, c.isSurrogate = false := by
  unfold surrogateRun?
  cases hd : t.dropWhile (fun c => !c.isSurrogate) with
  | nil =>
    rw [List.dropWhile_eq_nil_iff] at hd
    simpa using hd
  | cons c r =>
    have hc : c.isSurrogate = true := by
      have := List.head_dropWhile_not (fun c : CodePoint => !c.isSurrogate) (l := t) (by simp [hd])
      simpa [hd] using this
    have hm : c ∈ t := List.dropWhile_subset _ (by rw [hd]; exact List.mem_cons_self)
    simp only [reduceCtorEq, false_iff]
    intro h
    rw [h c hm] at hc
    cases hc

namespace Charset

namespace Label

/-- A label can be looked up unless it has a U+0000 or a surrogate in it. -/
theorem fault?_eq_none_iff {t : Text} :
    fault? t = none ↔ ∀ c ∈ t, c.val ≠ 0 ∧ c.isSurrogate = false := by
  unfold fault?
  cases hs : t.surrogateRun? with
  | some run =>
    simp only [reduceCtorEq, false_iff]
    intro h
    have := Text.surrogateRun?_eq_none_iff.2 fun c hc => (h c hc).2
    rw [hs] at this
    cases this
  | none =>
    have hs := Text.surrogateRun?_eq_none_iff.1 hs
    cases hz : t.any (·.val == 0) with
    | true =>
      obtain ⟨c, hc, hv⟩ := List.any_eq_true.1 hz
      simp only [if_true, reduceCtorEq, false_iff]
      exact fun h => (h c hc).1 (beq_iff_eq.1 hv)
    | false =>
      simp only [Bool.false_eq_true, if_false, true_iff]
      intro c hc
      exact ⟨by simpa using List.any_eq_false.1 hz c hc, hs c hc⟩

theorem mem_of_alias? {n : Text} {codec : Codec} (h : alias? n = some codec) :
    ∃ a ∈ aliases, a.2 = codec := by
  obtain ⟨a, ha, he⟩ := Option.map_eq_some_iff.1 h
  exact ⟨a, List.mem_of_find?_eq_some ha, he⟩

theorem mem_of_name? {n : Text} {codec : Codec} (h : name? n = some codec) :
    ∃ a ∈ names, n = Text.ofString a.1 ∧ a.2 = codec := by
  obtain ⟨a, ha, he⟩ := Option.map_eq_some_iff.1 h
  exact ⟨a, List.mem_of_find?_eq_some ha, by simpa using List.find?_some ha, he⟩

/-- What a label names stands in one of the two tables. -/
theorem written?_cases {label : Text} {codec : Codec} (h : written? label = some codec) :
    (∃ n, alias? n = some codec) ∨ name? (normalize label) = some codec := by
  unfold written? at h
  dsimp only at h
  cases h1 : alias? (normalize label) with
  | some c =>
    rw [h1] at h
    exact .inl ⟨_, h1.trans h⟩
  | none =>
    cases h2 : alias? ((normalize label).map fun c : CodePoint =>
        if c = '.' then ('_' : CodePoint) else c) with
    | some c =>
      rw [h1, h2] at h
      exact .inl ⟨_, h2.trans h⟩
    | none =>
      rw [h1, h2] at h
      exact .inr h

/-- The encoding that refuses all octets has one name and no aliases. -/
theorem written?_eq_refusing_iff {label : Text} :
    written? label = some .refusing ↔ normalize label = "undefined" := by
  have haliases : ∀ a ∈ aliases, a.2 ≠ .refusing := by decide
  have hnames : ∀ a ∈ names, a.2 = .refusing → a.1 = "undefined" := by decide
  constructor
  · intro h
    obtain ⟨n, hn⟩ | hn := written?_cases h
    · obtain ⟨a, ha, he⟩ := mem_of_alias? hn
      exact absurd he (haliases a ha)
    · obtain ⟨a, ha, hn, he⟩ := mem_of_name? hn
      rw [hn, hnames a ha he]
  · intro h
    unfold written?
    rw [h]
    decide +kernel

theorem written?_ne_further {label t : Text} : written? label ≠ some (.further t) := by
  have haliases : ∀ a ∈ aliases, a.2 ≠ .further t := by simp [aliases]
  have hnames : ∀ a ∈ names, a.2 ≠ .further t := by simp [names]
  intro h
  obtain ⟨n, hn⟩ | hn := written?_cases h
  · obtain ⟨a, ha, he⟩ := mem_of_alias? hn
    exact haliases a ha he
  · obtain ⟨a, ha, -, he⟩ := mem_of_name? hn
    exact hnames a ha he

variable [Registry]

theorem find?_eq_refusing_iff {label : Text} :
    find? label = some .refusing ↔ normalize label = "undefined" := by
  rw [← written?_eq_refusing_iff, find?]
  cases written? label with
  | some codec => rfl
  | none => cases Registry.knows label <;> simp

theorem find?_eq_further_iff {label t : Text} :
    find? label = some (.further t) ↔
      (written? label = none ∧ Registry.knows label = true) ∧ label = t := by
  rw [find?]
  cases hw : written? label with
  | some codec =>
    refine iff_of_false (fun h => ?_) (fun h => nomatch h.1.1)
    exact written?_ne_further (hw.trans h)
  | none => cases Registry.knows label <;> simp

end Label

theorem read_ne_refused (m : Manner) (u : Units) (r : Refusal) : u.read m ≠ .error (.refused r) := by
  cases m with
  | replacing => simp [Units.read]
  | strict => cases h : u.strict? <;> simp [Units.read, h]

variable [Registry]

/-- A charset under which octets are not read: it has a U+0000 or a surrogate in it, or there are
octets and it is the name of the encoding that refuses them all, or the label of a codec in the
registry that objects to them. -/
def Refuses (m : Manner) (label : Text) (o : Octets) : Prop :=
  (∃ c ∈ label, c.val = 0 ∨ c.isSurrogate = true) ∨ o ≠ [] ∧ (Label.normalize label = "undefined" ∨
    (Label.written? label = none ∧ Registry.knows label = true) ∧
      ∃ message, Registry.decode m label o = .error (.objection message))

theorem codec_refuses_iff {m : Manner} {codec : Option Codec} {o : Octets} :
    (∃ r, Codec.decode m codec o = .error (.refused r)) ↔
      codec = some .refusing ∨ ∃ label, codec = some (.further label) ∧
        ∃ message, Registry.decode m label o = .error (.objection message) := by
  rcases codec with _ | (e | _ | _ | label)
  · simp [Codec.decode]
  · simp [Codec.decode, read_ne_refused]
  · simp [Codec.decode]
  · simp [Codec.decode]
  · rcases hd : Registry.decode m label o with (_ | _ | message) | t <;>
      simp [Codec.decode, ok_mapError, error_mapError, CodecFault.fault, hd]

theorem codec_ne_label {m : Manner} {codec : Option Codec} {o : Octets} {f : LabelFault} :
    Codec.decode m codec o ≠ .error (.refused (.label f)) := by
  rcases codec with _ | (e | _ | _ | label)
  · exact nofun
  · exact read_ne_refused m _ _
  · exact nofun
  · exact nofun
  · rcases hd : Registry.decode m label o with (_ | _ | message) | t <;>
      simp [Codec.decode, ok_mapError, error_mapError, CodecFault.fault, hd]

/-- Surrogates are only objected to in a label that has some. -/
theorem decode_ne_surrogates {m : Manner} {label : Text} {o : Octets} {run : Unencodable}
    (h : ∀ c ∈ label, c.isSurrogate = false) :
    decode m label o ≠ .error (.refused (.label (.surrogates run))) := by
  have hf : Label.fault? label = if label.any (·.val == 0) then some .nul else none := by
    rw [Label.fault?, Text.surrogateRun?_eq_none_iff.2 h]
  rw [decode, Label.lookup, hf]
  cases label.any (·.val == 0) with
  | true => exact nofun
  | false =>
    simp only [Bool.false_eq_true, if_false]
    split_ifs
    · exact nofun
    · exact codec_ne_label

theorem find?_refuses_iff {m : Manner} {label : Text} {o : Octets} :
    (∃ r, Codec.decode m (Label.find? label) o = .error (.refused r)) ↔
      Label.normalize label = "undefined" ∨
        (Label.written? label = none ∧ Registry.knows label = true) ∧
          ∃ message, Registry.decode m label o = .error (.objection message) := by
  rw [codec_refuses_iff, Label.find?_eq_refusing_iff]
  simp only [Label.find?_eq_further_iff]
  refine or_congr_right ⟨?_, fun h => ⟨label, ⟨h.1, rfl⟩, h.2⟩⟩
  rintro ⟨t, ⟨hk, rfl⟩, h⟩
  exact ⟨hk, h⟩

/-- Decoding is refused under such a charset and under no other. -/
theorem decode_refused_iff {m : Manner} {label : Text} {o : Octets} :
    (∃ r, decode m label o = .error (.refused r)) ↔ Refuses m label o := by
  rw [decode, Label.lookup, Refuses]
  cases hf : Label.fault? label with
  | some f =>
    have hbad : ∃ c ∈ label, c.val = 0 ∨ c.isSurrogate = true := by
      by_contra hn
      have hnone : Label.fault? label = none := Label.fault?_eq_none_iff.2 fun c hc =>
        ⟨fun h0 => hn ⟨c, hc, .inl h0⟩, by
          rw [← Bool.not_eq_true]
          exact fun hs => hn ⟨c, hc, .inr hs⟩⟩
      rw [hf] at hnone
      cases hnone
    simp [hbad]
  | none =>
    have hgood := Label.fault?_eq_none_iff.1 hf
    have hno : ¬∃ c ∈ label, c.val = 0 ∨ c.isSurrogate = true := by
      rintro ⟨c, hc, h0 | hs⟩
      · exact (hgood c hc).1 h0
      · rw [(hgood c hc).2] at hs
        cases hs
    by_cases ho : o = []
    · simp [ho, hno]
    · simp [ho, hno, find?_refuses_iff]

end Charset

end Mime
