import Mime.Proofs.Base64.Groups
import Mime.Transfer.Decode

/-! When a base64 body is decoded: without its white space it has to be groups of four
characters, and what it decodes to are the octets that they denote. The groups may be followed
by further padding if none of them is padded: `decodeBase64_iff`. -/

namespace Mime.Transfer

/-- The white space of base64: space, tab, carriage return, line feed, vertical tab, form feed. -/
def whiteSpace : Octets := [0x20, 0x09, 0x0D, 0x0A, 0x0B, 0x0C]

def withoutWhiteSpace (o : Octets) : Octets := o.filter (· ∉ whiteSpace)

theorem compact_eq_withoutWhiteSpace (o : Octets) : compact o = withoutWhiteSpace o := by
  apply List.filter_congr
  intro b _
  rw [Bool.eq_iff_iff]
  simp [isSpace, whiteSpace, and_assoc]

theorem decodeBase64_eq_ok_iff {o r : Octets} :
    decodeBase64 o = .ok r ↔
      (withoutWhiteSpace o).length % 4 = 0 ∧
        Base64.decode .strict (withoutWhiteSpace o) = .ok r := by
  rw [← compact_eq_withoutWhiteSpace, decodeBase64]
  by_cases hl : (compact o).length % 4 = 0
  · rw [if_neg fun h => h hl]
    cases Base64.decode .strict (compact o) with
    | error f => simp
    | ok s => simp [hl]
  · simp [hl]

/-- Every fault of such a body says that it is one of base64. -/
theorem encoding?_of_decodeBase64 {o : Octets} {f : Fault} (h : decodeBase64 o = .error f) :
    f.encoding? = some "base64" := by
  unfold decodeBase64 at h
  split at h
  · cases h
    rfl
  · split at h
    · cases h
    · cases h
      rfl

/-- A body is decoded to the octets that its groups denote, or else there is a fault of base64. -/
theorem decodeBase64_iff (o : Octets) :
    (∀ r, decodeBase64 o = .ok r ↔
      ∃ (g : Octets) (k : Nat),
        withoutWhiteSpace o = g ++ List.replicate (4 * k) Base64.pad ∧ Base64.Denotes g r ∧
          (k = 0 ∨ g ≠ [] ∧ Base64.pad ∉ g)) ∧
    ((∃ r, decodeBase64 o = .ok r) ∨
      ∃ f, decodeBase64 o = .error f ∧ f.encoding? = some "base64") := by
  constructor
  · intro r
    rw [decodeBase64_eq_ok_iff, Base64.decode_strict_eq_ok_iff]
    constructor
    · rintro ⟨hl, g, k, ho, hg, hk⟩
      -- groups make up multiples of four, so what is left for the padding is one
      have hlg := Base64.length_of_denotes hg
      rw [ho, List.length_append, List.length_replicate] at hl
      obtain ⟨j, rfl⟩ : 4 ∣ k := by omega
      exact ⟨g, j, ho, hg, hk.imp_left fun h0 => by omega⟩
    · rintro ⟨g, k, ho, hg, hk⟩
      have hlg := Base64.length_of_denotes hg
      refine ⟨?_, g, 4 * k, ho, hg, hk.imp_left fun h0 => by omega⟩
      rw [ho, List.length_append, List.length_replicate]
      omega
  · cases h : decodeBase64 o with
    | ok r => exact .inl ⟨r, rfl⟩
    | error f => exact .inr ⟨f, rfl, encoding?_of_decodeBase64 h⟩

/-- Four pads after a complete group, `AAAA====`, are passed over, although they make up no group. -/
theorem decodeBase64_surplus_padding :
    decodeBase64 [0x41, 0x41, 0x41, 0x41, 0x3D, 0x3D, 0x3D, 0x3D] = .ok [0, 0, 0] ∧
      ¬∃ r, Base64.Denotes
        (withoutWhiteSpace [0x41, 0x41, 0x41, 0x41, 0x3D, 0x3D, 0x3D, 0x3D]) r := by
  have hnone : ∀ r, ¬Base64.Denotes [0x3D, 0x3D, 0x3D, 0x3D] r := by
    intro r h
    have := Base64.head_ne_pad_of_denotes h
    exact this rfl
  have hsame : withoutWhiteSpace [0x41, 0x41, 0x41, 0x41, 0x3D, 0x3D, 0x3D, 0x3D] =
      [0x41, 0x41, 0x41, 0x41, 0x3D, 0x3D, 0x3D, 0x3D] := by decide
  constructor
  · rfl
  · rw [hsame]
    rintro ⟨r, h⟩
    cases h with
    | full _ _ _ _ hg => exact hnone _ hg

end Mime.Transfer
