import Mathlib.Tactic.SplitIfs
import Mime.Proofs.Except
import Mime.Text.Octets

/-! Which texts carry octets, and which of them: `octets_eq_ok_iff`. A carried octet beyond
ASCII is a surrogate, and nothing else that is carried is one. -/

namespace Mime

namespace CodePoint

theorem isSurrogate_eq_false_iff {c : CodePoint} :
    c.isSurrogate = false ↔ c.val < 0xD800 ∨ 0xDFFF < c.val := by
  simp only [isSurrogate, Bool.and_eq_false_iff, decide_eq_false_iff_not]
  omega

theorem isSurrogate_ofNat {n : Nat} (h : n < 0xD800 ∨ 0xDFFF < n) :
    (ofNat n).isSurrogate = false := by
  rw [isSurrogate_eq_false_iff]
  by_cases hn : n < 0x110000
  · rw [val_ofNat hn]
    exact h
  · rw [ofNat, dif_neg hn]
    exact .inr (by decide)

theorem isSurrogate_ofByte (b : UInt8) : (ofByte b).isSurrogate = false := by
  have hb := b.toNat_lt
  rw [isSurrogate_eq_false_iff, val_ofByte]
  omega

theorem val_ofOctet (b : UInt8) :
    (ofOctet b).val = if b.toNat < 0x80 then b.toNat else 0xDC00 + b.toNat := by
  have hb := b.toNat_lt
  have hn : (b < 0x80) = (b.toNat < 0x80) := rfl
  rw [ofOctet]
  by_cases h : b < 0x80
  · rw [if_pos h, if_pos (hn ▸ h), val_ofByte]
  · rw [if_neg h, if_neg (hn ▸ h), val_ofNat (by omega)]

theorem carried?_eq_some_iff {c : CodePoint} {b : UInt8} :
    c.carried? = some b ↔ c = ofOctet b := by
  constructor
  · intro h
    apply CodePoint.ext
    rw [val_ofOctet]
    unfold carried? at h
    split_ifs at h with h1 h2
    · obtain rfl := Option.some.inj h
      have hb : c.val < 256 := by omega
      rw [UInt8.toNat_ofNat_of_lt' hb, if_pos h1]
    · obtain rfl := Option.some.inj h
      have hb : c.val - 0xDC00 < 256 := by omega
      rw [UInt8.toNat_ofNat_of_lt' hb, if_neg (by omega)]
      omega
  · rintro rfl
    exact carried?_ofOctet b

theorem isSurrogate_ofOctet {b : UInt8} : (ofOctet b).isSurrogate = false ↔ b < 0x80 := by
  have hb := b.toNat_lt
  have hn : (b < 0x80) = (b.toNat < 0x80) := rfl
  rw [isSurrogate_eq_false_iff, val_ofOctet, hn]
  split_ifs <;> omega

theorem replacement_ne_ofOctet (b : UInt8) : replacement ≠ ofOctet b := by
  intro h
  have hb := b.toNat_lt
  have hv : 0xFFFD = (ofOctet b).val := congrArg val h
  rw [val_ofOctet] at hv
  split_ifs at hv
  · omega
  · omega

end CodePoint

namespace Text

theorem octetsFrom_eq_ok_iff {n : Nat} {t : Text} {o : Octets} :
    octetsFrom n t = .ok o ↔ t = ofOctets o := by
  constructor
  · intro h
    induction t generalizing n o with
    | nil =>
      cases h
      rfl
    | cons c t ih =>
      rw [octetsFrom] at h
      cases hc : c.carried? with
      | none =>
        rw [hc] at h
        cases h
      | some b =>
        rw [hc] at h
        obtain ⟨o', ho, rfl⟩ := map_eq_ok_iff.1 h
        rw [CodePoint.carried?_eq_some_iff.1 hc, ih ho]
        rfl
  · rintro rfl
    exact octetsFrom_ofOctets n o

/-- Octets come only from the text that carries them. -/
theorem octets_eq_ok_iff {t : Text} {o : Octets} : t.octets = .ok o ↔ t = ofOctets o :=
  octetsFrom_eq_ok_iff

theorem hasSurrogate_eq_false_iff {t : Text} :
    t.hasSurrogate = false ↔ ∀ c ∈ t, c.isSurrogate = false := by
  simp [hasSurrogate]

theorem hasSurrogate_ofOctets {o : Octets} :
    (ofOctets o).hasSurrogate = false ↔ ∀ b ∈ o, b < 0x80 := by
  rw [hasSurrogate_eq_false_iff, ofOctets, List.forall_mem_map]
  exact forall₂_congr fun b _ => CodePoint.isSurrogate_ofOctet

end Text

end Mime
