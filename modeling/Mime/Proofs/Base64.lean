import Mathlib.Tactic.SplitIfs
import Mime.Base64.Decode
import Mime.Base64.Encode

/-! What a reader of base64 does at each of the four digits of a group, and what base64 is written
with: visible ASCII characters, four to a group, the last with at most two pads. -/

namespace Mime.Base64

theorem decodeFrom_digit {m : Manner} {p : Progress} (hp : p.padded = false) {v : Nat} (hv : v < 64)
    (r : Octets) :
    decodeFrom m p (digit v :: r) = ((p.push v).1.toList ++ ·) <$> decodeFrom m (p.push v).2 r := by
  rw [decodeFrom, if_neg (digit_ne_pad hv), value?_digit v hv]
  simp [hp]

/-- The first digit of a group completes no octet. -/
theorem decodeFrom_first {m : Manner} {p : Progress} (hp : p.padded = false)
    (h : p.digits % 4 = 0) {v : Nat} (hv : v < 64) (r : Octets) :
    decodeFrom m p (digit v :: r) = decodeFrom m ⟨p.digits + 1, v, 0, false⟩ r := by
  rw [decodeFrom_digit hp hv]
  simp only [Progress.push, h, hp]
  cases decodeFrom m ⟨p.digits + 1, v, 0, false⟩ r <;> rfl

theorem decodeFrom_second {m : Manner} {p : Progress} (hp : p.padded = false)
    (h : p.digits % 4 = 1) {v : Nat} (hv : v < 64) (r : Octets) :
    decodeFrom m p (digit v :: r) =
      (UInt8.ofNat (p.bits * 4 + v / 16) :: ·) <$>
        decodeFrom m ⟨p.digits + 1, v % 16, 0, false⟩ r := by
  rw [decodeFrom_digit hp hv]
  simp only [Progress.push, h, hp]
  rfl

theorem decodeFrom_third {m : Manner} {p : Progress} (hp : p.padded = false) (h : p.digits % 4 = 2)
    {v : Nat} (hv : v < 64) (r : Octets) :
    decodeFrom m p (digit v :: r) =
      (UInt8.ofNat (p.bits * 16 + v / 4) :: ·) <$>
        decodeFrom m ⟨p.digits + 1, v % 4, 0, false⟩ r := by
  rw [decodeFrom_digit hp hv]
  simp only [Progress.push, h, hp]
  rfl

theorem decodeFrom_fourth {m : Manner} {p : Progress} (hp : p.padded = false)
    (h : p.digits % 4 = 3) {v : Nat} (hv : v < 64) (r : Octets) :
    decodeFrom m p (digit v :: r) =
      (UInt8.ofNat (p.bits * 64 + v) :: ·) <$> decodeFrom m ⟨p.digits + 1, 0, 0, false⟩ r := by
  rw [decodeFrom_digit hp hv]
  simp only [Progress.push, h, hp]
  rfl

/-- Correct padding ends the reading. -/
theorem decodeFrom_pads {m : Manner} {n bits : Nat} {padded : Bool} :
    (n % 4 = 2 → decodeFrom m ⟨n, bits, 0, padded⟩ [pad, pad] = .ok []) ∧
      (n % 4 = 3 → decodeFrom m ⟨n, bits, 0, padded⟩ [pad] = .ok []) := by
  constructor <;> intro h <;> simp [decodeFrom, h]

/-- The octets of a group, put together again from its digits. -/
theorem ofNat_join (a b c : UInt8) :
    UInt8.ofNat (a.toNat / 4 * 4 + a.toNat % 4 * 16 / 16) = a ∧
      UInt8.ofNat (a.toNat / 4 * 4 + (a.toNat % 4 * 16 + b.toNat / 16) / 16) = a ∧
      UInt8.ofNat ((a.toNat % 4 * 16 + b.toNat / 16) % 16 * 16 + b.toNat % 16 * 4 / 4) = b ∧
      UInt8.ofNat ((a.toNat % 4 * 16 + b.toNat / 16) % 16 * 16 +
        (b.toNat % 16 * 4 + c.toNat / 64) / 4) = b ∧
      UInt8.ofNat ((b.toNat % 16 * 4 + c.toNat / 64) % 4 * 64 + c.toNat % 64) = c := by
  have ha := a.toNat_lt
  have hb := b.toNat_lt
  have hc := c.toNat_lt
  have join {n : Nat} {x : UInt8} (h : n = x.toNat) : UInt8.ofNat n = x := by
    rw [h, UInt8.ofNat_toNat]
  refine ⟨join ?_, join ?_, join ?_, join ?_, join ?_⟩ <;> omega

/-- The standard alphabet and the padding. -/
def isStandard (b : UInt8) : Bool := (value? b).isSome || b == pad

theorem isStandard_digit {n : Nat} (h : n < 64) : isStandard (digit n) = true := by
  simp [isStandard, value?_digit n h]

theorem bounds_of_value? {b : UInt8} {n : Nat} (h : value? b = some n) :
    0x2B ≤ b.toNat ∧ b.toNat ≤ 0x7A ∧ b.toNat ≠ 0x3F := by
  unfold value? at h
  dsimp only at h
  split_ifs at h <;> omega

/-- All of them are visible ASCII characters other than the question mark. -/
theorem bounds_of_isStandard {b : UInt8} (h : isStandard b = true) :
    0x21 ≤ b.toNat ∧ b.toNat ≤ 0x7E ∧ b.toNat ≠ 0x3F := by
  rw [isStandard, Bool.or_eq_true, beq_iff_eq, Option.isSome_iff_exists] at h
  rcases h with ⟨n, hn⟩ | rfl
  · have := bounds_of_value? hn
    omega
  · decide

theorem isStandard_of_mem_encode {o : Octets} {b : UInt8} (h : b ∈ encode o) :
    isStandard b = true := by
  have hpad : isStandard pad = true := by decide
  induction o using encode.induct with
  | case1 => simp [encode] at h
  | case2 a =>
    have ha := a.toNat_lt
    simp only [encode, List.mem_cons, List.not_mem_nil, or_false] at h
    rcases h with rfl | rfl | rfl | rfl
    · exact isStandard_digit (by omega)
    · exact isStandard_digit (by omega)
    · exact hpad
    · exact hpad
  | case3 a b =>
    have ha := a.toNat_lt
    have hb := b.toNat_lt
    simp only [encode, List.mem_cons, List.not_mem_nil, or_false] at h
    rcases h with rfl | rfl | rfl | rfl
    · exact isStandard_digit (by omega)
    · exact isStandard_digit (by omega)
    · exact isStandard_digit (by omega)
    · exact hpad
  | case4 a b c r ih =>
    have ha := a.toNat_lt
    have hb := b.toNat_lt
    have hc := c.toNat_lt
    simp only [encode, List.mem_cons] at h
    rcases h with rfl | rfl | rfl | rfl | h
    · exact isStandard_digit (by omega)
    · exact isStandard_digit (by omega)
    · exact isStandard_digit (by omega)
    · exact isStandard_digit (by omega)
    · exact ih h

/-- Three octets, or what is left of them, take four digits. -/
theorem length_encode (o : Octets) : (encode o).length = (o.length + 2) / 3 * 4 := by
  induction o using encode.induct with
  | case1 => rfl
  | case2 a => simp [encode]
  | case3 a b => simp [encode]
  | case4 a b c r ih =>
    simp only [encode, List.length_cons, ih]
    omega

theorem count_pad_encode_le (o : Octets) : (encode o).count pad ≤ 2 := by
  have hd {n : Nat} (h : n < 64) : (digit n == pad) = false := beq_eq_false_iff_ne.2 (digit_ne_pad h)
  induction o using encode.induct with
  | case1 => simp [encode]
  | case2 a =>
    have ha := a.toNat_lt
    simp [encode, List.count_cons, hd (show a.toNat / 4 < 64 by omega),
      hd (show a.toNat % 4 * 16 < 64 by omega)]
  | case3 a b =>
    have ha := a.toNat_lt
    have hb := b.toNat_lt
    simp [encode, List.count_cons, hd (show a.toNat / 4 < 64 by omega),
      hd (show a.toNat % 4 * 16 + b.toNat / 16 < 64 by omega),
      hd (show b.toNat % 16 * 4 < 64 by omega)]
  | case4 a b c r ih =>
    have ha := a.toNat_lt
    have hb := b.toNat_lt
    have hc := c.toNat_lt
    simpa [encode, List.count_cons, hd (show a.toNat / 4 < 64 by omega),
      hd (show a.toNat % 4 * 16 + b.toNat / 16 < 64 by omega),
      hd (show b.toNat % 16 * 4 + c.toNat / 64 < 64 by omega),
      hd (show c.toNat % 64 < 64 by omega)] using ih

/-- The padding that is missing can be told from the length. -/
theorem missing_pads {o ds : Octets} {k : Nat} (h : encode o = ds ++ List.replicate k pad) :
    (4 - ds.length % 4) % 4 = k := by
  have hc := count_pad_encode_le o
  have hl := length_encode o
  rw [h, List.count_append, List.count_replicate_self] at hc
  rw [h, List.length_append, List.length_replicate] at hl
  omega

end Mime.Base64
