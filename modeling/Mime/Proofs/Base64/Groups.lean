import Mime.Proofs.Base64
import Mime.Proofs.Except

/-! Base64 by groups of four characters, the last of which may end in padding. What is written are
such groups (`denotes_encode`), and a reader of either manner takes them to the octets that they
denote (`decode_of_denotes`). A strict reader accepts nothing else, but after groups without padding
it also passes over padding of any length: `decode_strict_eq_ok_iff`. -/

namespace Mime.Base64

/-- The digits in the order of their values. -/
def alphabet : List Char :=
  "ABCDEFGHIJKLMNOPQRSTUVWXYZabcdefghijklmnopqrstuvwxyz0123456789+/".toList

/-- The place of an octet in the alphabet. -/
def digitValue? (b : UInt8) : Option Nat := alphabet.idxOf? (Char.ofNat b.toNat)

/-- The number with these digits to the base sixty-four. -/
def number (ds : List Nat) : Nat := ds.foldl (fun n d => n * 64 + d) 0

/-- Groups of four characters, and the octets that they denote. The bits of a last group that
make up no octet do not count. -/
inductive Denotes : Octets → Octets → Prop
  | nil : Denotes [] []
  | full {w x y z : UInt8} {a b c d : Nat} {g o : Octets} : digitValue? w = some a →
      digitValue? x = some b → digitValue? y = some c → digitValue? z = some d → Denotes g o →
      Denotes (w :: x :: y :: z :: g)
        (UInt8.ofNat (number [a, b, c, d] / 65536) :: UInt8.ofNat (number [a, b, c, d] / 256) ::
          UInt8.ofNat (number [a, b, c, d]) :: o)
  | three {w x y : UInt8} {a b c : Nat} : digitValue? w = some a → digitValue? x = some b →
      digitValue? y = some c →
      Denotes [w, x, y, pad]
        [UInt8.ofNat (number [a, b, c] / 1024), UInt8.ofNat (number [a, b, c] / 4)]
  | two {w x : UInt8} {a b : Nat} : digitValue? w = some a → digitValue? x = some b →
      Denotes [w, x, pad, pad] [UInt8.ofNat (number [a, b] / 16)]

theorem value?_ofNat : ∀ n < 256, value? (UInt8.ofNat n) = digitValue? (UInt8.ofNat n) := by
  decide +kernel

theorem value?_eq_digitValue? (b : UInt8) : value? b = digitValue? b := by
  have h := value?_ofNat b.toNat b.toNat_lt
  rwa [UInt8.ofNat_toNat] at h

theorem digit_of_value?_ofNat : ∀ n < 256,
    (value? (UInt8.ofNat n)).all fun v => v < 64 && digit v == UInt8.ofNat n := by
  decide +kernel

theorem eq_digit_of_value? {b : UInt8} {v : Nat} (h : value? b = some v) : v < 64 ∧ b = digit v := by
  have hb := digit_of_value?_ofNat b.toNat b.toNat_lt
  rw [UInt8.ofNat_toNat, h] at hb
  obtain ⟨hv, he⟩ : v < 64 ∧ digit v = b := by simpa using hb
  exact ⟨hv, he.symm⟩

theorem eq_digit_of_digitValue? {b : UInt8} {v : Nat} (h : digitValue? b = some v) :
    v < 64 ∧ b = digit v := by
  rw [← value?_eq_digitValue?] at h
  exact eq_digit_of_value? h

theorem digitValue?_digit {v : Nat} (h : v < 64) : digitValue? (digit v) = some v := by
  rw [← value?_eq_digitValue?, value?_digit v h]

theorem ofNat_eq_of_mod {m n : Nat} (h : m % 256 = n % 256) : UInt8.ofNat m = UInt8.ofNat n := by
  apply UInt8.toNat_inj.1
  rw [UInt8.toNat_ofNat', UInt8.toNat_ofNat']
  exact h

section

variable {a b c d : Nat}

/-- The octets of a group, cut out of its number or made up digit by digit. -/
theorem ofNat_number_full (hc : c < 64) (hd : d < 64) :
    UInt8.ofNat (number [a, b, c, d] / 65536) = UInt8.ofNat (a * 4 + b / 16) ∧
      UInt8.ofNat (number [a, b, c, d] / 256) = UInt8.ofNat (b % 16 * 16 + c / 4) ∧
      UInt8.ofNat (number [a, b, c, d]) = UInt8.ofNat (c % 4 * 64 + d) := by
  simp only [number, List.foldl_cons, List.foldl_nil]
  refine ⟨ofNat_eq_of_mod ?_, ofNat_eq_of_mod ?_, ofNat_eq_of_mod ?_⟩ <;> omega

theorem ofNat_number_three (hc : c < 64) :
    UInt8.ofNat (number [a, b, c] / 1024) = UInt8.ofNat (a * 4 + b / 16) ∧
      UInt8.ofNat (number [a, b, c] / 4) = UInt8.ofNat (b % 16 * 16 + c / 4) := by
  simp only [number, List.foldl_cons, List.foldl_nil]
  refine ⟨ofNat_eq_of_mod ?_, ofNat_eq_of_mod ?_⟩ <;> omega

theorem ofNat_number_two :
    UInt8.ofNat (number [a, b] / 16) = UInt8.ofNat (a * 4 + b / 16) := by
  simp only [number, List.foldl_cons, List.foldl_nil]
  apply ofNat_eq_of_mod
  omega

end

/-- Octets are written as groups that denote them. -/
theorem denotes_encode (o : Octets) : Denotes (encode o) o := by
  induction o using encode.induct with
  | case1 => exact .nil
  | case2 a =>
    have ha := a.toNat_lt
    have h := Denotes.two (digitValue?_digit (v := a.toNat / 4) (by omega))
      (digitValue?_digit (v := a.toNat % 4 * 16) (by omega))
    rw [ofNat_number_two, (ofNat_join a a a).1] at h
    exact h
  | case3 a b =>
    have ha := a.toNat_lt
    have hb := b.toNat_lt
    obtain ⟨-, hj, hk, -⟩ := ofNat_join a b b
    have h := Denotes.three (digitValue?_digit (v := a.toNat / 4) (by omega))
      (digitValue?_digit (v := a.toNat % 4 * 16 + b.toNat / 16) (by omega))
      (digitValue?_digit (v := b.toNat % 16 * 4) (by omega))
    obtain ⟨h1, h2⟩ := ofNat_number_three (a := a.toNat / 4) (b := a.toNat % 4 * 16 + b.toNat / 16)
      (show b.toNat % 16 * 4 < 64 by omega)
    rw [h1, h2, hj, hk] at h
    exact h
  | case4 a b c r ih =>
    have ha := a.toNat_lt
    have hb := b.toNat_lt
    have hc := c.toNat_lt
    obtain ⟨-, hj, -, hk, hl⟩ := ofNat_join a b c
    have h := Denotes.full (digitValue?_digit (v := a.toNat / 4) (by omega))
      (digitValue?_digit (v := a.toNat % 4 * 16 + b.toNat / 16) (by omega))
      (digitValue?_digit (v := b.toNat % 16 * 4 + c.toNat / 64) (by omega))
      (digitValue?_digit (v := c.toNat % 64) (by omega)) ih
    obtain ⟨h1, h2, h3⟩ := ofNat_number_full (a := a.toNat / 4)
      (b := a.toNat % 4 * 16 + b.toNat / 16)
      (show b.toNat % 16 * 4 + c.toNat / 64 < 64 by omega) (show c.toNat % 64 < 64 by omega)
    rw [h1, h2, h3, hj, hk, hl] at h
    exact h

theorem length_of_denotes {g o : Octets} (h : Denotes g o) : g.length % 4 = 0 := by
  induction h with
  | nil => rfl
  | full _ _ _ _ _ ih =>
    simp only [List.length_cons]
    omega
  | three => simp
  | two => simp

theorem head_ne_pad_of_denotes {g o : Octets} (h : Denotes g o) : g.head? ≠ some pad := by
  have hn {b : UInt8} {v : Nat} (hb : digitValue? b = some v) : b ≠ pad := by
    obtain ⟨hv, rfl⟩ := eq_digit_of_digitValue? hb
    exact digit_ne_pad hv
  cases h with
  | nil => simp
  | full hw _ _ _ _ => simpa using hn hw
  | three hw _ _ => simpa using hn hw
  | two hw _ => simpa using hn hw

section

variable {m : Manner} {p : Progress} {n bits pads : Nat} {g o r : Octets}

/-- Between groups, padding is passed over. -/
theorem decodeFrom_replicate_pad (h : p.digits % 4 = 0) (k : Nat) :
    decodeFrom m p (List.replicate k pad) = .ok [] := by
  induction k generalizing p with
  | zero => simp [decodeFrom, h]
  | succ k ih =>
    have hlt : ¬2 ≤ p.digits % 4 := by omega
    rw [List.replicate_succ, decodeFrom, if_pos rfl, if_neg hlt]
    exact ih h

theorem decodeFrom_of_denotes (hd : Denotes g o) (hp : p.padded = false) (h : p.digits % 4 = 0)
    {k : Nat} (hk : k = 0 ∨ pad ∉ g) : decodeFrom m p (g ++ List.replicate k pad) = .ok o := by
  induction hd generalizing p with
  | nil => exact decodeFrom_replicate_pad h k
  | @full w x y z a b c d g o hw hx hy hz _ ih =>
    obtain ⟨ha, rfl⟩ := eq_digit_of_digitValue? hw
    obtain ⟨hb, rfl⟩ := eq_digit_of_digitValue? hx
    obtain ⟨hc, rfl⟩ := eq_digit_of_digitValue? hy
    obtain ⟨hd, rfl⟩ := eq_digit_of_digitValue? hz
    have hk' : k = 0 ∨ pad ∉ g := by
      refine hk.imp_right fun hn hm => hn ?_
      simp only [List.mem_cons, hm, or_true]
    obtain ⟨h1, h2, h3⟩ := ofNat_number_full (a := a) (b := b) hc hd
    simp only [List.cons_append]
    rw [decodeFrom_first hp h ha,
      decodeFrom_second rfl (show (p.digits + 1) % 4 = 1 by omega) hb,
      decodeFrom_third rfl (show (p.digits + 1 + 1) % 4 = 2 by omega) hc,
      decodeFrom_fourth rfl (show (p.digits + 1 + 1 + 1) % 4 = 3 by omega) hd,
      ih rfl (show (p.digits + 1 + 1 + 1 + 1) % 4 = 0 by omega) hk', h1, h2, h3]
    rfl
  | @three w x y a b c hw hx hy =>
    obtain ⟨ha, rfl⟩ := eq_digit_of_digitValue? hw
    obtain ⟨hb, rfl⟩ := eq_digit_of_digitValue? hx
    obtain ⟨hc, rfl⟩ := eq_digit_of_digitValue? hy
    obtain ⟨h1, h2⟩ := ofNat_number_three (a := a) (b := b) hc
    obtain rfl : k = 0 := hk.resolve_right fun hn => hn (by simp)
    rw [List.replicate_zero, List.append_nil, decodeFrom_first hp h ha,
      decodeFrom_second rfl (show (p.digits + 1) % 4 = 1 by omega) hb,
      decodeFrom_third rfl (show (p.digits + 1 + 1) % 4 = 2 by omega) hc,
      decodeFrom_pads.2 (show (p.digits + 1 + 1 + 1) % 4 = 3 by omega), h1, h2]
    rfl
  | @two w x a b hw hx =>
    obtain ⟨ha, rfl⟩ := eq_digit_of_digitValue? hw
    obtain ⟨hb, rfl⟩ := eq_digit_of_digitValue? hx
    obtain rfl : k = 0 := hk.resolve_right fun hn => hn (by simp)
    rw [List.replicate_zero, List.append_nil, decodeFrom_first hp h ha,
      decodeFrom_second rfl (show (p.digits + 1) % 4 = 1 by omega) hb,
      decodeFrom_pads.1 (show (p.digits + 1 + 1) % 4 = 2 by omega), ofNat_number_two]
    rfl

theorem decode_of_denotes (m : Manner) (h : Denotes g o) : decode m g = .ok o := by
  have hd := decodeFrom_of_denotes (m := m) (p := .start) h rfl rfl (.inl rfl : 0 = 0 ∨ pad ∉ g)
  rw [List.replicate_zero, List.append_nil] at hd
  rw [decode, if_neg fun hn => head_ne_pad_of_denotes h hn.2]
  exact hd

/-- What is written reads back, under either manner of reading. -/
theorem decode_encode (m : Manner) (o : Octets) : decode m (encode o) = .ok o :=
  decode_of_denotes m (denotes_encode o)

/-- A strict reader takes nothing but digits and padding. -/
theorem pad_or_digit {b : UInt8} (h : decodeFrom .strict p (b :: o) = .ok r) :
    b = pad ∨ ∃ v < 64, b = digit v := by
  by_cases hb : b = pad
  · exact .inl hb
  · rw [decodeFrom, if_neg hb] at h
    cases hv : value? b with
    | none => simp [hv] at h
    | some v => exact .inr ⟨v, eq_digit_of_value? hv⟩

/-- Nor any digit once there was padding. -/
theorem eq_pad_of_padded {b : UInt8} (hp : p.padded = true)
    (h : decodeFrom .strict p (b :: o) = .ok r) : b = pad := by
  rcases pad_or_digit h with hb | ⟨v, hv, rfl⟩
  · exact hb
  · rw [decodeFrom, if_neg (digit_ne_pad hv), value?_digit v hv] at h
    simp [hp] at h

theorem decodeFrom_pad_early (hn : n % 4 < 2) :
    decodeFrom m ⟨n, bits, pads, true⟩ (pad :: o) = decodeFrom m ⟨n, bits, pads, true⟩ o := by
  rw [decodeFrom, if_pos rfl, if_neg (show ¬2 ≤ n % 4 by omega)]

/-- Padding that comes before a group has two digits can only go on to the end, and the end
cannot be within a group. -/
theorem replicate_of_pad_early (hn : n % 4 < 2)
    (h : decodeFrom .strict ⟨n, bits, pads, true⟩ o = .ok r) :
    n % 4 = 0 ∧ r = [] ∧ o = List.replicate o.length pad := by
  induction o with
  | nil =>
    by_cases h0 : n % 4 = 0
    · simp only [decodeFrom, h0, if_true, Except.ok.injEq] at h
      exact ⟨h0, h.symm, rfl⟩
    · have h1 : n % 4 = 1 := by omega
      simp [decodeFrom, h1] at h
  | cons b o ih =>
    obtain rfl := eq_pad_of_padded rfl h
    rw [decodeFrom_pad_early hn] at h
    obtain ⟨h0, hr, ho⟩ := ih h
    refine ⟨h0, hr, ?_⟩
    rw [List.length_cons, List.replicate_succ, ← ho]

/-- After two digits and one pad, only the second pad is left. -/
theorem eq_of_pad_third (hn : n % 4 = 2) (h : decodeFrom .strict ⟨n, bits, 1, true⟩ o = .ok r) :
    o = [pad] ∧ r = [] := by
  cases o with
  | nil => simp [decodeFrom, hn] at h
  | cons b o =>
    obtain rfl := eq_pad_of_padded rfl h
    cases o with
    | nil =>
      have hr : [] = r := by simpa [decodeFrom, hn] using h
      exact ⟨rfl, hr.symm⟩
    | cons c o => simp [decodeFrom, hn] at h

/-- What a strict reader accepts between two groups: padding to the end, or a group's first digit. -/
theorem accepted_between (hp : p.padded = false) (h : p.digits % 4 = 0)
    (hr : decodeFrom .strict p o = .ok r) :
    (o = List.replicate o.length pad ∧ r = []) ∨
      ∃ a < 64, ∃ o', o = digit a :: o' ∧
        decodeFrom .strict ⟨p.digits + 1, a, 0, false⟩ o' = .ok r := by
  cases o with
  | nil =>
    simp only [decodeFrom, h, if_true, Except.ok.injEq] at hr
    exact .inl ⟨rfl, hr.symm⟩
  | cons b o =>
    rcases pad_or_digit hr with rfl | ⟨a, ha, rfl⟩
    · rw [decodeFrom, if_pos rfl, if_neg (show ¬2 ≤ p.digits % 4 by omega)] at hr
      obtain ⟨-, hr, ho⟩ := replicate_of_pad_early (show p.digits % 4 < 2 by omega) hr
      refine .inl ⟨?_, hr⟩
      rw [List.length_cons, List.replicate_succ, ← ho]
    · rw [decodeFrom_first hp h ha] at hr
      exact .inr ⟨a, ha, o, rfl, hr⟩

theorem accepted_after_one (hn : n % 4 = 1)
    (h : decodeFrom .strict ⟨n, bits, 0, false⟩ o = .ok r) :
    ∃ b < 64, ∃ o' r', o = digit b :: o' ∧ r = UInt8.ofNat (bits * 4 + b / 16) :: r' ∧
      decodeFrom .strict ⟨n + 1, b % 16, 0, false⟩ o' = .ok r' := by
  cases o with
  | nil => simp [decodeFrom, hn] at h
  | cons x o =>
    rcases pad_or_digit h with rfl | ⟨b, hb, rfl⟩
    · rw [decodeFrom, if_pos rfl, if_neg (show ¬2 ≤ n % 4 by omega)] at h
      have := (replicate_of_pad_early (show n % 4 < 2 by omega) h).1
      omega
    · rw [decodeFrom_second rfl hn hb] at h
      obtain ⟨r', hr, rfl⟩ := map_eq_ok_iff.1 h
      exact ⟨b, hb, o, r', rfl, rfl, hr⟩

theorem accepted_after_two (hn : n % 4 = 2)
    (h : decodeFrom .strict ⟨n, bits, 0, false⟩ o = .ok r) :
    (o = [pad, pad] ∧ r = []) ∨
      ∃ c < 64, ∃ o' r', o = digit c :: o' ∧ r = UInt8.ofNat (bits * 16 + c / 4) :: r' ∧
        decodeFrom .strict ⟨n + 1, c % 4, 0, false⟩ o' = .ok r' := by
  cases o with
  | nil => simp [decodeFrom, hn] at h
  | cons x o =>
    rcases pad_or_digit h with rfl | ⟨c, hc, rfl⟩
    · have hpad : decodeFrom .strict ⟨n, bits, 1, true⟩ o = .ok r := by
        rw [← h, decodeFrom]
        simp [hn]
      obtain ⟨rfl, hr⟩ := eq_of_pad_third hn hpad
      exact .inl ⟨rfl, hr⟩
    · rw [decodeFrom_third rfl hn hc] at h
      obtain ⟨r', hr, rfl⟩ := map_eq_ok_iff.1 h
      exact .inr ⟨c, hc, o, r', rfl, rfl, hr⟩

theorem accepted_after_three (hn : n % 4 = 3)
    (h : decodeFrom .strict ⟨n, bits, 0, false⟩ o = .ok r) :
    (o = [pad] ∧ r = []) ∨
      ∃ d < 64, ∃ o' r', o = digit d :: o' ∧ r = UInt8.ofNat (bits * 64 + d) :: r' ∧
        decodeFrom .strict ⟨n + 1, 0, 0, false⟩ o' = .ok r' := by
  cases o with
  | nil => simp [decodeFrom, hn] at h
  | cons x o =>
    rcases pad_or_digit h with rfl | ⟨d, hd, rfl⟩
    · cases o with
      | nil =>
        have hr : [] = r := by simpa [decodeFrom, hn] using h
        exact .inl ⟨rfl, hr.symm⟩
      | cons y o => simp [decodeFrom, hn] at h
    · rw [decodeFrom_fourth rfl hn hd] at h
      obtain ⟨r', hr, rfl⟩ := map_eq_ok_iff.1 h
      exact .inr ⟨d, hd, o, r', rfl, rfl, hr⟩

/-- What a strict reader accepts from between two groups on. -/
theorem denotes_of_decodeFrom (hp : p.padded = false) (h : p.digits % 4 = 0)
    (hr : decodeFrom .strict p o = .ok r) :
    ∃ (g : Octets) (k : Nat), o = g ++ List.replicate k pad ∧ Denotes g r ∧ (k = 0 ∨ pad ∉ g) := by
  -- The reader is followed through one group; the induction is on what comes after it.
  induction hl : o.length using Nat.strongRecOn generalizing p o r with
  | ind l ih =>
    subst hl
    obtain ⟨ho, rfl⟩ | ⟨a, ha, o₁, rfl, h₁⟩ := accepted_between hp h hr
    · exact ⟨[], o.length, ho, .nil, .inr List.not_mem_nil⟩
    have hw := digitValue?_digit ha
    obtain ⟨b, hb, o₂, r₁, rfl, rfl, h₂⟩ := accepted_after_one (by omega) h₁
    have hx := digitValue?_digit hb
    obtain ⟨rfl, rfl⟩ | ⟨c, hc, o₃, r₂, rfl, rfl, h₃⟩ := accepted_after_two (by omega) h₂
    · refine ⟨[digit a, digit b, pad, pad], 0, by simp, ?_, .inl rfl⟩
      rw [← ofNat_number_two]
      exact .two hw hx
    have hy := digitValue?_digit hc
    obtain ⟨rfl, rfl⟩ | ⟨d, hd, o₄, r₃, rfl, rfl, h₄⟩ := accepted_after_three (by omega) h₃
    · refine ⟨[digit a, digit b, digit c, pad], 0, by simp, ?_, .inl rfl⟩
      obtain ⟨h1, h2⟩ := ofNat_number_three (a := a) (b := b) hc
      rw [← h1, ← h2]
      exact .three hw hx hy
    obtain ⟨g, k, rfl, hg, hk⟩ := ih o₄.length (by simp only [List.length_cons]; omega) rfl
      (show (p.digits + 1 + 1 + 1 + 1) % 4 = 0 by omega) h₄ rfl
    refine ⟨digit a :: digit b :: digit c :: digit d :: g, k, rfl, ?_, hk.imp_right fun hn hm => hn ?_⟩
    · obtain ⟨h1, h2, h3⟩ := ofNat_number_full (a := a) (b := b) hc hd
      rw [← h1, ← h2, ← h3]
      exact .full hw hx hy (digitValue?_digit hd) hg
    · simpa [(digit_ne_pad ha).symm, (digit_ne_pad hb).symm, (digit_ne_pad hc).symm,
        (digit_ne_pad hd).symm] using hm

end

/-- What a strict reader accepts, and what it gives for it. -/
theorem decode_strict_eq_ok_iff {o r : Octets} :
    decode .strict o = .ok r ↔
      ∃ (g : Octets) (k : Nat), o = g ++ List.replicate k pad ∧ Denotes g r ∧
        (k = 0 ∨ g ≠ [] ∧ pad ∉ g) := by
  constructor
  · intro h
    rw [decode] at h
    split_ifs at h with hpad
    obtain ⟨g, k, rfl, hg, hk⟩ := denotes_of_decodeFrom rfl rfl h
    refine ⟨g, k, rfl, hg, ?_⟩
    rcases Nat.eq_zero_or_pos k with h0 | hpos
    · exact .inl h0
    · refine .inr ⟨?_, hk.resolve_left (Nat.ne_of_gt hpos)⟩
      rintro rfl
      obtain ⟨j, rfl⟩ := Nat.exists_eq_succ_of_ne_zero (Nat.ne_of_gt hpos)
      exact hpad ⟨rfl, rfl⟩
  · rintro ⟨g, k, rfl, hg, hk⟩
    have hhead : (g ++ List.replicate k pad).head? ≠ some pad := by
      cases g with
      | nil =>
        obtain rfl : k = 0 := hk.resolve_right fun hn => hn.1 rfl
        simp
      | cons b g => simpa using head_ne_pad_of_denotes hg
    rw [decode, if_neg fun hn => hhead hn.2]
    exact decodeFrom_of_denotes hg rfl rfl (hk.imp_right And.right)

end Mime.Base64
