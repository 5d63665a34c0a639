import Mathlib.Tactic.IntervalCases
import Mime.Charset.Utf8
import Mime.Text.Utf8

/-! Text written in UTF-8 reads back, character by character: `units_utf8`. A surrogate is
written as a question mark, so what comes back is `Text.written`. -/

namespace Mime

/-- The character that UTF-8 has for `c`: a question mark for a surrogate. -/
def CodePoint.written (c : CodePoint) : CodePoint := if c.isSurrogate then '?' else c

def Text.written (t : Text) : Text := t.map CodePoint.written

theorem Text.written_eq_self {t : Text} (h : ∀ c ∈ t, c.isSurrogate = false) : t.written = t := by
  unfold written
  conv => rhs; rw [← List.map_id t]
  refine List.map_congr_left fun c hc => ?_
  simp [CodePoint.written, h c hc]

theorem Text.written_append (s t : Text) : (s ++ t).written = s.written ++ t.written :=
  List.map_append

theorem CodePoint.utf8_ne_nil (c : CodePoint) : c.utf8 ≠ [] := by
  unfold utf8 utf8Raw
  dsimp only
  split_ifs <;> simp

theorem CodePoint.length_utf8_le (c : CodePoint) : c.utf8.length ≤ 4 := by
  unfold utf8 utf8Raw
  dsimp only
  split_ifs <;> simp

namespace Charset.Utf8

theorem first_ascii {n : Nat} (h : n < 0x80) :
    first (UInt8.ofNat n) = ([some (CodePoint.ofNat n)], none) := by
  unfold first
  simp only [UInt8.toNat_ofNat_of_lt' (show n < 256 by omega)]
  rw [if_pos h]

/-- The octet before one continuation. -/
theorem first_two {x : Nat} (hl : 2 ≤ x) (hh : x < 32) :
    first (UInt8.ofNat (0xC0 + x)) = ([], some ⟨x, 1, 0x80, 0xBF⟩) := by
  interval_cases x <;> rfl

theorem first_three {x : Nat} (h : x < 16) :
    first (UInt8.ofNat (0xE0 + x)) =
      ([], some ⟨x, 2, if x = 0 then 0xA0 else 0x80, if x = 0xD then 0x9F else 0xBF⟩) := by
  interval_cases x <;> rfl

theorem first_four {x : Nat} (h : x < 5) :
    first (UInt8.ofNat (0xF0 + x)) =
      ([], some ⟨x, 3, if x = 0 then 0x90 else 0x80, if x = 4 then 0x8F else 0xBF⟩) := by
  interval_cases x <;> rfl

theorem unitsFrom_more {bits k low high n : Nat} (hl : low ≤ n) (hh : n ≤ high) (hn : n < 256)
    (r : Octets) :
    unitsFrom (some ⟨bits, k + 2, low, high⟩) (UInt8.ofNat n :: r) =
      unitsFrom (some ⟨bits * 64 + n % 64, k + 1, 0x80, 0xBF⟩) r := by
  rw [unitsFrom, next]
  simp only [UInt8.toNat_ofNat_of_lt' hn]
  rw [if_pos ⟨hl, hh⟩, if_neg (by omega)]
  rfl

theorem unitsFrom_done {bits low high n : Nat} (hl : low ≤ n) (hh : n ≤ high) (hn : n < 256)
    (r : Octets) :
    unitsFrom (some ⟨bits, 1, low, high⟩) (UInt8.ofNat n :: r) =
      some (CodePoint.ofNat (bits * 64 + n % 64)) :: unitsFrom none r := by
  rw [unitsFrom, next]
  simp only [UInt8.toNat_ofNat_of_lt' hn]
  rw [if_pos ⟨hl, hh⟩, if_pos trivial]
  rfl

/-- The octets of a character that is no surrogate make that character. -/
theorem unitsFrom_utf8Raw {c : CodePoint} (hs : c.isSurrogate = false) (r : Octets) :
    unitsFrom none (c.utf8Raw ++ r) = some c :: unitsFrom none r := by
  have hlt := c.lt
  have hs : ¬(0xD800 ≤ c.val ∧ c.val ≤ 0xDFFF) := by
    simpa [CodePoint.isSurrogate] using hs
  have back {n : Nat} (h : n = c.val) : CodePoint.ofNat n = c := by rw [h, CodePoint.ofNat_val]
  unfold CodePoint.utf8Raw
  dsimp only
  split_ifs with h1 h2 h3
  · simp only [List.cons_append, List.nil_append]
    rw [unitsFrom, first_ascii h1, back rfl]
    rfl
  · simp only [List.cons_append, List.nil_append]
    rw [unitsFrom, first_two (by omega) (by omega), List.nil_append,
      unitsFrom_done (by omega) (by omega) (by omega), back (by omega)]
  · simp only [List.cons_append, List.nil_append]
    rw [unitsFrom, first_three (by omega), List.nil_append,
      unitsFrom_more (by split_ifs <;> omega) (by split_ifs <;> omega) (by omega),
      unitsFrom_done (by omega) (by omega) (by omega), back (by omega)]
  · simp only [List.cons_append, List.nil_append]
    rw [unitsFrom, first_four (by omega), List.nil_append,
      unitsFrom_more (by split_ifs <;> omega) (by split_ifs <;> omega) (by omega),
      unitsFrom_more (by omega) (by omega) (by omega),
      unitsFrom_done (by omega) (by omega) (by omega), back (by omega)]

theorem unitsFrom_utf8 (c : CodePoint) (r : Octets) :
    unitsFrom none (c.utf8 ++ r) = some c.written :: unitsFrom none r := by
  unfold CodePoint.utf8 CodePoint.written
  cases hs : c.isSurrogate with
  | true => rfl
  | false => exact unitsFrom_utf8Raw hs r

theorem units_utf8 (t : Text) : units t.utf8 = t.written.map some := by
  unfold units Text.utf8 Text.written
  induction t with
  | nil => rfl
  | cons c t ih => rw [List.flatMap_cons, unitsFrom_utf8, ih]; rfl

/-- Reading gives the text back as far as UTF-8 can write it. -/
theorem replacing_units_utf8 (t : Text) : (units t.utf8).replacing = t.written := by
  rw [units_utf8]
  simp [Units.replacing]

/-- Reading strictly gives back a text without surrogates. -/
theorem strict?_units_utf8 {t : Text} (h : ∀ c ∈ t, c.isSurrogate = false) :
    (units t.utf8).strict? = some t := by
  rw [units_utf8, Text.written_eq_self h]
  unfold Units.strict?
  clear h
  induction t with
  | nil => rfl
  | cons c t ih => rw [List.map_cons, List.mapM_cons, ih]; rfl

end Charset.Utf8

end Mime
