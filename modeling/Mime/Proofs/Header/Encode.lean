import Mime.Header.Decode
import Mime.Header.Encode
import Mime.Proofs.Base64.Groups
import Mime.Proofs.EncodedWord
import Mime.Proofs.Octets
import Mime.Proofs.Text.Spelling
import Mime.Proofs.Utf8

/-! The words that a value is written as. The characters are cut into consecutive runs, none
but the first of them empty (`wordLines_pieces`), and the word of a run reads back as the run
(`read_ofText`). -/

namespace Mime

namespace EncodedWord

/-- The word that a run of characters is written as. -/
def ofText (t : Text) : EncodedWord :=
  ⟨"UTF-8", 'B', (Base64.encode t.utf8).map CodePoint.ofByte⟩

theorem bounds_of_mem_ofText {t : Text} {c : CodePoint} (h : c ∈ (ofText t).text) :
    0x21 ≤ c.val ∧ c.val ≤ 0x7E ∧ c.val ≠ 0x3F := by
  obtain ⟨b, hb, rfl⟩ := List.mem_map.1 h
  exact Base64.bounds_of_isStandard (Base64.isStandard_of_mem_encode hb)

theorem isToken_of_bounds {c : CodePoint} (h : 0x21 ≤ c.val ∧ c.val ≤ 0x7E ∧ c.val ≠ 0x3F) :
    isToken c = true := by
  have hq : c ≠ '?' := fun e => h.2.2 (by rw [e]; rfl)
  have hb : c.isBlank = false := CodePoint.isBlank_of_visible h.1 h.2.1
  simp [isToken, hq, hb]

theorem wellFormed_ofText (t : Text) : (ofText t).WellFormed where
  charset_ne_nil := List.cons_ne_nil _ _
  charset := by
    show ∀ c ∈ ("UTF-8" : Text), isToken c = true
    decide
  letter := rfl
  text _ hc := isToken_of_bounds (bounds_of_mem_ofText hc)

/-- A word shows nothing but visible ASCII characters. -/
theorem visible_of_mem_verbatim {t : Text} {c : CodePoint} (h : c ∈ (ofText t).verbatim) :
    0x21 ≤ c.val ∧ c.val ≤ 0x7E := by
  have lit : ∀ c ∈ ("=?UTF-8?B??=" : Text), 0x21 ≤ c.val ∧ c.val ≤ 0x7E := by decide
  have hv : (ofText t).verbatim = "=?UTF-8?B?" ++ ((ofText t).text ++ "?=") := rfl
  rw [hv, List.mem_append, List.mem_append] at h
  rcases h with h | h | h
  · exact lit c (List.mem_append_left "?=" h)
  · have := bounds_of_mem_ofText h
    exact ⟨this.1, this.2.1⟩
  · exact lit c (List.mem_append_right "=?UTF-8?B?" h)

theorem ascii?_map_ofByte {o : Octets} (h : ∀ b ∈ o, b.toNat < 0x80) :
    Text.ascii? (o.map CodePoint.ofByte) = some o := by
  unfold Text.ascii?
  induction o with
  | nil => rfl
  | cons b o ih =>
    have hb := h b (by simp)
    rw [List.map_cons, List.mapM_cons, ih fun x hx => h x (by simp [hx])]
    simp [CodePoint.isAscii, hb]

theorem octets?_ofText (t : Text) : (ofText t).octets? = some t.utf8 := by
  have ha : Text.ascii? (ofText t).text = some (Base64.encode t.utf8) :=
    ascii?_map_ofByte fun b hb => by
      have := Base64.bounds_of_isStandard (Base64.isStandard_of_mem_encode hb)
      omega
  have hp : padded (Base64.encode t.utf8) = Base64.encode t.utf8 := by
    have hl : (Base64.encode t.utf8).length % 4 = 0 := by
      rw [Base64.length_encode, Nat.mul_mod_left]
    simp [padded, hl]
  rw [octets?, ha, Option.bind_some, hp, Base64.decode_encode]
  rfl

theorem written?_utf8 : Charset.Label.written? "UTF-8" = some (.text .utf8) := by decide +kernel

section

variable [Charset.Registry]

theorem lookup_ofText (t : Text) :
    Charset.Label.lookup (ofText t).label = .ok (some (.text .utf8)) := by
  have hl : (ofText t).label = "UTF-8" := rfl
  rw [hl, Charset.Label.lookup, show Charset.Label.fault? "UTF-8" = none from rfl,
    Charset.Label.find?, written?_utf8]
  rfl

/-- A word with the octets of a text in UTF-8 is read as the text, as far as UTF-8 has its
characters. -/
theorem read_of_octets? {w : EncodedWord} {t : Text}
    (hl : Charset.Label.lookup w.label = .ok (some (.text .utf8))) (ho : w.octets? = some t.utf8) :
    w.read = .ok (.ok t.written) := by
  unfold read
  rw [hl, ho]
  cases hu : t.utf8 with
  | nil =>
    cases t with
    | nil => rfl
    | cons c t =>
      rw [Text.utf8, List.flatMap_cons, List.append_eq_nil_iff] at hu
      exact absurd hu.1 c.utf8_ne_nil
  | cons b o =>
    have hr := Charset.Utf8.replacing_units_utf8 t
    rw [hu] at hr
    simp only [Charset.Codec.decode, Charset.Encoding.units, Charset.Units.read, hr]

/-- A word that is written reads back. -/
theorem read_ofText (t : Text) : (ofText t).read = .ok (.ok t.written) :=
  read_of_octets? (lookup_ofText t) (octets?_ofText t)

end

end EncodedWord

namespace Header

open EncodedWord

theorem word_utf8 (t : Text) : word t.utf8 = (ofText t).verbatim := by
  simp only [word, List.append_assoc]
  rfl

/-- Every three octets take four characters, and what stands around them takes twelve. -/
theorem wordCapacity_eq (budget : Int) :
    wordCapacity budget = (min budget 75 - 12).toNat / 4 * 3 := by
  have hs : wordStart.length = 10 := rfl
  have he : wordEnd.length = 2 := rfl
  simp only [wordCapacity, wordLimit, hs, he]
  omega

/-- No run could have taken the first character of the next. The run at hand is in a word that
holds `held` octets before it and may hold up to `capacity`, each of the others in a word of its
own, up to `next`. -/
inductive Tight (next : Nat) : (capacity held : Nat) → Text → List Text → Prop
  | last {capacity held : Nat} (run : Text) : Tight next capacity held run []
  | more {capacity held : Nat} {run r : Text} {c : CodePoint} {runs : List Text} :
    capacity < held + run.utf8.length + c.utf8.length → Tight next next 0 (c :: r) runs →
      Tight next capacity held run ((c :: r) :: runs)

theorem Tight.cons {next capacity held : Nat} {c : CodePoint} {run : Text} {runs : List Text}
    (h : Tight next capacity (held + c.utf8.length) run runs) :
    Tight next capacity held (c :: run) runs := by
  cases h with
  | last run => exact .last (c :: run)
  | more hc ht =>
    refine .more ?_ ht
    rw [Text.utf8, List.flatMap_cons, List.length_append, ← Nat.add_assoc]
    exact hc

theorem Tight.ne_nil {next capacity held : Nat} {run : Text} {runs : List Text}
    (h : Tight next capacity held run runs) : ∀ x ∈ runs, x ≠ [] := by
  induction h with
  | last run => simp
  | more hc ht ih =>
    intro x hx
    rcases List.mem_cons.1 hx with rfl | hx
    · exact List.cons_ne_nil _ _
    · exact ih x hx

/-- The characters of a word stay together, and a word is ended only where the next character
would not fit. -/
theorem distribute_runs (next capacity : Nat) (current : Octets) (t : Text) :
    ∃ (first : Text) (more : List Text), t = first ++ more.flatten ∧
      Tight next capacity current.length first more ∧
      distribute next capacity current t = (current ++ first.utf8, more.map Text.utf8) := by
  induction t generalizing capacity current with
  | nil => exact ⟨[], [], rfl, .last [], by simp [distribute, Text.utf8]⟩
  | cons c r ih =>
    unfold distribute
    split
    · rename_i hfull
      obtain ⟨first, more, rfl, ht, hd⟩ := ih next c.utf8
      refine ⟨[], (c :: first) :: more, rfl, .more hfull (Tight.cons ?_), ?_⟩
      · rwa [Nat.zero_add]
      · simp [hd, Text.utf8]
    · obtain ⟨first, more, rfl, ht, hd⟩ := ih capacity (current ++ c.utf8)
      refine ⟨c :: first, more, rfl, Tight.cons ?_, ?_⟩
      · rwa [← List.length_append]
      · simp [hd, Text.utf8]

/-- Whether not even the first character fits beside what is already on the first line. -/
def startsLate (used width : Int) : Text → Bool
  | [] => false
  | c :: _ => wordCapacity (width - used) < c.utf8.length

theorem wordOctets_fst_eq_nil_iff {used width : Int} {t : Text} :
    (wordOctets used width t).1 = [] ↔ t = [] ∨ startsLate used width t = true := by
  cases t with
  | nil => simp [wordOctets, distribute]
  | cons c r =>
    simp only [wordOctets, distribute, List.length_nil, Nat.zero_add, List.nil_append, startsLate,
      decide_eq_true_eq, reduceCtorEq, false_or]
    split
    · rename_i h
      simpa using h
    · rename_i h
      obtain ⟨first, more, -, -, hd⟩ :=
        distribute_runs (continuationCapacity width) (wordCapacity (width - used)) c.utf8 r
      simp [hd, c.utf8_ne_nil, h]

/-- The line of a run of characters, empty if the run is. -/
def lineOf (t : Text) : Text := if t = [] then [] else (ofText t).verbatim

theorem utf8_eq_nil_iff {t : Text} : t.utf8 = [] ↔ t = [] := by
  cases t with
  | nil => simp [Text.utf8]
  | cons c t => simp [Text.utf8, c.utf8_ne_nil]

theorem wordOctets_runs (used width : Int) (t : Text) :
    ∃ (first : Text) (more : List Text), t = first ++ more.flatten ∧
      Tight (continuationCapacity width) (wordCapacity (width - used)) 0 first more ∧
      wordOctets used width t = (first.utf8, more.map Text.utf8) :=
  distribute_runs (continuationCapacity width) (wordCapacity (width - used)) [] t

theorem wordLines_eq {used width : Int} {t first : Text} {more : List Text}
    (h : wordOctets used width t = (first.utf8, more.map Text.utf8)) :
    wordLines used width t = (lineOf first, more.map fun x => " " ++ (ofText x).verbatim) := by
  simp only [wordLines, h, utf8_eq_nil_iff, List.map_map, Function.comp_def, word_utf8, lineOf]

/-- The lines of an encoded value: consecutive runs of characters, a word to each. The first
run is empty exactly if its first character does not fit. -/
theorem wordLines_pieces (used width : Int) (t : Text) :
    ∃ (first : Text) (more : List Text), t = first ++ more.flatten ∧ (∀ x ∈ more, x ≠ []) ∧
      (first = [] ↔ t = [] ∨ startsLate used width t = true) ∧
      wordLines used width t = (lineOf first, more.map fun x => " " ++ (ofText x).verbatim) := by
  obtain ⟨first, more, ht, hr, ho⟩ := wordOctets_runs used width t
  refine ⟨first, more, ht, hr.ne_nil, ?_, wordLines_eq ho⟩
  rw [← wordOctets_fst_eq_nil_iff, ho, utf8_eq_nil_iff]

/-- What plain text may not hold: a control character other than tab, a character that is not
printable ASCII, or an encoded word. -/
def NeedsWords (t : Text) : Prop :=
  (∃ c ∈ t, (c.val < 0x20 ∧ c ≠ '\t') ∨ 0x7F ≤ c.val) ∨
    ∃ (a : Text) (w : EncodedWord) (b : Text), w.WellFormed ∧ t = a ++ (w.verbatim ++ b)

theorem needsEncoding_iff {t : Text} : needsEncoding t = true ↔ NeedsWords t := by
  rw [NeedsWords, ← split_fst_ne_nil_iff]
  simp only [needsEncoding, isUnsafe, Bool.or_eq_true, bne_iff_ne, List.any_eq_true,
    Bool.and_eq_true, decide_eq_true_eq]
  exact or_comm

/-- Tab and the printable ASCII characters. -/
def IsPlain (c : CodePoint) : Prop := c = '\t' ∨ (0x20 ≤ c.val ∧ c.val ≤ 0x7E)

theorem IsPlain.ne_return {c : CodePoint} (h : IsPlain c) : c ≠ '\r' := by
  rintro rfl
  revert h
  unfold IsPlain
  decide

theorem IsPlain.ne_feed {c : CodePoint} (h : IsPlain c) : c ≠ '\n' := by
  rintro rfl
  revert h
  unfold IsPlain
  decide

theorem isPlain_of_mem_verbatim {t : Text} {c : CodePoint} (h : c ∈ (ofText t).verbatim) :
    IsPlain c := by
  have := visible_of_mem_verbatim h
  exact .inr ⟨by omega, this.2⟩

theorem isLineBreak_of_plain {c : CodePoint} (h : IsPlain c) : isLineBreak c = false := by
  simp [isLineBreak, h.ne_return, h.ne_feed]

theorem isSurrogate_of_plain {c : CodePoint} (h : IsPlain c) : c.isSurrogate = false := by
  rcases h with rfl | h
  · rfl
  · rw [CodePoint.isSurrogate_eq_false_iff]
    omega

/-- What is not encoded is plain text without a word in it. -/
theorem plain_of_not_needsEncoding {t : Text} (h : needsEncoding t = false) :
    (∀ c ∈ t, IsPlain c) ∧ Silent t [] := by
  rw [needsEncoding, Bool.or_eq_false_iff] at h
  constructor
  · intro c hc
    have hu : isUnsafe c = false := by simpa using List.any_eq_false.1 h.2 c hc
    by_cases ht : c = '\t'
    · exact .inl ht
    · simp only [isUnsafe, Bool.or_eq_false_iff, Bool.and_eq_false_iff, bne_eq_false_iff_eq, ht,
        or_false, decide_eq_false_iff_not] at hu
      exact .inr (by omega)
  · exact split_fst_eq_nil_iff.1 (by simpa using h.1)

end Header

end Mime
