import Mime.Proofs.Header.Encode
import Mime.Proofs.Header.Lookup
import Mime.Proofs.QuotedPrintable.Word

/-! Decoding undoes every encoder that writes UTF-8, whatever it chooses: the letter case of the
charset and a language after it, base64 with or without its padding, any form of each octet in the
Q encoding, and the blanks between words. A word reads back (`read_of_writes`), the blanks between
two words go, and so the texts come back one after another: `decode_of_spelled`. -/

namespace Mime

namespace EncodedWord

/-- `utf-8` in any letter case. -/
inductive IsUtf8Name : Text → Prop
  | intro {u t f : CodePoint} : u = 'u' ∨ u = 'U' → t = 't' ∨ t = 'T' → f = 'f' ∨ f = 'F' →
      IsUtf8Name [u, t, f, '-', '8']

/-- That name alone, or with an asterisk and a language after it. -/
inductive IsUtf8Charset : Text → Prop
  | plain {name : Text} : IsUtf8Name name → IsUtf8Charset name
  | withLanguage {name language : Text} : IsUtf8Name name → (∀ c ∈ language, isToken c = true) →
      IsUtf8Charset (name ++ ('*' : CodePoint) :: language)

/-- The letters and texts that octets may be written as. -/
inductive TextForm (o : Octets) : CodePoint → Text → Prop
  /-- Some of the padding, or all of it, may be left out. -/
  | base64 {letter : CodePoint} {digits : Octets} {k : Nat} : letter = 'B' ∨ letter = 'b' →
      Base64.encode o = digits ++ List.replicate k Base64.pad →
      TextForm o letter (digits.map CodePoint.ofByte)
  | quoted {letter : CodePoint} {forms : List Octets} : letter = 'Q' ∨ letter = 'q' →
      List.Forall₂ QuotedPrintable.WordForm o forms →
      TextForm o letter (forms.flatten.map CodePoint.ofByte)

/-- A word that a text may be written as in UTF-8. -/
structure Writes (t : Text) (w : EncodedWord) : Prop where
  charset : IsUtf8Charset w.charset
  text : TextForm t.utf8 w.letter w.text

section

variable {name charset t : Text} {w : EncodedWord}

theorem IsUtf8Name.ne_nil (h : IsUtf8Name name) : name ≠ [] := by
  cases h
  exact List.cons_ne_nil _ _

theorem IsUtf8Name.isToken (h : IsUtf8Name name) :
    ∀ c ∈ name, isToken c = true ∧ (c != '*') = true := by
  obtain ⟨rfl | rfl, rfl | rfl, rfl | rfl⟩ := h <;> decide

/-- Labels are compared without regard to case. -/
theorem IsUtf8Name.lookup [Charset.Registry] (h : IsUtf8Name name) :
    Charset.Label.lookup name = .ok (some (.text .utf8)) := by
  have hn : Charset.Label.normalize name = Charset.Label.normalize "UTF-8" := by
    obtain ⟨rfl | rfl, rfl | rfl, rfl | rfl⟩ := h <;> decide
  have hf : Charset.Label.fault? name = none := by
    obtain ⟨rfl | rfl, rfl | rfl, rfl | rfl⟩ := h <;> rfl
  have hu : Charset.Label.written? name = Charset.Label.written? "UTF-8" := by
    simp only [Charset.Label.written?, hn]
  rw [Charset.Label.lookup, hf, Charset.Label.find?, hu, written?_utf8]
  rfl

theorem IsUtf8Charset.ne_nil (h : IsUtf8Charset charset) : charset ≠ [] := by
  cases h with
  | plain hn => exact hn.ne_nil
  | withLanguage hn _ => exact List.append_ne_nil_of_left_ne_nil hn.ne_nil _

theorem IsUtf8Charset.isToken (h : IsUtf8Charset charset) : ∀ c ∈ charset, isToken c = true := by
  intro c hc
  cases h with
  | plain hn => exact (hn.isToken c hc).1
  | withLanguage hn hl =>
    rcases List.mem_append.1 hc with hc | hc
    · exact (hn.isToken c hc).1
    · rcases List.mem_cons.1 hc with rfl | hc
      · decide
      · exact hl c hc

/-- The language is no part of the label. -/
theorem IsUtf8Charset.lookup [Charset.Registry] (h : IsUtf8Charset charset) :
    Charset.Label.lookup (charset.cut '*').1 = .ok (some (.text .utf8)) := by
  have ht {n : Text} (hn : IsUtf8Name n) (r : Text) : (n ++ r).takeWhile (· != ('*' : CodePoint)) =
      n ++ r.takeWhile (· != ('*' : CodePoint)) :=
    List.takeWhile_append_of_pos fun c hc => (hn.isToken c hc).2
  cases h with
  | plain hn =>
    have hp := ht hn []
    rw [List.append_nil] at hp
    rw [Text.cut, hp, List.takeWhile_nil, List.append_nil]
    exact hn.lookup
  | withLanguage hn _ =>
    rw [Text.cut, ht hn, List.takeWhile_cons_of_neg (by simp), List.append_nil]
    exact hn.lookup

theorem TextForm.isLetter {o : Octets} {letter : CodePoint} (h : TextForm o letter t) :
    isLetter letter = true := by
  cases h with
  | base64 hl _ => rcases hl with rfl | rfl <;> rfl
  | quoted hl _ => rcases hl with rfl | rfl <;> rfl

theorem bounds_of_mem_digits {o digits : Octets} {k : Nat}
    (h : Base64.encode o = digits ++ List.replicate k Base64.pad) {b : UInt8} (hb : b ∈ digits) :
    0x21 ≤ b.toNat ∧ b.toNat ≤ 0x7E ∧ b.toNat ≠ 0x3F := by
  apply Base64.bounds_of_isStandard
  apply Base64.isStandard_of_mem_encode (o := o)
  rw [h]
  exact List.mem_append_left _ hb

theorem TextForm.isToken {o : Octets} {letter : CodePoint} (h : TextForm o letter t) :
    ∀ c ∈ t, EncodedWord.isToken c = true := by
  intro c hc
  cases h with
  | base64 _ he =>
    obtain ⟨b, hb, rfl⟩ := List.mem_map.1 hc
    exact isToken_of_bounds (bounds_of_mem_digits he hb)
  | quoted _ hf =>
    obtain ⟨b, hb, rfl⟩ := List.mem_map.1 hc
    exact isToken_of_bounds (QuotedPrintable.bounds_of_mem_flatten hf hb)

theorem Writes.wellFormed (h : Writes t w) : w.WellFormed where
  charset_ne_nil := h.charset.ne_nil
  charset := h.charset.isToken
  letter := h.text.isLetter
  text := h.text.isToken

/-- The padding that was left out is put back. -/
theorem padded_digits {o digits : Octets} {k : Nat}
    (h : Base64.encode o = digits ++ List.replicate k Base64.pad) :
    padded digits = Base64.encode o := by
  rw [padded, Base64.missing_pads h, h]

theorem octets?_of_textForm {o : Octets} {letter : CodePoint} (h : TextForm o letter t) :
    octets? ⟨charset, letter, t⟩ = some o := by
  cases h with
  | @base64 digits k hl he =>
    have ha : Text.ascii? (digits.map CodePoint.ofByte) = some digits := ascii?_map_ofByte fun b hb =>
      Nat.lt_of_le_of_lt (bounds_of_mem_digits he hb).2.1 (by decide)
    have hb : isBase64 ⟨charset, letter, digits.map CodePoint.ofByte⟩ = true := by
      rcases hl with rfl | rfl <;> rfl
    rw [octets?, ha, Option.bind_some, if_pos hb, padded_digits he, Base64.decode_encode]
    rfl
  | @quoted forms hl hf =>
    have ha : Text.ascii? (forms.flatten.map CodePoint.ofByte) = some forms.flatten :=
      ascii?_map_ofByte fun b hb =>
        Nat.lt_of_le_of_lt (QuotedPrintable.bounds_of_mem_flatten hf hb).2.1 (by decide)
    have hb : isBase64 ⟨charset, letter, forms.flatten.map CodePoint.ofByte⟩ = false := by
      rcases hl with rfl | rfl <;> rfl
    rw [octets?, ha, Option.bind_some, hb, if_neg Bool.false_ne_true,
      QuotedPrintable.decodeWord_flatten hf]

/-- A word reads back as what it is written for. -/
theorem read_of_writes [Charset.Registry] (h : Writes t w) : w.read = .ok (.ok t.written) :=
  read_of_octets? h.charset.lookup (octets?_of_textForm h.text)

end

end EncodedWord

namespace Header

open EncodedWord

/-- Words for the texts one after another, each after blanks. -/
inductive Follows : List Text → Text → Prop
  | nil : Follows [] []
  | cons {g t r : Text} {ts : List Text} {w : EncodedWord} : IsLinear g → Writes t w →
      Follows ts r → Follows (t :: ts) (g ++ (w.verbatim ++ r))

/-- Words for the texts one after another, with blanks, if any, between them. -/
inductive Spelled : List Text → Text → Prop
  | nil : Spelled [] []
  | cons {t r : Text} {ts : List Text} {w : EncodedWord} : Writes t w → Follows ts r →
      Spelled (t :: ts) (w.verbatim ++ r)

theorem IsLinear.no_equals {gap : Text} (h : IsLinear gap) : ∀ c ∈ gap, c ≠ '=' := by
  rintro c hc rfl
  exact absurd (h _ hc) (by decide)

section

variable [Charset.Registry]

/-- After a word that is read, the blanks before every other go. -/
theorem outcome_join_follows {ts : List Text} {r : Text} (h : Follows ts r) :
    (join true (split r).1 (split r).2).outcome = .ok (Text.written ts.flatten) := by
  induction h with
  | nil =>
    rw [split_nil]
    rfl
  | cons hg hw _ ih =>
    rw [split_append_word hw.wellFormed (silent_of_no_equals hg.no_equals _),
      outcome_join_read (read_of_writes hw), ih, all_isLinearBlank_iff.2 hg, List.flatten_cons,
      Text.written_append]
    rfl

/-- Texts that are spelled in words are read one after another. -/
theorem decode_of_spelled {ts : List Text} {s : Text} (h : Spelled ts s)
    (hs : ∀ t ∈ ts, ∀ c ∈ t, c.isSurrogate = false) : (decode s).outcome = .ok ts.flatten := by
  have hw : Text.written ts.flatten = ts.flatten := by
    apply Text.written_eq_self
    intro c hc
    obtain ⟨t, ht, hc⟩ := List.mem_flatten.1 hc
    exact hs t ht c hc
  cases h with
  | nil =>
    rw [decode, split_nil]
    rfl
  | cons hfirst hrest =>
    rw [decode, split_of_read? (read?_verbatim_append hfirst.wellFormed _),
      outcome_join_read (read_of_writes hfirst), outcome_join_follows hrest, ← hw,
      List.flatten_cons, Text.written_append]
    rfl

end

section

attribute [local instance] Charset.Registry.bare

/-- A language and escapes in either case, no blanks before an empty text, and base64 without its
padding after a broken line. -/
theorem decode_of_spelled_mixed :
    Spelled ["é b", "", "é"] "=?Utf-8*fr?q?=c3=A9_b?==?UTF-8?B??=\r\n\t=?utf-8?b?w6k?=" ∧
    (∀ t ∈ (["é b", "", "é"] : List Text), ∀ c ∈ t, c.isSurrogate = false) ∧
    (decode "=?Utf-8*fr?q?=c3=A9_b?==?UTF-8?B??=\r\n\t=?utf-8?b?w6k?=").outcome = .ok "é bé" := by
  have hforms : List.Forall₂ QuotedPrintable.WordForm (Text.utf8 "é b")
      [[0x3D, 0x63, 0x33], [0x3D, 0x41, 0x39], [0x5F], [0x62]] := by
    rw [show Text.utf8 "é b" = [0xC3, 0xA9, 0x20, 0x62] by decide]
    refine .cons (.escape (by decide) (by decide)) (.cons (.escape (by decide) (by decide)) ?_)
    exact .cons .underscore (.cons (.literal (by decide) (by decide) (by decide) (by decide)
      (by decide)) .nil)
  have hq : Writes "é b" ⟨"Utf-8*fr", 'q', "=c3=A9_b"⟩ :=
    ⟨.withLanguage (.intro (.inr rfl) (.inl rfl) (.inl rfl)) (by decide),
      TextForm.quoted (.inr rfl) hforms⟩
  have hdigits : Base64.encode (Text.utf8 "é") =
      [0x77, 0x36, 0x6B] ++ List.replicate 1 Base64.pad := by decide
  have hb : Writes "é" ⟨"utf-8", 'b', "w6k"⟩ :=
    ⟨.plain (.intro (.inl rfl) (.inl rfl) (.inl rfl)), TextForm.base64 (.inr rfl) hdigits⟩
  have hnone : Base64.encode (Text.utf8 "") = [] ++ List.replicate 0 Base64.pad := by decide
  have he : Writes "" ⟨"UTF-8", 'B', ""⟩ :=
    ⟨.plain (.intro (.inr rfl) (.inr rfl) (.inr rfl)), TextForm.base64 (.inl rfl) hnone⟩
  have h : Spelled ["é b", "", "é"] "=?Utf-8*fr?q?=c3=A9_b?==?UTF-8?B??=\r\n\t=?utf-8?b?w6k?=" :=
    .cons hq (.cons (g := []) (by decide) he (.cons (g := "\r\n\t") (by decide) hb .nil))
  have hs : ∀ t ∈ (["é b", "", "é"] : List Text), ∀ c ∈ t, c.isSurrogate = false := by decide
  exact ⟨h, hs, decode_of_spelled h hs⟩

end

end Header

end Mime
