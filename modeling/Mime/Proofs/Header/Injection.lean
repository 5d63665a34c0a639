import Mime.Proofs.Header.Encode
import Mime.Proofs.Header.Fold

/-! A written value cannot begin a header line of its own: `sealed_foldAndEncode`. Both ways of
writing join lines of plain characters, and whatever follows a line break is a blank and text. -/

namespace Mime.Header

open EncodedWord

/-- One space or tab, and then a character that is neither of them and no line break. -/
def BeginsText (t : Text) : Prop :=
  ∃ (blank c : CodePoint) (r : Text), t = blank :: c :: r ∧ (blank = ' ' ∨ blank = '\t') ∧
    c ≠ ' ' ∧ c ≠ '\t' ∧ c ≠ '\r' ∧ c ≠ '\n'

/-- Besides plain characters there are only line breaks of two characters, and one blank and
text after each of them. -/
structure Sealed (t : Text) : Prop where
  plain : ∀ c ∈ t, IsPlain c ∨ c = '\r' ∨ c = '\n'
  after_return : ∀ a b : Text, t = a ++ ('\r' : CodePoint) :: b →
    ∃ r : Text, b = ('\n' : CodePoint) :: r ∧ BeginsText r
  before_feed : ∀ a b : Text, t = a ++ ('\n' : CodePoint) :: b → ∃ r : Text, a = r ++ "\r"

theorem BeginsText.of_continues {line : Text} (hc : Continues line)
    (hp : ∀ c ∈ line, IsPlain c) : BeginsText line := by
  obtain ⟨blank, c, r, rfl, hb, hn⟩ := hc
  have hpc : IsPlain c := hp c (by simp)
  rw [isFoldingBlank, Bool.or_eq_true, beq_iff_eq, beq_iff_eq] at hb
  rw [isFoldingBlank, Bool.or_eq_false_iff, beq_eq_false_iff_ne, beq_eq_false_iff_ne] at hn
  exact ⟨blank, c, r, rfl, hb, hn.1, hn.2, hpc.ne_return, hpc.ne_feed⟩

theorem BeginsText.append {t : Text} (h : BeginsText t) (more : Text) : BeginsText (t ++ more) := by
  obtain ⟨blank, c, r, rfl, hb, hc⟩ := h
  exact ⟨blank, c, r ++ more, rfl, hb, hc⟩

theorem sealed_of_plain {t : Text} (h : ∀ c ∈ t, IsPlain c) : Sealed t where
  plain c hc := .inl (h c hc)
  after_return a b ht := absurd rfl (h '\r' (by simp [ht])).ne_return
  before_feed a b ht := absurd rfl (h '\n' (by simp [ht])).ne_feed

/-- Where a character can stand in broken lines, if the first of them does not have it. -/
theorem occurs_after_line {line rest a b : Text} {x : CodePoint} (hx : x ∉ line)
    (h : line ++ (lineBreak ++ rest) = a ++ x :: b) :
    (x = '\r' ∧ b = ('\n' : CodePoint) :: rest) ∨ (x = '\n' ∧ a = line ++ "\r") ∨
      ∃ u, a = line ++ (lineBreak ++ u) ∧ rest = u ++ x :: b := by
  have hbreak : lineBreak ++ rest = ('\r' : CodePoint) :: '\n' :: rest := rfl
  rw [hbreak] at h
  rcases List.append_eq_append_iff.1 h with ⟨u, rfl, hu⟩ | ⟨u, hline, hu⟩
  · match u with
    | [] =>
      obtain ⟨rfl, rfl⟩ := List.cons.inj hu
      exact .inl ⟨rfl, rfl⟩
    | [d] =>
      obtain ⟨rfl, hv⟩ := List.cons.inj hu
      obtain ⟨rfl, -⟩ := List.cons.inj hv
      exact .inr (.inl ⟨rfl, rfl⟩)
    | d :: e :: u =>
      obtain ⟨rfl, hv⟩ := List.cons.inj hu
      obtain ⟨rfl, hw⟩ := List.cons.inj hv
      exact .inr (.inr ⟨u, rfl, hw⟩)
  · cases u with
    | nil =>
      obtain ⟨rfl, rfl⟩ := List.cons.inj hu
      exact .inl ⟨rfl, rfl⟩
    | cons d u =>
      obtain ⟨rfl, -⟩ := List.cons.inj hu
      exact absurd (by simp [hline]) hx

/-- One more line in front keeps a value sealed, if what follows its break is a blank and text. -/
theorem Sealed.cons {line rest : Text} (hl : ∀ c ∈ line, IsPlain c) (hr : Sealed rest)
    (hb : BeginsText rest) : Sealed (line ++ (lineBreak ++ rest)) where
  plain c h := by
    rcases List.mem_append.1 h with h | h
    · exact .inl (hl c h)
    rcases List.mem_append.1 h with h | h
    · have : ∀ d ∈ lineBreak, d = '\r' ∨ d = '\n' := by decide
      exact .inr (this c h)
    · exact hr.plain c h
  after_return a b h := by
    rcases occurs_after_line (fun hx => (hl _ hx).ne_return rfl) h with
      ⟨-, rfl⟩ | ⟨h, -⟩ | ⟨u, -, hu⟩
    · exact ⟨rest, rfl, hb⟩
    · exact absurd h (by decide)
    · exact hr.after_return u b hu
  before_feed a b h := by
    rcases occurs_after_line (fun hx => (hl _ hx).ne_feed rfl) h with
      ⟨h, -⟩ | ⟨-, rfl⟩ | ⟨u, rfl, hu⟩
    · exact absurd h (by decide)
    · exact ⟨line, rfl⟩
    · obtain ⟨r, rfl⟩ := hr.before_feed u b hu
      exact ⟨line ++ (lineBreak ++ r), by simp⟩

theorem sealed_joinLines {first : Text} {more : List Text} (hf : ∀ c ∈ first, IsPlain c)
    (hm : ∀ line ∈ more, Continues line ∧ ∀ c ∈ line, IsPlain c) :
    Sealed (joinLines first more) := by
  induction more generalizing first with
  | nil =>
    rw [joinLines, List.flatMap_nil, List.append_nil]
    exact sealed_of_plain hf
  | cons line more ih =>
    obtain ⟨hc, hp⟩ := hm line List.mem_cons_self
    have hr := ih hp fun x hx => hm x (List.mem_cons_of_mem line hx)
    rw [joinLines_cons]
    exact hr.cons hf ((BeginsText.of_continues hc hp).append _)

theorem sealed_fold {t : Text} (h : ∀ c ∈ t, IsPlain c) (used width : Int) :
    Sealed (fold used width t) := by
  refine sealed_joinLines (fun c hc => ?_) fun line hl => ⟨?_, fun c hc => ?_⟩
  · exact h c (mem_of_mem_foldedLines (List.mem_append_left _ hc))
  · exact continues_of_mem_foldedLines hl
  · exact h c (mem_of_mem_foldedLines
      (List.mem_append_right _ (List.mem_flatten_of_mem hl hc)))

theorem sealed_wordLines (used width : Int) (t : Text) :
    Sealed (joinLines (wordLines used width t).1 (wordLines used width t).2) := by
  obtain ⟨first, more, -, -, -, hl⟩ := wordLines_pieces used width t
  rw [hl]
  refine sealed_joinLines (fun c hc => ?_) fun line hline => ?_
  · unfold lineOf at hc
    split at hc
    · cases hc
    · exact isPlain_of_mem_verbatim hc
  · obtain ⟨x, -, rfl⟩ := List.mem_map.1 hline
    refine ⟨⟨' ', '=', (ofText x).verbatim.tail, rfl, by decide, by decide⟩, fun c hc => ?_⟩
    rcases List.mem_append.1 hc with hc | hc
    · rw [List.mem_singleton.1 hc]
      exact .inr (by decide)
    · exact isPlain_of_mem_verbatim hc

/-- Nothing that is written as a value, be it folded or encoded, ends its header field. -/
theorem sealed_foldAndEncode (used width : Int) (t : Text) :
    Sealed (foldAndEncode used width t) := by
  unfold foldAndEncode
  split
  · rename_i h
    rw [encodeWords, if_pos h]
    exact sealed_wordLines used width t
  · rename_i h
    exact sealed_fold (plain_of_not_needsEncoding (by simpa using h)).1 used width

end Mime.Header
