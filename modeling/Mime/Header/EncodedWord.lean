import Mime.Text.Blank

/-! Encoded words, `=?charset?B|Q?text?=`, and where they stand in a header value. `split`
takes the leftmost word, then the leftmost in what follows it, and so on. -/

namespace Mime

structure EncodedWord where
  charset : Text
  /-- The letter of the encoding, B or Q in either case. -/
  letter : CodePoint
  text : Text
  deriving DecidableEq

/-- What follows `lit`, if the text starts with it. -/
def Text.after? (lit t : Text) : Option Text :=
  if lit.isPrefixOf t then some (t.drop lit.length) else none

theorem Text.after?_eq_some_iff {lit t r : Text} : after? lit t = some r ↔ t = lit ++ r := by
  constructor
  · intro h
    unfold after? at h
    split at h
    · rename_i hp
      obtain ⟨s, rfl⟩ := List.isPrefixOf_iff_prefix.1 hp
      simp at h
      rw [h]
    · cases h
  · rintro rfl
    have hp : lit.isPrefixOf (lit ++ r) = true :=
      List.isPrefixOf_iff_prefix.2 (List.prefix_append _ _)
    simp [after?, hp]

namespace EncodedWord

def verbatim (w : EncodedWord) : Text :=
  "=?" ++ (w.charset ++ ("?" ++ (w.letter :: ("?" ++ (w.text ++ "?=")))))

/-- The characters that a charset and an encoded text are made of. -/
def isToken (c : CodePoint) : Bool := c != '?' && !c.isBlank

def isLetter (c : CodePoint) : Bool := c == 'b' || c == 'B' || c == 'q' || c == 'Q'

/-- The word at the very start of a text, and what follows it. -/
def read? (t : Text) : Option (EncodedWord × Text) :=
  (Text.after? "=?" t).bind fun r =>
    let charset := r.takeWhile isToken
    if charset = [] then none else
    (Text.after? "?" (r.dropWhile isToken)).bind fun r =>
      match r with
      | [] => none
      | letter :: r =>
        if !isLetter letter then none else
        (Text.after? "?" r).bind fun r =>
          (Text.after? "?=" (r.dropWhile isToken)).map fun rest =>
            (⟨charset, letter, r.takeWhile isToken⟩, rest)

theorem eq_of_read? {t rest : Text} {w : EncodedWord} (h : read? t = some (w, rest)) :
    t = w.verbatim ++ rest := by
  simp only [read?, Option.bind_eq_some_iff, Text.after?_eq_some_iff] at h
  obtain ⟨r, rfl, h⟩ := h
  split at h
  · cases h
  · simp only [Option.bind_eq_some_iff, Text.after?_eq_some_iff] at h
    obtain ⟨r', hr, h⟩ := h
    split at h
    · cases h
    · rename_i letter r₂
      split at h
      · cases h
      · simp only [Option.bind_eq_some_iff, Option.map_eq_some_iff, Text.after?_eq_some_iff,
          Prod.mk.injEq] at h
        obtain ⟨r₃, rfl, rest', hrest, rfl, rfl⟩ := h
        have h₁ : r = r.takeWhile isToken ++ r.dropWhile isToken :=
          List.takeWhile_append_dropWhile.symm
        have h₂ : r₃ = r₃.takeWhile isToken ++ r₃.dropWhile isToken :=
          List.takeWhile_append_dropWhile.symm
        rw [hr] at h₁
        rw [hrest] at h₂
        simp only [verbatim, List.append_assoc, List.cons_append]
        rw [← h₂, ← h₁]

theorem length_of_read? {t rest : Text} {w : EncodedWord} (h : read? t = some (w, rest)) :
    rest.length < t.length := by
  rw [eq_of_read? h]
  simp [verbatim]
  omega

/-- The words of a text from left to right, each with the gap before it, and the text after
the last. -/
def split (t : Text) : List (Text × EncodedWord) × Text :=
  match h : read? t with
  | some (w, rest) =>
    have := length_of_read? h
    (([], w) :: (split rest).1, (split rest).2)
  | none =>
    match t with
    | [] => ([], [])
    | c :: r =>
      match split r with
      | ([], last) => ([], c :: last)
      | ((gap, w) :: more, last) => ((c :: gap, w) :: more, last)
termination_by t.length

theorem split_of_read? {t rest : Text} {w : EncodedWord} (h : read? t = some (w, rest)) :
    split t = (([], w) :: (split rest).1, (split rest).2) := by
  rw [split]
  split
  · rename_i h'
    rw [h] at h'
    cases h'
    rfl
  · rename_i h'
    rw [h] at h'
    cases h'

theorem split_nil : split [] = ([], []) := by
  rw [split]
  rfl

theorem split_cons {c : CodePoint} {r : Text} (h : read? (c :: r) = none) :
    split (c :: r) = match split r with
      | ([], last) => ([], c :: last)
      | ((gap, w) :: more, last) => ((c :: gap, w) :: more, last) := by
  rw [split]
  split
  · rename_i h'
    rw [h] at h'
    cases h'
  · rfl

/-- The text that gaps and words make up. -/
def unsplit (ps : List (Text × EncodedWord)) (last : Text) : Text :=
  ps.flatMap (fun p => p.1 ++ p.2.verbatim) ++ last

/-- Nothing is lost in splitting. -/
theorem unsplit_split (t : Text) : unsplit (split t).1 (split t).2 = t := by
  induction hn : t.length using Nat.strongRecOn generalizing t with
  | ind n ih =>
    subst hn
    cases h : read? t with
    | some p =>
      have := ih p.2.length (length_of_read? h) p.2 rfl
      rw [split_of_read? h]
      conv => rhs; rw [eq_of_read? h, ← this]
      simp [unsplit]
    | none =>
      cases t with
      | nil => rw [split_nil]; rfl
      | cons c r =>
        have hr := ih r.length (by simp) r rfl
        rw [split_cons h]
        cases hs : split r with
        | mk ps last =>
          rw [hs] at hr
          cases ps <;> simpa [unsplit] using hr

end EncodedWord

end Mime
