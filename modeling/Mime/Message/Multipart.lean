import Mime.Message.Line
import Mime.Header.Fold

/-! Cutting the body of a multipart message at its boundary lines. A boundary line is two
hyphens and the boundary, two more if it is the last, then blanks and a line break.
Boundary lines that follow each other count as one. -/

namespace Mime.Message

inductive BoundaryLine where
  | separating
  | closing
  deriving DecidableEq

def isBlankToEnd (t : Text) : Bool :=
  let r := t.dropWhile Header.isFoldingBlank
  r = [] || r = "\r\n" || r = "\r" || r = "\n"

/-- What a line is to a multipart with that boundary. -/
def boundaryLine? (boundary line : Text) : Option BoundaryLine :=
  let start : Text := "--" ++ boundary
  if !start.isPrefixOf line then none
  else
    let r := line.drop start.length
    if isBlankToEnd r then some .separating
    else if Text.startsWith r "--" && isBlankToEnd (r.drop 2) then some .closing
    else none

/-- The lines of each part, and whether a closing line came after the last. -/
structure Sections where
  parts : List (List Text)
  closed : Bool

def isOrdinary (kind : Text → Option BoundaryLine) (l : Text) : Bool := (kind l).isNone

/-- The lines after the boundary lines at the start. -/
def afterBoundary (kind : Text → Option BoundaryLine) (lines : List Text) : List Text :=
  lines.dropWhile (!isOrdinary kind ·)

theorem length_afterBoundary_le (kind : Text → Option BoundaryLine) (lines : List Text) :
    (afterBoundary kind lines).length ≤ lines.length :=
  (List.dropWhile_sublist _).length_le

theorem length_of_dropWhile_eq {p : Text → Bool} {lines more : List Text} {l : Text}
    (h : lines.dropWhile p = l :: more) : more.length < lines.length := by
  have := (List.dropWhile_sublist p (l := lines)).length_le
  rw [h, List.length_cons] at this
  omega

/-- Cuts the lines that follow a boundary line into parts. -/
def sections (kind : Text → Option BoundaryLine) (lines : List Text) : Sections :=
  let part := (afterBoundary kind lines).takeWhile (isOrdinary kind)
  match h : (afterBoundary kind lines).dropWhile (isOrdinary kind) with
  | [] => ⟨[part], false⟩
  | l :: more =>
    have := length_of_dropWhile_eq h
    have := length_afterBoundary_le kind lines
    if kind l = some .closing then ⟨[part], true⟩
    else ⟨part :: (sections kind more).parts, (sections kind more).closed⟩
termination_by lines.length

theorem length_of_mem_sections {kind : Text → Option BoundaryLine} {lines p : List Text}
    (hp : p ∈ (sections kind lines).parts) : p.length ≤ lines.length := by
  induction hn : lines.length using Nat.strongRecOn generalizing lines with
  | ind n ih =>
    subst hn
    have hle := length_afterBoundary_le kind lines
    have hpart : ((afterBoundary kind lines).takeWhile (isOrdinary kind)).length ≤ lines.length :=
      Nat.le_trans (List.takeWhile_sublist _).length_le hle
    unfold sections at hp
    split at hp
    · simp only [List.mem_singleton] at hp
      exact hp ▸ hpart
    · rename_i l more h
      have hlt := length_of_dropWhile_eq h
      split at hp
      · simp only [List.mem_singleton] at hp
        exact hp ▸ hpart
      · rcases List.mem_cons.1 hp with rfl | hp
        · exact hpart
        · have := ih more.length (by omega) hp rfl
          omega

/-- What the lines of a multipart body amount to. -/
inductive Division where
  /-- No part begins; the lines up to a closing line are text. -/
  | undivided (lines : List Text)
  | divided (s : Sections)

/-- Lines before the first boundary line are no part of the message. -/
def divide (kind : Text → Option BoundaryLine) (lines : List Text) : Division :=
  match lines.dropWhile (isOrdinary kind) with
  | [] => .undivided lines
  | l :: more =>
    if kind l = some .closing then .undivided (lines.takeWhile (isOrdinary kind))
    else .divided (sections kind more)

theorem length_of_mem_divide {kind : Text → Option BoundaryLine} {lines p : List Text}
    {s : Sections} (h : divide kind lines = .divided s) (hp : p ∈ s.parts) :
    p.length < lines.length := by
  unfold divide at h
  split at h
  · cases h
  · rename_i l more hd
    split at h
    · cases h
    · cases h
      have := length_of_mem_sections hp
      have := length_of_dropWhile_eq hd
      omega

/-- The blocks between empty lines. An empty line at the very end begins no further block. -/
def blocks : List Text → List (List Text)
  | [] => [[]]
  | l :: ls =>
    if Line.isEmpty l then (if ls = [] then [[]] else [] :: blocks ls)
    else match blocks ls with
      | [] => [[l]]
      | b :: bs => (l :: b) :: bs

theorem length_of_mem_blocks {lines b : List Text} (h : b ∈ blocks lines) :
    b.length ≤ lines.length := by
  induction lines generalizing b with
  | nil => simp_all [blocks]
  | cons l ls ih =>
    unfold blocks at h
    split at h
    · split at h
      · simp_all
      · rcases List.mem_cons.1 h with rfl | h
        · simp
        · have := ih h
          simp
          omega
    · split at h
      · simp_all
      · rename_i b' bs hb
        rcases List.mem_cons.1 h with rfl | h
        · have := ih (b := b') (by simp [hb])
          simpa using this
        · have := ih (b := b) (by simp [hb, h])
          simp
          omega

end Mime.Message
