import Mime.Message.Line
import Mime.Header.Fields
import Mime.Header.Fold
import Mime.Text.Blank

/-! The header block at the start of a message: fields, which may go on over several lines,
up to an empty line or the first line that cannot belong to a field. What is wrong with the
block is noted and does not stop the reading. -/

namespace Mime

/-- Something that a well-formed message does not have. -/
inductive Defect where
  | missingSeparator
  | firstLineContinues
  | misplacedEnvelope
  | invalidHeader
  | noBoundary
  | invalidMultipartEncoding
  | startBoundaryNotFound
  | closeBoundaryNotFound
  | multipartWithoutParts
  deriving DecidableEq

def Defect.name : Defect → Text
  | missingSeparator => "MissingHeaderBodySeparatorDefect"
  | firstLineContinues => "FirstHeaderLineIsContinuationDefect"
  | misplacedEnvelope => "MisplacedEnvelopeHeaderDefect"
  | invalidHeader => "InvalidHeaderDefect"
  | noBoundary => "NoBoundaryInMultipartDefect"
  | invalidMultipartEncoding => "InvalidMultipartContentTransferEncodingDefect"
  | startBoundaryNotFound => "StartBoundaryNotFoundDefect"
  | closeBoundaryNotFound => "CloseBoundaryNotFoundDefect"
  | multipartWithoutParts => "MultipartInvariantViolationDefect"

/-- The fields of a block, its defects, and the lines of the body. -/
structure HeaderBlock where
  fields : Fields
  defects : List Defect
  rest : List Text

namespace HeaderBlock

def isNameChar (c : CodePoint) : Bool := c.between '!' '~' && c != ':'

def isEnvelope (l : Text) : Bool := l.startsWith "From "

def isContinuation (l : Text) : Bool := l.head?.any Header.isFoldingBlank

/-- Whether a line can belong to a header block. -/
def isFieldLine (l : Text) : Bool :=
  isEnvelope l || isContinuation l || (l.dropWhile isNameChar).head? == some ':'

/-- The field that its lines make up, the first of which has the colon. Continuation lines
keep their breaks, except at the end. -/
def fieldOf (line : Text) (continuation : List Text) : Text × Text :=
  let value := ((line.cut ':').2.getD []).dropWhile Header.isFoldingBlank
  ((line.cut ':').1, Text.trimEndWhere Line.isBreak (value ++ continuation.flatten))

/-- What the lines of a block amount to. `pushedBack` is a line that turned out to belong to
the body. -/
structure Content where
  fields : Fields
  defects : List Defect
  pushedBack : Option Text

namespace Content

def empty : Content := ⟨[], [], none⟩

def withDefect (d : Defect) (c : Content) : Content := { c with defects := d :: c.defects }

def withField (f : Option (Text × Text)) (c : Content) : Content :=
  { c with fields := f.toList ++ c.fields }

end Content

/-- Reads the lines of a block. `first` says that none was read before, and `pending` is the
field at hand, which further lines may continue. -/
def readLines (first : Bool) (pending : Option (Text × List Text)) : List Text → Content
  | [] => Content.empty.withField (pending.map fun p => fieldOf p.1 p.2)
  | l :: ls =>
    if isContinuation l then
      match pending with
      | none => (readLines false none ls).withDefect .firstLineContinues
      | some (line, more) => readLines false (some (line, more ++ [l])) ls
    else Content.withField (pending.map fun p => fieldOf p.1 p.2) <|
      if isEnvelope l then
        if first then readLines false none ls
        else if ls = [] then ⟨[], [], some l⟩
        else (readLines false none ls).withDefect .misplacedEnvelope
      else if l.startsWith ":" then (readLines false none ls).withDefect .invalidHeader
      else readLines false (some (l, [])) ls

/-- The lines after a block: an empty line that ends it is dropped. -/
def bodyLines (after : List Text) : List Text :=
  match after with
  | [] => []
  | l :: ls => if Line.isEmpty l then ls else l :: ls

def separatorDefects (after : List Text) : List Defect :=
  match after with
  | [] => []
  | l :: _ => if Line.isEmpty l then [] else [.missingSeparator]

def ofLines (lines : List Text) : HeaderBlock :=
  let content := readLines true none (lines.takeWhile isFieldLine)
  let after := lines.dropWhile isFieldLine
  ⟨content.fields, separatorDefects after ++ content.defects,
    content.pushedBack.toList ++ bodyLines after⟩

theorem length_bodyLines_le (after : List Text) : (bodyLines after).length ≤ after.length := by
  unfold bodyLines
  split
  · simp
  · split <;> simp

@[simp] theorem Content.pushedBack_withField (f : Option (Text × Text)) (c : Content) :
    (c.withField f).pushedBack = c.pushedBack := rfl

@[simp] theorem Content.pushedBack_withDefect (d : Defect) (c : Content) :
    (c.withDefect d).pushedBack = c.pushedBack := rfl

/-- A line is pushed back only if it is not the first. -/
theorem length_of_pushedBack {l : Text} {ls : List Text} {first : Bool}
    {pending : Option (Text × List Text)}
    (h : (readLines first pending ls).pushedBack = some l) :
    (if first then 2 else 1) ≤ ls.length := by
  induction ls generalizing first pending with
  | nil => simp [readLines, Content.empty] at h
  | cons m ms ih =>
    have tail : ∀ {p}, (readLines false p ms).pushedBack = some l → 1 ≤ ms.length := fun h => by
      simpa using ih h
    unfold readLines at h
    split at h
    · split at h
      · have := tail (by simpa using h)
        simp
        split <;> omega
      · have := tail h
        simp
        split <;> omega
    · rw [Content.pushedBack_withField] at h
      split at h
      · split at h
        · have := tail h
          simp
          split <;> omega
        · split at h
          · simp [*]
          · have := tail (by simpa using h)
            simp
            split <;> omega
      · split at h
        · have := tail (by simpa using h)
          simp
          split <;> omega
        · have := tail h
          simp
          split <;> omega

theorem length_rest_le (lines : List Text) : (ofLines lines).rest.length ≤ lines.length := by
  have hlen : (lines.takeWhile isFieldLine).length + (lines.dropWhile isFieldLine).length
      = lines.length := by
    rw [← List.length_append, List.takeWhile_append_dropWhile]
  have hbody := length_bodyLines_le (lines.dropWhile isFieldLine)
  simp only [ofLines, List.length_append]
  cases h : (readLines true none (lines.takeWhile isFieldLine)).pushedBack with
  | none =>
    simp
    omega
  | some l =>
    have := length_of_pushedBack h
    simp at this ⊢
    omega

/-- A block with fields takes at least one line away. -/
theorem length_rest_lt {lines : List Text} (hf : (ofLines lines).fields ≠ []) :
    (ofLines lines).rest.length < lines.length := by
  have hlen : (lines.takeWhile isFieldLine).length + (lines.dropWhile isFieldLine).length
      = lines.length := by
    rw [← List.length_append, List.takeWhile_append_dropWhile]
  have hbody := length_bodyLines_le (lines.dropWhile isFieldLine)
  have hne : lines.takeWhile isFieldLine ≠ [] := by
    intro h
    simp [ofLines, h, readLines, Content.empty, Content.withField] at hf
  have hpos := List.length_pos_iff.2 hne
  simp only [ofLines, List.length_append]
  cases h : (readLines true none (lines.takeWhile isFieldLine)).pushedBack with
  | none =>
    simp
    omega
  | some l =>
    have := length_of_pushedBack h
    simp at this ⊢
    omega

end HeaderBlock

end Mime
