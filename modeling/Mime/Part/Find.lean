import Mime.Part.Walk
import Mime.Part.Classify

/-! Finding parts, and sorting the leaves of a graph into what is shown and what is attached. -/

namespace Mime

/-- A content id without the blanks and the angle brackets around it. -/
def normalizeContentId (t : Text) : Text :=
  let t := t.trim
  if t.enclosedBy '<' '>' then t.inner.trim else t

namespace Graph

/-- The first part with that content id, given with or without its brackets. -/
def findByContentId [Charset.Registry] (g : Graph) (root : Option PartId) (id : Option Text) (limit : Int) :
    Traced Charset.LabelFault (Option PartId) :=
  match id with
  | none => pure none
  | some id =>
    let test (p : PartId) : Traced Charset.LabelFault Bool :=
      match (g.node p).contentId? with
      | none => pure false
      | some stored => do
        return normalizeContentId (← Header.unfoldAndDecode stored) == normalizeContentId id
    firstVisited test (g.walk root limit)

/-- The first part whose type matches one of the patterns. -/
def findByType {ε : Type} (g : Graph) (root : Option PartId) (patterns : List (Option Text))
    (limit : Int) : Traced ε (Option PartId) :=
  let test (p : PartId) : Traced ε Bool :=
    pure (MediaType.matchesAny (some (g.node p).mimeType) patterns)
  firstVisited test (g.walk root limit)

/-- Adds one leaf to the list that it belongs to. -/
def sortLeaf (g : Graph) (lists : List PartId × List PartId) (p : PartId) :
    List PartId × List PartId :=
  if (g.node p).isMultipart then lists
  else if (g.node p).isViewable then (lists.1 ++ [p], lists.2)
  else (lists.1, lists.2 ++ [p])

/-- Appends the leaves of a walk to two lists: those to be shown, and the rest. -/
def collect {ε : Type} (g : Graph) (root : Option PartId) (limit : Int)
    (viewables attachments : List PartId) : Traced ε (List PartId × List PartId) := do
  let ps ← g.walkParts root limit
  return ps.foldl g.sortLeaf (viewables, attachments)

end Graph

end Mime
