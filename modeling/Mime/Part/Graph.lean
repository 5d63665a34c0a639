import Mime.Part.Basic

/-! Parts that share children, or contain themselves, form a graph. Its parts are numbered,
and a child is the number of a part. A number without a part counts as a part without
fields and without a body. -/

namespace Mime

abbrev PartId := Nat

structure Graph where
  nodes : List (Node PartId) := []

namespace Graph

def emptyNode : Node PartId := ⟨.bodyPart, [], none⟩

def node (g : Graph) (p : PartId) : Node PartId := g.nodes.getD p emptyNode

def size (g : Graph) : Nat := g.nodes.length

def children (g : Graph) (p : PartId) : List PartId := (g.node p).children

/-- Adds a part, whose number is the size of the graph before. -/
def add (g : Graph) (n : Node PartId) : Graph := ⟨g.nodes ++ [n]⟩

def modify (g : Graph) (p : PartId) (f : Node PartId → Node PartId) : Graph :=
  ⟨g.nodes.modify p f⟩

def setBody (g : Graph) (p : PartId) (b : Option (Body PartId)) : Graph :=
  g.modify p fun n => { n with body := b }

def setHeaders (g : Graph) (p : PartId) (f : Fields → Fields) : Graph :=
  g.modify p fun n => { n with headers := f n.headers }

/-- Appends a child to a multipart body; other bodies take none. -/
def addChild (g : Graph) (p child : PartId) : Except BodyFault Graph :=
  match (g.node p).body with
  | some (.multipart subtype parts) =>
    .ok (g.setBody p (some (.multipart subtype (parts ++ [child]))))
  | b => .error (.takesNoChildren (Body.shapeName b))

/-- A fresh stream over a raw body. -/
def openStream (g : Graph) (p : PartId) : Except BodyFault Octets :=
  match (g.node p).body with
  | some (.stream content) => .ok content
  | b => .error (.hasNoStream (Body.shapeName b))

theorem size_setBody (g : Graph) (p : PartId) (b : Option (Body PartId)) :
    (g.setBody p b).size = g.size := by
  simp [setBody, modify, size]

theorem node_setBody (g : Graph) (p q : PartId) (b : Option (Body PartId)) :
    (g.setBody p b).node q =
      if p = q ∧ q < g.size then { g.node q with body := b } else g.node q := by
  simp only [setBody, modify, node, List.getD_eq_getElem?_getD, List.getElem?_modify, size]
  by_cases h : p = q
  · subst h
    by_cases hq : p < g.nodes.length
    · simp [hq]
    · simp [hq]
  · simp [h]

theorem node_of_size_le {g : Graph} {p : PartId} (h : g.size ≤ p) : g.node p = emptyNode := by
  simp only [node, List.getD_eq_getElem?_getD]
  rw [List.getElem?_eq_none (by simpa [size] using h)]
  rfl

theorem children_of_size_le {g : Graph} {p : PartId} (h : g.size ≤ p) : g.children p = [] := by
  simp [children, node_of_size_le h, emptyNode, Node.children]

mutual

/-- Adds a part with everything below it, a part before its children. -/
def addTree (g : Graph) : Part → Graph × PartId
  | .mk ⟨kind, headers, some (.multipart subtype parts)⟩ =>
    let (g', ids) := addTrees (g.add ⟨kind, headers, none⟩) parts
    (g'.setBody g.size (some (.multipart subtype ids)), g.size)
  | .mk ⟨kind, headers, some (.text t)⟩ => (g.add ⟨kind, headers, some (.text t)⟩, g.size)
  | .mk ⟨kind, headers, some (.stream o)⟩ => (g.add ⟨kind, headers, some (.stream o)⟩, g.size)
  | .mk ⟨kind, headers, none⟩ => (g.add ⟨kind, headers, none⟩, g.size)

def addTrees (g : Graph) : List Part → Graph × List PartId
  | [] => (g, [])
  | p :: ps =>
    let (g', id) := addTree g p
    let (g'', ids) := addTrees g' ps
    (g'', id :: ids)

end

/-- A part alone in a graph, under the number zero. -/
def ofPart (p : Part) : Graph := (addTree {} p).1

end Graph

end Mime
