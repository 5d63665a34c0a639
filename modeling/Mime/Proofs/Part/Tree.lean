import Mathlib.Data.List.Forall2
import Mime.Proofs.Part.DocumentOrder

/-! A part alone in a graph. The parts of the tree are numbered in document order, so a walk of the
graph that is not cut off goes through all numbers one after the other, and finds at each of them
what a walk of the tree finds: `shows_parts_ofPart`. -/

namespace Mime

namespace Part

mutual

/-- A part and what is below it, a part before its children. -/
def walk : Part → List (Node Part)
  | .mk ⟨kind, headers, some (.multipart subtype parts)⟩ =>
    ⟨kind, headers, some (.multipart subtype parts)⟩ :: walkAll parts
  | .mk ⟨kind, headers, some (.text t)⟩ => [⟨kind, headers, some (.text t)⟩]
  | .mk ⟨kind, headers, some (.stream o)⟩ => [⟨kind, headers, some (.stream o)⟩]
  | .mk ⟨kind, headers, none⟩ => [⟨kind, headers, none⟩]

def walkAll : List Part → List (Node Part)
  | [] => []
  | p :: ps => walk p ++ walkAll ps

end

def leaves (p : Part) : List (Node Part) := p.walk.filter (!·.isMultipart)

mutual

/-- How far the part goes down below itself. -/
def height : Part → Nat
  | .mk ⟨_, _, some (.multipart _ parts)⟩ => heightBelow parts
  | .mk ⟨_, _, some (.text _)⟩ => 0
  | .mk ⟨_, _, some (.stream _)⟩ => 0
  | .mk ⟨_, _, none⟩ => 0

/-- How far it is from a part to the lowest that its children lead to. -/
def heightBelow : List Part → Nat
  | [] => 0
  | p :: ps => max (height p + 1) (heightBelow ps)

end

end Part

namespace Graph

/-- The numbers of parts that come one after the other, each with what is below it, from `n` on. -/
def heads (n : Nat) : List Part → List PartId
  | [] => []
  | p :: ps => n :: heads (n + p.walk.length) ps

mutual

/-- A part and what is below it, in document order and numbered from `n` on. -/
def numbered (n : Nat) : Part → List (Node PartId)
  | .mk ⟨kind, headers, some (.multipart subtype parts)⟩ =>
    ⟨kind, headers, some (.multipart subtype (heads (n + 1) parts))⟩ :: numberedAll (n + 1) parts
  | .mk ⟨kind, headers, some (.text t)⟩ => [⟨kind, headers, some (.text t)⟩]
  | .mk ⟨kind, headers, some (.stream o)⟩ => [⟨kind, headers, some (.stream o)⟩]
  | .mk ⟨kind, headers, none⟩ => [⟨kind, headers, none⟩]

def numberedAll (n : Nat) : List Part → List (Node PartId)
  | [] => []
  | p :: ps => numbered n p ++ numberedAll (n + p.walk.length) ps

end

mutual

theorem length_numbered (n : Nat) : (p : Part) → (numbered n p).length = p.walk.length
  | .mk ⟨_, _, some (.multipart _ parts)⟩ => by
    rw [numbered, Part.walk, List.length_cons, List.length_cons, length_numberedAll (n + 1) parts]
  | .mk ⟨_, _, some (.text _)⟩ => by rw [numbered, Part.walk]; rfl
  | .mk ⟨_, _, some (.stream _)⟩ => by rw [numbered, Part.walk]; rfl
  | .mk ⟨_, _, none⟩ => by rw [numbered, Part.walk]; rfl

theorem length_numberedAll (n : Nat) :
    (ps : List Part) → (numberedAll n ps).length = (Part.walkAll ps).length
  | [] => by rw [numberedAll, Part.walkAll]; rfl
  | p :: ps => by
    rw [numberedAll, Part.walkAll, List.length_append, List.length_append, length_numbered n p,
      length_numberedAll _ ps]

end

/-- The body of the part that was added last but for what is below it. -/
theorem setBody_append (g : Graph) (x : Node PartId) (b : Option (Body PartId))
    (below : List (Node PartId)) :
    (⟨g.nodes ++ x :: below⟩ : Graph).setBody g.size b =
      ⟨g.nodes ++ { x with body := b } :: below⟩ :=
  congrArg Graph.mk (List.modifyTailIdx_add _ 0 g.nodes (x :: below))

mutual

theorem addTree_eq (g : Graph) :
    (p : Part) → g.addTree p = (⟨g.nodes ++ numbered g.size p⟩, g.size)
  | .mk ⟨kind, headers, some (.multipart subtype parts)⟩ => by
    have hsize : (g.add ⟨kind, headers, none⟩).size = g.size + 1 := by
      rw [size, add, List.length_append, List.length_singleton]
      rfl
    rw [addTree, addTrees_eq _ parts, hsize, add, numbered]
    dsimp only
    rw [List.append_assoc, List.singleton_append, setBody_append]
  | .mk ⟨_, _, some (.text _)⟩ => by rw [addTree, numbered]; rfl
  | .mk ⟨_, _, some (.stream _)⟩ => by rw [addTree, numbered]; rfl
  | .mk ⟨_, _, none⟩ => by rw [addTree, numbered]; rfl

theorem addTrees_eq (g : Graph) :
    (ps : List Part) → g.addTrees ps = (⟨g.nodes ++ numberedAll g.size ps⟩, heads g.size ps)
  | [] => by rw [addTrees, numberedAll, List.append_nil, heads]
  | p :: ps => by
    have hsize : (⟨g.nodes ++ numbered g.size p⟩ : Graph).size = g.size + p.walk.length := by
      rw [size, List.length_append, length_numbered]
      rfl
    rw [addTrees, addTree_eq g p]
    dsimp only
    rw [addTrees_eq _ ps, hsize, numberedAll, heads, List.append_assoc]

end

theorem ofPart_eq (p : Part) : ofPart p = ⟨numbered 0 p⟩ := by
  rw [ofPart, addTree_eq]
  rfl

/-- The parts of the graph from the number `n` on begin with these. -/
def Holds (g : Graph) (n : Nat) : List (Node PartId) → Prop
  | [] => True
  | x :: xs => g.node n = x ∧ Holds g (n + 1) xs

variable {g : Graph} {n k : Nat}

theorem holds_append {xs ys : List (Node PartId)} :
    g.Holds n (xs ++ ys) ↔ g.Holds n xs ∧ g.Holds (n + xs.length) ys := by
  induction xs generalizing n with
  | nil => exact ⟨fun h => ⟨trivial, h⟩, And.right⟩
  | cons x xs ih =>
    rw [List.cons_append, Holds, Holds, ih, and_assoc, List.length_cons, Nat.add_right_comm,
      Nat.add_assoc]

theorem holds_self (before xs : List (Node PartId)) :
    Holds ⟨before ++ xs⟩ before.length xs := by
  induction xs generalizing before with
  | nil => trivial
  | cons x xs ih =>
    refine ⟨?_, ?_⟩
    · rw [node, List.getD_eq_getElem?_getD, List.getElem?_append_right (Nat.le_refl _),
        Nat.sub_self]
      rfl
    · have h := ih (before ++ [x])
      rwa [List.append_assoc, List.singleton_append, List.length_append] at h

theorem holds_ofPart (p : Part) : (ofPart p).Holds 0 (numbered 0 p) := by
  rw [ofPart_eq]
  exact holds_self [] (numbered 0 p)

/-- The first number goes to the part itself. -/
theorem kind_of_holds {p : Part} (h : g.Holds n (numbered n p)) :
    (g.node n).kind = p.node.kind := by
  match p with
  | .mk ⟨_, _, some (.multipart ..)⟩ => rw [numbered] at h; rw [h.1]; rfl
  | .mk ⟨_, _, some (.text _)⟩ => rw [numbered] at h; rw [h.1]; rfl
  | .mk ⟨_, _, some (.stream _)⟩ => rw [numbered] at h; rw [h.1]; rfl
  | .mk ⟨_, _, none⟩ => rw [numbered] at h; rw [h.1]; rfl

theorem holds_numberedAll_cons {p : Part} {ps : List Part} :
    g.Holds n (numberedAll n (p :: ps)) ↔
      g.Holds n (numbered n p) ∧
        g.Holds (n + p.walk.length) (numberedAll (n + p.walk.length) ps) := by
  rw [numberedAll, holds_append, length_numbered]

/-- The numbers of the children go to parts of their kinds. -/
theorem kinds_of_holds {ps : List Part} (h : g.Holds n (numberedAll n ps)) :
    List.Forall₂ (fun c q => (g.node c).kind = q.node.kind) (heads n ps) ps := by
  induction ps generalizing n with
  | nil => exact .nil
  | cons p ps ih =>
    obtain ⟨hp, hps⟩ := holds_numberedAll_cons.1 h
    exact .cons (kind_of_holds hp) (ih hps)

/-- The part of that number shows what the node of a tree does: its kind, its fields, and its body,
where each child has become a number that goes to a part of its kind. -/
def Shows (g : Graph) (x : Node Part) (i : PartId) : Prop :=
  (g.node i).kind = x.kind ∧ (g.node i).headers = x.headers ∧
    match x.body with
    | some (.multipart subtype parts) =>
      ∃ ids, (g.node i).body = some (.multipart subtype ids) ∧
        List.Forall₂ (fun c q => (g.node c).kind = q.node.kind) ids parts
    | some (.text t) => (g.node i).body = some (.text t)
    | some (.stream o) => (g.node i).body = some (.stream o)
    | none => (g.node i).body = none

mutual

/-- Number by number, the graph shows what the walk of the tree finds. -/
theorem shows_numbered {n : Nat} : {p : Part} → g.Holds n (numbered n p) →
    List.Forall₂ g.Shows p.walk (List.range' n p.walk.length)
  | .mk ⟨_, _, some (.multipart _ parts)⟩, h => by
    rw [numbered] at h
    rw [Part.walk, List.length_cons, List.range'_succ]
    obtain ⟨hn, hparts⟩ := h
    refine .cons ⟨by rw [hn], by rw [hn], _, by rw [hn], ?_⟩ (shows_numberedAll hparts)
    exact kinds_of_holds hparts
  | .mk ⟨_, _, some (.text _)⟩, h => by
    rw [numbered] at h
    rw [Part.walk]
    exact .cons ⟨by rw [h.1], by rw [h.1], by rw [h.1]⟩ .nil
  | .mk ⟨_, _, some (.stream _)⟩, h => by
    rw [numbered] at h
    rw [Part.walk]
    exact .cons ⟨by rw [h.1], by rw [h.1], by rw [h.1]⟩ .nil
  | .mk ⟨_, _, none⟩, h => by
    rw [numbered] at h
    rw [Part.walk]
    exact .cons ⟨by rw [h.1], by rw [h.1], by rw [h.1]⟩ .nil

theorem shows_numberedAll {n : Nat} : {ps : List Part} → g.Holds n (numberedAll n ps) →
    List.Forall₂ g.Shows (Part.walkAll ps) (List.range' n (Part.walkAll ps).length)
  | [], _ => by
    rw [Part.walkAll]
    exact .nil
  | p :: ps, h => by
    obtain ⟨hp, hps⟩ := holds_numberedAll_cons.1 h
    rw [Part.walkAll, List.length_append, ← List.range'_append_1]
    exact List.rel_append (shows_numbered hp) (shows_numberedAll hps)

end

theorem outline_of_childless (h : g.children n = []) : (g.outline k n).map Prod.snd = [n] := by
  cases k with
  | zero => rfl
  | succ k => rw [map_outline_succ, h, List.flatMap_nil]

theorem children_of_body {ids : List PartId} {subtype : Text}
    (h : (g.node n).body = some (.multipart subtype ids)) : g.children n = ids := by
  rw [children, Node.children, h]
  rfl

mutual

/-- What is not too deep below the part of a number are all the numbers of the tree. -/
theorem map_outline_numbered {n k : Nat} : {p : Part} → g.Holds n (numbered n p) →
    p.height ≤ k → (g.outline k n).map Prod.snd = List.range' n p.walk.length
  | .mk ⟨_, _, some (.multipart _ parts)⟩, h, hk => by
    rw [numbered] at h
    obtain ⟨hn, hparts⟩ := h
    have hc : g.children n = heads (n + 1) parts := children_of_body (by rw [hn])
    rw [Part.height] at hk
    rw [Part.walk, List.length_cons, List.range'_succ]
    cases k with
    | zero =>
      cases parts with
      | nil =>
        rw [outline_of_childless hc, Part.walkAll]
        rfl
      | cons p ps =>
        rw [Part.heightBelow] at hk
        omega
    | succ k => rw [map_outline_succ, hc, flatMap_outline_numberedAll hparts hk]
  | .mk ⟨_, _, some (.text _)⟩, h, _ => by
    rw [numbered] at h
    rw [Part.walk, outline_of_childless (by rw [children, h.1]; rfl)]
    rfl
  | .mk ⟨_, _, some (.stream _)⟩, h, _ => by
    rw [numbered] at h
    rw [Part.walk, outline_of_childless (by rw [children, h.1]; rfl)]
    rfl
  | .mk ⟨_, _, none⟩, h, _ => by
    rw [numbered] at h
    rw [Part.walk, outline_of_childless (by rw [children, h.1]; rfl)]
    rfl

theorem flatMap_outline_numberedAll {n k : Nat} : {ps : List Part} →
    g.Holds n (numberedAll n ps) → Part.heightBelow ps ≤ k + 1 →
    (heads n ps).flatMap (fun c => (g.outline k c).map Prod.snd) =
      List.range' n (Part.walkAll ps).length
  | [], _, _ => by
    rw [Part.walkAll, heads]
    rfl
  | p :: ps, h, hk => by
    obtain ⟨hp, hps⟩ := holds_numberedAll_cons.1 h
    rw [Part.heightBelow] at hk
    rw [heads, List.flatMap_cons, map_outline_numbered hp (by omega),
      flatMap_outline_numberedAll hps (by omega), Part.walkAll, List.length_append,
      List.range'_append_1]

end

variable {p : Part} {limit : Int}

/-- A walk that is not cut off goes through the numbers in their order. -/
theorem parts_ofPart (hl : (p.height : Int) ≤ limit) :
    (ofPart p).parts (some 0) limit = List.range' 0 p.walk.length := by
  have ho : (ofPart p).outlines limit [(0, 0)] = List.range' 0 p.walk.length := by
    rw [outlines, List.flatMap_singleton]
    exact map_outline_numbered (holds_ofPart p) (by omega)
  have hn : ((ofPart p).outlines limit [(0, 0)]).Nodup := ho ▸ List.nodup_range'
  rw [parts_eq_visits, visits_eq_outlines hn fun _ _ => List.not_mem_nil, ho]

/-- The walk of a part alone in a graph shows what the walk of the tree finds, in the same order. -/
theorem shows_parts_ofPart (hl : (p.height : Int) ≤ limit) :
    List.Forall₂ (ofPart p).Shows p.walk ((ofPart p).parts (some 0) limit) := by
  rw [parts_ofPart hl]
  exact shows_numbered (holds_ofPart p)

end Graph

end Mime
