import Mime.Part.Graph
import Mime.Event

/-! Walking a graph of parts depth-first, a part before its children. A part that was
reached before is skipped, and parts below a depth limit are not descended into; both are
reported. The walk keeps its own stack of parts yet to come. -/

namespace Mime.Graph

/-- What happens at one point of a walk. -/
inductive Step where
  | visit (p : PartId)
  | notice (e : Event)

def skipNotice (depth : Nat) : Event :=
  ⟨.warning, "part_tree_cycle_skipped", [("depth", .int depth)]⟩

def limitNotice (depth : Nat) (limit : Int) : Event :=
  ⟨.warning, "part_tree_depth_limit", [("depth", .int depth), ("max_depth", .int limit)]⟩

/-- How many parts of the graph were not visited. -/
def unvisited (g : Graph) (visited : List PartId) : Nat :=
  (List.range g.size).countP (· ∉ visited)

theorem unvisited_cons_le (g : Graph) (visited : List PartId) (p : PartId) :
    g.unvisited (p :: visited) ≤ g.unvisited visited :=
  List.countP_mono_left fun q _ h => by
    simp only [decide_eq_true_eq, List.mem_cons, not_or] at h ⊢
    exact h.2

theorem countP_lt_of_mem {p q : PartId → Bool} (hpq : ∀ x, p x → q x) {a : PartId}
    (hq : q a) (hp : p a = false) : ∀ {l : List PartId}, a ∈ l → l.countP p < l.countP q
  | b :: l, hm => by
    have hle : l.countP p ≤ l.countP q := List.countP_mono_left fun x _ => hpq x
    rcases List.mem_cons.1 hm with rfl | hl
    · simp only [List.countP_cons, hq, hp, if_true, Bool.false_eq_true, if_false]
      omega
    · have ih := countP_lt_of_mem hpq hq hp hl
      have hb : (if p b then 1 else 0) ≤ if q b then 1 else 0 := by
        cases h : p b
        · simp
        · simp [hpq b h]
      simp only [List.countP_cons]
      omega

theorem unvisited_cons_lt {g : Graph} {visited : List PartId} {p : PartId}
    (hp : p < g.size) (hv : p ∉ visited) : g.unvisited (p :: visited) < g.unvisited visited :=
  countP_lt_of_mem
    (fun q h => by
      simp only [decide_eq_true_eq, List.mem_cons, not_or] at h ⊢
      exact h.2)
    (by simpa using hv) (by simp) (List.mem_range.2 hp)

theorem lt_size_of_children {g : Graph} {p : PartId} (h : g.children p ≠ []) : p < g.size :=
  Nat.lt_of_not_le fun hp => h (children_of_size_le hp)

theorem measure_lt {g : Graph} {visited : List PartId} {p : PartId} {m n : Nat} (h : m < n) :
    Prod.Lex (· < ·) (· < ·) (g.unvisited (p :: visited), m) (g.unvisited visited, n) := by
  rcases Nat.lt_or_eq_of_le (g.unvisited_cons_le visited p) with hlt | heq
  · exact Prod.Lex.left _ _ hlt
  · rw [heq]
    exact Prod.Lex.right _ h

/-- Visits the parts of the stack, each with its depth, and what is below them. -/
def walkFrom (g : Graph) (limit : Int) (visited : List PartId) :
    List (PartId × Nat) → List Step
  | [] => []
  | (p, depth) :: stack =>
    if hv : p ∈ visited then .notice (skipNotice depth) :: walkFrom g limit visited stack
    else if hc : g.children p = [] then .visit p :: walkFrom g limit (p :: visited) stack
    else if limit ≤ depth then
      .visit p :: .notice (limitNotice depth limit) :: walkFrom g limit (p :: visited) stack
    else
      have := unvisited_cons_lt (lt_size_of_children hc) hv
      .visit p ::
        walkFrom g limit (p :: visited) ((g.children p).map (·, depth + 1) ++ stack)
termination_by stack => (g.unvisited visited, stack.length)
decreasing_by
  · exact Prod.Lex.right _ (by simp)
  · exact measure_lt (by simp)
  · exact measure_lt (by simp)
  · exact Prod.Lex.left _ _ this

def walk (g : Graph) (root : Option PartId) (limit : Int) : List Step :=
  match root with
  | none => []
  | some p => walkFrom g limit [] [(p, 0)]

def Step.part? : Step → Option PartId
  | visit p => some p
  | notice _ => none

def Step.event? : Step → Option Event
  | visit _ => none
  | notice e => some e

/-- The parts that a walk visits, in order. -/
def parts (g : Graph) (root : Option PartId) (limit : Int) : List PartId :=
  (g.walk root limit).filterMap Step.part?

/-- All parts that a walk visits, with everything that it reports. -/
def walkParts {ε : Type} (g : Graph) (root : Option PartId) (limit : Int) :
    Traced ε (List PartId) :=
  ⟨.ok (g.parts root limit), (g.walk root limit).filterMap Step.event?, false⟩

/-- The first visited part that passes a test. The walk is taken no further than that. -/
def firstVisited {ε : Type} (test : PartId → Traced ε Bool) : List Step → Traced ε (Option PartId)
  | [] => pure none
  | .notice e :: more => do
    .report e
    firstVisited test more
  | .visit p :: more => do
    if ← test p then return some p else firstVisited test more

end Mime.Graph
