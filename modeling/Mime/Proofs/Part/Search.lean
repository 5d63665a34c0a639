import Mime.Part.Walk

/-! The walk keeps a stack of parts yet to come, and looks whether a part was visited only when it
takes the part off the stack. A search by recursion needs no stack, and visits the same parts in
the same order: `parts_eq_map_search`. -/

namespace Mime.Graph

/-- A depth-first search by recursion. It answers the parts that it has entered, in order and each
with its depth. A part that was entered before is passed over, and the children of a part are
searched only above the limit. -/
def search (g : Graph) (limit : Int) (depth : Nat) (entered : List (PartId × Nat)) (p : PartId) :
    List (PartId × Nat) :=
  if p ∈ entered.map Prod.fst then entered
  else if (depth : Int) < limit then
    (g.children p).foldl (fun entered c => search g limit (depth + 1) entered c)
      (entered ++ [(p, depth)])
  else entered ++ [(p, depth)]
termination_by (limit - depth).toNat

/-- What the visit of a part puts on the stack: its children, unless the limit is reached. -/
def below (g : Graph) (limit : Int) (x : PartId × Nat) : List (PartId × Nat) :=
  if (x.2 : Int) < limit then (g.children x.1).map (·, x.2 + 1) else []

/-- The parts that are visited from a stack on. -/
def visits (g : Graph) (limit : Int) (visited : List PartId) (stack : List (PartId × Nat)) :
    List PartId :=
  (g.walkFrom limit visited stack).filterMap Step.part?

/-- The parts of a stack are searched one after the other. -/
def searchAll (g : Graph) (limit : Int) (entered stack : List (PartId × Nat)) :
    List (PartId × Nat) :=
  stack.foldl (fun entered x => g.search limit x.2 entered x.1) entered

variable {g : Graph} {limit : Int} {p : PartId} {depth : Nat} {visited : List PartId}
  {entered stack : List (PartId × Nat)}

theorem parts_eq_visits (g : Graph) (r : PartId) (limit : Int) :
    g.parts (some r) limit = g.visits limit [] [(r, 0)] := rfl

@[simp] theorem visits_nil : g.visits limit visited [] = [] := by
  rw [visits, walkFrom]
  rfl

theorem visits_seen (h : p ∈ visited) :
    g.visits limit visited ((p, depth) :: stack) = g.visits limit visited stack := by
  rw [visits, walkFrom, dif_pos h]
  rfl

theorem visits_fresh (h : p ∉ visited) :
    g.visits limit visited ((p, depth) :: stack) =
      p :: g.visits limit (p :: visited) (g.below limit (p, depth) ++ stack) := by
  rw [visits, walkFrom, dif_neg h, below]
  by_cases hc : g.children p = []
  · rw [dif_pos hc, hc, List.map_nil, ite_self]
    rfl
  · rw [dif_neg hc]
    by_cases hl : limit ≤ depth
    · rw [if_pos hl, if_neg (Int.not_lt.2 hl)]
      rfl
    · rw [if_neg hl, if_pos (Int.not_le.1 hl)]
      rfl

/-- What holds of the empty stack, and of a stack if it holds after the part on top is dealt with,
holds of every stack. -/
theorem stack_induction (g : Graph) (limit : Int)
    {motive : List PartId → List (PartId × Nat) → Prop}
    (nil : ∀ visited, motive visited [])
    (seen : ∀ visited p depth stack, p ∈ visited → motive visited stack →
      motive visited ((p, depth) :: stack))
    (fresh : ∀ visited p depth stack, p ∉ visited →
      motive (p :: visited) (g.below limit (p, depth) ++ stack) →
        motive visited ((p, depth) :: stack))
    (visited : List PartId) (stack : List (PartId × Nat)) : motive visited stack := by
  induction visited, stack using walkFrom.induct g limit with
  | case1 visited => exact nil visited
  | case2 visited p depth stack hv ih => exact seen visited p depth stack hv ih
  | case3 visited p depth stack hv hc ih =>
    refine fresh visited p depth stack hv ?_
    rw [below, hc, List.map_nil, ite_self, List.nil_append]
    exact ih
  | case4 visited p depth stack hv hc hl ih =>
    refine fresh visited p depth stack hv ?_
    rw [below, if_neg (Int.not_lt.2 hl), List.nil_append]
    exact ih
  | case5 visited p depth stack hv hc hl _ ih =>
    refine fresh visited p depth stack hv ?_
    rw [below, if_pos (Int.not_le.1 hl)]
    exact ih

theorem searchAll_seen (h : p ∈ entered.map Prod.fst) :
    g.searchAll limit entered ((p, depth) :: stack) = g.searchAll limit entered stack := by
  rw [searchAll, List.foldl_cons, search, if_pos h]
  rfl

theorem searchAll_fresh (h : p ∉ entered.map Prod.fst) :
    g.searchAll limit entered ((p, depth) :: stack) =
      g.searchAll limit (entered ++ [(p, depth)]) (g.below limit (p, depth) ++ stack) := by
  rw [searchAll, List.foldl_cons, search, if_neg h, searchAll, List.foldl_append, below]
  by_cases hl : (depth : Int) < limit
  · simp only [hl, if_true, List.foldl_map]
  · simp only [hl, if_false, List.foldl_nil]

/-- A part that is entered is marked as visited. -/
theorem mem_cons_iff_mem_map_append (hv : ∀ q, q ∈ visited ↔ q ∈ entered.map Prod.fst)
    (q : PartId) : q ∈ p :: visited ↔ q ∈ (entered ++ [(p, depth)]).map Prod.fst := by
  rw [List.mem_cons, hv q, List.map_append, List.mem_append, List.map_singleton,
    List.mem_singleton, or_comm]

/-- The same induction for the search, where a part that was entered is on record. -/
theorem search_induction (g : Graph) (limit : Int)
    {motive : List (PartId × Nat) → List (PartId × Nat) → Prop}
    (nil : ∀ entered, motive entered [])
    (seen : ∀ entered p depth stack, p ∈ entered.map Prod.fst → motive entered stack →
      motive entered ((p, depth) :: stack))
    (fresh : ∀ entered p depth stack, p ∉ entered.map Prod.fst →
      motive (entered ++ [(p, depth)]) (g.below limit (p, depth) ++ stack) →
        motive entered ((p, depth) :: stack))
    (entered stack : List (PartId × Nat)) : motive entered stack := by
  suffices h : ∀ visited stack, ∀ entered : List (PartId × Nat),
      (∀ q, q ∈ visited ↔ q ∈ entered.map Prod.fst) → motive entered stack from
    h (entered.map Prod.fst) stack entered fun _ => .rfl
  intro visited stack
  induction visited, stack using stack_induction g limit with
  | nil visited => exact fun entered _ => nil entered
  | seen visited p depth stack hp ih =>
    exact fun entered hv => seen entered p depth stack ((hv p).1 hp) (ih entered hv)
  | fresh visited p depth stack hp ih =>
    exact fun entered hv => fresh entered p depth stack (fun h => hp ((hv p).2 h))
      (ih _ (mem_cons_iff_mem_map_append hv))

/-- The search from a stack enters the parts that the walk visits from there. -/
theorem map_searchAll (hv : ∀ q, q ∈ visited ↔ q ∈ entered.map Prod.fst) :
    (g.searchAll limit entered stack).map Prod.fst =
      entered.map Prod.fst ++ g.visits limit visited stack := by
  induction entered, stack using search_induction g limit generalizing visited with
  | nil entered => simp [searchAll]
  | seen entered p depth stack hp ih =>
    rw [searchAll_seen hp, visits_seen ((hv p).2 hp)]
    exact ih hv
  | fresh entered p depth stack hp ih =>
    rw [searchAll_fresh hp, visits_fresh fun h => hp ((hv p).1 h),
      ih (mem_cons_iff_mem_map_append hv), List.map_append, List.append_assoc]
    rfl

theorem search_eq_searchAll (g : Graph) (limit : Int) (r : PartId) :
    g.search limit 0 [] r = g.searchAll limit [] [(r, 0)] := rfl

theorem parts_eq_map_search (g : Graph) (r : PartId) (limit : Int) :
    g.parts (some r) limit = (g.search limit 0 [] r).map Prod.fst := by
  have hv : ∀ q : PartId, q ∈ [] ↔ q ∈ ([] : List (PartId × Nat)).map Prod.fst := fun _ => .rfl
  rw [parts_eq_visits, search_eq_searchAll, map_searchAll hv]
  rfl

theorem head?_parts (g : Graph) (r : PartId) (limit : Int) :
    (g.parts (some r) limit).head? = some r := by
  rw [parts_eq_visits, visits_fresh List.not_mem_nil]
  rfl

/-- What is visited was not visited before, and is visited once. -/
theorem nodup_append_visits (g : Graph) (limit : Int) (visited : List PartId)
    (stack : List (PartId × Nat)) :
    (g.visits limit visited stack).Nodup ∧ ∀ q ∈ g.visits limit visited stack, q ∉ visited := by
  induction visited, stack using stack_induction g limit with
  | nil visited => simp
  | seen visited p depth stack hp ih =>
    rw [visits_seen hp]
    exact ih
  | fresh visited p depth stack hp ih =>
    obtain ⟨hn, hv⟩ := ih
    rw [visits_fresh hp]
    refine ⟨List.nodup_cons.2 ⟨fun h => hv p h List.mem_cons_self, hn⟩, ?_⟩
    rw [List.forall_mem_cons]
    exact ⟨hp, fun q hq h => hv q hq (List.mem_cons_of_mem p h)⟩

theorem nodup_parts (g : Graph) (root : Option PartId) (limit : Int) :
    (g.parts root limit).Nodup := by
  cases root with
  | none => exact List.nodup_nil
  | some r => exact (nodup_append_visits g limit [] [(r, 0)]).1

end Mime.Graph
