import Mime.Proofs.Part.Search

/-! Which parts a walk reaches. A part that is entered above the limit has all its children
entered as well, and that is the only way to enter a part besides the root. A part that is first
entered at the limit is not entered again when it comes up on a shorter way, so that what is below
it may be missed: `mem_parts_iff_chain`. -/

namespace Mime.Graph

/-- A chain of links from `p` to a part, each from a part to a child of it. The parts from which
a link goes out pass `via`. -/
inductive Chain (g : Graph) (via : PartId → Prop) (p : PartId) : Nat → PartId → Prop
  | nil : Chain g via p 0 p
  | snoc {n : Nat} {q c : PartId} :
      Chain g via p n q → via q → c ∈ g.children q → Chain g via p (n + 1) c

/-- The search enters the part above the limit. -/
def EntersAbove (g : Graph) (limit : Int) (r p : PartId) : Prop :=
  ∃ depth : Nat, (p, depth) ∈ g.search limit 0 [] r ∧ (depth : Int) < limit

variable {g : Graph} {limit : Int} {r : PartId} {entered stack : List (PartId × Nat)}

theorem Chain.imp {via via' : PartId → Prop} {p q : PartId} {n : Nat}
    (hv : ∀ x, via x → via' x) (h : g.Chain via p n q) : g.Chain via' p n q := by
  induction h with
  | nil => exact .nil
  | snoc _ hx hc ih => exact .snoc ih (hv _ hx) hc

theorem mem_below_iff {p c : PartId} {depth d : Nat} :
    (c, d) ∈ g.below limit (p, depth) ↔
      (depth : Int) < limit ∧ c ∈ g.children p ∧ d = depth + 1 := by
  by_cases hl : (depth : Int) < limit
  · rw [below, if_pos hl, List.mem_map]
    constructor
    · rintro ⟨_, hc, he⟩
      cases he
      exact ⟨hl, hc, rfl⟩
    · rintro ⟨-, hc, rfl⟩
      exact ⟨c, hc, rfl⟩
  · simp [below, hl]

theorem mem_searchAll_of_mem {x : PartId × Nat} (h : x ∈ entered) (stack : List (PartId × Nat)) :
    x ∈ g.searchAll limit entered stack := by
  induction entered, stack using search_induction g limit with
  | nil entered => exact h
  | seen entered p depth stack hp ih =>
    rw [searchAll_seen hp]
    exact ih h
  | fresh entered p depth stack hp ih =>
    rw [searchAll_fresh hp]
    exact ih (List.mem_append_left _ h)

/-- What holds at the start and is handed on to what is put on the stack holds of all entries. -/
theorem forall_mem_searchAll {motive : PartId × Nat → Prop} (he : ∀ x ∈ entered, motive x)
    (hs : ∀ x ∈ stack, motive x)
    (step : ∀ x ∈ g.searchAll limit entered stack, motive x → ∀ y ∈ g.below limit x, motive y) :
    ∀ x ∈ g.searchAll limit entered stack, motive x := by
  induction entered, stack using search_induction g limit with
  | nil entered => exact he
  | seen entered p depth stack hp ih =>
    rw [searchAll_seen hp] at step ⊢
    exact ih he (List.forall_mem_cons.1 hs).2 step
  | fresh entered p depth stack hp ih =>
    obtain ⟨hx, hs⟩ := List.forall_mem_cons.1 hs
    rw [searchAll_fresh hp] at step ⊢
    have hm : (p, depth) ∈ entered ++ [(p, depth)] := List.mem_append_right _ List.mem_cons_self
    refine ih ?_ ?_ step
    · exact List.forall_mem_append.2 ⟨he, List.forall_mem_singleton.2 hx⟩
    · exact List.forall_mem_append.2 ⟨step _ (mem_searchAll_of_mem hm _) hx, hs⟩

/-- What an entry puts on the stack is entered, if the entries made before have theirs entered or
on the stack. -/
theorem forall_below_searchAll
    (h : ∀ x ∈ entered, ∀ y ∈ g.below limit x,
      y.1 ∈ entered.map Prod.fst ∨ y.1 ∈ stack.map Prod.fst) :
    ∀ x ∈ g.searchAll limit entered stack, ∀ y ∈ g.below limit x,
      y.1 ∈ (g.searchAll limit entered stack).map Prod.fst := by
  induction entered, stack using search_induction g limit with
  | nil entered => exact fun x hx y hy => (h x hx y hy).resolve_right List.not_mem_nil
  | seen entered p depth stack hp ih =>
    rw [searchAll_seen hp]
    refine ih fun x hx y hy => ?_
    rcases h x hx y hy with h | h
    · exact .inl h
    · rcases List.mem_cons.1 h with h | h
      · exact .inl (h ▸ hp)
      · exact .inr h
  | fresh entered p depth stack hp ih =>
    rw [searchAll_fresh hp]
    refine ih fun x hx y hy => ?_
    simp only [List.map_append, List.mem_append, List.map_singleton, List.mem_singleton]
    rcases List.mem_append.1 hx with hx | hx
    · rcases h x hx y hy with h | h
      · exact .inl (.inl h)
      · rcases List.mem_cons.1 h with h | h
        · exact .inl (.inr h)
        · exact .inr (.inr h)
    · rw [List.mem_singleton.1 hx] at hy
      exact .inr (.inl (List.mem_map_of_mem hy))

/-- A part is entered in as many steps as there are links on a chain to it, all of whose parts
before it are entered above the limit. -/
theorem chain_of_mem_search (h : 0 ≤ limit) {q : PartId} {depth : Nat}
    (hq : (q, depth) ∈ g.search limit 0 [] r) :
    (depth : Int) ≤ limit ∧ g.Chain (g.EntersAbove limit r) r depth q := by
  rw [search_eq_searchAll] at hq
  refine forall_mem_searchAll
    (motive := fun x => (x.2 : Int) ≤ limit ∧ g.Chain (g.EntersAbove limit r) r x.2 x.1)
    (fun _ hx => absurd hx List.not_mem_nil) ?_ ?_ _ hq
  · exact List.forall_mem_singleton.2 ⟨h, .nil⟩
  · rintro ⟨p, depth⟩ hp ⟨-, hchain⟩ ⟨c, d⟩ hy
    obtain ⟨hl, hc, rfl⟩ := mem_below_iff.1 hy
    exact ⟨Int.add_one_le_iff.2 hl, .snoc hchain ⟨depth, hp, hl⟩ hc⟩

theorem mem_parts_root (g : Graph) (limit : Int) (r : PartId) : r ∈ g.parts (some r) limit :=
  List.mem_of_head? (head?_parts g r limit)

theorem mem_parts_of_mem_children {p c : PartId} {depth : Nat}
    (hp : (p, depth) ∈ g.search limit 0 [] r) (hl : (depth : Int) < limit)
    (hc : c ∈ g.children p) : c ∈ g.parts (some r) limit := by
  rw [parts_eq_map_search]
  rw [search_eq_searchAll] at hp ⊢
  exact forall_below_searchAll (fun _ hx => absurd hx List.not_mem_nil) _ hp (c, depth + 1)
    (mem_below_iff.2 ⟨hl, hc, rfl⟩)

theorem mem_parts_of_chain {q : PartId} {n : Nat}
    (h : g.Chain (g.EntersAbove limit r) r n q) : q ∈ g.parts (some r) limit := by
  cases h with
  | nil => exact mem_parts_root g limit r
  | snoc _ hp hc =>
    obtain ⟨depth, hp, hl⟩ := hp
    exact mem_parts_of_mem_children hp hl hc

/-- A chain that is not too long is followed to its end, unless a part on it was first entered at
the limit. -/
theorem mem_parts_of_short_chain (h : 0 ≤ limit)
    (hcut : ∀ p, (p, limit.toNat) ∈ g.search limit 0 [] r → g.children p ≠ [] →
      ∀ n : Nat, (n : Int) < limit → ¬g.Chain (fun _ => True) r n p)
    {q : PartId} {n : Nat} (hn : (n : Int) ≤ limit) (hq : g.Chain (fun _ => True) r n q) :
    q ∈ g.parts (some r) limit := by
  induction hq with
  | nil => exact mem_parts_root g limit r
  | @snoc n p c hp _ hc ih =>
    have hlt : (n : Int) < limit := Int.add_one_le_iff.1 hn
    have hm := ih (Int.le_of_lt hlt)
    rw [parts_eq_map_search] at hm
    obtain ⟨⟨_, depth⟩, hx, rfl⟩ := List.mem_map.1 hm
    obtain ⟨hle, -⟩ := chain_of_mem_search h hx
    by_cases hl : (depth : Int) < limit
    · exact mem_parts_of_mem_children hx hl hc
    · have hd : depth = limit.toNat := by omega
      exact absurd hp (hcut _ (hd ▸ hx) (List.ne_nil_of_mem hc) n hlt)

/-- A part is visited if some chain of links within the limit leads to it on which every part
before it is entered above the limit. Other chains do as well, unless a part with children is first
entered at the limit that has a shorter chain too. -/
theorem mem_parts_iff_chain (g : Graph) {limit : Int} (h : 0 ≤ limit) (r q : PartId) :
    (q ∈ g.parts (some r) limit ↔
      ∃ n : Nat, (n : Int) ≤ limit ∧ g.Chain (g.EntersAbove limit r) r n q) ∧
    (q ∈ g.parts (some r) limit → ∃ n : Nat, (n : Int) ≤ limit ∧ g.Chain (fun _ => True) r n q) ∧
    ((∀ p, (p, limit.toNat) ∈ g.search limit 0 [] r → g.children p ≠ [] →
        ∀ n : Nat, (n : Int) < limit → ¬g.Chain (fun _ => True) r n p) →
      (∃ n : Nat, (n : Int) ≤ limit ∧ g.Chain (fun _ => True) r n q) →
      q ∈ g.parts (some r) limit) := by
  have hchain (hq : q ∈ g.parts (some r) limit) :
      ∃ n : Nat, (n : Int) ≤ limit ∧ g.Chain (g.EntersAbove limit r) r n q := by
    rw [parts_eq_map_search] at hq
    obtain ⟨⟨_, depth⟩, hm, rfl⟩ := List.mem_map.1 hq
    exact ⟨depth, chain_of_mem_search h hm⟩
  refine ⟨⟨hchain, fun ⟨n, _, hq⟩ => mem_parts_of_chain hq⟩, fun hq => ?_, ?_⟩
  · obtain ⟨n, hn, hq⟩ := hchain hq
    exact ⟨n, hn, hq.imp fun _ _ => trivial⟩
  · rintro hcut ⟨n, hn, hq⟩
    exact mem_parts_of_short_chain h hcut hn hq

/-- The parts 0 and 1 contain the root again. -/
def cyclic : Graph :=
  ⟨[⟨.message, [], some (.multipart "mixed" [1, 0])⟩,
    ⟨.bodyPart, [], some (.multipart "mixed" [2, 0])⟩, ⟨.bodyPart, [], some (.text "a")⟩]⟩

/-- The part 1 is entered at the limit, but there is no shorter chain to it. -/
theorem mem_parts_iff_chain_cyclic :
    (0 : Int) ≤ 1 ∧
    (∀ p, (p, (1 : Int).toNat) ∈ cyclic.search 1 0 [] 0 → cyclic.children p ≠ [] →
      ∀ n : Nat, (n : Int) < 1 → ¬cyclic.Chain (fun _ => True) 0 n p) ∧
    1 ∈ cyclic.parts (some 0) 1 ∧
    ∃ n : Nat, (n : Int) ≤ 1 ∧ cyclic.Chain (cyclic.EntersAbove 1 0) 0 n 1 := by
  have hs : cyclic.search 1 0 [] 0 = [(0, 0), (1, 1)] := by
    simp [search, children, node, Node.children, Body.children, cyclic]
  have hcut : ∀ p, (p, (1 : Int).toNat) ∈ cyclic.search 1 0 [] 0 → cyclic.children p ≠ [] →
      ∀ n : Nat, (n : Int) < 1 → ¬cyclic.Chain (fun _ => True) 0 n p := by
    intro p hp _ n hn hc
    cases hc with
    | nil =>
      rw [hs] at hp
      exact absurd hp (by decide)
    | snoc _ _ _ => omega
  have hc : cyclic.Chain (fun _ => True) 0 1 1 := .snoc .nil trivial (by decide)
  obtain ⟨hiff, -, hmem⟩ := mem_parts_iff_chain cyclic (show (0 : Int) ≤ 1 by decide) 0 1
  have hq := hmem hcut ⟨1, by decide, hc⟩
  exact ⟨by decide, hcut, hq, hiff.1 hq⟩

/-- The part 2 is a child of the root, but the walk comes to it through the part 1 first. -/
def shortcut : Graph :=
  ⟨[⟨.message, [], some (.multipart "mixed" [1, 2])⟩,
    ⟨.bodyPart, [], some (.multipart "mixed" [2])⟩,
    ⟨.bodyPart, [], some (.multipart "mixed" [3])⟩, ⟨.bodyPart, [], some (.text "a")⟩]⟩

/-- With two links allowed, the part 3 is missed, to which a chain of two links leads. -/
theorem parts_shortcut :
    ¬∀ q, q ∈ shortcut.parts (some 0) 2 ↔
      ∃ n : Nat, (n : Int) ≤ 2 ∧ shortcut.Chain (fun _ => True) 0 n q := by
  intro h
  have hc : shortcut.Chain (fun _ => True) 0 2 3 :=
    .snoc (.snoc .nil trivial (q := 0) (c := 2) (by decide)) trivial (by decide)
  have hp : shortcut.parts (some 0) 2 = [0, 1, 2] := by
    rw [parts_eq_map_search]
    simp [search, children, node, Node.children, Body.children, shortcut]
  have hm := (h 3).2 ⟨2, by decide, hc⟩
  rw [hp] at hm
  exact absurd hm (by decide)

end Mime.Graph
