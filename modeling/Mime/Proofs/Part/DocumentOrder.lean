import Mathlib.Data.List.Nodup
import Mime.Proofs.Part.Search

/-! Document order. A place below a part is given by the positions of the children on the way to
it, and places are ordered as in a document: a part before what is below it, and that before the
next child. Where no part has two places, the walk visits the parts of all places that are not too
deep, in this order: `parts_eq_search`. -/

namespace Mime.Graph

/-- The part at a place below a part. -/
def partAt? (g : Graph) (p : PartId) : List Nat → Option PartId
  | [] => some p
  | i :: place => (g.children p)[i]?.bind fun c => partAt? g c place

/-- No part is reached from `r` in two ways. -/
def ReachedOnce (g : Graph) (r : PartId) : Prop :=
  ∀ a b p, g.partAt? r a = some p → g.partAt? r b = some p → a = b

/-- The one part has a place before a place of the other. -/
def Before (g : Graph) (r p q : PartId) : Prop :=
  ∃ a b, g.partAt? r a = some p ∧ g.partAt? r b = some q ∧ a < b

/-- The places at most `n` deep below a part, each with the part there. -/
def outline (g : Graph) : Nat → PartId → List (List Nat × PartId)
  | 0, p => [([], p)]
  | n + 1, p => ([], p) :: (g.children p).zipIdx.flatMap fun c =>
      (outline g n c.1).map fun x => (c.2 :: x.1, x.2)

variable {g : Graph} {limit : Int} {r p : PartId} {n : Nat}

theorem mem_outline_iff {place : List Nat} {q : PartId} :
    (place, q) ∈ g.outline n p ↔ place.length ≤ n ∧ g.partAt? p place = some q := by
  induction n generalizing p place with
  | zero => cases place <;> simp [outline, partAt?, eq_comm]
  | succ n ih =>
    cases place with
    | nil => simp [outline, partAt?, eq_comm]
    | cons i place =>
      simp only [outline, partAt?, List.mem_cons, Prod.mk.injEq, List.cons_ne_nil, false_and,
        false_or, List.mem_flatMap, List.mem_map, List.mem_zipIdx_iff_getElem?, Prod.exists,
        List.cons.injEq, List.length_cons, Nat.add_le_add_iff_right, Option.bind_eq_some_iff]
      constructor
      · rintro ⟨c, _, hc, _, _, hx, ⟨rfl, rfl⟩, rfl⟩
        obtain ⟨hn, hq⟩ := ih.1 hx
        exact ⟨hn, c, hc, hq⟩
      · rintro ⟨hn, c, hc, hq⟩
        exact ⟨c, i, hc, place, q, ih.2 ⟨hn, hq⟩, ⟨rfl, rfl⟩, rfl⟩

theorem pairwise_zipIdx {α : Type} (l : List α) : l.zipIdx.Pairwise fun x y => x.2 < y.2 := by
  rw [← List.pairwise_map (f := Prod.snd) (R := (· < ·)), List.zipIdx_map_snd]
  exact List.pairwise_lt_range'

theorem pairwise_outline (g : Graph) (n : Nat) (p : PartId) :
    (g.outline n p).Pairwise fun x y => x.1 < y.1 := by
  induction n generalizing p with
  | zero => exact List.pairwise_singleton _ _
  | succ n ih =>
    refine List.pairwise_cons.2 ⟨fun x hx => ?_, List.pairwise_flatMap.2 ⟨fun c _ => ?_, ?_⟩⟩
    · obtain ⟨c, -, hx⟩ := List.mem_flatMap.1 hx
      obtain ⟨y, -, rfl⟩ := List.mem_map.1 hx
      exact List.nil_lt_cons _ _
    · exact List.pairwise_map.2
        ((ih c.1).imp fun h => List.cons_lt_cons_iff.2 (.inr ⟨rfl, h⟩))
    · refine (pairwise_zipIdx _).imp fun {c d} h x hx y hy => ?_
      obtain ⟨x, -, rfl⟩ := List.mem_map.1 hx
      obtain ⟨y, -, rfl⟩ := List.mem_map.1 hy
      exact List.cons_lt_cons_iff.2 (.inl h)

theorem map_outline_succ (g : Graph) (n : Nat) (p : PartId) :
    (g.outline (n + 1) p).map Prod.snd =
      p :: (g.children p).flatMap fun c => (g.outline n c).map Prod.snd := by
  have h := List.flatMap_map Prod.fst (fun c => (g.outline n c).map Prod.snd)
    (g.children p).zipIdx
  rw [List.zipIdx_map_fst] at h
  rw [outline, List.map_cons, List.map_flatMap, h]
  simp only [List.map_map, Function.comp_def]

theorem pairwise_before_outline (g : Graph) (n : Nat) (r : PartId) :
    ((g.outline n r).map Prod.snd).Pairwise (g.Before r) := by
  refine List.pairwise_map.2 ((pairwise_outline g n r).imp_of_mem fun {x y} hx hy h => ?_)
  exact ⟨x.1, y.1, (mem_outline_iff.1 hx).2, (mem_outline_iff.1 hy).2, h⟩

theorem nodup_outline (hr : g.ReachedOnce r) : ((g.outline n r).map Prod.snd).Nodup := by
  refine (pairwise_before_outline g n r).imp fun {p q} h hpq => ?_
  obtain ⟨a, b, ha, hb, hlt⟩ := h
  rw [hr a b q (hpq ▸ ha) hb] at hlt
  exact List.lt_irrefl b hlt

/-- The parts of a stack with all that is below them and not too deep. -/
def outlines (g : Graph) (limit : Int) (stack : List (PartId × Nat)) : List PartId :=
  stack.flatMap fun x => (g.outline (limit - x.2).toNat x.1).map Prod.snd

theorem outlines_cons {depth : Nat} {stack : List (PartId × Nat)} :
    g.outlines limit ((p, depth) :: stack) =
      p :: g.outlines limit (g.below limit (p, depth) ++ stack) := by
  by_cases hl : (depth : Int) < limit
  · have hn : (limit - depth).toNat = (limit - (depth + 1 : Nat)).toNat + 1 := by omega
    rw [outlines, List.flatMap_cons, hn, map_outline_succ, outlines, below, if_pos hl,
      List.flatMap_append, List.flatMap_map]
    rfl
  · have hn : (limit - depth).toNat = 0 := by omega
    rw [outlines, List.flatMap_cons, hn, below, if_neg hl]
    rfl

/-- Where nothing comes twice, no part is passed over. -/
theorem visits_eq_outlines {visited : List PartId} {stack : List (PartId × Nat)}
    (hn : (g.outlines limit stack).Nodup) (hv : ∀ q ∈ g.outlines limit stack, q ∉ visited) :
    g.visits limit visited stack = g.outlines limit stack := by
  induction visited, stack using stack_induction g limit with
  | nil visited => exact visits_nil
  | seen visited p depth stack hp ih =>
    rw [outlines_cons] at hv
    exact absurd hp (hv p List.mem_cons_self)
  | fresh visited p depth stack hp ih =>
    rw [outlines_cons] at hn hv ⊢
    obtain ⟨hnot, hn⟩ := List.nodup_cons.1 hn
    rw [visits_fresh hp, ih hn]
    intro q hq h
    rcases List.mem_cons.1 h with rfl | h
    · exact hnot hq
    · exact hv q (List.mem_cons_of_mem p hq) h

theorem parts_eq_map_outline (hr : g.ReachedOnce r) :
    g.parts (some r) limit = (g.outline limit.toNat r).map Prod.snd := by
  have ho : g.outlines limit [(r, 0)] = (g.outline limit.toNat r).map Prod.snd := by
    rw [outlines, List.flatMap_singleton, Int.natCast_zero, Int.sub_zero]
  rw [parts_eq_visits, visits_eq_outlines, ho]
  · exact ho ▸ nodup_outline hr
  · exact fun _ _ => List.not_mem_nil

theorem mem_parts_iff_partAt (hr : g.ReachedOnce r) (q : PartId) :
    q ∈ g.parts (some r) limit ↔
      ∃ place, (place.length : Int) ≤ max limit 0 ∧ g.partAt? r place = some q := by
  rw [parts_eq_map_outline hr, List.mem_map]
  constructor
  · rintro ⟨⟨place, _⟩, hx, rfl⟩
    obtain ⟨hl, hp⟩ := mem_outline_iff.1 hx
    exact ⟨place, by omega, hp⟩
  · rintro ⟨place, hl, hp⟩
    exact ⟨(place, q), mem_outline_iff.2 ⟨by omega, hp⟩, rfl⟩

/-- No child has more ways to a part than its parent. -/
theorem ReachedOnce.child (hr : g.ReachedOnce r) {c : PartId} (hc : c ∈ g.children r) :
    g.ReachedOnce c := by
  obtain ⟨i, hi⟩ := List.mem_iff_getElem?.1 hc
  have hat (place : List Nat) : g.partAt? r (i :: place) = g.partAt? c place := by
    rw [partAt?, hi, Option.bind_some]
  intro a b p ha hb
  have h := hr (i :: a) (i :: b) p ((hat a).trans ha) ((hat b).trans hb)
  exact (List.cons.inj h).2

/-- Where no place is deeper than `n`, one step further down finds nothing. -/
theorem outline_succ_of_shallow
    (h : ∀ place p, g.partAt? r place = some p → place.length ≤ n) :
    g.outline (n + 1) r = g.outline n r := by
  induction n generalizing r with
  | zero =>
    cases hc : g.children r with
    | nil => rw [outline, outline, hc, List.zipIdx_nil, List.flatMap_nil]
    | cons c cs =>
      have hat : g.partAt? r [0] = some c := by rw [partAt?, hc]; rfl
      exact absurd (h [0] c hat) (by simp)
  | succ n ih =>
    rw [outline, outline]
    refine congrArg _ (List.flatMap_congr fun c hc => ?_)
    rw [ih fun place p hp => ?_]
    have hat : g.partAt? r (c.2 :: place) = some p := by
      rw [partAt?, List.mem_zipIdx_iff_getElem?.1 hc, Option.bind_some, hp]
    exact Nat.le_of_succ_le_succ (h (c.2 :: place) p hat)

/-- The walk of a whole tree visits the root, and then makes the walk of each child. -/
theorem parts_eq_cons_flatMap (hr : g.ReachedOnce r)
    (hl : ∀ place p, g.partAt? r place = some p → (place.length : Int) ≤ limit) :
    g.parts (some r) limit = r :: (g.children r).flatMap fun c => g.parts (some c) limit := by
  have hs : g.outline (limit.toNat + 1) r = g.outline limit.toNat r :=
    outline_succ_of_shallow fun place p hp => by
      have h := hl place p hp
      omega
  rw [parts_eq_map_outline hr, ← hs, map_outline_succ]
  exact congrArg _ (List.flatMap_congr fun c hc => (parts_eq_map_outline (hr.child hc)).symm)

theorem partAt?_append (g : Graph) (p : PartId) (a b : List Nat) :
    g.partAt? p (a ++ b) = (g.partAt? p a).bind fun q => g.partAt? q b := by
  induction a generalizing p with
  | nil => rfl
  | cons i a ih =>
    rw [List.cons_append, partAt?, partAt?, Option.bind_assoc]
    exact congrArg _ (funext fun c => ih c)

/-- Listing the places decides whether a part is reached in two ways: it is enough that one more
step down finds no other place, and that no part is listed twice. -/
theorem reachedOnce_of_outline (h : g.outline (n + 1) r = g.outline n r)
    (hn : ((g.outline n r).map Prod.snd).Nodup) :
    g.ReachedOnce r ∧ ∀ place p, g.partAt? r place = some p → place.length ≤ n := by
  have hl : ∀ place p, g.partAt? r place = some p → place.length ≤ n := by
    intro place p hp
    by_contra hlt
    rw [← List.take_append_drop (n + 1) place, partAt?_append, Option.bind_eq_some_iff] at hp
    obtain ⟨q, hq, -⟩ := hp
    have hm := mem_outline_iff.2 ⟨List.length_take_le (n + 1) place, hq⟩
    rw [h, mem_outline_iff, List.length_take] at hm
    omega
  refine ⟨fun a b p ha hb => ?_, hl⟩
  have hm := List.inj_on_of_nodup_map hn (mem_outline_iff.2 ⟨hl a p ha, ha⟩)
    (mem_outline_iff.2 ⟨hl b p hb, hb⟩) rfl
  exact congrArg Prod.fst hm

/-- The walk visits what the search by recursion visits, in the same order: the root first, and no
part twice. Where no part is reached twice, these are the parts that are not too deep, in document
order. -/
theorem parts_eq_search (g : Graph) (r : PartId) (limit : Int) :
    g.parts (some r) limit = (g.search limit 0 [] r).map Prod.fst ∧
    (g.parts (some r) limit).head? = some r ∧
    (g.parts (some r) limit).Nodup ∧
    (g.ReachedOnce r →
      (∀ q, q ∈ g.parts (some r) limit ↔
        ∃ place, (place.length : Int) ≤ max limit 0 ∧ g.partAt? r place = some q) ∧
      (g.parts (some r) limit).Pairwise (g.Before r)) := by
  refine ⟨parts_eq_map_search g r limit, head?_parts g r limit, nodup_parts g _ limit, ?_⟩
  intro hr
  refine ⟨mem_parts_iff_partAt hr, ?_⟩
  rw [parts_eq_map_outline hr]
  exact pairwise_before_outline g limit.toNat r

/-- A multipart with a multipart of two texts and with a third text. -/
def nested : Graph :=
  ⟨[⟨.message, [], some (.multipart "mixed" [1, 4])⟩,
    ⟨.bodyPart, [], some (.multipart "alternative" [2, 3])⟩,
    ⟨.bodyPart, [], some (.text "a")⟩, ⟨.bodyPart, [], some (.text "b")⟩,
    ⟨.bodyPart, [], some (.text "c")⟩]⟩

theorem reachedOnce_nested : nested.ReachedOnce 0 :=
  (reachedOnce_of_outline (n := 2) (by decide) (by decide)).1

/-- The limit cuts off the two texts of the inner multipart. -/
theorem parts_eq_search_nested :
    nested.ReachedOnce 0 ∧
    nested.parts (some 0) 1 = (nested.search 1 0 [] 0).map Prod.fst ∧
    4 ∈ nested.parts (some 0) 1 ∧ 3 ∉ nested.parts (some 0) 1 ∧
    (nested.parts (some 0) 1).Pairwise (nested.Before 0) := by
  obtain ⟨hs, -, -, ho⟩ := parts_eq_search nested 0 1
  obtain ⟨hm, hb⟩ := ho reachedOnce_nested
  refine ⟨reachedOnce_nested, hs, (hm 4).2 ⟨[1], by decide, by decide⟩, fun h => ?_, hb⟩
  obtain ⟨place, hl, hp⟩ := (hm 3).1 h
  rw [reachedOnce_nested place [0, 1] 3 hp (by decide)] at hl
  exact absurd hl (by decide)

end Mime.Graph
