import Mime.Part.Find
import Mime.Proofs.Part.DocumentOrder

/-! Collecting takes the leaves of a walk apart into two lists, each in the order of the walk. Where
no part is reached twice and the limit cuts nothing off, the leaves of a multipart are those of its
children, one child after the other: `collect_partitions`. -/

namespace Mime

theorem Node.hasType_or {α : Type} (n : Node α) (a b : Text) :
    n.hasType [a, b] = (n.hasType [a] || n.hasType [b]) := by
  simp only [hasType, MediaType.matchesAny, List.map_cons, List.map_nil]
  cases (some n.mimeType).bind MediaType.ofText? with
  | none => rfl
  | some t => simp only [List.any_cons, List.any_nil, Bool.or_false]

theorem Node.isViewable_iff {α : Type} (n : Node α) :
    n.isViewable = true ↔
      (n.hasType ["text/*"] = true ∨ n.hasType ["image/*"] = true) ∧
        n.dispositionType? ≠ some "attachment" := by
  rw [isViewable, isAttachment, hasType_or, Bool.and_eq_true, Bool.or_eq_true, and_comm,
    Bool.not_eq_true', beq_eq_false_iff_ne]

namespace Graph

variable {ε : Type} {g : Graph} {p : PartId}

/-- The leaves among the parts that are to be shown, or the ones that are not. -/
def leaves (g : Graph) (viewable : Bool) (ps : List PartId) : List PartId :=
  ps.filter fun p => !(g.node p).isMultipart && (g.node p).isViewable == viewable

theorem mem_leaves_iff {viewable : Bool} {ps : List PartId} :
    p ∈ g.leaves viewable ps ↔
      p ∈ ps ∧ (g.node p).isMultipart = false ∧ (g.node p).isViewable = viewable := by
  simp [leaves]

theorem foldl_sortLeaf (g : Graph) (ps : List PartId) (lists : List PartId × List PartId) :
    ps.foldl g.sortLeaf lists = (lists.1 ++ g.leaves true ps, lists.2 ++ g.leaves false ps) := by
  induction ps generalizing lists with
  | nil => simp [leaves]
  | cons p ps ih =>
    rw [List.foldl_cons, ih, sortLeaf]
    cases hm : (g.node p).isMultipart
    · cases hv : (g.node p).isViewable <;> simp [leaves, hm, hv]
    · simp [leaves, hm]

theorem outcome_collect (g : Graph) (root : Option PartId) (limit : Int)
    (lists : List PartId × List PartId) :
    (g.collect root limit lists.1 lists.2 : Traced ε _).outcome =
      .ok ((g.parts root limit).foldl g.sortLeaf lists) := rfl

/-- A leaf that is visited goes to one list, and once. -/
theorem count_leaves {ps : List PartId} (hn : ps.Nodup) (hp : p ∈ ps)
    (hm : (g.node p).isMultipart = false) :
    (g.leaves true ps).count p + (g.leaves false ps).count p = 1 := by
  have hcount (viewable : Bool) : (g.leaves viewable ps).count p =
      if (g.node p).isViewable = viewable then 1 else 0 := by
    split
    · rename_i hv
      exact List.count_eq_one_of_mem (hn.filter _) (mem_leaves_iff.2 ⟨hp, hm, hv⟩)
    · rename_i hv
      exact List.count_eq_zero_of_not_mem fun h => hv (mem_leaves_iff.1 h).2.2
  rw [hcount, hcount]
  cases (g.node p).isViewable <;> rfl

/-- Collecting from parts one after the other is going through all their walks. -/
theorem outcome_foldlM_collect (g : Graph) (limit : Int) (cs : List PartId)
    (lists : List PartId × List PartId) :
    (cs.foldlM (fun lists c => g.collect (some c) limit lists.1 lists.2) lists :
        Traced ε _).outcome =
      .ok ((cs.flatMap fun c => g.parts (some c) limit).foldl g.sortLeaf lists) := by
  induction cs generalizing lists with
  | nil => rfl
  | cons c cs ih =>
    rw [List.foldlM_cons, Traced.outcome_bind, outcome_collect, List.flatMap_cons,
      List.foldl_append]
    exact ih _

/-- Collecting appends leaves of the walk to the two lists, in the order of the walk: each leaf
once and to one list, and to the first list if it is a text or an image and no attachment. Where no
part is reached twice and nothing is too deep, a multipart gives what its children give, collected
one after the other. -/
theorem collect_partitions (g : Graph) (limit : Int) (viewables attachments : List PartId) :
    (∀ root, ∃ vs as,
      (g.collect root limit viewables attachments : Traced ε _).outcome =
        .ok (viewables ++ vs, attachments ++ as) ∧
      vs.Sublist (g.parts root limit) ∧ as.Sublist (g.parts root limit) ∧
      (∀ p ∈ g.parts root limit, (g.node p).isMultipart = false →
        vs.count p + as.count p = 1 ∧
        (p ∈ vs ↔ ((g.node p).hasType ["text/*"] = true ∨ (g.node p).hasType ["image/*"] = true) ∧
          (g.node p).dispositionType? ≠ some "attachment")) ∧
      ∀ p, p ∈ vs ∨ p ∈ as → (g.node p).isMultipart = false) ∧
    ∀ r, g.ReachedOnce r →
      (∀ place p, g.partAt? r place = some p → (place.length : Int) ≤ limit) →
      (g.node r).isMultipart = true →
      (g.collect (some r) limit viewables attachments : Traced ε _).outcome =
        ((g.children r).foldlM (fun lists c => g.collect (some c) limit lists.1 lists.2)
          (viewables, attachments) : Traced ε _).outcome := by
  constructor
  · intro root
    refine ⟨g.leaves true (g.parts root limit), g.leaves false (g.parts root limit), ?_,
      List.filter_sublist, List.filter_sublist, fun p hp hm => ⟨?_, ?_⟩, ?_⟩
    · rw [outcome_collect g root limit (viewables, attachments), foldl_sortLeaf]
    · exact count_leaves (nodup_parts g root limit) hp hm
    · rw [mem_leaves_iff, ← Node.isViewable_iff]
      exact ⟨fun h => h.2.2, fun h => ⟨hp, hm, h⟩⟩
    · rintro p (h | h)
      · exact (mem_leaves_iff.1 h).2.1
      · exact (mem_leaves_iff.1 h).2.1
  · intro r hr hl hm
    rw [outcome_foldlM_collect, outcome_collect g (some r) limit (viewables, attachments),
      parts_eq_cons_flatMap hr hl, List.foldl_cons, sortLeaf, if_pos hm]

/-- A text, a multipart without parts, and an attachment without a body. -/
def letterWithAttachment : Graph :=
  ⟨[⟨.message, [], some (.multipart "mixed" [1, 2, 3])⟩, ⟨.bodyPart, [], some (.text "a")⟩,
    ⟨.bodyPart, [], some (.multipart "mixed" [])⟩,
    ⟨.bodyPart, [("Content-Disposition", "attachment")], none⟩]⟩

theorem collect_partitions_letterWithAttachment :
    letterWithAttachment.ReachedOnce 0 ∧
    (∀ place p, letterWithAttachment.partAt? 0 place = some p → (place.length : Int) ≤ 1) ∧
    (letterWithAttachment.node 0).isMultipart = true ∧
    (letterWithAttachment.collect (some 0) 1 [] [] : Traced Empty _).outcome =
      ((letterWithAttachment.children 0).foldlM
        (fun lists c => letterWithAttachment.collect (some c) 1 lists.1 lists.2)
        ([], []) : Traced Empty _).outcome ∧
    ∃ vs as, (letterWithAttachment.collect (some 0) 1 [] [] : Traced Empty _).outcome =
      .ok (vs, as) ∧ 1 ∈ vs ∧ 3 ∈ as := by
  obtain ⟨ho, hl⟩ : letterWithAttachment.ReachedOnce 0 ∧
      ∀ place p, letterWithAttachment.partAt? 0 place = some p → place.length ≤ 1 :=
    reachedOnce_of_outline (by decide) (by decide)
  have hl (place : List Nat) (p : PartId) (hp : letterWithAttachment.partAt? 0 place = some p) :
      (place.length : Int) ≤ 1 := Int.ofNat_le.2 (hl place p hp)
  obtain ⟨hsort, hchildren⟩ := collect_partitions (ε := Empty) letterWithAttachment 1 [] []
  obtain ⟨vs, as, hvs, -, -, hleaf, -⟩ := hsort (some 0)
  have hp : letterWithAttachment.parts (some 0) 1 = [0, 1, 2, 3] := by
    rw [parts_eq_map_outline ho]
    decide
  rw [hp] at hleaf
  refine ⟨ho, hl, by decide, hchildren 0 ho hl (by decide), vs, as, hvs, ?_, ?_⟩
  · exact (hleaf 1 (by decide) (by decide)).2.2 (by decide +kernel)
  · obtain ⟨hcount, hviewable⟩ := hleaf 3 (by decide) (by decide)
    have hv : 3 ∉ vs := fun h => absurd (hviewable.1 h) (by decide +kernel)
    rw [List.count_eq_zero_of_not_mem hv] at hcount
    exact List.count_pos_iff.1 (by omega)

end Graph

end Mime
