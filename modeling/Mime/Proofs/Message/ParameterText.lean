import Mime.Message.Basic
import Mime.Proofs.Except
import Mime.Proofs.Octets

/-! What the value of a parameter is made of. A value that is looked into has no surrogates, and
neither taking it apart nor putting segments together brings any in, so that the name of a charset
that stands in plain text can always be encoded: `scalar_of_parameter?`. -/

namespace Mime

namespace Text

/-- A text without surrogates. -/
def Scalar (t : Text) : Prop := ∀ c ∈ t, c.isSurrogate = false

instance (t : Text) : Decidable (Scalar t) :=
  inferInstanceAs (Decidable (∀ c ∈ t, c.isSurrogate = false))

variable {s t : Text} {a b c : CodePoint}

theorem Scalar.of_subset (h : s ⊆ t) (ht : Scalar t) : Scalar s := fun c hc => ht c (h hc)

theorem scalar_append_iff : Scalar (s ++ t) ↔ Scalar s ∧ Scalar t := List.forall_mem_append

theorem scalar_cons_iff : Scalar (c :: t) ↔ c.isSurrogate = false ∧ Scalar t := List.forall_mem_cons

theorem scalar_flatMap {α : Type} {f : α → Text} {l : List α} (h : ∀ x ∈ l, Scalar (f x)) :
    Scalar (l.flatMap f) := by
  intro c hc
  obtain ⟨x, hx, hc⟩ := List.mem_flatMap.1 hc
  exact h x hx c hc

theorem trim_sublist (t : Text) : List.Sublist t.trim t := by
  have hend := (List.dropWhile_sublist CodePoint.isBlank (l := t.trimStart.reverse)).reverse
  rw [List.reverse_reverse] at hend
  exact hend.trans (List.dropWhile_sublist _)

theorem inner_sublist (t : Text) : List.Sublist t.inner t :=
  (List.dropLast_sublist _).trans (List.tail_sublist _)

theorem sublist_of_cut (h : (cut c t).2 = some s) : List.Sublist s t := by
  obtain ⟨d, hd⟩ : ∃ d, t.dropWhile (· != c) = d :: s := by
    cases hw : t.dropWhile (· != c) with
    | nil => simp [cut, hw] at h
    | cons d r => exact ⟨d, by simpa [cut, hw] using h⟩
  exact (List.sublist_cons_self d s).trans (hd ▸ List.dropWhile_sublist _)

theorem scalar_pieces (ht : Scalar t) : ∀ p ∈ (pieces c t).1 :: (pieces c t).2, Scalar p := by
  induction t with
  | nil => simp [pieces, Scalar]
  | cons d t ih =>
    obtain ⟨hd, ht⟩ := scalar_cons_iff.1 ht
    have ih := ih ht
    rw [pieces]
    generalize pieces c t = x at ih ⊢
    obtain ⟨p, ps⟩ := x
    dsimp only at ih ⊢
    split_ifs
    · exact List.forall_mem_cons.2 ⟨fun c hc => absurd hc List.not_mem_nil, ih⟩
    · rw [List.forall_mem_cons] at ih ⊢
      exact ⟨scalar_cons_iff.2 ⟨hd, ih.1⟩, ih.2⟩

theorem scalar_replacePair {new : Text} (hn : Scalar new) (ht : Scalar t) :
    Scalar (replacePair a b new t) := by
  induction t using replacePair.induct a b with
  | case1 => exact ht
  | case2 c => exact ht
  | case3 c d r h ih =>
    rw [replacePair, if_pos h, scalar_append_iff]
    exact ⟨hn, ih (scalar_cons_iff.1 (scalar_cons_iff.1 ht).2).2⟩
  | case4 c d r h ih =>
    rw [replacePair, if_neg h, scalar_cons_iff]
    exact ⟨(scalar_cons_iff.1 ht).1, ih (scalar_cons_iff.1 ht).2⟩

end Text

namespace Message

open Text (Scalar)

/-- The value is in plain text without surrogates, or extended. -/
def Value.Clean : Value → Prop
  | plain t => Scalar t
  | extended _ _ => True

namespace Value

variable {t : Text}

theorem scalar_unquote (ht : Scalar t) : Scalar (unquote t) := by
  have hinner := ht.of_subset (Text.inner_sublist t).subset
  unfold unquote
  split_ifs
  · exact Text.scalar_replacePair (by decide) (Text.scalar_replacePair (by decide) hinner)
  · exact hinner
  · exact ht

theorem scalar_quote (ht : Scalar t) : Scalar (quote t) := by
  have hchars : Scalar (t.flatMap quotedChar) := Text.scalar_flatMap fun c hc => by
    unfold quotedChar
    split_ifs with h
    · rcases h with rfl | rfl <;> decide
    · exact Text.scalar_cons_iff.2 ⟨ht c hc, fun c hc => absurd hc List.not_mem_nil⟩
  exact Text.scalar_append_iff.2 ⟨Text.scalar_append_iff.2 ⟨by decide, hchars⟩, by decide⟩

theorem Clean.unquoted {v : Value} (h : v.Clean) : v.unquoted.Clean := by
  cases v with
  | plain t => exact scalar_unquote h
  | extended origin t => trivial

end Value

theorem scalar_joinQuoted {first : Text} {more : List Text} (h : ∀ p ∈ first :: more, Scalar p) :
    ∀ p ∈ joinQuoted first more, Scalar p := by
  induction more generalizing first with
  | nil => exact h
  | cons p more ih =>
    obtain ⟨hf, hmore⟩ := List.forall_mem_cons.1 h
    obtain ⟨hp, hrest⟩ := List.forall_mem_cons.1 hmore
    rw [joinQuoted]
    split_ifs
    · refine ih (List.forall_mem_cons.2 ⟨?_, hrest⟩)
      exact Text.scalar_append_iff.2 ⟨Text.scalar_append_iff.2 ⟨hf, by decide⟩, hp⟩
    · exact List.forall_mem_cons.2 ⟨hf, ih hmore⟩

theorem scalar_nameAndValue {piece : Text} (h : Scalar piece) : Scalar (nameAndValue piece).2 := by
  unfold nameAndValue
  split
  · rename_i name value hc
    have hv : (piece.cut '=').2 = some value := by rw [hc]
    exact h.of_subset ((Text.trim_sublist value).trans (Text.sublist_of_cut hv)).subset
  · exact fun c hc => absurd hc List.not_mem_nil

/-- All that has been gathered is without surrogates. -/
structure Gathered.Clean (g : Gathered) : Prop where
  whole : ∀ e ∈ g.whole, e.2.Clean
  segments : ∀ e ∈ g.segments, ∀ s ∈ e.2, Scalar s.text

theorem Gathered.Clean.addSegment {g : Gathered} (hg : g.Clean) {name : Text} {s : Segment}
    (hs : Scalar s.text) : (g.addSegment name s).Clean := by
  unfold Gathered.addSegment
  split_ifs
  · refine ⟨hg.whole, ?_⟩
    intro e he
    obtain ⟨e', he', rfl⟩ := List.mem_map.1 he
    have hold := hg.segments e' he'
    split_ifs
    · exact List.forall_mem_append.2 ⟨hold, List.forall_mem_singleton.2 hs⟩
    · exact hold
  · refine ⟨hg.whole, List.forall_mem_append.2 ⟨hg.segments, ?_⟩⟩
    exact List.forall_mem_singleton.2 (List.forall_mem_singleton.2 hs)

theorem Gathered.Clean.gather {g g' : Gathered} {ps : List (Text × Text)} (hg : g.Clean)
    (hps : ∀ p ∈ ps, Scalar p.2) (h : Message.gather g ps = .ok g') : g'.Clean := by
  induction ps generalizing g with
  | nil =>
    obtain rfl := Except.ok.inj h
    exact hg
  | cons p ps ih =>
    obtain ⟨name, value⟩ := p
    obtain ⟨hv, hps⟩ := List.forall_mem_cons.1 hps
    have hv := Value.scalar_unquote hv
    rw [Message.gather] at h
    split at h
    · refine ih ?_ hps h
      refine ⟨List.forall_mem_append.2 ⟨hg.whole, fun e he => ?_⟩, hg.segments⟩
      rw [List.mem_singleton.1 he]
      exact Value.scalar_quote hv
    · split at h
      · cases h
      · exact ih (hg.addSegment hv) hps h

theorem Value.clean_ofExtended (quoted : Text) : (ofExtended quoted).Clean := by
  unfold ofExtended
  dsimp only
  split
  · split <;> trivial
  · trivial

/-- Segments none of which is encoded are put together as they are. -/
theorem clean_of_assemble {segments : List Segment} {v : Value}
    (hs : ∀ s ∈ segments, Scalar s.text) (h : assemble segments = .ok v) : v.Clean := by
  unfold assemble at h
  split at h
  · cases h
  · dsimp only at h
    obtain rfl := Except.ok.inj h
    split_ifs with he
    · exact Value.clean_ofExtended _
    · refine Value.scalar_quote (Text.scalar_flatMap fun s hm => ?_)
      have hplain : s.encoded = false := by
        simpa using (List.any_eq_false.1 (Bool.eq_false_iff.2 he)) s hm
      rw [hplain]
      exact hs s (List.mem_mergeSort.1 hm)

theorem clean_of_parameters {value : Text} {ps : List (Text × Value)} (hv : Scalar value)
    (h : parameters value = .ok ps) : ∀ p ∈ ps, p.2.Clean := by
  have hpieces := scalar_joinQuoted (Text.scalar_pieces (c := ';') hv)
  have hpairs : ∀ p ∈ (joinQuoted (value.pieces ';').1 (value.pieces ';').2).map nameAndValue,
      Scalar p.2 := by
    intro p hp
    obtain ⟨piece, hm, rfl⟩ := List.mem_map.1 hp
    exact scalar_nameAndValue (hpieces piece hm)
  unfold parameters at h
  dsimp only at h
  split at h
  · obtain rfl := Except.ok.inj h
    exact fun p hp => absurd hp List.not_mem_nil
  · rename_i token rest others hm
    rw [hm] at hpairs
    obtain ⟨hrest, hothers⟩ := List.forall_mem_cons.1 hpairs
    obtain ⟨g, hg, h⟩ := bind_eq_ok_iff.1 h
    obtain ⟨assembled, ha, h⟩ := bind_eq_ok_iff.1 h
    obtain rfl := Except.ok.inj h
    have hfirst : (⟨[(token, .plain rest)], []⟩ : Gathered).Clean := by
      refine ⟨fun e he => ?_, fun e he => absurd he List.not_mem_nil⟩
      rw [List.mem_singleton.1 he]
      exact hrest
    have hclean := hfirst.gather hothers hg
    refine List.forall_mem_append.2 ⟨hclean.whole, fun p hp => ?_⟩
    obtain ⟨e, he, h⟩ := of_mem_mapM ha hp
    obtain ⟨v, hv, h⟩ := bind_eq_ok_iff.1 h
    obtain rfl := Except.ok.inj h
    exact clean_of_assemble (hclean.segments e he) hv

theorem scalar_of_legible {value r : Text} (h : legible value = .ok r) : Scalar r := by
  unfold legible at h
  split at h
  · obtain ⟨o, -, rfl⟩ := map_eq_ok_iff.1 h
    intro c hc
    obtain ⟨u, hu, rfl⟩ := List.mem_map.1 hc
    obtain ⟨b, -, rfl⟩ := List.mem_map.1 hu
    split_ifs
    · exact CodePoint.isSurrogate_ofByte b
    · rfl
  · rename_i hs
    obtain rfl := Except.ok.inj h
    exact Text.hasSurrogate_eq_false_iff.1 (Bool.eq_false_iff.2 hs)

/-- A value in plain text has no surrogates. -/
theorem scalar_of_parameter? {name label : Text} {fields : Fields}
    (h : parameter? name fields = .ok (some (.plain label))) : Scalar label := by
  obtain ⟨r, hr, h⟩ := bind_eq_ok_iff.1 h
  cases r with
  | none => cases h
  | some value =>
    have hvalue : Scalar value := by
      have hr := mapError_eq_ok_iff.1 hr
      unfold legible? at hr
      split at hr
      · cases hr
      · obtain ⟨r, hr, he⟩ := map_eq_ok_iff.1 hr
        exact Option.some.inj he ▸ scalar_of_legible hr
    obtain ⟨ps, hps, h⟩ := bind_eq_ok_iff.1 (mapError_eq_ok_iff.1 h)
    obtain ⟨p, hp, hv⟩ := Option.map_eq_some_iff.1 (Except.ok.inj h)
    have hclean := (clean_of_parameters hvalue hps p (List.mem_of_find?_eq_some hp)).unquoted
    rw [hv] at hclean
    exact hclean

end Message

end Mime
