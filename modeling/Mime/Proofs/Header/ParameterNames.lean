import Mime.Proofs.Header.AppendedParameter
import Mime.Proofs.Header.WrittenParameter

/-! The names of the parameters of a value. All parameters are read under the names that the value
gives, each once and where it comes first, and looking for one of them finds what is read under its
name: `lookups_agree`. -/

namespace Mime.Header

/-- The names that a value gives to its parameters, in lower case and as often as they are given. -/
def givenNames (t : Text) : List Text := (parameterList t).map (·.1.lower)

/-- The names under which the parameters are read. -/
def readNames (t : Text) : List Text := (parameters t).map Prod.fst

variable {seen before : List Text} {ps : List (Text × Text)} {k t : Text}

theorem mem_map_firsts :
    k ∈ (firsts seen ps).map Prod.fst ↔ k ∈ ps.map Prod.fst ∧ k ∉ seen := by
  induction ps generalizing seen with
  | nil => simp [firsts]
  | cons p ps ih =>
    rw [firsts]
    split
    · rename_i hp
      rw [ih, List.map_cons, List.mem_cons]
      constructor
      · exact fun h => ⟨.inr h.1, h.2⟩
      · rintro ⟨rfl | hk, hs⟩
        · exact absurd hp hs
        · exact ⟨hk, hs⟩
    · rename_i hp
      rw [List.map_cons, List.mem_cons, ih, List.map_cons, List.mem_cons, List.mem_cons, not_or]
      by_cases hk : k = p.1
      · simp [hk, hp]
      · simp [hk]

/-- The keys come in the order in which they were first met, if those that were met before are the
ones that were seen. -/
theorem pairwise_firsts (hs : ∀ k, k ∈ seen ↔ k ∈ before) :
    ((firsts seen ps).map Prod.fst).Pairwise fun a b =>
      (before ++ ps.map Prod.fst).idxOf a < (before ++ ps.map Prod.fst).idxOf b := by
  induction ps generalizing seen before with
  | nil => exact List.Pairwise.nil
  | cons p ps ih =>
    have hmove : before ++ (p :: ps).map Prod.fst = (before ++ [p.1]) ++ ps.map Prod.fst := by
      rw [List.map_cons, List.append_assoc, List.singleton_append]
    rw [hmove, firsts]
    split
    · rename_i hp
      refine ih fun k => ?_
      rw [hs, List.mem_append, List.mem_singleton]
      exact ⟨.inl, fun h => h.elim id fun hk => hk ▸ (hs p.1).1 hp⟩
    · rename_i hp
      refine List.pairwise_cons.2 ⟨fun k hk => ?_, ih fun k => ?_⟩
      · -- A key that comes later is met after all of those before and after this one.
        have hlate : k ∉ before ++ [p.1] := by
          intro hmem
          rw [List.mem_append, List.mem_singleton, ← hs] at hmem
          exact (mem_map_firsts.1 hk).2 (List.mem_cons.2 hmem.symm)
        have hfirst : (before ++ [p.1] ++ ps.map Prod.fst).idxOf p.1 = before.length := by
          rw [List.append_assoc, List.idxOf_append_of_notMem (mt (hs p.1).2 hp),
            List.singleton_append, List.idxOf_cons_self]
          rfl
        rw [hfirst, List.idxOf_append_of_notMem hlate, List.length_append, List.length_singleton]
        omega
      · rw [List.mem_cons, hs, List.mem_append, List.mem_singleton, or_comm]

theorem readNames_eq (t : Text) :
    readNames t = (firsts [] ((parameterList t).map fun p => (p.1.lower, p.2))).map Prod.fst := rfl

theorem givenNames_eq (t : Text) :
    givenNames t = ((parameterList t).map fun p => (p.1.lower, p.2)).map Prod.fst := by
  rw [List.map_map]
  rfl

theorem mem_readNames_iff : k ∈ readNames t ↔ k ∈ givenNames t := by
  rw [readNames_eq, mem_map_firsts, givenNames_eq]
  exact and_iff_left List.not_mem_nil

theorem pairwise_readNames (t : Text) :
    (readNames t).Pairwise fun a b => (givenNames t).idxOf a < (givenNames t).idxOf b := by
  have hs : ∀ k : Text, k ∈ [] ↔ k ∈ [] := fun _ => .rfl
  rw [readNames_eq, givenNames_eq]
  exact pairwise_firsts hs

theorem lower_ne_nil (h : t ≠ []) : t.lower ≠ [] := by
  obtain ⟨c, r, rfl⟩ := List.exists_cons_of_ne_nil h
  obtain ⟨p, he, hp, -⟩ := Text.lowerAfter_cons [] c r
  rw [Text.lower, he]
  exact List.append_ne_nil_of_left_ne_nil hp _

theorem name_ne_nil_of_parameterOf? {segment : Text} {p : Text × Text}
    (h : parameterOf? segment = some p) : p.1 ≠ [] := by
  unfold parameterOf? at h
  split at h
  · cases h
  · split at h
    · cases h
    · rename_i hn
      rw [← Option.some.inj h]
      exact hn

/-- No parameter goes without a name. -/
theorem nil_not_mem_givenNames (t : Text) : [] ∉ givenNames t := by
  intro h
  obtain ⟨p, hp, he⟩ := List.mem_map.1 h
  obtain ⟨segment, -, hs⟩ := List.mem_filterMap.1 hp
  exact lower_ne_nil (name_ne_nil_of_parameterOf? hs) he

/-- Looking for a parameter, by a name in any letter case and with blanks around it, finds what is
read under that name among all parameters, and finds nothing just if nothing is. These names are
the ones given, not empty, each once, and in the order in which they are first given. -/
theorem lookups_agree (t : Text) :
    (∀ name : Text, lookup? (some name) t = (parameters t).lookup name.trim.lower ∧
      (lookup? (some name) t = none ↔ name.trim.lower ∉ readNames t)) ∧
    (∀ k, k ∈ readNames t ↔ k ∈ givenNames t) ∧
    (readNames t).Nodup ∧ [] ∉ readNames t ∧
    (readNames t).Pairwise fun a b => (givenNames t).idxOf a < (givenNames t).idxOf b := by
  refine ⟨fun name => ⟨parameter?_eq_lookup name t, ?_⟩, fun k => mem_readNames_iff, ?_, ?_,
    pairwise_readNames t⟩
  · rw [lookup?, parameter?_eq_lookup, List.lookup_eq_none_iff, readNames, List.mem_map]
    constructor
    · rintro h ⟨p, hp, he⟩
      exact absurd he.symm (by simpa using h p hp)
    · intro h p hp
      exact bne_iff_ne.2 fun he => h ⟨p, hp, he.symm⟩
  · exact (pairwise_readNames t).imp fun {a b} hlt he => absurd (he ▸ hlt) (Nat.lt_irrefl _)
  · rw [mem_readNames_iff]
    exact nil_not_mem_givenNames t

/-- The small letters of the first name are two characters, which the last name has as they are. -/
example :
    readNames "x; \u0130=1; N = 2; =3; n=4; m; i\u0307=\"5;" =
      [("i\u0307" : Text), ("n" : Text)] ∧
    lookup? (some " \u0130") "x; \u0130=1; N = 2; =3; n=4; m; i\u0307=\"5;" =
      some ("1" : Text) := by
  decide +kernel

end Mime.Header
