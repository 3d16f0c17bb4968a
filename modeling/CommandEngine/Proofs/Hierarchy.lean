import CommandEngine.Hierarchy
import Mathlib.Logic.Relation

/-!
# What the declarations say

A declaration is an edge (`Hierarchy.Edge`) from a type to a direct supertype of it.  The walk of
`search` finds exactly what can be reached along one or more edges (`search_iff`), so one type is a
subtype of another exactly if the latter can be reached from it along any number of edges
(`isSubtype_iff`).  Neither says anything of how the map came about: both hold on cyclic maps.

`Hierarchy.Declared` are the hierarchies that sequences of declarations lead to.  A declaration is
refused exactly when its supertype is below its subtype already, and a refused declaration leaves
the hierarchy as it was, so only the accepted ones are steps.  Every such hierarchy is acyclic
(`Declared.acyclic`): a cycle through the new edge would be a way back from its upper to its lower
end, which is what the declaration asked for before it was made.  Hence two types that are subtypes
of each other are one (`Declared.isSubtype_antisymm`).
-/
namespace CommandEngine
namespace Hierarchy

open Relation

/-- `t` is declared as a direct supertype of `s`. -/
def Edge (h : Hierarchy) (s t : String) : Prop := t ∈ h.direct s

/-! ## The walk finds what can be reached -/

section Walk
variable {h : Hierarchy} {goal : String}

/-- What the walk finds is above one of the types it was to visit. -/
theorem reachable_of_search {visited toVisit : List String}
    (hfound : h.search goal visited toVisit = true) : ∃ t ∈ toVisit, TransGen h.Edge t goal := by
  induction visited, toVisit using search.induct h goal with
  | case1 visited => simp [search] at hfound
  | case2 visited t rest hvisited ih =>
    rw [search, if_pos hvisited] at hfound
    obtain ⟨s, hs, hreach⟩ := ih hfound
    exact ⟨s, List.mem_cons_of_mem _ hs, hreach⟩
  | case3 visited t rest _ hgoal => exact ⟨t, List.mem_cons_self, .single hgoal⟩
  | case4 visited t rest hnew hgoal ih =>
    rw [search, if_neg hnew, if_neg hgoal] at hfound
    obtain ⟨s, hs, hreach⟩ := ih hfound
    rcases List.mem_append.mp hs with hs | hs
    · exact ⟨t, List.mem_cons_self, .head (List.mem_reverse.mp hs) hreach⟩
    · exact ⟨s, List.mem_cons_of_mem _ hs, hreach⟩

/-- A set of types that is closed upwards and has no edge to the goal. -/
structure Avoids (h : Hierarchy) (goal : String) (types : String → Prop) : Prop where
  goal : ∀ s, types s → ¬ h.Edge s goal
  up : ∀ s t, types s → h.Edge s t → types t

theorem Avoids.not_reachable {types : String → Prop} (ha : h.Avoids goal types) {s : String}
    (hs : types s) : ¬ TransGen h.Edge s goal := by
  intro hreach
  obtain ⟨t, hst, hgoal⟩ := TransGen.tail'_iff.mp hreach
  have hclosed : ∀ u, ReflTransGen h.Edge s u → types u := by
    intro u hsu
    induction hsu with
    | refl => exact hs
    | tail _ hedge ih => exact ha.up _ _ ih hedge
  exact ha.goal t (hclosed t hst) hgoal

/-- A walk that finds nothing ends with a set that avoids the goal.  While it goes on, the edges
from visited types lead to types that are visited or to visit. -/
theorem avoids_of_search {visited toVisit : List String}
    (hgoal : ∀ s ∈ visited, ¬ h.Edge s goal)
    (hup : ∀ s ∈ visited, ∀ t, h.Edge s t → t ∈ visited ∨ t ∈ toVisit)
    (hnone : h.search goal visited toVisit = false) :
    ∃ types, h.Avoids goal types ∧ (∀ s ∈ visited, types s) ∧ ∀ s ∈ toVisit, types s := by
  induction visited, toVisit using search.induct h goal with
  | case1 visited =>
    refine ⟨(· ∈ visited), ⟨hgoal, ?_⟩, fun s hs => hs, by simp⟩
    intro s t hs ht
    exact (hup s hs t ht).resolve_right List.not_mem_nil
  | case2 visited t rest hvisited ih =>
    rw [search, if_pos hvisited] at hnone
    have hup' : ∀ s ∈ visited, ∀ u, h.Edge s u → u ∈ visited ∨ u ∈ rest := by
      intro s hs u hu
      rcases hup s hs u hu with hmem | hmem
      · exact .inl hmem
      · rcases List.mem_cons.mp hmem with rfl | hmem
        · exact .inl hvisited
        · exact .inr hmem
    obtain ⟨types, ha, hv, hr⟩ := ih hgoal hup' hnone
    refine ⟨types, ha, hv, ?_⟩
    intro s hs
    rcases List.mem_cons.mp hs with rfl | hs
    · exact hv s hvisited
    · exact hr s hs
  | case3 visited t rest hnew hedge => rw [search, if_neg hnew, if_pos hedge] at hnone; cases hnone
  | case4 visited t rest hnew hedge ih =>
    rw [search, if_neg hnew, if_neg hedge] at hnone
    have hgoal' : ∀ s ∈ t :: visited, ¬ h.Edge s goal := by
      intro s hs
      rcases List.mem_cons.mp hs with rfl | hs
      · exact hedge
      · exact hgoal s hs
    have hup' : ∀ s ∈ t :: visited, ∀ u, h.Edge s u →
        u ∈ t :: visited ∨ u ∈ (h.direct t).reverse ++ rest := by
      intro s hs u hu
      rcases List.mem_cons.mp hs with rfl | hs
      · exact .inr (List.mem_append_left _ (List.mem_reverse.mpr hu))
      · rcases hup s hs u hu with hmem | hmem
        · exact .inl (List.mem_cons_of_mem _ hmem)
        · rcases List.mem_cons.mp hmem with rfl | hmem
          · exact .inl List.mem_cons_self
          · exact .inr (List.mem_append_right _ hmem)
    obtain ⟨types, ha, hv, hr⟩ := ih hgoal' hup' hnone
    refine ⟨types, ha, fun s hs => hv s (List.mem_cons_of_mem _ hs), ?_⟩
    intro s hs
    rcases List.mem_cons.mp hs with rfl | hs
    · exact hv s List.mem_cons_self
    · exact hr s (List.mem_append_right _ hs)

/-- **The walk from a type finds exactly what is above it.** -/
theorem search_iff {s : String} : h.search goal [] [s] = true ↔ TransGen h.Edge s goal := by
  constructor
  · intro hfound
    obtain ⟨t, ht, hreach⟩ := reachable_of_search hfound
    rwa [List.mem_singleton.mp ht] at hreach
  · intro hreach
    cases hnone : h.search goal [] [s] with
    | true => rfl
    | false =>
      obtain ⟨types, ha, -, hs⟩ := avoids_of_search (by simp) (by simp) hnone
      exact (ha.not_reachable (hs s List.mem_cons_self) hreach).elim

/-- **Subtypes are what declarations lead up from.** -/
theorem isSubtype_iff {a b : TypeKey} : h.isSubtype a b = true ↔ ReflTransGen h.Edge a.id b.id := by
  rw [isSubtype, Bool.or_eq_true, beq_iff_eq, search_iff, reflTransGen_iff_eq_or_transGen, eq_comm]

/-- Subtypes depend on nothing but the edges. -/
theorem isSubtype_congr {h' : Hierarchy} {a b : TypeKey}
    (hedges : ∀ s t, h'.Edge s t ↔ h.Edge s t) : h'.isSubtype a b = h.isSubtype a b := by
  have hedge : h'.Edge = h.Edge := funext₂ fun s t => propext (hedges s t)
  rw [Bool.eq_iff_iff, isSubtype_iff, isSubtype_iff, hedge]

theorem isStrictSubtype_iff {a b : TypeKey} :
    h.isStrictSubtype a b = true ↔ a.id ≠ b.id ∧ ReflTransGen h.Edge a.id b.id := by
  rw [isStrictSubtype, Bool.and_eq_true, bne_iff_ne, isSubtype_iff]

end Walk

/-! ## Adding an edge -/

section Insert
variable {h : Hierarchy} {sub sup : String}

/-- An insertion adds its edge and no other. -/
theorem edge_insert {s t : String} :
    (h.insert sub sup).Edge s t ↔ h.Edge s t ∨ (s = sub ∧ t = sup) := by
  unfold Edge direct insert
  split
  · -- the type has an entry, and all its entries are extended
    rename_i hkey
    rw [List.find?_map]
    have hfun : ((fun e : String × List String => e.1 == s) ∘ fun e : String × List String =>
        if e.1 = sub ∧ sup ∉ e.2 then (e.1, e.2 ++ [sup]) else (e.1, e.2)) = fun e => e.1 == s := by
      funext e
      simp only [Function.comp]
      split <;> rfl
    rw [hfun]
    cases hfind : h.supertypes.find? (·.1 == s) with
    | none =>
      have hne : s ≠ sub := by
        rintro rfl
        obtain ⟨e, he, hes⟩ := List.any_eq_true.mp hkey
        have := List.find?_eq_none.mp hfind e he
        exact this hes
      simp [hne]
    | some e =>
      have hes : e.1 = s := by simpa using List.find?_some hfind
      by_cases hadd : e.1 = sub ∧ sup ∉ e.2
      · simp [hadd, ← hes]
      · by_cases hsub : s = sub
        · have hmem : sup ∈ e.2 :=
            Classical.byContradiction fun hnot => hadd ⟨hes.trans hsub, hnot⟩
          simp only [Option.map_some, if_neg hadd, Option.getD_some, hsub, true_and]
          constructor
          · exact .inl
          · rintro (ht | rfl)
            · exact ht
            · exact hmem
        · simp [hadd, hsub]
  · -- the type gets its first entry
    rename_i hkey
    have hnone : h.supertypes.find? (·.1 == sub) = none := by
      rw [List.find?_eq_none]
      intro e he hes
      exact hkey (List.any_eq_true.mpr ⟨e, he, hes⟩)
    rw [List.find?_append]
    by_cases hs : s = sub
    · subst hs
      simp [hnone]
    · have : ¬ (sub == s) = true := by simpa using Ne.symm hs
      simp [this, hs]

/-- A way that may use the new edge does not, or leads up to its lower end and on from its upper
one. -/
theorem reachable_insert {s t : String} (hreach : TransGen (h.insert sub sup).Edge s t) :
    TransGen h.Edge s t ∨ ReflTransGen h.Edge s sub ∧ ReflTransGen h.Edge sup t := by
  induction hreach with
  | single hedge =>
    rcases edge_insert.mp hedge with hold | ⟨rfl, rfl⟩
    · exact .inl (.single hold)
    · exact .inr ⟨.refl, .refl⟩
  | tail _ hedge ih =>
    rcases edge_insert.mp hedge with hold | ⟨rfl, rfl⟩
    · rcases ih with hway | ⟨hup, hon⟩
      · exact .inl (hway.tail hold)
      · exact .inr ⟨hup, hon.tail hold⟩
    · rcases ih with hway | ⟨hup, -⟩
      · exact .inr ⟨hway.to_reflTransGen, .refl⟩
      · exact .inr ⟨hup, .refl⟩

end Insert

/-! ## Declared hierarchies -/

/-- No type is above itself. -/
def Acyclic (h : Hierarchy) : Prop := ∀ t, ¬ TransGen h.Edge t t

theorem acyclic_empty : empty.Acyclic := by
  intro t hcycle
  obtain ⟨s, hedge, -⟩ := TransGen.head'_iff.mp hcycle
  simp [Edge, direct, empty] at hedge

theorem Acyclic.declare {h h' : Hierarchy} (ha : h.Acyclic) {sub sup : TypeKey}
    (hdeclare : h.declare sub sup = .ok h') : h'.Acyclic := by
  unfold Hierarchy.declare at hdeclare
  split at hdeclare
  · cases hdeclare
  · rename_i hnot
    rw [isSubtype_iff] at hnot
    obtain rfl := Except.ok.inj hdeclare
    intro t hcycle
    rcases reachable_insert hcycle with hold | ⟨hup, hon⟩
    · exact ha t hold
    · exact hnot (hon.trans hup)

/-- **The hierarchies that declarations lead to.**  A refused declaration changes nothing. -/
inductive Declared : Hierarchy → Prop
  | empty : Declared empty
  | declare {h h' : Hierarchy} {sub sup : TypeKey} (hd : Declared h)
      (hdeclare : h.declare sub sup = .ok h') : Declared h'

/-- **Declared hierarchies are free of cycles.** -/
theorem Declared.acyclic {h : Hierarchy} (hd : h.Declared) : h.Acyclic := by
  induction hd with
  | empty => exact acyclic_empty
  | declare _ hdeclare ih => exact ih.declare hdeclare

theorem Acyclic.antisymm {h : Hierarchy} (ha : h.Acyclic) {s t : String}
    (hst : ReflTransGen h.Edge s t) (hts : ReflTransGen h.Edge t s) : s = t := by
  rcases reflTransGen_iff_eq_or_transGen.mp hst with heq | hway
  · exact heq.symm
  · exact (ha s (hway.trans_left hts)).elim

/-- **Types that are subtypes of each other are one.** -/
theorem Declared.isSubtype_antisymm {h : Hierarchy} (hd : h.Declared) {a b : TypeKey}
    (hab : h.isSubtype a b = true) (hba : h.isSubtype b a = true) : a.id = b.id :=
  hd.acyclic.antisymm (isSubtype_iff.mp hab) (isSubtype_iff.mp hba)

/-- Strict subtypes of strict subtypes are strict subtypes. -/
theorem Declared.isStrictSubtype_trans {h : Hierarchy} (hd : h.Declared) {a b c : TypeKey}
    (hab : h.isStrictSubtype a b = true) (hbc : h.isStrictSubtype b c = true) :
    h.isStrictSubtype a c = true := by
  obtain ⟨hne, hab⟩ := isStrictSubtype_iff.mp hab
  obtain ⟨-, hbc⟩ := isStrictSubtype_iff.mp hbc
  refine isStrictSubtype_iff.mpr ⟨?_, hab.trans hbc⟩
  intro heq
  rw [← heq] at hbc
  exact hne (hd.acyclic.antisymm hab hbc)

end Hierarchy
end CommandEngine
