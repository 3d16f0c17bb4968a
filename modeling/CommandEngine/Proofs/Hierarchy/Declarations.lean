import CommandEngine.Proofs.Hierarchy
import Mathlib.Data.List.Induction

/-!
# Rows of declarations

A builder is given its supertypes as a row of pairs, and they are declared one after the other.
Each declaration is checked against the ones before it, so at first sight it matters how the row
is ordered.  What is accepted does not depend on that: the pairs are a graph (`Drawn`), and the
row is accepted exactly if this graph has no cycle (`declareAll_ok_iff`).  The last edge of a
cycle is refused wherever it stands, and if no cycle is there, no edge can close one.

What is reported does depend on the order.  The refused pair is the first one that closes a cycle
(`declareAll_error_iff`).

`ofPairs` is the hierarchy that the pairs draw, cyclic or not, so that one can speak of the
supertypes of a builder before they are accepted.
-/
namespace CommandEngine
namespace Hierarchy

open Relation

/-- The pairs have an edge from one type to the other. -/
def Drawn (pairs : List (TypeKey × TypeKey)) (s t : String) : Prop :=
  ∃ p ∈ pairs, p.1.id = s ∧ p.2.id = t

/-- The pairs lead from no type back to it. -/
def Loopless (pairs : List (TypeKey × TypeKey)) : Prop := ∀ t, ¬ TransGen (Drawn pairs) t t

/-- The hierarchy that has the pairs as its edges.  Nothing is checked. -/
def ofPairs (pairs : List (TypeKey × TypeKey)) : Hierarchy :=
  pairs.foldl (fun h p => h.insert p.1.id p.2.id) empty

section Pairs
variable {pairs pairs' before after : List (TypeKey × TypeKey)} {p : TypeKey × TypeKey}
  {h : Hierarchy} {s t : String}

/-! ## The graph of the pairs -/

theorem drawn_append_singleton :
    Drawn (pairs ++ [p]) s t ↔ Drawn pairs s t ∨ (s = p.1.id ∧ t = p.2.id) := by
  constructor
  · rintro ⟨q, hq, hs, ht⟩
    rcases List.mem_append.mp hq with hq | hq
    · exact .inl ⟨q, hq, hs, ht⟩
    · obtain rfl := List.mem_singleton.mp hq
      exact .inr ⟨hs.symm, ht.symm⟩
  · rintro (⟨q, hq, hs, ht⟩ | ⟨rfl, rfl⟩)
    · exact ⟨q, List.mem_append_left _ hq, hs, ht⟩
    · exact ⟨p, List.mem_append_right _ (List.mem_singleton_self p), rfl, rfl⟩

theorem Drawn.mono (hsub : pairs ⊆ pairs') (hdrawn : Drawn pairs s t) : Drawn pairs' s t := by
  obtain ⟨q, hq, hs, ht⟩ := hdrawn
  exact ⟨q, hsub hq, hs, ht⟩

/-- The graph does not depend on the order of the pairs. -/
theorem drawn_perm (hperm : pairs.Perm pairs') : Drawn pairs = Drawn pairs' := by
  funext s t
  apply propext
  constructor
  · exact Drawn.mono hperm.subset
  · exact Drawn.mono hperm.symm.subset

theorem loopless_perm (hperm : pairs.Perm pairs') : Loopless pairs ↔ Loopless pairs' := by
  rw [Loopless, Loopless, drawn_perm hperm]

theorem ofPairs_append_singleton : ofPairs (pairs ++ [p]) = (ofPairs pairs).insert p.1.id p.2.id :=
  List.foldl_append

/-- The edges of the hierarchy are the pairs. -/
theorem edge_ofPairs : (ofPairs pairs).Edge = Drawn pairs := by
  funext s t
  apply propext
  induction pairs using List.reverseRecOn with
  | nil => simp [ofPairs, Edge, direct, empty, Drawn]
  | append_singleton pairs p ih =>
    rw [ofPairs_append_singleton, edge_insert, drawn_append_singleton, ih]

/-- **One type is below another** if the pairs lead up to it. -/
theorem isSubtype_ofPairs {a b : TypeKey} :
    (ofPairs pairs).isSubtype a b = true ↔ ReflTransGen (Drawn pairs) a.id b.id := by
  rw [isSubtype_iff, edge_ofPairs]

theorem acyclic_ofPairs : (ofPairs pairs).Acyclic ↔ Loopless pairs := by
  rw [Acyclic, edge_ofPairs, Loopless]

theorem loopless_nil : Loopless [] := acyclic_ofPairs.mp acyclic_empty

/-- Subtyping does not depend on the order of the pairs. -/
theorem isSubtype_ofPairs_perm (hperm : pairs.Perm pairs') (a b : TypeKey) :
    (ofPairs pairs).isSubtype a b = (ofPairs pairs').isSubtype a b := by
  apply isSubtype_congr
  intro s t
  rw [edge_ofPairs, edge_ofPairs, drawn_perm hperm]

/-! ## Declaring the pairs -/

theorem declareAll_append : h.declareAll (before ++ after) =
    h.declareAll before >>= fun h => h.declareAll after := List.foldlM_append

/-- The last pair of a row is declared in what the others made. -/
theorem declareAll_append_singleton {h' : Hierarchy} (hbefore : empty.declareAll pairs = .ok h') :
    empty.declareAll (pairs ++ [p]) = h'.declare p.1 p.2 := by
  rw [declareAll_append, hbefore]
  show (h'.declare p.1 p.2 >>= fun h => pure h) = _
  exact bind_pure _

/-- A row goes on until a pair leads back. -/
theorem declareAll_refused {h' : Hierarchy} (hbefore : empty.declareAll before = .ok h')
    (hback : h'.isSubtype p.2 p.1 = true) :
    empty.declareAll (before ++ p :: after) = .error ⟨p.1, p.2⟩ := by
  have hdeclare : h'.declare p.1 p.2 = .error ⟨p.1, p.2⟩ := if_pos hback
  rw [declareAll_append, hbefore]
  show (h'.declare p.1 p.2 >>= fun h => h.declareAll after) = _
  rw [hdeclare]
  rfl

/-- A row without cycles is accepted, and otherwise there is a first pair that closes one. -/
theorem declareAll_cases (pairs : List (TypeKey × TypeKey)) :
    (Loopless pairs ∧ empty.declareAll pairs = .ok (ofPairs pairs)) ∨
    ∃ before p after, pairs = before ++ p :: after ∧ Loopless before ∧
      ReflTransGen (Drawn before) p.2.id p.1.id ∧
      empty.declareAll pairs = .error ⟨p.1, p.2⟩ := by
  induction pairs using List.reverseRecOn with
  | nil => exact .inl ⟨loopless_nil, rfl⟩
  | append_singleton pairs p ih =>
    rcases ih with ⟨hloopless, hdeclared⟩ | ⟨before, q, after, rfl, hloopless, hback, herror⟩
    · by_cases hback : (ofPairs pairs).isSubtype p.2 p.1 = true
      · exact .inr ⟨pairs, p, [], rfl, hloopless, isSubtype_ofPairs.mp hback,
          declareAll_refused hdeclared hback⟩
      · have hdeclare : (ofPairs pairs).declare p.1 p.2 = .ok (ofPairs (pairs ++ [p])) := by
          rw [declare, if_neg hback, ofPairs_append_singleton]
        refine .inl ⟨?_, ?_⟩
        · exact acyclic_ofPairs.mp ((acyclic_ofPairs.mpr hloopless).declare hdeclare)
        · rw [declareAll_append_singleton hdeclared, hdeclare]
    · refine .inr ⟨before, q, after ++ [p], by simp, hloopless, hback, ?_⟩
      rw [declareAll_append, herror]
      rfl

/-- A pair that leads back closes a cycle in every row that goes on from it. -/
theorem not_loopless (hback : ReflTransGen (Drawn before) p.2.id p.1.id) :
    ¬ Loopless (before ++ p :: after) := by
  intro hloopless
  have hback' : ReflTransGen (Drawn (before ++ p :: after)) p.2.id p.1.id :=
    ReflTransGen.mono (fun _ _ => Drawn.mono (List.subset_append_left before _)) _ _ hback
  have hedge : Drawn (before ++ p :: after) p.1.id p.2.id :=
    ⟨p, List.mem_append_right _ List.mem_cons_self, rfl, rfl⟩
  exact hloopless _ (TransGen.head' hedge hback')

/-- **A row is accepted** exactly if its pairs are free of cycles, and then they are the edges. -/
theorem declareAll_ok_iff :
    empty.declareAll pairs = .ok h ↔ Loopless pairs ∧ h = ofPairs pairs := by
  rcases declareAll_cases pairs with
    ⟨hloopless, hok⟩ | ⟨before, p, after, rfl, -, hback, herror⟩
  · rw [hok, Except.ok.injEq, eq_comm]
    exact ⟨fun heq => ⟨hloopless, heq⟩, fun heq => heq.2⟩
  · rw [herror]
    constructor
    · intro hok
      cases hok
    · rintro ⟨hloopless, -⟩
      exact absurd hloopless (not_loopless hback)

/-- **The refused pair** is the first one that closes a cycle. -/
theorem declareAll_error_iff {e : Cycle} : empty.declareAll pairs = .error e ↔
    ∃ before p after, pairs = before ++ p :: after ∧ Loopless before ∧
      ReflTransGen (Drawn before) p.2.id p.1.id ∧ e = ⟨p.1, p.2⟩ := by
  constructor
  · intro herror
    rcases declareAll_cases pairs with
      ⟨-, hok⟩ | ⟨before, p, after, hpairs, hloopless, hback, herror'⟩
    · cases herror.symm.trans hok
    · exact ⟨before, p, after, hpairs, hloopless, hback,
        Except.error.inj (herror.symm.trans herror')⟩
  · rintro ⟨before, p, after, rfl, hloopless, hback, rfl⟩
    exact declareAll_refused (declareAll_ok_iff.mpr ⟨hloopless, rfl⟩)
      (isSubtype_ofPairs.mpr hback)

/-- A row without cycles is one to its last pair, which is accepted then. -/
theorem Loopless.split_last (hloopless : Loopless (pairs ++ [p])) :
    Loopless pairs ∧ (ofPairs pairs).declare p.1 p.2 = .ok (ofPairs (pairs ++ [p])) := by
  have hbefore : Loopless pairs := fun t hcycle => hloopless t <|
    TransGen.mono (fun _ _ => Drawn.mono (List.subset_append_left pairs _)) _ _ hcycle
  refine ⟨hbefore, ?_⟩
  rw [← declareAll_append_singleton (declareAll_ok_iff.mpr ⟨hbefore, rfl⟩)]
  exact declareAll_ok_iff.mpr ⟨hloopless, rfl⟩

/-- What was accepted is a declared hierarchy. -/
theorem Loopless.declared (hloopless : Loopless pairs) : (ofPairs pairs).Declared := by
  induction pairs using List.reverseRecOn with
  | nil => exact .empty
  | append_singleton pairs p ih =>
    obtain ⟨hbefore, hdeclare⟩ := hloopless.split_last
    exact .declare (ih hbefore) hdeclare

end Pairs
end Hierarchy
end CommandEngine
