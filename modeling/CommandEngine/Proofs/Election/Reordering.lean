import CommandEngine.Proofs.Election
import Mathlib.Logic.Equiv.Basic

/-!
# The winner does not depend on the order of the candidates

The vote screens the candidates in the order they stand, compares all pairs of them, and ends in a
position.  Standing in another order, they have other positions, so what stays the same has to be
said through the bijection that matches the positions of one list with those of the other.

Being viable and being the greatest speak of candidates and of pairs of them, never of who comes
first, so both are carried over by any such bijection (`Greatest.reordered`).  A vote is decided by
the two of them, hence it ends alike in every order.  Candidates that are equal in everything are
no exception: they stand in each other's way, so neither of them wins, and a winner is matched with
exactly one position whatever the bijection does with equal candidates.
-/
namespace CommandEngine
namespace Election

variable {h : Hierarchy} {seat : Seat} {xs ys : List Candidate}

/-- Nobody is elected exactly if nobody is viable. -/
theorem elect_none_iff (hd : h.Declared) :
    elect h seat xs = .ok none ↔ ∀ c ∈ xs, isViable h seat c = false := by
  rw [← viable_eq_nil_iff, ← maximal_eq_nil_iff hd]
  rcases @elect_cases h seat xs with
    ⟨hmax, helect⟩ | ⟨c, w, hmax, helect⟩ | ⟨hlen, e, helect⟩
  · simp [hmax, helect]
  · simp [hmax, helect]
  · have hne : maximal h seat xs ≠ [] := by
      intro hnil
      rw [hnil] at hlen
      cases hlen
    simp [hne, helect]

/-- A candidate is elected exactly if it is the greatest. -/
theorem elect_some_iff (hd : h.Declared) {w : Nat} :
    elect h seat xs = .ok (some w) ↔ Greatest h seat xs w := by
  rw [← maximal_eq_singleton_iff hd]
  rcases @elect_cases h seat xs with
    ⟨hmax, helect⟩ | ⟨c, w, hmax, helect⟩ | ⟨hlen, e, helect⟩
  · simp [hmax, helect]
  · simp [hmax, helect]
  · have hmany : ∀ c, maximal h seat xs ≠ [(c, w)] := by
      intro c hone
      rw [hone, List.length_singleton] at hlen
      omega
    simp [hmany, helect]

section Reordered

variable (σ : Fin xs.length ≃ Fin ys.length) (hσ : ∀ i, ys.get (σ i) = xs.get i)
include hσ

theorem get_symm (j : Fin ys.length) : xs.get (σ.symm j) = ys.get j := by
  rw [← hσ, σ.apply_symm_apply]

theorem mem_of_reordered {c : Candidate} (hc : c ∈ ys) : c ∈ xs := by
  obtain ⟨j, rfl⟩ := List.mem_iff_get.mp hc
  exact get_symm σ hσ j ▸ List.get_mem xs _

/-- The greatest candidate is the greatest where it stands in another order. -/
theorem Greatest.reordered {w : Fin xs.length} (hgreatest : Greatest h seat xs w) :
    Greatest h seat ys (σ w) := by
  obtain ⟨c, hw, hviable, habove⟩ := hgreatest
  have hc : xs.get w = c := (List.getElem?_eq_some_iff.mp hw).2
  refine ⟨c, List.getElem?_eq_some_iff.mpr ⟨(σ w).isLt, (hσ w).trans hc⟩, hviable, ?_⟩
  intro j b hj hb hbviable
  obtain ⟨hlt, hb⟩ := List.getElem?_eq_some_iff.mp hb
  have hback : xs.get (σ.symm ⟨j, hlt⟩) = b := (get_symm σ hσ ⟨j, hlt⟩).trans hb
  -- two positions that differ in one order differ in the other
  have hne : (σ.symm ⟨j, hlt⟩ : Nat) ≠ w := by
    intro heq
    refine hj ?_
    rw [← Fin.ext heq, σ.apply_symm_apply]
  exact habove _ b hne (List.getElem?_eq_some_iff.mpr ⟨_, hback⟩) hbviable

/-- **The winner does not depend on the order.**  In whatever order the candidates stand: nobody is
elected in both, there is a conflict in both, or the winner of one is matched with the winner of the
other. -/
theorem elect_reordered (hd : h.Declared) :
    (elect h seat xs = .ok none ∧ elect h seat ys = .ok none) ∨
    (∃ e e', elect h seat xs = .error e ∧ elect h seat ys = .error e') ∨
    ∃ w : Fin xs.length, elect h seat xs = .ok (some w) ∧ elect h seat ys = .ok (some (σ w)) := by
  have hσ' : ∀ j, xs.get (σ.symm j) = ys.get j := get_symm σ hσ
  have helected : ∀ {zs : List Candidate} {w : Nat}, elect h seat zs = .ok (some w) →
      w < zs.length := by
    intro zs w helect
    obtain ⟨c, hw, -⟩ := (elect_some_iff hd).mp helect
    exact (List.getElem?_eq_some_iff.mp hw).1
  rcases hxs : elect h seat xs with e | _ | w
  · refine .inr (.inl ⟨e, ?_⟩)
    rcases hys : elect h seat ys with e' | _ | v
    · exact ⟨e', rfl, rfl⟩
    · -- with nobody viable in one order, nobody is in the other
      have hnone := (elect_none_iff hd).mp hys
      rw [(elect_none_iff hd).mpr fun c hc => hnone c (mem_of_reordered σ.symm hσ' hc)] at hxs
      cases hxs
    · have hgreatest : Greatest h seat ys (⟨v, helected hys⟩ : Fin ys.length) :=
        (elect_some_iff hd).mp hys
      rw [(elect_some_iff hd).mpr (hgreatest.reordered σ.symm hσ')] at hxs
      cases hxs
  · have hnone := (elect_none_iff hd).mp hxs
    have hys := (elect_none_iff hd).mpr fun c hc => hnone c (mem_of_reordered σ hσ hc)
    exact .inl ⟨rfl, hys⟩
  · have hgreatest : Greatest h seat xs (⟨w, helected hxs⟩ : Fin xs.length) :=
      (elect_some_iff hd).mp hxs
    exact .inr (.inr ⟨_, rfl, (elect_some_iff hd).mpr (hgreatest.reordered σ hσ)⟩)

end Reordered

/-! ### Two candidates of one label -/

namespace Namesakes

/-- A transfer is a payment. -/
def payments : Hierarchy := ⟨[("Transfer", ["Payment"])]⟩

def transfers : Seat := ⟨⟨"Transfer", "Transfer"⟩, none, none⟩

/-- Offers itself for all payments. -/
def broad : Candidate := ⟨"Ledger", "pay", ⟨"Payment", "Payment"⟩, .unit, true⟩

/-- Offers itself for transfers, under the same label. -/
def narrow : Candidate := ⟨"Ledger", "pay", ⟨"Transfer", "Transfer"⟩, .unit, false⟩

theorem declared_payments : payments.Declared := by
  have hdeclare : Hierarchy.empty.declare ⟨"Transfer", "Transfer"⟩ ⟨"Payment", "Payment"⟩ =
      .ok payments := by
    simp [payments, Hierarchy.declare, Hierarchy.isSubtype, Hierarchy.search, Hierarchy.direct,
      Hierarchy.empty, Hierarchy.insert]
  exact .declare .empty hdeclare

theorem greatest_narrow : Greatest payments transfers [broad, narrow] 1 := by
  refine ⟨narrow, rfl, by simp [isViable, objection?, Hierarchy.isSubtype, narrow, transfers], ?_⟩
  intro j b hj hb _
  rcases j with _ | _ | j
  · obtain rfl := Option.some.inj hb
    simp [dominates, isClosed, narrow, broad, transfers]
  · exact absurd rfl hj
  · cases hb

/-- The one whose parameter is the command's type wins wherever it stands. -/
theorem elect_reordered_namesakes : payments.Declared ∧ broad.label = narrow.label ∧
    (∀ i : Fin [broad, narrow].length,
      [narrow, broad].get (Equiv.swap 0 1 i) = [broad, narrow].get i) ∧
    elect payments transfers [broad, narrow] = .ok (some 1) ∧
    elect payments transfers [narrow, broad] = .ok (some 0) := by
  have hfirst : elect payments transfers [broad, narrow] = .ok (some 1) :=
    (elect_some_iff declared_payments).mpr greatest_narrow
  have hσ : ∀ i : Fin [broad, narrow].length,
      [narrow, broad].get (Equiv.swap 0 1 i) = [broad, narrow].get i := by decide
  have hvote := @elect_reordered _ transfers [broad, narrow] [narrow, broad] (Equiv.swap 0 1) hσ
    declared_payments
  refine ⟨declared_payments, rfl, hσ, hfirst, ?_⟩
  rcases hvote with ⟨hnone, -⟩ | ⟨e, -, herror, -⟩ | ⟨w, hw, hsecond⟩
  · cases hfirst.symm.trans hnone
  · cases hfirst.symm.trans herror
  · have hone : (w : Nat) = 1 := Option.some.inj (Except.ok.inj (hw.symm.trans hfirst))
    obtain rfl : w = 1 := Fin.ext hone
    exact hsecond

end Namesakes
end Election
end CommandEngine
