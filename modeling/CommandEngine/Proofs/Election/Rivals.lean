import CommandEngine.Proofs.Election.Conflict
import CommandEngine.Proofs.Election.Reordering

/-!
# Whom a conflict names, and why

A conflict names two candidates by their labels only, so what it says has to be read off the
candidates that bear them.  They stand at two different positions, both are viable, and no viable
candidate dominates either of them (`elect_error_iff_rivals`).

The reason is found by two comparisons, of the parameters and of the returned types.  That they tell
so much is due to the two candidates being undominated.  If one were closed and the other open, the
closed one would dominate, so both are closed or both are open.  If their parameters differ, the
more specific one would win, so neither is above the other; and if they are the same, this holds of
the returned types (`not_areRelated_parameter`, `not_areRelated_returns`).

Nothing of this needs the hierarchy to be free of cycles.
-/
namespace CommandEngine

/-- Two types are unrelated if neither is below the other. -/
theorem Hierarchy.areRelated_eq_false_iff {h : Hierarchy} {a b : TypeKey} :
    h.areRelated a b = false ↔ h.isSubtype a b = false ∧ h.isSubtype b a = false := by
  rw [Hierarchy.areRelated, Bool.or_eq_false_iff]

/-- Types that are unrelated differ. -/
theorem Hierarchy.id_ne_of_not_areRelated {h : Hierarchy} {a b : TypeKey}
    (hunrelated : h.areRelated a b = false) : a.id ≠ b.id := by
  intro hid
  have hnot := (Hierarchy.areRelated_eq_false_iff.mp hunrelated).1
  rw [Hierarchy.isSubtype, hid, beq_self_eq_true, Bool.true_or] at hnot
  cases hnot

namespace Election

variable {h : Hierarchy} {seat : Seat} {candidates : List Candidate} {a b : Candidate} {i j : Nat}
  {e : Conflict}

/-! ## The two positions -/

/-- The candidate at a position is viable, and no viable candidate dominates it. -/
structure Stands (h : Hierarchy) (seat : Seat) (candidates : List Candidate) (c : Candidate)
    (i : Nat) : Prop where
  place : candidates[i]? = some c
  viable : isViable h seat c = true
  undominated : ∀ b ∈ candidates, isViable h seat b = true → dominates h seat b c = false

theorem stands_of_mem_maximal (ha : (a, i) ∈ maximal h seat candidates) :
    Stands h seat candidates a i := by
  obtain ⟨hviable, hmax⟩ := mem_maximal.mp ha
  obtain ⟨hplace, hv⟩ := mem_viable.mp hviable
  refine ⟨hplace, hv, fun b hb hbv => ?_⟩
  obtain ⟨j, hj⟩ := List.mem_iff_getElem?.mp hb
  by_cases hji : j = i
  · obtain rfl : b = a := Option.some.inj ((hji ▸ hj).symm.trans hplace)
    exact dominates_irrefl b
  · exact hmax b j (mem_viable.mpr ⟨hj, hbv⟩) hji

/-- A conflict reports the first two of the undominated candidates, by label. -/
theorem elect_error_iff_rivals : elect h seat candidates = .error e ↔ ∃ a i b j rest,
    byLabel (maximal h seat candidates) = (a, i) :: (b, j) :: rest ∧ e = report seat a b := by
  unfold elect
  rcases byLabel (maximal h seat candidates) with _ | ⟨⟨a, i⟩, _ | ⟨⟨b, j⟩, rest⟩⟩
  · simp
  · simp
  · constructor
    · intro he
      exact ⟨a, i, b, j, rest, rfl, (Except.error.inj he).symm⟩
    · rintro ⟨_, _, _, _, _, heq, rfl⟩
      cases heq
      rfl

/-- The two rivals stand at different positions. -/
theorem rivals_stand {rest : List (Candidate × Nat)}
    (horder : byLabel (maximal h seat candidates) = (a, i) :: (b, j) :: rest) :
    i ≠ j ∧ Stands h seat candidates a i ∧ Stands h seat candidates b j := by
  have hperm := horder ▸ byLabel_perm (maximal h seat candidates)
  have ha : Stands h seat candidates a i :=
    stands_of_mem_maximal (hperm.subset List.mem_cons_self)
  have hb : Stands h seat candidates b j :=
    stands_of_mem_maximal (hperm.subset (List.mem_cons_of_mem _ List.mem_cons_self))
  refine ⟨fun hij => ?_, ha, hb⟩
  -- at one position stands one candidate, which is listed once
  obtain rfl : a = b := Option.some.inj (ha.place.symm.trans (hij ▸ hb.place))
  have hnodup := hperm.nodup_iff.mpr nodup_maximal
  rw [hij] at hnodup
  exact (List.nodup_cons.mp hnodup).1 List.mem_cons_self

/-! ## The reason -/

/-- Of two candidates of which neither dominates the other, both are closed or none is. -/
theorem isClosed_of_undominated (hab : dominates h seat a b = false)
    (hba : dominates h seat b a = false) : isClosed seat a = isClosed seat b := by
  by_contra hne
  have ha : isClosed seat a = false := by simpa [dominates, hne] using hab
  have hb : isClosed seat b = false := by simpa [dominates, Ne.symm hne] using hba
  exact hne (ha.trans hb.symm)

/-- Types that differ, and neither of which is strictly below the other, are unrelated. -/
theorem not_areRelated {s t : TypeKey} (hne : s.id ≠ t.id) (hst : h.isStrictSubtype s t = false)
    (hts : h.isStrictSubtype t s = false) : h.areRelated s t = false := by
  rw [Hierarchy.isStrictSubtype, bne_iff_ne.mpr hne, Bool.true_and] at hst
  rw [Hierarchy.isStrictSubtype, bne_iff_ne.mpr hne.symm, Bool.true_and] at hts
  exact Hierarchy.areRelated_eq_false_iff.mpr ⟨hst, hts⟩

theorem dominates_of_parameter (hclosed : isClosed seat a = isClosed seat b)
    (hne : a.parameter.id ≠ b.parameter.id) :
    dominates h seat a b = h.isStrictSubtype a.parameter b.parameter := by
  simp [dominates, hclosed, hne]

theorem dominates_of_returns (hclosed : isClosed seat a = isClosed seat b)
    (heq : a.parameter.id = b.parameter.id) :
    dominates h seat a b = h.isStrictSubtype a.returns b.returns := by
  simp [dominates, hclosed, heq]

/-- Different parameters of two candidates that do not dominate each other are unrelated. -/
theorem not_areRelated_parameter (hab : dominates h seat a b = false)
    (hba : dominates h seat b a = false) (hne : a.parameter.id ≠ b.parameter.id) :
    h.areRelated a.parameter b.parameter = false := by
  have hclosed := isClosed_of_undominated hab hba
  rw [dominates_of_parameter hclosed hne] at hab
  rw [dominates_of_parameter hclosed.symm hne.symm] at hba
  exact not_areRelated hne hab hba

/-- And so are different returned types, where the parameters are the same. -/
theorem not_areRelated_returns (hab : dominates h seat a b = false)
    (hba : dominates h seat b a = false) (heq : a.parameter.id = b.parameter.id)
    (hne : a.returns.id ≠ b.returns.id) : h.areRelated a.returns b.returns = false := by
  have hclosed := isClosed_of_undominated hab hba
  rw [dominates_of_returns hclosed heq] at hab
  rw [dominates_of_returns hclosed.symm heq.symm] at hba
  exact not_areRelated hne hab hba

/-- When each of the reasons is given. -/
theorem conflictReason_eq_iff {reason : ConflictReason} : conflictReason a b = reason ↔
    match reason with
    | .unrelatedParameterTypes => a.parameter.id ≠ b.parameter.id
    | .identicalSignatures => a.parameter.id = b.parameter.id ∧ a.returns.id = b.returns.id
    | .unrelatedReturnTypes => a.parameter.id = b.parameter.id ∧ a.returns.id ≠ b.returns.id := by
  unfold conflictReason
  by_cases hparameter : a.parameter.id = b.parameter.id
  · by_cases hreturns : a.returns.id = b.returns.id
    · cases reason <;> simp [hparameter, hreturns]
    · cases reason <;> simp [hparameter, hreturns]
  · cases reason <;> simp [hparameter]

/-- **A reported conflict is a real one.**  Its labels are those of two candidates at different
positions; both are viable, and no viable candidate dominates either of them.  They are both closed
or both open.  The reason is that of the three which applies to them: their parameters are
unrelated, or these are the same and so are the returned types, or only the latter are unrelated. -/
theorem conflict_explained (hconflict : elect h seat candidates = .error e) : ∃ a b i j,
    i ≠ j ∧ Stands h seat candidates a i ∧ Stands h seat candidates b j ∧
    e.command = seat.command ∧ e.first = a.label ∧ e.second = b.label ∧
    isClosed seat a = isClosed seat b ∧
    (e.reason = .unrelatedParameterTypes ↔ h.areRelated a.parameter b.parameter = false) ∧
    (e.reason = .identicalSignatures ↔
      a.parameter.id = b.parameter.id ∧ a.returns.id = b.returns.id) ∧
    (e.reason = .unrelatedReturnTypes ↔
      a.parameter.id = b.parameter.id ∧ h.areRelated a.returns b.returns = false) := by
  obtain ⟨a, i, b, j, rest, horder, rfl⟩ := elect_error_iff_rivals.mp hconflict
  obtain ⟨hij, ha, hb⟩ := rivals_stand horder
  have hab := hb.undominated a (List.mem_of_getElem? ha.place) ha.viable
  have hba := ha.undominated b (List.mem_of_getElem? hb.place) hb.viable
  refine ⟨a, b, i, j, hij, ha, hb, rfl, rfl, rfl, isClosed_of_undominated hab hba, ?_,
    conflictReason_eq_iff, ?_⟩
  · refine conflictReason_eq_iff.trans ⟨?_, Hierarchy.id_ne_of_not_areRelated⟩
    exact not_areRelated_parameter hab hba
  · refine conflictReason_eq_iff.trans (and_congr_right fun heq => ?_)
    exact ⟨not_areRelated_returns hab hba heq, Hierarchy.id_ne_of_not_areRelated⟩

/-! ### Two answers to one command -/

namespace Disputed

open Namesakes

/-- Answers a transfer with an object of a type. -/
def clerk (service returns : String) : Candidate :=
  ⟨service, "transfer", ⟨"Transfer", "Transfer"⟩, ⟨returns, returns⟩, false⟩

theorem undominated_clerks : undominated payments transfers
    [broad, clerk "Desk" "Receipt", clerk "Office" "Record"] =
      [clerk "Desk" "Receipt", clerk "Office" "Record"] := by
  simp [undominated, isUndominated, isViable, objection?, dominates, isClosed,
    Hierarchy.isStrictSubtype, Hierarchy.isSubtype, Hierarchy.search, Hierarchy.direct, payments,
    transfers, broad, clerk]

theorem elect_clerks : elect payments transfers
    [broad, clerk "Desk" "Receipt", clerk "Office" "Record"] =
      .error ⟨⟨"Transfer", "Transfer"⟩, "Desk::transfer", "Office::transfer",
        .unrelatedReturnTypes⟩ := by
  refine elect_error_iff.mpr ⟨clerk "Desk" "Receipt", clerk "Office" "Record", [], ?_, by decide⟩
  rw [undominated_clerks]
  exact List.mergeSort_of_pairwise (List.pairwise_pair.mpr (by decide))

/-- The broad candidate is dominated by both, and is not named. -/
theorem conflict_explained_clerks : payments.Declared ∧ ∃ a b i j, i ≠ j ∧
    Stands payments transfers [broad, clerk "Desk" "Receipt", clerk "Office" "Record"] a i ∧
    Stands payments transfers [broad, clerk "Desk" "Receipt", clerk "Office" "Record"] b j ∧
    a.label = "Desk::transfer" ∧ b.label = "Office::transfer" ∧
    a.parameter.id = b.parameter.id ∧ payments.areRelated a.returns b.returns = false := by
  obtain ⟨a, b, i, j, hij, ha, hb, -, hfirst, hsecond, -, -, -, hreturns⟩ :=
    conflict_explained elect_clerks
  exact ⟨declared_payments, a, b, i, j, hij, ha, hb, hfirst.symm, hsecond.symm, hreturns.mp rfl⟩

end Disputed
end Election
end CommandEngine
