import CommandEngine.Proofs.Election.Rivals

/-!
# Candidates that play no role

A candidate that is not viable, or that a viable one dominates, is not among the undominated ones.
It may still have kept others from being among them.  But whatever it dominates is dominated by the
one above it as well, domination being transitive, and that one stays when the candidate is taken
away.  So the same candidates are undominated with it and without it (`isUndominated_without`).

A vote is decided by the undominated candidates and by the order in which they stand, and taking a
candidate away moves those behind it up by one position and changes nothing else
(`maximal_without`).  The sort by label does not look at positions.  Therefore the vote ends alike,
but for the position of the winner (`elect_without`).
-/
namespace CommandEngine
namespace Election

variable {h : Hierarchy} {seat : Seat} {before after : List Candidate} {a b c : Candidate}

/-- The position of a candidate after another one is put in at position `k`. -/
def moved (k i : Nat) : Nat := if i < k then i else i + 1

/-- A candidate that cannot become undominated: it is not viable, or a viable one dominates it. -/
def Irrelevant (h : Hierarchy) (seat : Seat) (others : List Candidate) (c : Candidate) : Prop :=
  isViable h seat c = false ∨
    ∃ b ∈ others, isViable h seat b = true ∧ dominates h seat b c = true

/-! ## Who is undominated -/

/-- Whom an irrelevant candidate dominates, another viable one dominates too. -/
theorem Irrelevant.exists_above (hd : h.Declared) {others : List Candidate}
    (hirrelevant : Irrelevant h seat others c) (hviable : isViable h seat c = true)
    (hdom : dominates h seat c a = true) :
    ∃ b ∈ others, isViable h seat b = true ∧ dominates h seat b a = true := by
  rcases hirrelevant with hnot | ⟨b, hb, hbv, hbc⟩
  · rw [hviable] at hnot
    cases hnot
  · exact ⟨b, hb, hbv, dominates_trans hd hbc hdom⟩

theorem isUndominated_without (hd : h.Declared)
    (hirrelevant : Irrelevant h seat (before ++ after) c) :
    isUndominated h seat (before ++ c :: after) = isUndominated h seat (before ++ after) := by
  funext a
  have hother : (isViable h seat c && dominates h seat c a) = true →
      ((before ++ after).any fun b => isViable h seat b && dominates h seat b a) = true := by
    intro hdom
    obtain ⟨hviable, hdom⟩ := Bool.and_eq_true_iff.mp hdom
    obtain ⟨b, hb, habove⟩ := hirrelevant.exists_above hd hviable hdom
    exact List.any_eq_true.mpr ⟨b, hb, Bool.and_eq_true_iff.mpr habove⟩
  rw [isUndominated, isUndominated, List.any_append, List.any_cons, Bool.or_left_comm,
    ← List.any_append, Bool.or_eq_right_iff_imp.mpr hother]

theorem Irrelevant.not_undominated {others : List Candidate}
    (hirrelevant : Irrelevant h seat others c) : isUndominated h seat others c = false := by
  rcases hirrelevant with hnot | ⟨b, hb, hbv, hbc⟩
  · rw [isUndominated, hnot, Bool.false_and]
  · have hany : (others.any fun b => isViable h seat b && dominates h seat b c) = true :=
      List.any_eq_true.mpr ⟨b, hb, Bool.and_eq_true_iff.mpr ⟨hbv, hbc⟩⟩
    rw [isUndominated, hany, Bool.not_true, Bool.and_false]

/-! ## Where they stand -/

theorem map_moved_before :
    before.zipIdx.map (Prod.map id (moved before.length)) = before.zipIdx := by
  have hsame : ∀ x ∈ before.zipIdx, Prod.map id (moved before.length) x = id x := by
    intro x hx
    have hlt : x.2 < before.length := List.snd_lt_of_mem_zipIdx hx
    simp [Prod.map, moved, hlt]
  rw [List.map_congr_left hsame, List.map_id]

theorem map_moved_after (k : Nat) :
    (after.zipIdx k).map (Prod.map id (moved k)) = after.zipIdx (k + 1) := by
  have hnext : ∀ x ∈ after.zipIdx k, Prod.map id (moved k) x = Prod.map id (· + 1) x := by
    intro x hx
    have hle : k ≤ x.2 := List.le_snd_of_mem_zipIdx hx
    simp [Prod.map, moved, Nat.not_lt.mpr hle]
  rw [List.map_congr_left hnext, List.map_snd_add_zipIdx_eq_zipIdx, Nat.add_comm]

/-- With the candidate or without it, the same ones are undominated, at their positions. -/
theorem maximal_without (hd : h.Declared) (hirrelevant : Irrelevant h seat (before ++ after) c) :
    maximal h seat (before ++ c :: after) =
      (maximal h seat (before ++ after)).map (Prod.map id (moved before.length)) := by
  have hnot : ¬ (isUndominated h seat (before ++ after) ∘ Prod.fst) (c, before.length) = true :=
    Bool.eq_false_iff.mp hirrelevant.not_undominated
  have hmoved : (isUndominated h seat (before ++ after) ∘ Prod.fst) ∘
      Prod.map id (moved before.length) = isUndominated h seat (before ++ after) ∘ Prod.fst := rfl
  rw [maximal_eq_filter, maximal_eq_filter, isUndominated_without hd hirrelevant]
  rw [List.zipIdx_append, List.zipIdx_append, Nat.zero_add, List.zipIdx_cons, List.filter_append,
    List.filter_cons_of_neg hnot, List.filter_append, List.map_append]
  congr 1
  · rw [← hmoved, ← List.filter_map, hmoved, map_moved_before]
  · rw [← hmoved, ← List.filter_map, hmoved, map_moved_after]

/-- The order of the labels does not look at positions. -/
theorem map_snd_byLabel (f : Nat → Nat) (rivals : List (Candidate × Nat)) :
    (byLabel rivals).map (Prod.map id f) = byLabel (rivals.map (Prod.map id f)) :=
  List.map_mergeSort fun _ _ _ _ => rfl

variable {candidates : List Candidate} {k : Nat}

theorem getElem?_moved (i : Nat) : candidates[moved k i]? = (candidates.eraseIdx k)[i]? := by
  rw [List.getElem?_eraseIdx, moved]
  split <;> rfl

/-- **Irrelevant candidates do not change an election.**  Without a candidate that is not viable, or
that is dominated by another viable one, the vote ends as it does with it: nobody is elected, or the
same candidate, whose position is the one it is moved to when the other is put back, or the same
conflict is reported. -/
theorem elect_without (hd : h.Declared) (hplace : candidates[k]? = some c)
    (hirrelevant : Irrelevant h seat (candidates.eraseIdx k) c) :
    elect h seat candidates = (elect h seat (candidates.eraseIdx k)).map (Option.map (moved k)) ∧
      ∀ i, candidates[moved k i]? = (candidates.eraseIdx k)[i]? := by
  refine ⟨?_, getElem?_moved⟩
  obtain ⟨hk, rfl⟩ := List.getElem?_eq_some_iff.mp hplace
  have hlength : (candidates.take k).length = k := by
    rw [List.length_take, Nat.min_eq_left (Nat.le_of_lt hk)]
  have hsplit : candidates = candidates.take k ++ candidates[k] :: candidates.drop (k + 1) := by
    rw [List.getElem_cons_drop, List.take_append_drop]
  rw [List.eraseIdx_eq_take_drop_succ] at hirrelevant ⊢
  have hmaximal := maximal_without hd hirrelevant
  rw [← hsplit, hlength] at hmaximal
  unfold elect
  rw [hmaximal, ← map_snd_byLabel]
  -- the vote looks at the first two in the order of the labels
  rcases byLabel (maximal h seat (candidates.take k ++ candidates.drop (k + 1))) with
    _ | ⟨a, _ | ⟨b, rest⟩⟩
  · rfl
  · rfl
  · rfl

/-! ### Between two others -/

namespace Outranked

open Namesakes Disputed

/-- A transfer is a payment, and a receipt is a paper. -/
def papers : Hierarchy := ⟨[("Transfer", ["Payment"]), ("Receipt", ["Paper"])]⟩

theorem declared_papers : papers.Declared := by
  have hdeclare : payments.declare ⟨"Receipt", "Receipt"⟩ ⟨"Paper", "Paper"⟩ = .ok papers := by
    simp [payments, papers, Hierarchy.declare, Hierarchy.isSubtype, Hierarchy.search,
      Hierarchy.direct, Hierarchy.insert]
  exact .declare declared_payments hdeclare

theorem isViable_clerk (service returns : String) :
    isViable papers transfers (clerk service returns) = true := by
  simp [isViable, objection?, Hierarchy.isSubtype, transfers, clerk]

theorem receipt_dominates :
    dominates papers transfers (clerk "Office" "Receipt") (clerk "Desk" "Paper") = true := by
  simp [dominates, isClosed, Hierarchy.isStrictSubtype, Hierarchy.isSubtype, Hierarchy.search,
    Hierarchy.direct, papers, transfers, clerk]

theorem greatest_receipt : Greatest papers transfers [broad, clerk "Office" "Receipt"] 1 := by
  refine ⟨clerk "Office" "Receipt", rfl, isViable_clerk _ _, ?_⟩
  intro j b hj hb _
  rcases j with _ | _ | j
  · obtain rfl := Option.some.inj hb
    simp [dominates, isClosed, broad, clerk, transfers]
  · exact absurd rfl hj
  · cases hb

/-- The clerk in the middle dominates the broad candidate and is dominated by the other clerk, who
wins with it and without it. -/
theorem elect_without_middle : papers.Declared ∧
    Irrelevant papers transfers [broad, clerk "Office" "Receipt"] (clerk "Desk" "Paper") ∧
    elect papers transfers [broad, clerk "Office" "Receipt"] = .ok (some 1) ∧
    elect papers transfers [broad, clerk "Desk" "Paper", clerk "Office" "Receipt"] =
      .ok (some 2) := by
  have hirrelevant : Irrelevant papers transfers [broad, clerk "Office" "Receipt"]
      (clerk "Desk" "Paper") :=
    .inr ⟨_, List.mem_cons_of_mem _ List.mem_cons_self, isViable_clerk _ _, receipt_dominates⟩
  have hothers : elect papers transfers [broad, clerk "Office" "Receipt"] = .ok (some 1) :=
    (elect_some_iff declared_papers).mpr greatest_receipt
  have hall := (@elect_without _ transfers (clerk "Desk" "Paper")
    [broad, clerk "Desk" "Paper", clerk "Office" "Receipt"] 1 declared_papers rfl hirrelevant).1
  refine ⟨declared_papers, hirrelevant, hothers, hall.trans ?_⟩
  show (elect papers transfers [broad, clerk "Office" "Receipt"]).map _ = _
  rw [hothers]
  rfl

end Outranked
end Election
end CommandEngine
