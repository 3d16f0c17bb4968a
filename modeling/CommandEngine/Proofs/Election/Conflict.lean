import CommandEngine.Proofs.Election

/-!
# What a conflict reports

A conflict names two undominated candidates by their labels and says what keeps them from being
ordered.  The two come out of a sort by label.  It is stable, so candidates of one label stay in the
order in which they stood, and with them the order of the candidates gets into the report.

Whether there is a conflict, and which labels it names, is settled by which candidates are
undominated, however they stand (`undominated_perm`, `labels_inLabelOrder`).  Behind the two labels
there may be any *foremost* pair: two undominated candidates such that no other label comes before
theirs.  Each of these pairs is named in some order, and no other is (`report_iff_foremost`).  So the
reports of all orders are the same exactly if all foremost pairs are kept from being ordered by the
same reason (`conflict_reordered`).  That is so where no two undominated candidates share a label, and
it fails as soon as a third one has the label of two that are alike (`reason_depends_on_order`).
-/
namespace CommandEngine
namespace Election

section Undominated

variable (h : Hierarchy) (seat : Seat) (candidates : List Candidate)

/-- Viable, and not dominated by any viable candidate. -/
def isUndominated (c : Candidate) : Bool :=
  isViable h seat c && !candidates.any fun b => isViable h seat b && dominates h seat b c

/-- The undominated candidates, in the order in which they stand. -/
def undominated : List Candidate := candidates.filter (isUndominated h seat candidates)

/-- Candidates by label, those of one label in the order in which they stand. -/
def inLabelOrder (rivals : List Candidate) : List Candidate :=
  rivals.mergeSort fun a b => decide (a.label ≤ b.label)

/-- The report that names two rivals. -/
def report (a b : Candidate) : Conflict := ⟨seat.command, a.label, b.label, conflictReason a b⟩

/-- Two undominated candidates such that no other one has a label before theirs. -/
def Foremost (a b : Candidate) : Prop :=
  ∃ rest, (undominated h seat candidates).Perm (a :: b :: rest) ∧ a.label ≤ b.label ∧
    ∀ c ∈ rest, b.label ≤ c.label

end Undominated

variable {h : Hierarchy} {seat : Seat} {xs ys rivals : List Candidate} {a b : Candidate}
  {e : Conflict}

/-! ## Positions do not matter -/

theorem any_maximal {c : Candidate} {i : Nat} (hc : (c, i) ∈ viable h seat xs) :
    ((viable h seat xs).any fun (b, j) => j != i && dominates h seat b c) =
      xs.any fun b => isViable h seat b && dominates h seat b c := by
  rw [Bool.eq_iff_iff, List.any_eq_true, List.any_eq_true]
  constructor
  · rintro ⟨⟨b, j⟩, hb, hdom⟩
    obtain ⟨hbj, hbv⟩ := mem_viable.mp hb
    rw [Bool.and_eq_true] at hdom
    exact ⟨b, List.mem_of_getElem? hbj, by rw [hbv, hdom.2]; rfl⟩
  · rintro ⟨b, hb, hdom⟩
    obtain ⟨hbv, hdom⟩ := Bool.and_eq_true_iff.mp hdom
    obtain ⟨j, hj⟩ := List.mem_iff_getElem?.mp hb
    refine ⟨(b, j), mem_viable.mpr ⟨hj, hbv⟩, ?_⟩
    -- a candidate does not dominate itself, so the one that does stands elsewhere
    have hne : j ≠ i := by
      intro heq
      obtain rfl : b = c := Option.some.inj ((heq ▸ hj).symm.trans (mem_viable.mp hc).1)
      rw [dominates_irrefl] at hdom
      cases hdom
    simp [hne, hdom]

/-- The undominated candidates, where they stand. -/
theorem maximal_eq_filter : maximal h seat xs =
    xs.zipIdx.filter (isUndominated h seat xs ∘ Prod.fst) := by
  have hviable : ∀ x ∈ xs.zipIdx, (isViable h seat x.1 &&
      !(viable h seat xs).any fun (b, j) => j != x.2 && dominates h seat b x.1) =
        isUndominated h seat xs x.1 := by
    rintro ⟨c, i⟩ hx
    cases hv : isViable h seat c with
    | false => simp [isUndominated, hv]
    | true =>
      have hmem : (c, i) ∈ viable h seat xs :=
        mem_viable.mpr ⟨List.mem_zipIdx_iff_getElem?.mp hx, hv⟩
      rw [isUndominated, any_maximal hmem, hv]
  show ((xs.zipIdx.filter _).filter _) = _
  rw [List.filter_filter]
  apply List.filter_congr
  intro x hx
  rw [Bool.and_comm]
  exact hviable x hx

theorem map_fst_maximal : (maximal h seat xs).map Prod.fst = undominated h seat xs := by
  rw [maximal_eq_filter, ← List.filter_map, List.zipIdx_map_fst]
  rfl

theorem map_fst_byLabel (rivals : List (Candidate × Nat)) :
    (byLabel rivals).map Prod.fst = inLabelOrder (rivals.map Prod.fst) :=
  List.map_mergeSort fun _ _ _ _ => rfl

/-- A conflict reports the two undominated candidates that come first by label. -/
theorem elect_error_iff : elect h seat xs = .error e ↔
    ∃ a b rest, inLabelOrder (undominated h seat xs) = a :: b :: rest ∧ e = report seat a b := by
  rw [← map_fst_maximal, ← map_fst_byLabel]
  unfold elect
  rcases byLabel (maximal h seat xs) with _ | ⟨⟨a, i⟩, _ | ⟨⟨b, j⟩, rest⟩⟩
  · simp
  · simp
  · constructor
    · intro he
      exact ⟨a, b, rest.map Prod.fst, rfl, (Except.error.inj he).symm⟩
    · rintro ⟨a', b', rest', hmap, rfl⟩
      rw [List.map_cons, List.map_cons] at hmap
      obtain ⟨hfirst, hmap⟩ := List.cons.inj hmap
      obtain ⟨hsecond, -⟩ := List.cons.inj hmap
      rw [← hfirst, ← hsecond]
      rfl

/-! ## The order of the candidates -/

theorem isUndominated_perm (hperm : ys.Perm xs) :
    isUndominated h seat ys = isUndominated h seat xs := by
  funext c
  rw [isUndominated, isUndominated, hperm.any_eq]

theorem undominated_perm (hperm : ys.Perm xs) :
    (undominated h seat ys).Perm (undominated h seat xs) := by
  rw [undominated, undominated, isUndominated_perm hperm]
  exact hperm.filter _

/-! ### Labels -/

theorem label_le_trans (a b c : Candidate) (hab : decide (a.label ≤ b.label) = true)
    (hbc : decide (b.label ≤ c.label) = true) : decide (a.label ≤ c.label) = true :=
  decide_eq_true (String.le_trans (of_decide_eq_true hab) (of_decide_eq_true hbc))

theorem label_le_total (a b : Candidate) :
    (decide (a.label ≤ b.label) || decide (b.label ≤ a.label)) = true := by
  rw [Bool.or_eq_true, decide_eq_true_iff, decide_eq_true_iff]
  exact String.le_total _ _

theorem inLabelOrder_perm (rivals : List Candidate) : (inLabelOrder rivals).Perm rivals :=
  List.mergeSort_perm ..

theorem pairwise_inLabelOrder (rivals : List Candidate) :
    (inLabelOrder rivals).Pairwise fun a b => a.label ≤ b.label :=
  (List.pairwise_mergeSort label_le_trans label_le_total rivals).imp of_decide_eq_true

/-- A candidate whose label comes before no other stays in front. -/
theorem inLabelOrder_cons (ha : ∀ c ∈ rivals, a.label ≤ c.label) :
    inLabelOrder (a :: rivals) = a :: inLabelOrder rivals := by
  obtain ⟨before, after, hcons, hrest, hbefore⟩ :=
    List.mergeSort_cons label_le_trans label_le_total a rivals
  -- who is put before `a` has a label before its label
  have hnone : before = [] := by
    apply List.eq_nil_iff_forall_not_mem.mpr
    intro c hc
    have hmem : c ∈ rivals := by
      apply (inLabelOrder_perm rivals).subset
      show c ∈ rivals.mergeSort _
      rw [hrest]
      exact List.mem_append_left _ hc
    have hnot := hbefore c hc
    simp [ha c hmem] at hnot
  rw [inLabelOrder, inLabelOrder, hcons, hrest, hnone]
  rfl

/-- The labels in their order do not depend on how the candidates stand. -/
theorem labels_inLabelOrder (hperm : xs.Perm ys) :
    (inLabelOrder xs).map Candidate.label = (inLabelOrder ys).map Candidate.label := by
  refine @List.Perm.eq_of_pairwise _ (· ≤ ·) _ _ ?_ ?_ ?_ ?_
  · intro _ _ _ _ hle hge
    exact String.le_antisymm hle hge
  · exact List.pairwise_map.mpr (pairwise_inLabelOrder xs)
  · exact List.pairwise_map.mpr (pairwise_inLabelOrder ys)
  · exact (((inLabelOrder_perm xs).trans hperm).trans (inLabelOrder_perm ys).symm).map _

/-! ### Foremost pairs -/

theorem foremost_of_inLabelOrder {rest : List Candidate}
    (horder : inLabelOrder (undominated h seat xs) = a :: b :: rest) : Foremost h seat xs a b := by
  have hsorted := pairwise_inLabelOrder (undominated h seat xs)
  rw [horder, List.pairwise_cons, List.pairwise_cons] at hsorted
  obtain ⟨hfirst, hsecond, -⟩ := hsorted
  exact ⟨rest, horder ▸ (inLabelOrder_perm _).symm, hfirst b List.mem_cons_self, hsecond⟩

theorem Foremost.reordered (hforemost : Foremost h seat xs a b) (hperm : ys.Perm xs) :
    Foremost h seat ys a b := by
  obtain ⟨rest, hrivals, hle, hrest⟩ := hforemost
  exact ⟨rest, (undominated_perm hperm).trans hrivals, hle, hrest⟩

/-- A foremost pair is named where its two candidates stand in front of all others. -/
theorem Foremost.exists_order (hforemost : Foremost h seat xs a b) :
    ∃ ys, ys.Perm xs ∧ elect h seat ys = .error (report seat a b) := by
  obtain ⟨rest, hrivals, hle, hrest⟩ := hforemost
  let beaten := xs.filter fun c => !isUndominated h seat xs c
  have hperm : ((a :: b :: rest) ++ beaten).Perm xs :=
    (hrivals.symm.append_right beaten).trans (List.filter_append_perm _ xs)
  have hundominated : undominated h seat ((a :: b :: rest) ++ beaten) = a :: b :: rest := by
    rw [undominated, isUndominated_perm hperm, List.filter_append]
    have hkept : (a :: b :: rest).filter (isUndominated h seat xs) = a :: b :: rest := by
      apply List.filter_eq_self.mpr
      intro c hc
      exact (List.mem_filter.mp (hrivals.mem_iff.mpr hc)).2
    have hdropped : beaten.filter (isUndominated h seat xs) = [] := by
      apply List.filter_eq_nil_iff.mpr
      intro c hc
      have hnot := (List.mem_filter.mp hc).2
      simpa using hnot
    rw [hkept, hdropped, List.append_nil]
  refine ⟨_, hperm, elect_error_iff.mpr ⟨a, b, inLabelOrder rest, ?_, rfl⟩⟩
  have hfirst : ∀ c ∈ b :: rest, a.label ≤ c.label := by
    intro c hc
    rcases List.mem_cons.mp hc with rfl | hc
    · exact hle
    · exact String.le_trans hle (hrest c hc)
  rw [hundominated, inLabelOrder_cons hfirst, inLabelOrder_cons hrest]

/-- **What the orders report** are the foremost pairs. -/
theorem report_iff_foremost : (∃ ys, ys.Perm xs ∧ elect h seat ys = .error e) ↔
    ∃ a b, Foremost h seat xs a b ∧ e = report seat a b := by
  constructor
  · rintro ⟨ys, hperm, helect⟩
    obtain ⟨a, b, rest, horder, rfl⟩ := elect_error_iff.mp helect
    exact ⟨a, b, (foremost_of_inLabelOrder horder).reordered hperm.symm, rfl⟩
  · rintro ⟨a, b, hforemost, rfl⟩
    exact hforemost.exists_order

/-- In every order there is a conflict of the same labels. -/
theorem elect_error_reordered (hperm : ys.Perm xs) (hconflict : elect h seat xs = .error e) :
    ∃ reason, elect h seat ys = .error { e with reason } := by
  obtain ⟨a, b, rest, horder, rfl⟩ := elect_error_iff.mp hconflict
  have hlabels := labels_inLabelOrder (@undominated_perm h seat _ _ hperm)
  rw [horder] at hlabels
  -- the list of the labels has the same two in front
  rcases hys : inLabelOrder (undominated h seat ys) with _ | ⟨a', _ | ⟨b', rest'⟩⟩
  · rw [hys] at hlabels
    cases hlabels
  · rw [hys] at hlabels
    cases (List.cons.inj hlabels).2
  · rw [hys] at hlabels
    obtain ⟨hfirst, hlabels⟩ := List.cons.inj hlabels
    obtain ⟨hsecond, -⟩ := List.cons.inj hlabels
    refine ⟨conflictReason a' b', elect_error_iff.mpr ⟨a', b', rest', hys, ?_⟩⟩
    rw [report, report, hfirst, hsecond]

/-- Without shared labels the order of the labels is one of the candidates. -/
theorem inLabelOrder_of_nodup (hlabels : (xs.map Candidate.label).Nodup) (hperm : ys.Perm xs) :
    inLabelOrder ys = inLabelOrder xs := by
  have hinj : ∀ c ∈ xs, ∀ c' ∈ xs, c.label = c'.label → c = c' :=
    fun _ hc _ hc' => List.inj_on_of_nodup_map hlabels hc hc'
  have hys := (inLabelOrder_perm ys).trans hperm
  have hxs := inLabelOrder_perm xs
  refine @List.Perm.eq_of_pairwise _ (fun a b => a.label ≤ b.label) _ _ ?_ ?_ ?_ ?_
  · intro c c' hc hc' hle hge
    exact hinj c (hys.mem_iff.mp hc) c' (hxs.mem_iff.mp hc') (String.le_antisymm hle hge)
  · exact pairwise_inLabelOrder ys
  · exact pairwise_inLabelOrder xs
  · exact hys.trans hxs.symm

/-- **The report and the order of the candidates.**  When there is a conflict, there is one in every
order, and it names the same labels.  It is the same in every order, reason included, exactly if the
same reason keeps every foremost pair from being ordered; and so it is where no two undominated
candidates share a label. -/
theorem conflict_reordered (hconflict : elect h seat xs = .error e) :
    (∀ ys, ys.Perm xs → ∃ reason, elect h seat ys = .error { e with reason }) ∧
    ((∀ ys, ys.Perm xs → elect h seat ys = .error e) ↔
      ∀ a b, Foremost h seat xs a b → conflictReason a b = e.reason) ∧
    (((undominated h seat xs).map Candidate.label).Nodup →
      ∀ ys, ys.Perm xs → elect h seat ys = .error e) := by
  have hlabels : ∀ ys, ys.Perm xs → ∃ reason, elect h seat ys = .error { e with reason } :=
    fun ys hperm => elect_error_reordered hperm hconflict
  refine ⟨hlabels, ⟨?_, ?_⟩, ?_⟩
  · intro hsame a b hforemost
    obtain ⟨ys, hperm, helect⟩ := hforemost.exists_order
    have heq : report seat a b = e := Except.error.inj (helect.symm.trans (hsame ys hperm))
    rw [← heq]
    rfl
  · intro hreasons ys hperm
    obtain ⟨reason, helect⟩ := hlabels ys hperm
    obtain ⟨a, b, hforemost, heq⟩ := report_iff_foremost.mp ⟨ys, hperm, helect⟩
    have hreason : reason = conflictReason a b := congrArg Conflict.reason heq
    rw [helect, hreason, hreasons a b hforemost]
  · intro hnodup ys hperm
    obtain ⟨a, b, rest, horder, rfl⟩ := elect_error_iff.mp hconflict
    refine elect_error_iff.mpr ⟨a, b, rest, ?_, rfl⟩
    rw [inLabelOrder_of_nodup hnodup (undominated_perm hperm), horder]

/-! ### Three candidates of one label -/

namespace Shared

/-- A transfer is a payment, and it is a record. -/
def records : Hierarchy := ⟨[("Transfer", ["Payment", "Record"])]⟩

def transfers : Seat := ⟨⟨"Transfer", "Transfer"⟩, none, none⟩

/-- Offers itself for all objects of a type. -/
def clerk (parameter : String) : Candidate :=
  ⟨"Desk", "handle", ⟨parameter, parameter⟩, .unit, true⟩

theorem declared_records : records.Declared := by
  have hfirst : Hierarchy.empty.declare ⟨"Transfer", "Transfer"⟩ ⟨"Payment", "Payment"⟩ =
      .ok ⟨[("Transfer", ["Payment"])]⟩ := by
    simp [Hierarchy.declare, Hierarchy.isSubtype, Hierarchy.search, Hierarchy.direct,
      Hierarchy.empty, Hierarchy.insert]
  have hsecond : (⟨[("Transfer", ["Payment"])]⟩ : Hierarchy).declare ⟨"Transfer", "Transfer"⟩
      ⟨"Record", "Record"⟩ = .ok records := by
    simp [Hierarchy.declare, Hierarchy.isSubtype, Hierarchy.search, Hierarchy.direct,
      Hierarchy.insert, records]
  exact .declare (.declare .empty hfirst) hsecond

/-- Neither kind of clerk dominates the other. -/
theorem undominated_clerks {parameters : List String}
    (hparameters : ∀ p ∈ parameters, p = "Payment" ∨ p = "Record") :
    undominated records transfers (parameters.map clerk) = parameters.map clerk := by
  have hviable : ∀ p, p = "Payment" ∨ p = "Record" →
      isViable records transfers (clerk p) = true := by
    rintro p (rfl | rfl) <;>
      simp [isViable, objection?, Hierarchy.isSubtype, Hierarchy.search, Hierarchy.direct, records,
        transfers, clerk]
  have hundominated : ∀ p p', p = "Payment" ∨ p = "Record" → p' = "Payment" ∨ p' = "Record" →
      dominates records transfers (clerk p) (clerk p') = false := by
    rintro p p' (rfl | rfl) (rfl | rfl) <;>
      simp [dominates, isClosed, Hierarchy.isStrictSubtype, Hierarchy.isSubtype, Hierarchy.search,
        Hierarchy.direct, records, transfers, clerk]
  apply List.filter_eq_self.mpr
  intro c hc
  obtain ⟨p, hp, rfl⟩ := List.mem_map.mp hc
  rw [isUndominated, hviable p (hparameters p hp), Bool.true_and, Bool.not_eq_true',
    List.any_eq_false]
  intro c' hc'
  obtain ⟨p', hp', rfl⟩ := List.mem_map.mp hc'
  rw [hundominated p' p (hparameters p' hp') (hparameters p hp), Bool.and_false]
  exact Bool.false_ne_true

/-- Clerks of one label are named as they stand. -/
theorem elect_clerks {p p' : String} {rest : List String}
    (hparameters : ∀ q ∈ p :: p' :: rest, q = "Payment" ∨ q = "Record") :
    elect records transfers ((p :: p' :: rest).map clerk) =
      .error (report transfers (clerk p) (clerk p')) := by
  refine elect_error_iff.mpr ⟨_, _, rest.map clerk, ?_, rfl⟩
  rw [undominated_clerks hparameters]
  apply List.mergeSort_of_pairwise
  apply List.pairwise_map.mpr
  apply List.pairwise_of_forall
  intro q q'
  exact decide_eq_true (String.le_refl _)

/-- **The reason may depend on the order.**  Two clerks for payments and one for records have one
label, so the first two are named, whoever they are. -/
theorem reason_depends_on_order : records.Declared ∧ ∃ xs ys : List Candidate, xs.Perm ys ∧
    elect records transfers xs =
      .error ⟨⟨"Transfer", "Transfer"⟩, "Desk::handle", "Desk::handle", .unrelatedParameterTypes⟩ ∧
    elect records transfers ys =
      .error ⟨⟨"Transfer", "Transfer"⟩, "Desk::handle", "Desk::handle", .identicalSignatures⟩ := by
  refine ⟨declared_records, ["Payment", "Record", "Payment"].map clerk,
    ["Payment", "Payment", "Record"].map clerk, ?_, ?_, ?_⟩
  · exact (List.Perm.swap _ _ _).cons _
  · exact elect_clerks (by simp)
  · exact elect_clerks (by simp)

/-- Two clerks of one label are reported alike in both orders: there is only one pair to name. -/
theorem conflict_reordered_clerks :
    elect records transfers [clerk "Payment", clerk "Record"] =
      .error (report transfers (clerk "Payment") (clerk "Record")) ∧
    elect records transfers [clerk "Record", clerk "Payment"] =
      .error (report transfers (clerk "Payment") (clerk "Record")) := by
  have hconflict : elect records transfers [clerk "Payment", clerk "Record"] =
      .error (report transfers (clerk "Payment") (clerk "Record")) :=
    @elect_clerks _ _ [] (by simp)
  refine ⟨hconflict, ?_⟩
  refine (conflict_reordered hconflict).2.1.mpr ?_ _ (List.Perm.swap _ _ _)
  rintro a b ⟨rest, hperm, -⟩
  have hundominated : undominated records transfers [clerk "Payment", clerk "Record"] =
      [clerk "Payment", clerk "Record"] := @undominated_clerks ["Payment", "Record"] (by simp)
  have hclerks : [clerk "Payment", clerk "Record"].Perm (a :: b :: rest) := hundominated ▸ hperm
  obtain rfl : rest = [] := by
    have hlength := hclerks.length_eq
    simpa using hlength
  have ha : a ∈ [clerk "Payment", clerk "Record"] := hclerks.mem_iff.mpr List.mem_cons_self
  rcases List.mem_cons.mp ha with rfl | ha
  · obtain rfl : b = clerk "Record" := List.singleton_perm_singleton.mp hclerks.cons_inv.symm
    rfl
  · obtain rfl := List.mem_singleton.mp ha
    have hswapped := (List.Perm.swap (clerk "Record") (clerk "Payment") []).symm.trans hclerks
    obtain rfl : b = clerk "Payment" := List.singleton_perm_singleton.mp hswapped.cons_inv.symm
    rfl

end Shared
end Election
end CommandEngine
