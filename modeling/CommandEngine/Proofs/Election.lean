import CommandEngine.Election
import CommandEngine.Proofs.Hierarchy
import Mathlib.Data.List.Nodup
import Mathlib.Data.List.Sigma

/-!
# The elected candidate is the greatest

`elect` looks for a viable candidate that no other viable one dominates, and elects it if it is
alone.  That such a candidate beats all others does not follow from its being alone: it rests on
domination being a strict partial order and on the candidates being finitely many.

Domination compares three things in turn: whether the candidate is closed, its parameter, and what
it returns.  The second and third comparison are by strict subtyping, so transitivity and
irreflexivity come from the hierarchy being free of cycles (`dominates_trans`).  Above every viable
candidate there is then an undominated one (`exists_maximal`): going up from a candidate, the number
of those that dominate it shrinks.

The main result (`elect_greatest`) follows.  If nobody is viable, nobody is undominated; if one is
undominated, it is above everybody; and in a conflict at least two are.
-/
namespace CommandEngine
namespace Election

/-! ## The order of the candidates -/

section Order
variable {h : Hierarchy} {seat : Seat}

theorem not_isStrictSubtype_of_id {a b : TypeKey} (hid : a.id = b.id) :
    h.isStrictSubtype a b = false := by
  simp [Hierarchy.isStrictSubtype, hid]

theorem dominates_irrefl (c : Candidate) : dominates h seat c c = false := by
  simp [dominates, not_isStrictSubtype_of_id]

/-- Subtyping looks at identities only. -/
theorem isStrictSubtype_congr {a a' b b' : TypeKey} (ha : a.id = a'.id) (hb : b.id = b'.id) :
    h.isStrictSubtype a b = h.isStrictSubtype a' b' := by
  simp [Hierarchy.isStrictSubtype, Hierarchy.isSubtype, ha, hb]

/-- **What it takes to dominate**, level by level. -/
theorem dominates_iff {a b : Candidate} : dominates h seat a b = true ↔
    (isClosed seat a = true ∧ isClosed seat b = false) ∨
    (isClosed seat a = isClosed seat b ∧ a.parameter.id ≠ b.parameter.id ∧
      h.isStrictSubtype a.parameter b.parameter = true) ∨
    (isClosed seat a = isClosed seat b ∧ a.parameter.id = b.parameter.id ∧
      h.isStrictSubtype a.returns b.returns = true) := by
  unfold dominates
  by_cases hclosed : isClosed seat a = isClosed seat b
  · by_cases hparameter : a.parameter.id = b.parameter.id
    · simp [hclosed, hparameter]
    · simp [hclosed, hparameter]
  · cases ha : isClosed seat a <;> cases hb : isClosed seat b <;> simp_all

theorem dominates_trans (hd : h.Declared) {a b c : Candidate}
    (hab : dominates h seat a b = true) (hbc : dominates h seat b c = true) :
    dominates h seat a c = true := by
  rw [dominates_iff] at hab hbc ⊢
  rcases hab with ⟨ha, hb⟩ | ⟨hclosed, hne, hsub⟩ | ⟨hclosed, heq, hsub⟩
  · -- an open candidate dominates open ones only
    rcases hbc with ⟨hb', -⟩ | ⟨hclosed, -, -⟩ | ⟨hclosed, -, -⟩
    · rw [hb] at hb'; cases hb'
    · exact .inl ⟨ha, hclosed ▸ hb⟩
    · exact .inl ⟨ha, hclosed ▸ hb⟩
  · rcases hbc with ⟨hb, hc⟩ | ⟨hclosed', hne', hsub'⟩ | ⟨hclosed', heq', -⟩
    · exact .inl ⟨hclosed.trans hb, hc⟩
    · have hac := hd.isStrictSubtype_trans hsub hsub'
      exact .inr (.inl ⟨hclosed.trans hclosed', (Hierarchy.isStrictSubtype_iff.mp hac).1, hac⟩)
    · refine .inr (.inl ⟨hclosed.trans hclosed', heq' ▸ hne, ?_⟩)
      rwa [← isStrictSubtype_congr rfl heq']
  · rcases hbc with ⟨hb, hc⟩ | ⟨hclosed', hne', hsub'⟩ | ⟨hclosed', heq', hsub'⟩
    · exact .inl ⟨hclosed.trans hb, hc⟩
    · refine .inr (.inl ⟨hclosed.trans hclosed', heq ▸ hne', ?_⟩)
      rwa [isStrictSubtype_congr heq rfl]
    · refine .inr (.inr ⟨hclosed.trans hclosed', heq.trans heq', ?_⟩)
      exact hd.isStrictSubtype_trans hsub hsub'

end Order

/-! ## Viable and undominated candidates -/

section Maximal
variable {h : Hierarchy} {seat : Seat} {candidates : List Candidate}

theorem mem_viable {c : Candidate} {i : Nat} : (c, i) ∈ viable h seat candidates ↔
    candidates[i]? = some c ∧ isViable h seat c = true := by
  rw [viable, List.mem_filter, List.mem_zipIdx_iff_getElem?]

theorem viable_eq_nil_iff :
    viable h seat candidates = [] ↔ ∀ c ∈ candidates, isViable h seat c = false := by
  rw [List.eq_nil_iff_forall_not_mem]
  constructor
  · intro hnone c hc
    obtain ⟨i, hi⟩ := List.mem_iff_getElem?.mp hc
    cases hv : isViable h seat c with
    | false => rfl
    | true => exact (hnone (c, i) (mem_viable.mpr ⟨hi, hv⟩)).elim
  · rintro hnone ⟨c, i⟩ hmem
    obtain ⟨hi, hv⟩ := mem_viable.mp hmem
    rw [hnone c (List.mem_of_getElem? hi)] at hv
    cases hv

theorem mem_maximal {c : Candidate} {i : Nat} : (c, i) ∈ maximal h seat candidates ↔
    (c, i) ∈ viable h seat candidates ∧
      ∀ b j, (b, j) ∈ viable h seat candidates → j ≠ i → dominates h seat b c = false := by
  rw [maximal, List.mem_filter, Bool.not_eq_true', List.any_eq_false]
  refine and_congr_right fun _ => ⟨fun hnone b j hb hji => ?_, fun hnone x hx => ?_⟩
  · have := hnone (b, j) hb
    simpa [hji] using this
  · by_cases hji : x.2 = i
    · simp [hji]
    · simp [hnone x.1 x.2 hx hji]

theorem nodup_viable : (viable h seat candidates).Nodup :=
  (List.Nodup.of_map _ (List.nodup_zipIdx_map_snd candidates)).filter _

theorem nodup_maximal : (maximal h seat candidates).Nodup := nodup_viable.filter _

/-- **Above every viable candidate is an undominated one.** -/
theorem exists_maximal (hd : h.Declared) {a : Candidate} {i : Nat}
    (ha : (a, i) ∈ viable h seat candidates) :
    ∃ m ∈ maximal h seat candidates, m = (a, i) ∨ dominates h seat m.1 a = true := by
  -- by induction on the number of viable candidates that dominate `a`
  induction hn : ((viable h seat candidates).filter fun x => dominates h seat x.1 a).length
    using Nat.strong_induction_on generalizing a i with
  | _ n ih =>
    by_cases hmax : (a, i) ∈ maximal h seat candidates
    · exact ⟨(a, i), hmax, .inl rfl⟩
    · obtain ⟨b, j, hb, hdom⟩ : ∃ b j, (b, j) ∈ viable h seat candidates ∧
          dominates h seat b a = true := by
        refine Classical.byContradiction fun hnone => hmax (mem_maximal.mpr ⟨ha, ?_⟩)
        intro b j hb _
        cases hdom : dominates h seat b a with
        | false => rfl
        | true => exact (hnone ⟨b, j, hb, hdom⟩).elim
      have hfewer :
          ((viable h seat candidates).filter fun x => dominates h seat x.1 b).length < n := by
        have hsub : ((viable h seat candidates).filter fun x => dominates h seat x.1 b).Sublist
            ((viable h seat candidates).filter fun x => dominates h seat x.1 a) :=
          List.monotone_filter_right _ fun x hx => dominates_trans hd hx hdom
        refine hn ▸ Nat.lt_of_le_of_ne hsub.length_le fun heq => ?_
        have hmem : (b, j) ∈ (viable h seat candidates).filter fun x => dominates h seat x.1 a :=
          List.mem_filter.mpr ⟨hb, hdom⟩
        rw [← hsub.eq_of_length heq, List.mem_filter, dominates_irrefl] at hmem
        cases hmem.2
      obtain ⟨m, hm, heq | habove⟩ := ih _ hfewer hb rfl
      · exact ⟨m, hm, .inr (heq ▸ hdom)⟩
      · exact ⟨m, hm, .inr (dominates_trans hd habove hdom)⟩

theorem maximal_eq_nil_iff (hd : h.Declared) :
    maximal h seat candidates = [] ↔ viable h seat candidates = [] := by
  constructor
  · intro hmax
    rw [List.eq_nil_iff_forall_not_mem]
    rintro ⟨a, i⟩ ha
    obtain ⟨m, hm, -⟩ := exists_maximal hd ha
    rw [hmax] at hm
    cases hm
  · intro hviable
    simp [maximal, hviable]

/-- **The greatest candidate**: viable, and above every other viable one. -/
def Greatest (h : Hierarchy) (seat : Seat) (candidates : List Candidate) (w : Nat) : Prop :=
  ∃ c, candidates[w]? = some c ∧ isViable h seat c = true ∧
    ∀ j b, j ≠ w → candidates[j]? = some b → isViable h seat b = true → dominates h seat c b = true

/-- A single undominated candidate is the greatest, and the greatest is the only undominated one. -/
theorem maximal_eq_singleton_iff (hd : h.Declared) {w : Nat} :
    (∃ c, maximal h seat candidates = [(c, w)]) ↔ Greatest h seat candidates w := by
  constructor
  · rintro ⟨c, hmax⟩
    have hc : (c, w) ∈ maximal h seat candidates := by rw [hmax]; exact List.mem_singleton_self _
    obtain ⟨hw, hv⟩ := mem_viable.mp (mem_maximal.mp hc).1
    refine ⟨c, hw, hv, fun j b hj hb hbv => ?_⟩
    obtain ⟨m, hm, heq | habove⟩ := exists_maximal hd (mem_viable.mpr ⟨hb, hbv⟩)
    · rw [hmax, List.mem_singleton] at hm
      exact (hj (congrArg Prod.snd (heq.symm.trans hm))).elim
    · rw [hmax, List.mem_singleton] at hm
      rwa [hm] at habove
  · rintro ⟨c, hw, hv, habove⟩
    have hcv : (c, w) ∈ viable h seat candidates := mem_viable.mpr ⟨hw, hv⟩
    have hc : (c, w) ∈ maximal h seat candidates := by
      refine mem_maximal.mpr ⟨hcv, fun b j hb hj => ?_⟩
      obtain ⟨hbj, hbv⟩ := mem_viable.mp hb
      have hcb := habove j b hj hbj hbv
      cases hbc : dominates h seat b c with
      | false => rfl
      | true => rw [← dominates_trans hd hcb hbc, dominates_irrefl]
    have honly : ∀ m, m ∈ maximal h seat candidates ↔ m ∈ [(c, w)] := by
      rintro ⟨b, j⟩
      rw [List.mem_singleton]
      refine ⟨fun hm => ?_, fun heq => heq ▸ hc⟩
      obtain ⟨hbmem, hbmax⟩ := mem_maximal.mp hm
      obtain ⟨hbj, hbv⟩ := mem_viable.mp hbmem
      by_cases hj : j = w
      · subst hj
        rw [Option.some.inj (hw.symm.trans hbj)]
      · have := hbmax c w hcv (Ne.symm hj)
        rw [habove j b hj hbj hbv] at this
        cases this
    exact ⟨c, List.perm_singleton.mp
      ((List.perm_ext_iff_of_nodup nodup_maximal (List.nodup_singleton _)).mpr honly)⟩

end Maximal

/-! ## The vote -/

section Vote
variable {h : Hierarchy} {seat : Seat} {candidates : List Candidate}

theorem byLabel_perm (rivals : List (Candidate × Nat)) : (byLabel rivals).Perm rivals :=
  List.mergeSort_perm ..

/-- The vote is decided by how many candidates are undominated. -/
theorem elect_cases :
    (maximal h seat candidates = [] ∧ elect h seat candidates = .ok none) ∨
    (∃ c w, maximal h seat candidates = [(c, w)] ∧ elect h seat candidates = .ok (some w)) ∨
    (2 ≤ (maximal h seat candidates).length ∧ ∃ e, elect h seat candidates = .error e) := by
  have hperm := byLabel_perm (maximal h seat candidates)
  unfold elect
  split
  · rename_i hnil
    rw [hnil] at hperm
    exact .inl ⟨hperm.nil_eq.symm, rfl⟩
  · rename_i c w hone
    rw [hone] at hperm
    exact .inr (.inl ⟨c, w, List.perm_singleton.mp hperm.symm, rfl⟩)
  · rename_i a b rest hmany
    rw [hmany] at hperm
    refine .inr (.inr ⟨?_, _, rfl⟩)
    rw [← hperm.length_eq]
    exact Nat.le_add_left ..

/-- **The election picks the greatest candidate.**  Domination is a strict order of the viable
candidates.  Nobody is elected exactly if nobody is viable, a candidate is elected exactly if it is
the greatest, and otherwise there is a conflict.  Where some candidate is viable and not exactly one
is undominated, at least two are, so there always are two rivals to name. -/
theorem elect_greatest (hd : h.Declared) :
    (∀ a, isViable h seat a = true → dominates h seat a a = false) ∧
    (∀ a b c, isViable h seat a = true → isViable h seat b = true → isViable h seat c = true →
      dominates h seat a b = true → dominates h seat b c = true → dominates h seat a c = true) ∧
    (elect h seat candidates = .ok none ↔ ∀ c ∈ candidates, isViable h seat c = false) ∧
    (∀ w, elect h seat candidates = .ok (some w) ↔ Greatest h seat candidates w) ∧
    ((∃ e, elect h seat candidates = .error e) ↔
      (∃ c ∈ candidates, isViable h seat c = true) ∧ ∀ w, ¬ Greatest h seat candidates w) ∧
    ((∃ e, elect h seat candidates = .error e) → 2 ≤ (maximal h seat candidates).length) ∧
    (viable h seat candidates ≠ [] → (maximal h seat candidates).length ≠ 1 →
      2 ≤ (maximal h seat candidates).length) := by
  have hnone : (∀ c ∈ candidates, isViable h seat c = false) ↔
      maximal h seat candidates = [] := by
    rw [maximal_eq_nil_iff hd, viable_eq_nil_iff]
  have hsome : (∃ c ∈ candidates, isViable h seat c = true) ↔
      maximal h seat candidates ≠ [] := by
    rw [Ne, ← hnone]
    simp
  refine ⟨fun a _ => dominates_irrefl a, fun a b c _ _ _ hab hbc => dominates_trans hd hab hbc, ?_⟩
  rw [hnone, hsome]
  simp only [← maximal_eq_singleton_iff hd]
  have hbounds : viable h seat candidates ≠ [] → (maximal h seat candidates).length ≠ 1 →
      2 ≤ (maximal h seat candidates).length := by
    intro hviable hone
    have hpos := List.length_pos_iff.mpr (mt (maximal_eq_nil_iff hd).mp hviable)
    omega
  rcases @elect_cases h seat candidates with
    ⟨hmax, helect⟩ | ⟨c, w, hmax, helect⟩ | ⟨hlen, e, helect⟩
  · exact ⟨by simp [hmax, helect], by simp [hmax, helect], by simp [hmax, helect],
      by simp [helect], hbounds⟩
  · exact ⟨by simp [hmax, helect], by simp [hmax, helect], by simp [hmax, helect],
      by simp [helect], hbounds⟩
  · have hne : maximal h seat candidates ≠ [] := by
      intro hnil
      rw [hnil] at hlen
      cases hlen
    have hnotone : ∀ c w, maximal h seat candidates ≠ [(c, w)] := by
      intro c w hone
      rw [hone, List.length_singleton] at hlen
      omega
    refine ⟨by simp [helect, hne], by simp [helect, hnotone], ?_, fun _ => hlen, hbounds⟩
    exact ⟨fun _ => ⟨hne, fun w ⟨c, hone⟩ => hnotone c w hone⟩, fun _ => ⟨e, helect⟩⟩

/-- Among an open candidate for a supertype and a closed one, the closed one is the greatest. -/
theorem elect_greatest_closed :
    ∃ h, Hierarchy.Declared h ∧
      ∃ seat candidates, candidates.length = 2 ∧
        Greatest h seat candidates 1 ∧ elect h seat candidates = .ok (some 1) := by
  have hdeclare : Hierarchy.empty.declare ⟨"Transfer", "Transfer"⟩ ⟨"Payment", "Payment"⟩ =
      .ok ⟨[("Transfer", ["Payment"])]⟩ := by
    simp [Hierarchy.declare, Hierarchy.isSubtype, Hierarchy.search, Hierarchy.direct,
      Hierarchy.empty, Hierarchy.insert]
  have hgreatest : Greatest ⟨[("Transfer", ["Payment"])]⟩ ⟨⟨"Transfer", "Transfer"⟩, none, none⟩
      [⟨"Ledger", "pay", ⟨"Payment", "Payment"⟩, TypeKey.unit, true⟩,
        ⟨"Desk", "transfer", ⟨"Transfer", "Transfer"⟩, TypeKey.unit, false⟩] 1 := by
    refine ⟨_, rfl, by simp [isViable, objection?, Hierarchy.isSubtype], ?_⟩
    intro j b hj hb _
    rcases j with _ | _ | j
    · obtain rfl := Option.some.inj hb
      simp [dominates, isClosed]
    · exact absurd rfl hj
    · cases hb
  have hd := Hierarchy.Declared.declare .empty hdeclare
  exact ⟨_, hd, _, _, rfl, hgreatest, ((elect_greatest hd).2.2.2.1 1).mpr hgreatest⟩

end Vote
end Election
end CommandEngine
