import CommandEngine.Proofs.Hierarchy.Declarations

/-!
# The declared hierarchies are the acyclic graphs

Whoever goes on after a refused declaration goes on with the hierarchy from before it
(`attemptAll`).  So what is said of single declarations holds all along a row of them: a refused one
changes nothing, and an accepted one adds to the subtype relation what follows from its pair, and no
more (`isSubtype_declare`).  A way that uses the new edge uses it once, since it leads up to its
lower end and on from its upper one by old edges.

The check of a declaration looks only at those before it, while being free of cycles is said of the
whole graph.  The two meet because a cycle has a last edge, and all of it but this one is there when
that edge is declared (`declareAll_cases`).  Nothing in the answer depends on the order, on pairs
that come twice or on the names of the keys: these leave the graph as it is.
-/
namespace CommandEngine
namespace Hierarchy

open Relation

/-- The hierarchy after a declaration.  A refused one leaves it as it was. -/
def attempt (h : Hierarchy) (p : TypeKey × TypeKey) : Hierarchy :=
  match h.declare p.1 p.2 with
  | .ok h' => h'
  | .error _ => h

/-- The hierarchy after declarations that are made one after the other, refused ones among them. -/
def attemptAll (pairs : List (TypeKey × TypeKey)) : Hierarchy := pairs.foldl attempt empty

section Attempts
variable {h h' : Hierarchy} {pairs pairs' : List (TypeKey × TypeKey)} {p : TypeKey × TypeKey}
  {sub sup a b c : TypeKey}

/-! ## One declaration -/

theorem attempt_of_ok (hdeclare : h.declare p.1 p.2 = .ok h') : h.attempt p = h' := by
  rw [attempt, hdeclare]

theorem attempt_of_error {e : Cycle} (hdeclare : h.declare p.1 p.2 = .error e) :
    h.attempt p = h := by
  rw [attempt, hdeclare]

/-- A refused declaration reports the pair it was made with. -/
theorem eq_of_declare_error {e : Cycle} (hdeclare : h.declare sub sup = .error e) :
    e = ⟨sub, sup⟩ := by
  unfold declare at hdeclare
  split at hdeclare
  · exact (Except.error.inj hdeclare).symm
  · cases hdeclare

theorem eq_of_declare_ok (hdeclare : h.declare sub sup = .ok h') :
    h' = h.insert sub.id sup.id := by
  unfold declare at hdeclare
  split at hdeclare
  · cases hdeclare
  · exact (Except.ok.inj hdeclare).symm

theorem isSubtype_refl (h : Hierarchy) (a : TypeKey) : h.isSubtype a a = true :=
  isSubtype_iff.mpr .refl

theorem isSubtype_trans (hab : h.isSubtype a b = true) (hbc : h.isSubtype b c = true) :
    h.isSubtype a c = true :=
  isSubtype_iff.mpr ((isSubtype_iff.mp hab).trans (isSubtype_iff.mp hbc))

/-- **An accepted declaration** extends the subtype relation to the least one that has the new pair
as well, is reflexive and is transitive. -/
theorem isSubtype_declare (hdeclare : h.declare sub sup = .ok h') :
    h'.isSubtype a b = true ↔
      ReflTransGen (fun x y => h.isSubtype x y = true ∨ x.id = sub.id ∧ y.id = sup.id) a b := by
  obtain rfl := eq_of_declare_ok hdeclare
  constructor
  · intro hab
    rcases reflTransGen_iff_eq_or_transGen.mp (isSubtype_iff.mp hab) with heq | hway
    · exact .single (.inl (isSubtype_iff.mpr (heq ▸ .refl)))
    · rcases reachable_insert hway with hold | ⟨hup, hon⟩
      · exact .single (.inl (isSubtype_iff.mpr hold.to_reflTransGen))
      · have hfirst : h.isSubtype a sub = true := isSubtype_iff.mpr hup
        have hlast : h.isSubtype sup b = true := isSubtype_iff.mpr hon
        exact ((ReflTransGen.single (.inl hfirst)).tail (.inr ⟨rfl, rfl⟩)).tail (.inl hlast)
  · intro hway
    have hstep : ∀ {x y : TypeKey}, h.isSubtype x y = true ∨ x.id = sub.id ∧ y.id = sup.id →
        (h.insert sub.id sup.id).isSubtype x y = true := by
      rintro x y (hold | ⟨hx, hy⟩)
      · have hkept : h.Edge ≤ (h.insert sub.id sup.id).Edge :=
          fun _ _ hedge => edge_insert.mpr (.inl hedge)
        exact isSubtype_iff.mpr (ReflTransGen.mono hkept _ _ (isSubtype_iff.mp hold))
      · exact isSubtype_iff.mpr (.single (edge_insert.mpr (.inr ⟨hx, hy⟩)))
    induction hway with
    | refl => exact isSubtype_refl _ a
    | tail _ hlast ih => exact isSubtype_trans ih (hstep hlast)

/-! ## A row of declarations -/

theorem attemptAll_append_singleton : attemptAll (pairs ++ [p]) = (attemptAll pairs).attempt p :=
  List.foldl_append

/-- Whatever is refused on the way, the hierarchy is a declared one. -/
theorem declared_attemptAll (pairs : List (TypeKey × TypeKey)) : (attemptAll pairs).Declared := by
  induction pairs using List.reverseRecOn with
  | nil => exact .empty
  | append_singleton pairs p ih =>
    rw [attemptAll_append_singleton]
    cases hdeclare : (attemptAll pairs).declare p.1 p.2 with
    | error e => rwa [attempt_of_error hdeclare]
    | ok h' =>
      rw [attempt_of_ok hdeclare]
      exact .declare ih hdeclare

/-- In a row without cycles nothing is refused. -/
theorem Loopless.attemptAll_eq (hloopless : Loopless pairs) : attemptAll pairs = ofPairs pairs := by
  induction pairs using List.reverseRecOn with
  | nil => rfl
  | append_singleton pairs p ih =>
    obtain ⟨hbefore, hdeclare⟩ := hloopless.split_last
    rw [attemptAll_append_singleton, ih hbefore, attempt_of_ok hdeclare]

theorem exists_declareAll_iff : (∃ h, empty.declareAll pairs = .ok h) ↔ Loopless pairs := by
  constructor
  · rintro ⟨h, hdeclared⟩
    exact (declareAll_ok_iff.mp hdeclared).1
  · intro hloopless
    exact ⟨_, declareAll_ok_iff.mpr ⟨hloopless, rfl⟩⟩

theorem isSubtype_declareAll (hdeclared : empty.declareAll pairs = .ok h) :
    h.isSubtype a b = true ↔ ReflTransGen (Drawn pairs) a.id b.id := by
  rw [(declareAll_ok_iff.mp hdeclared).2, isSubtype_ofPairs]

/-- **The declared hierarchies are the acyclic graphs.**  A row of pairs is accepted throughout
exactly if they have no cycle, and the subtype relation is then what they lead up to.  Another row
with the same edges, in whatever order, however often each of them comes and under whatever names,
is accepted exactly if this one is, and makes the same relation.

Along any row, a refused declaration reports its own pair and leaves the relation as it was, and an
accepted one adds the pair and what follows from it.  The relation is a partial order all the
time. -/
theorem declarations_acyclic (pairs : List (TypeKey × TypeKey)) :
    ((∃ h, empty.declareAll pairs = .ok h) ↔ Loopless pairs) ∧
    (∀ h, empty.declareAll pairs = .ok h → h = attemptAll pairs ∧
      ∀ a b, h.isSubtype a b = true ↔ ReflTransGen (Drawn pairs) a.id b.id) ∧
    (∀ pairs', (∀ s t, Drawn pairs' s t ↔ Drawn pairs s t) →
      ((∃ h, empty.declareAll pairs' = .ok h) ↔ ∃ h, empty.declareAll pairs = .ok h) ∧
      ∀ h h', empty.declareAll pairs = .ok h → empty.declareAll pairs' = .ok h' →
        ∀ a b, h'.isSubtype a b = h.isSubtype a b) ∧
    (∀ sub sup e, (attemptAll pairs).declare sub sup = .error e → e = ⟨sub, sup⟩ ∧
      ∀ a b, (attemptAll (pairs ++ [(sub, sup)])).isSubtype a b =
        (attemptAll pairs).isSubtype a b) ∧
    (∀ sub sup h, (attemptAll pairs).declare sub sup = .ok h →
      h = attemptAll (pairs ++ [(sub, sup)]) ∧
      ∀ a b, h.isSubtype a b = true ↔ ReflTransGen (fun x y =>
        (attemptAll pairs).isSubtype x y = true ∨ x.id = sub.id ∧ y.id = sup.id) a b) ∧
    (∀ a, (attemptAll pairs).isSubtype a a = true) ∧
    (∀ a b c, (attemptAll pairs).isSubtype a b = true → (attemptAll pairs).isSubtype b c = true →
      (attemptAll pairs).isSubtype a c = true) ∧
    ∀ a b, (attemptAll pairs).isSubtype a b = true → (attemptAll pairs).isSubtype b a = true →
      a.id = b.id := by
  refine ⟨exists_declareAll_iff, ?_, ?_, ?_, ?_, isSubtype_refl _,
    fun _ _ _ => isSubtype_trans, fun _ _ => (declared_attemptAll pairs).isSubtype_antisymm⟩
  · intro h hdeclared
    obtain ⟨hloopless, rfl⟩ := declareAll_ok_iff.mp hdeclared
    exact ⟨hloopless.attemptAll_eq.symm, fun _ _ => isSubtype_ofPairs⟩
  · intro pairs' hedges
    have hdrawn : Drawn pairs' = Drawn pairs := funext₂ fun s t => propext (hedges s t)
    refine ⟨?_, fun h h' hdeclared hdeclared' a b => ?_⟩
    · rw [exists_declareAll_iff, exists_declareAll_iff, Loopless, Loopless, hdrawn]
    · rw [Bool.eq_iff_iff, isSubtype_declareAll hdeclared, isSubtype_declareAll hdeclared', hdrawn]
  · intro sub sup e hdeclare
    refine ⟨eq_of_declare_error hdeclare, fun a b => ?_⟩
    rw [attemptAll_append_singleton, attempt_of_error hdeclare]
  · intro sub sup h hdeclare
    rw [attemptAll_append_singleton, attempt_of_ok hdeclare]
    exact ⟨rfl, fun _ _ => isSubtype_declare hdeclare⟩

end Attempts
end Hierarchy
end CommandEngine
