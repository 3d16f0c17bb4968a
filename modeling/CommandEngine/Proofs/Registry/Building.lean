import CommandEngine.Proofs.Hierarchy
import CommandEngine.Proofs.Registry.Distribution
import Mathlib.Data.List.Forall2

/-!
# When a registry is built

Building comes to a row of checks and then an election for every declared command
(`build_eq_tabulated`).  Each part ends in an error or lets the next one go on, so a registry that
was built says of every part that it went well.  The lemmas of this module say what that means, one
part after the other, and all of them say it exactly: the supertypes are declared one by one, no
type is declared twice (`duplicate?_eq_none`), every registration refers to a declared type of a
kind it fits (`checkOne_ok_iff`), and the descriptors stand for the declarations, in their order
(`build_ok_iff`).

Since no type is declared twice, a type has one declaration at most, and looking for it by its
identity finds it (`find?_key_iff`).
-/
namespace CommandEngine
namespace RegistryBuilder

/-! ## Sequences that may end in an error -/

section Sequences
variable {ε δ α β : Type}

theorem bind_ok_iff {x : Except ε α} {f : α → Except ε β} {b : β} :
    x >>= f = .ok b ↔ ∃ a, x = .ok a ∧ f a = .ok b := by
  cases x with
  | error e =>
    constructor
    · intro herror
      cases herror
    · rintro ⟨a, herror, -⟩
      cases herror
  | ok a =>
    constructor
    · intro hf
      exact ⟨a, rfl, hf⟩
    · rintro ⟨a', ha, hf⟩
      cases ha
      exact hf

theorem mapError_ok_iff {x : Except ε α} {f : ε → δ} {a : α} :
    x.mapError f = .ok a ↔ x = .ok a := by
  cases x with
  | error e =>
    constructor
    · intro herror
      cases herror
    · intro herror
      cases herror
  | ok a' =>
    show Except.ok a' = Except.ok a ↔ _
    rw [Except.ok.injEq, Except.ok.injEq]

theorem forM_ok_iff {f : α → Except ε Unit} {xs : List α} :
    xs.forM f = .ok () ↔ ∀ x ∈ xs, f x = .ok () := by
  induction xs with
  | nil =>
    constructor
    · intro _ x hx
      cases hx
    · intro _
      rfl
  | cons x xs ih =>
    show (f x >>= fun _ => xs.forM f) = .ok () ↔ _
    rw [bind_ok_iff, List.forall_mem_cons, ← ih]
    constructor
    · rintro ⟨_, hx, hxs⟩
      exact ⟨hx, hxs⟩
    · rintro ⟨hx, hxs⟩
      exact ⟨(), hx, hxs⟩

theorem mapM_ok_iff {f : α → Except ε β} {xs : List α} {ys : List β} :
    xs.mapM f = .ok ys ↔ List.Forall₂ (fun x y => f x = .ok y) xs ys := by
  induction xs generalizing ys with
  | nil =>
    rw [List.mapM_nil, List.forall₂_nil_left_iff]
    show Except.ok [] = Except.ok ys ↔ _
    rw [Except.ok.injEq, eq_comm]
  | cons x xs ih =>
    rw [List.mapM_cons, bind_ok_iff, List.forall₂_cons_left_iff]
    constructor
    · rintro ⟨y, hy, hrest⟩
      obtain ⟨rest, hxs, hcons⟩ := bind_ok_iff.mp hrest
      cases hcons
      exact ⟨y, rest, hy, ih.mp hxs, rfl⟩
    · rintro ⟨y, rest, hy, hxs, rfl⟩
      exact ⟨y, hy, bind_ok_iff.mpr ⟨rest, ih.mpr hxs, rfl⟩⟩

/-- The entries are given by the values, of which something holds. -/
theorem forall₂_eq_and_iff {f : β → α} {P : β → Prop} {xs : List α} {ys : List β} :
    List.Forall₂ (fun x y => x = f y ∧ P y) xs ys ↔ ys.map f = xs ∧ ∀ y ∈ ys, P y := by
  induction ys generalizing xs with
  | nil =>
    rw [List.forall₂_nil_right_iff]
    constructor
    · rintro rfl
      exact ⟨rfl, fun y hy => absurd hy List.not_mem_nil⟩
    · rintro ⟨hnil, -⟩
      exact hnil.symm
  | cons y ys ih =>
    rw [List.forall₂_cons_right_iff, List.forall_mem_cons, List.map_cons]
    constructor
    · rintro ⟨x, rest, ⟨rfl, hy⟩, hrest, rfl⟩
      obtain ⟨hmap, hys⟩ := ih.mp hrest
      exact ⟨by rw [hmap], hy, hys⟩
    · rintro ⟨hmap, hy, hys⟩
      exact ⟨f y, ys.map f, ⟨rfl, hy⟩, ih.mpr ⟨rfl, hys⟩, hmap.symm⟩

/-- Where no two entries have the same key, an entry is found by its key. -/
theorem find?_key_iff {key : α → String} {xs : List α} (hdistinct : (xs.map key).Nodup) {k : String}
    {x : α} : xs.find? (key · == k) = some x ↔ x ∈ xs ∧ key x = k := by
  constructor
  · intro hfind
    exact ⟨List.mem_of_find?_eq_some hfind, by simpa using List.find?_some hfind⟩
  · rintro ⟨hx, hkey⟩
    cases hfind : xs.find? (key · == k) with
    | none =>
      have hnot := List.find?_eq_none.mp hfind x hx
      simp [hkey] at hnot
    | some x' =>
      have hkey' : key x' = k := by simpa using List.find?_some hfind
      have hmem := List.mem_of_find?_eq_some hfind
      rw [List.inj_on_of_nodup_map hdistinct hmem hx (hkey'.trans hkey.symm)]

end Sequences

/-! ## The checks -/

section Checks
variable {D α : Type} {b : RegistryBuilder D}

/-- The registration refers to a declared type of a kind it fits. -/
theorem checkOne_ok_iff {registration : Registration} {t : TypeKey} :
    b.checkOne registration t = .ok () ↔
      ∃ d, b.types.find? (·.type.id == t.id) = some d ∧ registration.fits d.kind = true := by
  unfold checkOne
  cases b.types.find? (·.type.id == t.id) with
  | none => simp
  | some d => cases hfits : registration.fits d.kind <;> simp [hfits]

theorem checkEach_ok_iff {registration : Registration} {items : List (TypeKey × α)} :
    b.checkEach registration items = .ok () ↔
      ∀ item ∈ items, b.checkOne registration item.1 = .ok () := forM_ok_iff

/-- What all checks together say of a builder whose hierarchy is `h`. -/
structure Admissible (b : RegistryBuilder D) (h : Hierarchy) : Prop where
  hierarchy : Hierarchy.empty.declareAll b.supertypes = .ok h
  distinct : (b.types.map (·.type.id)).Nodup
  offers : ∀ item ∈ b.offers, b.checkOne .handler item.1 = .ok ()
  incoming : ∀ item ∈ b.incomingValidators, b.checkOne .incomingValidator item.1 = .ok ()
  handling : ∀ item ∈ b.handlingValidators, b.checkOne .handlingValidator item.1 = .ok ()
  post : ∀ item ∈ b.postHandlers, b.checkOne .postHandler item.1 = .ok ()
  event : ∀ item ∈ b.eventHandlers, b.checkOne .eventHandler item.1 = .ok ()
  owners : ∀ item ∈ b.owners, b.checkOne .owningService item.1 = .ok ()

theorem check_ok_iff {h : Hierarchy} : b.check = .ok h ↔ b.Admissible h := by
  unfold check
  cases hduplicate : duplicate? [] b.types with
  | some d =>
    constructor
    · intro hcheck
      obtain ⟨_, -, hrest⟩ := bind_ok_iff.mp hcheck
      obtain ⟨_, hthrow, -⟩ := bind_ok_iff.mp hrest
      cases hthrow
    · intro hadmissible
      have hnone := duplicate?_eq_none.mpr ⟨hadmissible.distinct, fun d _ => List.not_mem_nil⟩
      rw [hduplicate] at hnone
      cases hnone
  | none =>
    have hdistinct := (duplicate?_eq_none.mp hduplicate).1
    constructor
    · intro hcheck
      obtain ⟨h', hdeclare, hcheck⟩ := bind_ok_iff.mp hcheck
      obtain ⟨_, hoffers, hcheck⟩ := bind_ok_iff.mp hcheck
      obtain ⟨_, hincoming, hcheck⟩ := bind_ok_iff.mp hcheck
      obtain ⟨_, hhandling, hcheck⟩ := bind_ok_iff.mp hcheck
      obtain ⟨_, hpost, hcheck⟩ := bind_ok_iff.mp hcheck
      obtain ⟨_, hevent, hcheck⟩ := bind_ok_iff.mp hcheck
      obtain ⟨_, howners, hcheck⟩ := bind_ok_iff.mp hcheck
      cases hcheck
      exact ⟨mapError_ok_iff.mp hdeclare, hdistinct, checkEach_ok_iff.mp hoffers,
        checkEach_ok_iff.mp hincoming, checkEach_ok_iff.mp hhandling, checkEach_ok_iff.mp hpost,
        checkEach_ok_iff.mp hevent, checkEach_ok_iff.mp howners⟩
    · intro hadmissible
      refine bind_ok_iff.mpr ⟨h, mapError_ok_iff.mpr hadmissible.hierarchy, ?_⟩
      refine bind_ok_iff.mpr ⟨(), checkEach_ok_iff.mpr hadmissible.offers, ?_⟩
      refine bind_ok_iff.mpr ⟨(), checkEach_ok_iff.mpr hadmissible.incoming, ?_⟩
      refine bind_ok_iff.mpr ⟨(), checkEach_ok_iff.mpr hadmissible.handling, ?_⟩
      refine bind_ok_iff.mpr ⟨(), checkEach_ok_iff.mpr hadmissible.post, ?_⟩
      refine bind_ok_iff.mpr ⟨(), checkEach_ok_iff.mpr hadmissible.event, ?_⟩
      exact bind_ok_iff.mpr ⟨(), checkEach_ok_iff.mpr hadmissible.owners, rfl⟩

end Checks
/-! ## The descriptors -/

section Descriptors
variable {D : Type} {b : RegistryBuilder D} {h : Hierarchy}

/-- The descriptor has the handler elected for its type, if it is that of a command, and what was
registered for its type. -/
structure Fills (b : RegistryBuilder D) (h : Hierarchy) (d : Descriptor D) : Prop where
  elected : d.kind.isCommand = true → b.elect h d.declaration = .ok d.handler
  handlerless : d.kind.isCommand = false → d.handler = none
  incoming : d.incomingValidators = registered b.incomingValidators d.type
  handling : d.handlingValidators = registered b.handlingValidators d.type
  post : d.postHandlers = registered b.postHandlers d.type
  event : d.eventHandlers = registered b.eventHandlers d.type
  handled : d.isHandled = if d.kind.isCommand then d.handler.isSome
    else d.kind.isRouted && !d.eventHandlers.isEmpty

/-- Nothing but the handler is chosen. -/
theorem Fills.eta {d : Descriptor D} (hd : b.Fills h d) :
    d = ⟨d.index, d.type, d.kind, d.result, d.handler, registered b.incomingValidators d.type,
      registered b.handlingValidators d.type, registered b.postHandlers d.type,
      registered b.eventHandlers d.type, if d.kind.isCommand then d.handler.isSome
        else d.kind.isRouted && !(registered b.eventHandlers d.type).isEmpty⟩ := by
  rw [← hd.incoming, ← hd.handling, ← hd.post, ← hd.event, ← hd.handled]

theorem describe_ok_iff {declared : Declaration} {index : Nat} {d : Descriptor D} :
    b.describe h declared index = .ok d ↔ (declared, index) = (d.declaration, d.index) ∧
      b.Fills h d := by
  unfold describe
  by_cases hkind : declared.kind.isCommand = true
  · rw [if_pos hkind]
    constructor
    · intro hdescribe
      obtain ⟨handler, helect, hdescriptor⟩ := bind_ok_iff.mp hdescribe
      cases hdescriptor
      have hcontrary (hnot : declared.kind.isCommand = false) : handler = none :=
        absurd hkind (Bool.eq_false_iff.mp hnot)
      exact ⟨rfl, fun _ => mapError_ok_iff.mp helect, hcontrary, rfl, rfl, rfl, rfl, rfl⟩
    · rintro ⟨hentry, hd⟩
      cases hentry
      refine bind_ok_iff.mpr ⟨d.handler, mapError_ok_iff.mpr (hd.elected hkind), ?_⟩
      exact congrArg Except.ok hd.eta.symm
  · rw [if_neg hkind]
    constructor
    · intro hdescribe
      cases hdescribe
      exact ⟨rfl, fun hcommand => absurd hcommand hkind, fun _ => rfl, rfl, rfl, rfl, rfl, rfl⟩
    · rintro ⟨hentry, hd⟩
      cases hentry
      rw [hd.eta, hd.handlerless (Bool.eq_false_iff.mpr hkind)]
      rfl

/-- **When a registry is built**: the checks pass, the index is that of the declared types, and the
descriptors are those of the declarations, each with what the builder has for its type. -/
theorem build_ok_iff {r : Registry D} : b.build = .ok r ↔
    b.Admissible r.hierarchy ∧ r.provider = b.provider ∧ r.byType = positions b.types ∧
      r.descriptors.map (fun d => (d.declaration, d.index)) = b.types.zipIdx ∧
      ∀ d ∈ r.descriptors, b.Fills r.hierarchy d := by
  have hdescriptors {h : Hierarchy} {ds : List (Descriptor D)} :
      (b.types.zipIdx.mapM fun entry => b.describe h entry.1 entry.2) = .ok ds ↔
        ds.map (fun d => (d.declaration, d.index)) = b.types.zipIdx ∧ ∀ d ∈ ds, b.Fills h d := by
    rw [mapM_ok_iff, ← forall₂_eq_and_iff]
    constructor
    · exact List.Forall₂.imp fun _ _ hdescribe => describe_ok_iff.mp hdescribe
    · exact List.Forall₂.imp fun _ _ hdescribed => describe_ok_iff.mpr hdescribed
  rw [build_eq_tabulated, tabulated, bind_ok_iff]
  constructor
  · rintro ⟨h, hcheck, hbuild⟩
    obtain ⟨ds, hmap, hregistry⟩ := bind_ok_iff.mp hbuild
    cases hregistry
    exact ⟨check_ok_iff.mp hcheck, rfl, rfl, hdescriptors.mp hmap⟩
  · rintro ⟨hadmissible, hprovider, hpositions, hentries⟩
    refine ⟨r.hierarchy, check_ok_iff.mpr hadmissible, ?_⟩
    refine bind_ok_iff.mpr ⟨r.descriptors, hdescriptors.mpr hentries, ?_⟩
    rw [← hprovider, ← hpositions]
    rfl

end Descriptors
end RegistryBuilder
end CommandEngine
