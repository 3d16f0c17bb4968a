import CommandEngine.Proofs.Election.Conflict
import CommandEngine.Proofs.Election.Reordering
import CommandEngine.Proofs.Hierarchy.Declarations
import CommandEngine.Proofs.Registry.Table

/-!
# What a builder accepts, and what it reports

Building goes through nine parts, one after the other (`parts`).  Whether it ends in an error and
in which one is settled by the verdicts on these parts (`build_map`): a row of checks ends with
its first failure (`forM_error_iff`).  So do the parts themselves, which are rows of declarations,
references or elections.

What makes a part `Sound` does not speak of any order: the supertypes draw a graph without cycles,
no type is declared twice, everything that is registered refers to a declared type of a kind it
fits, and in every election nobody is viable or somebody is ahead of everybody else.  A `Fault` is
what is first wrong in a part that is not sound, with the error that names it.

The main result (`build_accepts`) puts the two together: a registry is built exactly if all parts
are sound, and otherwise the error is the fault of the first part that is not.  The owning
services are a set, so any of those that are wrong may be reported.
-/
namespace CommandEngine
namespace RegistryBuilder

/-! ## Rows of checks -/

section Rows
variable {ε δ α β : Type}

theorem bind_error_iff {x : Except ε α} {f : α → Except ε β} {e : ε} :
    x >>= f = .error e ↔ x = .error e ∨ ∃ a, x = .ok a ∧ f a = .error e := by
  cases x with
  | error e' =>
    show Except.error e' = Except.error e ↔ _
    simp
  | ok a =>
    show f a = .error e ↔ _
    simp

theorem map_ok_iff {x : Except ε α} {f : α → β} :
    (∃ b, x.map f = .ok b) ↔ ∃ a, x = .ok a := by
  cases x with
  | error e => simp [Except.map]
  | ok a => simp [Except.map]

theorem map_error_iff {x : Except ε α} {f : α → β} {e : ε} :
    x.map f = .error e ↔ x = .error e := by
  cases x with
  | error e' => simp [Except.map]
  | ok a => simp [Except.map]

theorem mapError_error_iff {x : Except ε α} {f : ε → δ} {e : δ} :
    x.mapError f = .error e ↔ ∃ e', x = .error e' ∧ e = f e' := by
  cases x with
  | error e' => simp [Except.mapError, eq_comm]
  | ok a => simp [Except.mapError]

/-- A row of checks ends with its first failure. -/
theorem forM_error_iff {f : α → Except ε Unit} {xs : List α} {e : ε} : xs.forM f = .error e ↔
    ∃ before x after, xs = before ++ x :: after ∧ (∀ y ∈ before, f y = .ok ()) ∧
      f x = .error e := by
  induction xs with
  | nil =>
    constructor
    · intro herror
      cases herror
    · rintro ⟨before, x, after, hnil, -⟩
      simp at hnil
  | cons x xs ih =>
    show (f x >>= fun _ => xs.forM f) = .error e ↔ _
    rw [bind_error_iff, ih]
    constructor
    · rintro (hx | ⟨_, hx, before, y, after, rfl, hbefore, hy⟩)
      · exact ⟨[], x, xs, rfl, List.forall_mem_nil _, hx⟩
      · exact ⟨x :: before, y, after, rfl, List.forall_mem_cons.mpr ⟨hx, hbefore⟩, hy⟩
    · rintro ⟨before, y, after, hxs, hbefore, hy⟩
      cases before with
      | nil =>
        obtain ⟨rfl, -⟩ := List.cons.inj hxs
        exact .inl hy
      | cons x' before =>
        obtain ⟨rfl, rfl⟩ := List.cons.inj hxs
        obtain ⟨hx, hbefore⟩ := List.forall_mem_cons.mp hbefore
        exact .inr ⟨(), hx, before, y, after, rfl, hbefore, hy⟩

/-- Checks that say what they should, as long as the ones before them passed, say it all together.
-/
theorem forM_judged {f : α → Except ε Unit} {P : α → Prop} {xs : List α}
    (hjudge : ∀ before x after, xs = before ++ x :: after → (∀ y ∈ before, P y) →
      (f x = .ok () ↔ P x)) :
    (xs.forM f = .ok () ↔ ∀ x ∈ xs, P x) ∧
    ∀ e, xs.forM f = .error e ↔ ∃ before x after, xs = before ++ x :: after ∧
      (∀ y ∈ before, P y) ∧ f x = .error e := by
  -- by induction on how far the row has come
  have hpassed : ∀ before after, xs = before ++ after →
      ((∀ y ∈ before, f y = .ok ()) ↔ ∀ y ∈ before, P y) := by
    intro before
    induction before using List.reverseRecOn with
    | nil => exact fun _ _ => ⟨fun _ => List.forall_mem_nil _, fun _ => List.forall_mem_nil _⟩
    | append_singleton before x ih =>
      intro after hxs
      rw [List.append_assoc] at hxs
      rw [List.forall_mem_append, List.forall_mem_append, List.forall_mem_singleton,
        List.forall_mem_singleton, ih _ hxs]
      exact and_congr_right fun hbefore => hjudge before x after hxs hbefore
  refine ⟨forM_ok_iff.trans (hpassed xs [] (List.append_nil xs).symm), ?_⟩
  intro e
  rw [forM_error_iff]
  constructor
  · rintro ⟨before, x, after, hxs, hbefore, hx⟩
    exact ⟨before, x, after, hxs, (hpassed before _ hxs).mp hbefore, hx⟩
  · rintro ⟨before, x, after, hxs, hbefore, hx⟩
    exact ⟨before, x, after, hxs, (hpassed before _ hxs).mpr hbefore, hx⟩

/-- A row that also collects ends like the row of its checks. -/
theorem mapM_map {f : α → Except ε β} {xs : List α} :
    (xs.mapM f).map (fun _ => ()) = xs.forM fun x => (f x).map fun _ => () := by
  induction xs with
  | nil => rfl
  | cons x xs ih =>
    rw [List.mapM_cons]
    show _ = ((f x).map _ >>= fun _ => xs.forM _)
    rw [← ih]
    cases f x with
    | error e => rfl
    | ok y =>
      show (xs.mapM f >>= fun ys => pure (y :: ys)).map _ = (xs.mapM f).map _
      cases xs.mapM f with
      | error e => rfl
      | ok ys => rfl

end Rows

/-! ## The parts -/

/-- What is checked of a builder. -/
inductive Part where
  | supertypes
  | declarations
  | registrations (registration : Registration)
  | elections
  deriving DecidableEq, Repr

/-- The order in which the parts are checked. -/
def parts : List Part :=
  [.supertypes, .declarations, .registrations .handler, .registrations .incomingValidator,
    .registrations .handlingValidator, .registrations .postHandler, .registrations .eventHandler,
    .registrations .owningService, .elections]

section Parts
variable {D : Type} (b : RegistryBuilder D)

/-- The types that registrations of one sort refer to, in the order they were made. -/
def references : Registration → List TypeKey
  | .handler => b.offers.map (·.1)
  | .incomingValidator => b.incomingValidators.map (·.1)
  | .handlingValidator => b.handlingValidators.map (·.1)
  | .postHandler => b.postHandlers.map (·.1)
  | .eventHandler => b.eventHandlers.map (·.1)
  | .owningService => b.owners.map (·.1)

/-- The hierarchy that the supertypes draw. -/
def drawn : Hierarchy := Hierarchy.ofPairs b.supertypes

/-- The signatures of what is offered for a type. -/
def signatures (t : TypeKey) : List Candidate := (b.candidates t).map (·.1)

/-- The type is declared, as a kind that the registration fits. -/
def Admits (registration : Registration) (t : TypeKey) : Prop :=
  ∃ d ∈ b.types, d.type.id = t.id ∧ registration.fits d.kind = true

/-- The election for a command can be decided: nobody is viable, or somebody is and dominates
everybody else who is. -/
def Decided (d : Declaration) : Prop :=
  (∀ c ∈ b.signatures d.type, Election.isViable b.drawn (b.seat d) c = false) ∨
    ∃ w, Election.Greatest b.drawn (b.seat d) (b.signatures d.type) w

/-- **Nothing is wrong with the part.** -/
def Sound : Part → Prop
  | .supertypes => Hierarchy.Loopless b.supertypes
  | .declarations => (b.types.map (·.type.id)).Nodup
  | .registrations registration => ∀ t ∈ b.references registration, b.Admits registration t
  | .elections => ∀ d ∈ b.types, d.kind.isCommand = true → b.Decided d

/-- **What is wrong with the part**, and the error that names it.  In parts that have an order it is
the first thing that is wrong. -/
inductive Fault : Part → RegistryError → Prop
  /-- The supertype is below the subtype already. -/
  | cycle {before p after} (hpairs : b.supertypes = before ++ p :: after)
      (hbefore : Hierarchy.Loopless before)
      (hback : Relation.ReflTransGen (Hierarchy.Drawn before) p.2.id p.1.id) :
      Fault .supertypes (.hierarchyCycle ⟨p.1, p.2⟩)
  | duplicate {before d after} (htypes : b.types = before ++ d :: after)
      (hbefore : (before.map (·.type.id)).Nodup) (htwice : d.type.id ∈ before.map (·.type.id)) :
      Fault .declarations (.duplicateType d.type.name)
  | undeclared {registration before t after}
      (hreferences : b.references registration = before ++ t :: after)
      (hbefore : registration ≠ .owningService → ∀ t' ∈ before, b.Admits registration t')
      (hnone : ∀ d ∈ b.types, d.type.id ≠ t.id) :
      Fault (.registrations registration) (.undeclaredType t.name registration)
  | misplaced {registration before t after d}
      (hreferences : b.references registration = before ++ t :: after)
      (hbefore : registration ≠ .owningService → ∀ t' ∈ before, b.Admits registration t')
      (hd : d ∈ b.types) (hid : d.type.id = t.id) (hfits : registration.fits d.kind = false) :
      Fault (.registrations registration) (.kindMismatch t.name d.kind registration)
  | undecided {before d after conflict} (htypes : b.types = before ++ d :: after)
      (hbefore : ∀ d' ∈ before, d'.kind.isCommand = true → b.Decided d')
      (hcommand : d.kind.isCommand = true) (hd : ¬ b.Decided d)
      (hconflict : Election.elect b.drawn (b.seat d) (b.signatures d.type) = .error conflict)
      (hnamed : conflict.command = d.type) :
      Fault .elections (.election conflict)

/-- The part is the first one in which something is wrong. -/
def FirstFault (part : Part) (e : RegistryError) : Prop :=
  ∃ before after, parts = before ++ part :: after ∧ (∀ p ∈ before, b.Sound p) ∧ b.Fault part e

/-! ## The verdicts -/

/-- The election for a declared type, if there is one. -/
def ballot (d : Declaration) : Except RegistryError Unit :=
  if d.kind.isCommand then ((b.elect b.drawn d).mapError .election).map fun _ => () else .ok ()

/-- The part ends in an error, or the next one goes on. -/
def verdict : Part → Except RegistryError Unit
  | .supertypes =>
    ((Hierarchy.empty.declareAll b.supertypes).mapError .hierarchyCycle).map fun _ => ()
  | .declarations =>
    match duplicate? [] b.types with
    | some d => .error (.duplicateType d.type.name)
    | none => .ok ()
  | .registrations registration => (b.references registration).forM (b.checkOne registration)
  | .elections => b.types.forM b.ballot

variable {b}

theorem checkEach_eq {α : Type} {registration : Registration} {items : List (TypeKey × α)} :
    b.checkEach registration items = (items.map (·.1)).forM (b.checkOne registration) := by
  show forM items _ = forM (items.map (·.1)) (b.checkOne registration)
  rw [List.forM_map]

theorem describe_map {d : Declaration} {index : Nat} :
    (b.describe b.drawn d index).map (fun _ => ()) = b.ballot d := by
  unfold describe ballot
  split
  · cases b.elect b.drawn d <;> rfl
  · rfl

/-- The descriptors are made unless an election fails. -/
theorem mapM_describe_map : (b.types.zipIdx.mapM fun (d, index) => b.describe b.drawn d index).map
    (fun _ => ()) = b.verdict .elections := by
  rw [mapM_map]
  simp only [describe_map]
  show _ = forM b.types _
  rw [← List.zipIdx_map_fst 0 b.types, List.forM_map, List.zipIdx_map_fst]
  rfl

/-- **Building ends like the row of its parts.** -/
theorem build_map : b.build.map (fun _ => ()) = parts.forM b.verdict := by
  have hrow : parts.forM b.verdict = (do
      b.verdict .supertypes
      b.verdict .declarations
      b.checkEach .handler b.offers
      b.checkEach .incomingValidator b.incomingValidators
      b.checkEach .handlingValidator b.handlingValidators
      b.checkEach .postHandler b.postHandlers
      b.checkEach .eventHandler b.eventHandlers
      b.checkEach .owningService b.owners
      b.verdict .elections) := by
    simp only [checkEach_eq]
    rw [← bind_pure_unit (x := b.verdict .elections)]
    rfl
  rw [hrow, build_eq_tabulated, tabulated, check, bind_map]
  cases hpairs : Hierarchy.empty.declareAll b.supertypes with
  | error cycle =>
    rw [verdict, hpairs]
    rfl
  | ok h =>
    obtain ⟨-, rfl⟩ := Hierarchy.declareAll_ok_iff.mp hpairs
    rw [verdict, hpairs, verdict]
    cases duplicate? [] b.types with
    | some d => rfl
    | none =>
      rw [← mapM_describe_map]
      simp only [bind_assoc, bind_map]
      rfl

/-! ## What the verdicts say -/

/-- The first type that is declared twice. -/
theorem duplicate?_eq_some {declared : List String} {types : List Declaration} {d : Declaration} :
    duplicate? declared types = some d ↔ ∃ before after, types = before ++ d :: after ∧
      duplicate? declared before = none ∧
      (d.type.id ∈ declared ∨ d.type.id ∈ before.map (·.type.id)) := by
  induction types generalizing declared with
  | nil => simp [duplicate?]
  | cons d' types ih =>
    rw [duplicate?]
    by_cases hd' : d'.type.id ∈ declared
    · rw [if_pos hd']
      constructor
      · intro heq
        obtain rfl := Option.some.inj heq
        exact ⟨[], types, rfl, rfl, .inl hd'⟩
      · rintro ⟨before, after, htypes, hnone, -⟩
        cases before with
        | nil => rw [(List.cons.inj htypes).1]
        | cons d'' before =>
          obtain ⟨rfl, -⟩ := List.cons.inj htypes
          rw [duplicate?, if_pos hd'] at hnone
          cases hnone
    · rw [if_neg hd', ih]
      constructor
      · rintro ⟨before, after, rfl, hnone, hmem⟩
        refine ⟨d' :: before, after, rfl, ?_, ?_⟩
        · rw [duplicate?, if_neg hd', hnone]
        · rw [List.mem_cons, or_assoc] at hmem
          rw [List.map_cons, List.mem_cons]
          exact or_left_comm.mp hmem
      · rintro ⟨before, after, htypes, hnone, hmem⟩
        cases before with
        | nil =>
          obtain ⟨rfl, -⟩ := List.cons.inj htypes
          rcases hmem with hmem | hmem
          · exact absurd hmem hd'
          · cases hmem
        | cons d'' before =>
          obtain ⟨rfl, rfl⟩ := List.cons.inj htypes
          rw [duplicate?, if_neg hd'] at hnone
          rw [List.map_cons, List.mem_cons] at hmem
          refine ⟨before, after, rfl, hnone, ?_⟩
          rw [List.mem_cons, or_assoc]
          exact or_left_comm.mp hmem

/-- An undeclared type comes before a kind that does not fit. -/
theorem checkOne_error_iff {registration : Registration} {t : TypeKey} {e : RegistryError} :
    b.checkOne registration t = .error e ↔
      (b.types.find? (·.type.id == t.id) = none ∧ e = .undeclaredType t.name registration) ∨
      ∃ d, b.types.find? (·.type.id == t.id) = some d ∧ registration.fits d.kind = false ∧
        e = .kindMismatch t.name d.kind registration := by
  rw [eq_comm (b := RegistryError.undeclaredType _ _)]
  unfold checkOne
  cases b.types.find? (·.type.id == t.id) with
  | none => simp
  | some d => cases hfits : registration.fits d.kind <;> simp [hfits, eq_comm (a := e)]

section Distinct
variable (hdistinct : b.Sound .declarations)
include hdistinct

theorem checkOne_admits {registration : Registration} {t : TypeKey} :
    b.checkOne registration t = .ok () ↔ b.Admits registration t := by
  rw [checkOne_ok_iff]
  constructor
  · rintro ⟨d, hfind, hfits⟩
    obtain ⟨hd, hid⟩ := (find?_key_iff hdistinct).mp hfind
    exact ⟨d, hd, hid, hfits⟩
  · rintro ⟨d, hd, hid, hfits⟩
    exact ⟨d, (find?_key_iff hdistinct).mpr ⟨hd, hid⟩, hfits⟩

theorem verdict_registrations_ok {registration : Registration} :
    b.verdict (.registrations registration) = .ok () ↔ b.Sound (.registrations registration) := by
  show (b.references registration).forM (b.checkOne registration) = .ok () ↔ _
  rw [forM_ok_iff]
  exact forall₂_congr fun _ _ => checkOne_admits hdistinct

theorem fault_of_registrations {registration : Registration} {e : RegistryError}
    (herror : b.verdict (.registrations registration) = .error e) :
    b.Fault (.registrations registration) e := by
  obtain ⟨before, t, after, hreferences, hbefore, ht⟩ := forM_error_iff.mp herror
  have hbefore' : registration ≠ .owningService → ∀ t' ∈ before, b.Admits registration t' :=
    fun _ t' ht' => (checkOne_admits hdistinct).mp (hbefore t' ht')
  rcases checkOne_error_iff.mp ht with ⟨hnone, rfl⟩ | ⟨d, hfind, hfits, rfl⟩
  · refine .undeclared hreferences hbefore' ?_
    intro d hd hid
    exact List.find?_eq_none.mp hnone d hd (beq_iff_eq.mpr hid)
  · obtain ⟨hd, hid⟩ := (find?_key_iff hdistinct).mp hfind
    exact .misplaced hreferences hbefore' hd hid hfits

/-- What is wrong with a reference is what its check reports. -/
theorem checkOne_of_fault {registration : Registration} {e : RegistryError}
    (hfault : b.Fault (.registrations registration) e) : ∃ before t after,
      b.references registration = before ++ t :: after ∧
      (registration ≠ .owningService → ∀ t' ∈ before, b.Admits registration t') ∧
      b.checkOne registration t = .error e := by
  cases hfault with
  | @undeclared _ before t after hreferences hbefore hnone =>
    refine ⟨before, t, after, hreferences, hbefore, checkOne_error_iff.mpr (.inl ⟨?_, rfl⟩)⟩
    rw [List.find?_eq_none]
    intro d hd hid
    exact hnone d hd (beq_iff_eq.mp hid)
  | @misplaced _ before t after d hreferences hbefore hd hid hfits =>
    have hfind := (find?_key_iff hdistinct).mpr ⟨hd, hid⟩
    exact ⟨before, t, after, hreferences, hbefore,
      checkOne_error_iff.mpr (.inr ⟨d, hfind, hfits, rfl⟩)⟩

/-- A fault among the references is reported, or another one if they are a set. -/
theorem registrations_of_fault {registration : Registration} {e : RegistryError}
    (hfault : b.Fault (.registrations registration) e) :
    ∃ e', b.verdict (.registrations registration) = .error e' ∧
      (registration ≠ .owningService → e' = e) := by
  obtain ⟨before, t, after, hreferences, hbefore, ht⟩ := checkOne_of_fault hdistinct hfault
  cases hverdict : b.verdict (.registrations registration) with
  | ok u =>
    have hpassed := forM_ok_iff.mp hverdict t (by rw [hreferences]; simp)
    cases hpassed.symm.trans ht
  | error e' =>
    refine ⟨e', rfl, fun hordered => ?_⟩
    have hpassed : ∀ t' ∈ before, b.checkOne registration t' = .ok () :=
      fun t' ht' => (checkOne_admits hdistinct).mpr (hbefore hordered t' ht')
    have herror : b.verdict (.registrations registration) = .error e :=
      forM_error_iff.mpr ⟨before, t, after, hreferences, hpassed, ht⟩
    exact Except.error.inj (hverdict.symm.trans herror)

end Distinct

section Elections
variable (hloopless : b.Sound .supertypes)
include hloopless

/-- The election of a command, as one of the checks. -/
theorem elect_ok_iff {d : Declaration} :
    (∃ handler, b.elect b.drawn d = .ok handler) ↔ b.Decided d := by
  have hd : b.drawn.Declared := Hierarchy.Loopless.declared hloopless
  constructor
  · rintro ⟨handler, helect⟩
    obtain ⟨winner, hwinner, -⟩ := bind_ok_iff.mp helect
    cases winner with
    | none => exact .inl ((Election.elect_none_iff hd).mp hwinner)
    | some w => exact .inr ⟨w, (Election.elect_some_iff hd).mp hwinner⟩
  · rintro (hnone | ⟨w, hgreatest⟩)
    · exact ⟨_, bind_ok_iff.mpr ⟨none, (Election.elect_none_iff hd).mpr hnone, rfl⟩⟩
    · exact ⟨_, bind_ok_iff.mpr ⟨some w, (Election.elect_some_iff hd).mpr hgreatest, rfl⟩⟩

theorem ballot_ok_iff {d : Declaration} :
    b.ballot d = .ok () ↔ (d.kind.isCommand = true → b.Decided d) := by
  unfold ballot
  split
  · rename_i hcommand
    rw [← elect_ok_iff hloopless]
    cases b.elect b.drawn d with
    | error conflict => simp [hcommand, Except.mapError, Except.map]
    | ok handler => simp [hcommand, Except.mapError, Except.map]
  · rename_i hcommand
    simp [hcommand]

/-- An election reports a conflict for its command. -/
theorem elect_error_iff {d : Declaration} {conflict : Conflict} :
    b.elect b.drawn d = .error conflict ↔ ¬ b.Decided d ∧
      Election.elect b.drawn (b.seat d) (b.signatures d.type) = .error conflict ∧
      conflict.command = d.type := by
  have hvote : b.elect b.drawn d = .error conflict ↔
      Election.elect b.drawn (b.seat d) (b.signatures d.type) = .error conflict := by
    rw [elect, bind_error_iff]
    constructor
    · rintro (herror | ⟨winner, -, hreturn⟩)
      · exact herror
      · cases hreturn
    · exact .inl
  rw [hvote]
  constructor
  · intro herror
    refine ⟨?_, herror, ?_⟩
    · intro hdecided
      obtain ⟨handler, hok⟩ := (elect_ok_iff hloopless).mpr hdecided
      cases hok.symm.trans (hvote.mpr herror)
    · obtain ⟨_, _, _, -, rfl⟩ := Election.elect_error_iff.mp herror
      rfl
  · rintro ⟨-, herror, -⟩
    exact herror

theorem ballot_error_iff {d : Declaration} {e : RegistryError} :
    b.ballot d = .error e ↔ d.kind.isCommand = true ∧ ¬ b.Decided d ∧ ∃ conflict,
      Election.elect b.drawn (b.seat d) (b.signatures d.type) = .error conflict ∧
      conflict.command = d.type ∧ e = .election conflict := by
  unfold ballot
  split
  · rename_i hcommand
    rw [map_error_iff, mapError_error_iff]
    constructor
    · rintro ⟨conflict, helect, rfl⟩
      obtain ⟨hd, hconflict, hnamed⟩ := (elect_error_iff hloopless).mp helect
      exact ⟨hcommand, hd, conflict, hconflict, hnamed, rfl⟩
    · rintro ⟨-, hd, conflict, hconflict, hnamed, rfl⟩
      exact ⟨conflict, (elect_error_iff hloopless).mpr ⟨hd, hconflict, hnamed⟩, rfl⟩
  · rename_i hcommand
    constructor
    · intro hok
      cases hok
    · rintro ⟨hcommand', -⟩
      exact absurd hcommand' hcommand

/-- The elections end with the first conflict. -/
theorem verdict_elections_error {e : RegistryError} :
    b.verdict .elections = .error e ↔ b.Fault .elections e := by
  refine forM_error_iff.trans ⟨?_, ?_⟩
  · rintro ⟨before, d, after, htypes, hbefore, hd⟩
    obtain ⟨hcommand, hundecided, conflict, hconflict, hnamed, rfl⟩ :=
      (ballot_error_iff hloopless).mp hd
    exact .undecided htypes (fun d' hd' => (ballot_ok_iff hloopless).mp (hbefore d' hd')) hcommand
      hundecided hconflict hnamed
  · rintro (_ | _ | _ | _ | ⟨htypes, hbefore, hcommand, hundecided, hconflict, hnamed⟩)
    exact ⟨_, _, _, htypes, fun d' hd' => (ballot_ok_iff hloopless).mpr (hbefore d' hd'),
      (ballot_error_iff hloopless).mpr ⟨hcommand, hundecided, _, hconflict, hnamed, rfl⟩⟩

end Elections

/-! ### The parts one by one -/

theorem verdict_supertypes_ok : b.verdict .supertypes = .ok () ↔ b.Sound .supertypes := by
  show ((Hierarchy.empty.declareAll b.supertypes).mapError RegistryError.hierarchyCycle).map
    (fun _ => ()) = .ok () ↔ Hierarchy.Loopless b.supertypes
  rcases Hierarchy.declareAll_cases b.supertypes with
    ⟨hloopless, hok⟩ | ⟨before, p, after, hpairs, -, hback, herror⟩
  · rw [hok]
    exact ⟨fun _ => hloopless, fun _ => rfl⟩
  · rw [herror, hpairs]
    constructor
    · intro hok
      cases hok
    · intro hloopless
      exact absurd hloopless (Hierarchy.not_loopless hback)

theorem verdict_supertypes_error {e : RegistryError} :
    b.verdict .supertypes = .error e ↔ b.Fault .supertypes e := by
  show ((Hierarchy.empty.declareAll b.supertypes).mapError RegistryError.hierarchyCycle).map
    (fun _ => ()) = .error e ↔ _
  rw [map_error_iff, mapError_error_iff]
  constructor
  · rintro ⟨cycle, herror, rfl⟩
    obtain ⟨before, p, after, hpairs, hbefore, hback, rfl⟩ :=
      Hierarchy.declareAll_error_iff.mp herror
    exact .cycle hpairs hbefore hback
  · rintro ⟨hpairs, hbefore, hback⟩
    exact ⟨_, Hierarchy.declareAll_error_iff.mpr ⟨_, _, _, hpairs, hbefore, hback, rfl⟩, rfl⟩

theorem duplicate?_nil {types : List Declaration} :
    duplicate? [] types = none ↔ (types.map (·.type.id)).Nodup := by
  rw [duplicate?_eq_none]
  exact and_iff_left fun d _ => List.not_mem_nil

theorem verdict_declarations_ok : b.verdict .declarations = .ok () ↔ b.Sound .declarations := by
  show (match duplicate? [] b.types with
    | some d => Except.error (RegistryError.duplicateType d.type.name)
    | none => .ok ()) = .ok () ↔ _
  rw [Sound, ← duplicate?_nil]
  cases duplicate? [] b.types with
  | some d => simp
  | none => simp

theorem verdict_declarations_error {e : RegistryError} :
    b.verdict .declarations = .error e ↔ b.Fault .declarations e := by
  have hduplicate : b.verdict .declarations = .error e ↔
      ∃ d, duplicate? [] b.types = some d ∧ e = .duplicateType d.type.name := by
    show (match duplicate? [] b.types with
      | some d => Except.error (RegistryError.duplicateType d.type.name)
      | none => .ok ()) = .error e ↔ _
    cases duplicate? [] b.types with
    | some d => simp [eq_comm]
    | none => simp
  rw [hduplicate]
  constructor
  · rintro ⟨d, hd, rfl⟩
    obtain ⟨before, after, htypes, hnone, hnil | htwice⟩ := duplicate?_eq_some.mp hd
    · cases hnil
    · exact .duplicate htypes (duplicate?_nil.mp hnone) htwice
  · rintro (_ | ⟨htypes, hbefore, htwice⟩)
    exact ⟨_, duplicate?_eq_some.mpr
      ⟨_, _, htypes, duplicate?_nil.mpr hbefore, .inr htwice⟩, rfl⟩

/-! ## The first fault -/

/-- The graph of the supertypes and the declared types are checked before anything else is. -/
theorem mem_before {before after : List Part} {part : Part}
    (hparts : parts = before ++ part :: after) :
    (part ≠ .supertypes → .supertypes ∈ before) ∧
    (part ≠ .supertypes → part ≠ .declarations → .declarations ∈ before) := by
  rcases before with _ | ⟨first, _ | ⟨second, before⟩⟩
  · obtain ⟨rfl, -⟩ := List.cons.inj hparts
    simp
  · obtain ⟨rfl, hrest⟩ := List.cons.inj hparts
    obtain ⟨rfl, -⟩ := List.cons.inj hrest
    simp
  · obtain ⟨rfl, hrest⟩ := List.cons.inj hparts
    obtain ⟨rfl, -⟩ := List.cons.inj hrest
    simp

section Place
variable {before after : List Part} {part : Part} (hparts : parts = before ++ part :: after)
  (hbefore : ∀ p ∈ before, b.Sound p)
include hparts hbefore

/-- The verdict on a part is good if the part is sound. -/
theorem verdict_ok_iff : b.verdict part = .ok () ↔ b.Sound part := by
  obtain ⟨hfirst, hsecond⟩ := mem_before hparts
  cases part with
  | supertypes => exact verdict_supertypes_ok
  | declarations => exact verdict_declarations_ok
  | registrations registration =>
    exact verdict_registrations_ok (hbefore _ (hsecond (by simp) (by simp)))
  | elections =>
    refine forM_ok_iff.trans (forall₂_congr fun d _ => ?_)
    exact ballot_ok_iff (hbefore _ (hfirst (by simp)))

/-- A bad verdict is a fault of the part. -/
theorem fault_of_verdict {e : RegistryError} (herror : b.verdict part = .error e) :
    b.Fault part e := by
  obtain ⟨hfirst, hsecond⟩ := mem_before hparts
  cases part with
  | supertypes => exact verdict_supertypes_error.mp herror
  | declarations => exact verdict_declarations_error.mp herror
  | registrations registration =>
    exact fault_of_registrations (hbefore _ (hsecond (by simp) (by simp))) herror
  | elections => exact (verdict_elections_error (hbefore _ (hfirst (by simp)))).mp herror

/-- A fault of the part is the verdict on it, or there is another fault if the part is a set. -/
theorem verdict_of_fault {e : RegistryError} (hfault : b.Fault part e) :
    ∃ e', b.verdict part = .error e' ∧ (part ≠ .registrations .owningService → e' = e) := by
  obtain ⟨hfirst, hsecond⟩ := mem_before hparts
  cases part with
  | supertypes => exact ⟨e, verdict_supertypes_error.mpr hfault, fun _ => rfl⟩
  | declarations => exact ⟨e, verdict_declarations_error.mpr hfault, fun _ => rfl⟩
  | registrations registration =>
    obtain ⟨e', hverdict, hsame⟩ :=
      registrations_of_fault (hbefore _ (hsecond (by simp) (by simp))) hfault
    exact ⟨e', hverdict, fun hordered => hsame fun heq => hordered (heq ▸ rfl)⟩
  | elections =>
    exact ⟨e, (verdict_elections_error (hbefore _ (hfirst (by simp)))).mpr hfault, fun _ => rfl⟩

end Place

theorem mem_parts (part : Part) : part ∈ parts := by
  rcases part with _ | _ | (_ | _ | _ | _ | _ | _) | _ <;> decide

/-- **What a builder accepts.**  A registry is built exactly if nothing is wrong with any part.
Otherwise the error is a fault of the first part with which something is wrong, and that part and
its order leave no choice of the fault, except that the owning services have no order. -/
theorem build_accepts (b : RegistryBuilder D) :
    ((∃ r, b.build = .ok r) ↔ ∀ part, b.Sound part) ∧
    (∀ e, b.build = .error e → ∃ part, b.FirstFault part e) ∧
    ∀ part e, b.FirstFault part e → ∃ e', b.build = .error e' ∧ b.FirstFault part e' ∧
      (part ≠ .registrations .owningService → e' = e) := by
  obtain ⟨hok, herror⟩ := @forM_judged _ _ b.verdict b.Sound parts
    fun before part after hparts hbefore => verdict_ok_iff hparts hbefore
  refine ⟨?_, ?_, ?_⟩
  · have hbuilt : (∃ r, b.build = .ok r) ↔ parts.forM b.verdict = .ok () := by
      rw [← map_ok_iff, build_map]
      exact ⟨fun ⟨_, h⟩ => h, fun h => ⟨(), h⟩⟩
    rw [hbuilt, hok]
    exact ⟨fun hsound part => hsound part (mem_parts part), fun hsound part _ => hsound part⟩
  · intro e hbuild
    rw [← map_error_iff, build_map, herror] at hbuild
    obtain ⟨before, part, after, hparts, hbefore, hverdict⟩ := hbuild
    exact ⟨part, before, after, hparts, hbefore, fault_of_verdict hparts hbefore hverdict⟩
  · rintro part e ⟨before, after, hparts, hbefore, hfault⟩
    obtain ⟨e', hverdict, hsame⟩ := verdict_of_fault hparts hbefore hfault
    refine ⟨e', ?_, ⟨before, after, hparts, hbefore, fault_of_verdict hparts hbefore hverdict⟩,
      hsame⟩
    rw [← map_error_iff, build_map, herror]
    exact ⟨before, part, after, hparts, hbefore, hverdict⟩

end Parts

namespace Shop

/-- Orders are not declared, and what is validated is an event. -/
def hasty : RegistryBuilder Unit :=
  ((empty.declare ⟨shipped, .routedEvent, none⟩).handlingValidator shipped validator).offer order
    desk

theorem firstFault_hasty :
    hasty.FirstFault (.registrations .handler) (.undeclaredType order.name .handler) := by
  refine ⟨[.supertypes, .declarations], _, rfl, ?_, ?_⟩
  · exact List.forall_mem_cons.mpr ⟨Hierarchy.loopless_nil,
      List.forall_mem_singleton.mpr (List.nodup_singleton _)⟩
  · refine @Fault.undeclared _ hasty .handler [] order [] rfl (fun _ => List.forall_mem_nil _) ?_
    exact List.forall_mem_singleton.mpr (by decide)

/-- The offer is reported, although the validator was registered first. -/
theorem build_accepts_hasty :
    hasty.build = .error (.undeclaredType order.name .handler) ∧
    ¬ hasty.Sound (.registrations .handlingValidator) := by
  obtain ⟨e, hbuild, -, hsame⟩ := (build_accepts hasty).2.2 _ _ firstFault_hasty
  rw [hsame (by decide)] at hbuild
  refine ⟨hbuild, ?_⟩
  intro hsound
  obtain ⟨d, hd, -, hfits⟩ := hsound shipped (List.mem_singleton_self _)
  obtain rfl := List.mem_singleton.mp hd
  cases hfits

end Shop
end RegistryBuilder
end CommandEngine
