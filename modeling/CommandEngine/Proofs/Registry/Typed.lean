import CommandEngine.Proofs.Chain.Exchange
import CommandEngine.Proofs.Election.Conflict
import CommandEngine.Proofs.Registry.Acceptance

/-!
# Registries of typed code

A typed handler states the type it is written for, and it is registered under this very type.  An
object finds its descriptor by its own type, so it only meets code that is written for it.  That is
why what a wrapper would do with another object is of no account: `refusing` builds the registry
with wrappers that do anything at all with foreign objects, and such registries serve every object
alike (`exists_servesLike`).  They are built from the same signatures, which is all that is checked
and elected.

What is elected for a command with a result returns the type that the command promises, or one
below it (`returns_promised`), because nothing else is viable.
-/
namespace CommandEngine

/-! ## Wrappers -/

/-- What a wrapper does with an object of another type than the one its code is written for. -/
abbrev Refusal := TypeKey → Object → ChainProgram Unit

namespace Refusal

/-- The refusal of the engine. -/
def mismatch : Refusal := fun expected _ => .raise (EngineError.typeMismatch expected.name)

section Wrappers
variable {D : Type} (refuse : Refusal)

/-- Objects of the type pass, others are refused. -/
def check (expected : TypeKey) (o : Object) : ChainProgram Unit :=
  if o.type.id = expected.id then pure () else refuse expected o

/-- The handler around code that is written for commands of one type. -/
def handler (accepts returns : TypeKey) (code : D → Object → ChainProgram Json) : Handler D :=
    fun services command => do
  refuse.check accepts command
  let output ← code services command
  return CommandResult.ofOutput returns output

/-- The post-handler around code that is written for commands of one type. -/
def postHandler (accepts : TypeKey) (code : D → Object → CommandResult → ChainProgram Unit) :
    PostHandler D := fun services command result => do
  refuse.check accepts command
  code services command result

/-- The event handler around code that is written for events of one type. -/
def eventHandler (accepts : TypeKey) (code : D → Object → ChainProgram Unit) : EventHandler D :=
    fun services event => do
  refuse.check accepts event
  code services event

variable {refuse} {refuse' : Refusal} {expected accepts returns : TypeKey} {o : Object}

/-- No wrapper refuses an object of its type. -/
theorem check_eq_pure (htype : o.type.id = expected.id) : refuse.check expected o = pure () :=
  if_pos htype

end Wrappers
end Refusal

/-! ## Slots -/

namespace Slot
variable {D T S R β : Type}

theorem resolve_map (slot : Slot D T) (f : T → S) (services : D) :
    (slot.map f).resolve services = f <$> slot.resolve services := by
  cases slot with
  | pooled service => rfl
  | perCall factory => rfl

theorem map_map (slot : Slot D T) (f : T → S) (g : S → R) :
    (slot.map f).map g = slot.map (g ∘ f) := by
  cases slot with
  | pooled service => rfl
  | perCall factory =>
    refine congrArg Slot.perCall (funext fun services => ?_)
    exact (comp_map f g (factory services)).symm

/-- Wrappers that do the same with the object. -/
theorem at_map {f g : T → D → Object → β} {o : Object} (slot : Slot D T)
    (hfg : ∀ code services, f code services o = g code services o) :
    (slot.map f).at o = (slot.map g).at o := by
  funext services
  have hrun (f : T → D → Object → β) : (slot.map f).at o services =
      (fun code => f code services o) <$> slot.resolve services := by
    rw [Slot.at, resolve_map, ← comp_map]
    rfl
  rw [hrun, hrun, funext fun code => hfg code services]

end Slot

/-! ## Typed calls of a builder -/

/-- A typed handler that is offered for the type it is written for. -/
structure TypedOffer (D : Type) where
  service : String
  /-- The type it is written and registered for. -/
  command : TypeKey
  /-- The type it returns, which is also the one it states. -/
  returns : TypeKey
  /-- The parameter it states, of its own command unless it is told otherwise. -/
  parameter : TypeKey
  allowsUnclosed : Bool
  code : Slot D (D → Object → ChainProgram Json)

namespace TypedOffer
variable {D : Type} (o : TypedOffer D)

/-- The offer, with the handler made ready for objects of any type. -/
def offer : Offer D :=
  { Offer.ofTyped o.service o.command o.returns (o.code.map (⟨o.command, o.returns, ·⟩)) with
    parameter := some o.parameter
    allowsUnclosed := o.allowsUnclosed }

/-- The offer with another wrapper around the code. -/
def wrapped (refuse : Refusal) : Offer D :=
  { o.offer with handler := o.code.map (refuse.handler o.command o.returns) }

theorem wrapped_mismatch : o.wrapped .mismatch = o.offer := by
  have hhandler : o.offer.handler = o.code.map (Refusal.mismatch.handler o.command o.returns) :=
    o.code.map_map _ _
  unfold wrapped
  rw [← hhandler]

end TypedOffer

/-- A call of a builder that registers typed code under the type it is written for.  Code that is
written for objects of any type may be a candidate, and is not wrapped. -/
inductive TypedCall (D : Type) where
  | declare (d : Declaration)
  | supertype (sub sup : TypeKey)
  | owningService (command : TypeKey) (service : String)
  | typed (o : TypedOffer D)
  | candidate (command : TypeKey) (o : Offer D)
  | incomingValidator (t : TypeKey) (v : Slot D (Validator D))
  | handlingValidator (t : TypeKey) (v : Slot D (Validator D))
  | postHandler (t : TypeKey) (code : Slot D (D → Object → CommandResult → ChainProgram Unit))
  | eventHandler (t : TypeKey) (code : Slot D (D → Object → ChainProgram Unit))
  | ambientProvider (p : AmbientProvider D)

namespace TypedCall
variable {D : Type}

/-- The call of the builder. -/
def call : TypedCall D → BuilderCall D
  | declare d => .declare d
  | supertype sub sup => .supertype sub sup
  | owningService command service => .owningService command service
  | typed o => .offer o.command o.offer
  | candidate command o => .offer command o
  | incomingValidator t v => .incomingValidator t v
  | handlingValidator t v => .handlingValidator t v
  | postHandler t code => .postHandler t (code.map (⟨t, ·⟩))
  | eventHandler t code => .eventHandler t (code.map (⟨t, ·⟩))
  | ambientProvider p => .ambientProvider p

/-- The handler that is offered for a command. -/
def offer? (refuse : Refusal) : TypedCall D → Option (TypeKey × Offer D)
  | typed o => some (o.command, o.wrapped refuse)
  | candidate command o => some (command, o)
  | _ => none

/-- The post-handler that is registered for a type. -/
def postHandler? (refuse : Refusal) : TypedCall D → Option (TypeKey × Slot D (PostHandler D))
  | postHandler t code => some (t, code.map (refuse.postHandler t))
  | _ => none

/-- The event handler that is registered for a type. -/
def eventHandler? (refuse : Refusal) : TypedCall D → Option (TypeKey × Slot D (EventHandler D))
  | eventHandler t code => some (t, code.map (refuse.eventHandler t))
  | _ => none

end TypedCall

namespace RegistryBuilder
variable {D α β : Type} {calls : List (TypedCall D)} {refuse refuse' : Refusal}

/-- The builder after typed calls. -/
def ofTyped (calls : List (TypedCall D)) : RegistryBuilder D := ofCalls (calls.map (·.call))

/-- The same builder, but for what its wrappers do with objects of other types. -/
def refusing (refuse : Refusal) (calls : List (TypedCall D)) : RegistryBuilder D :=
  { ofTyped calls with
    offers := calls.filterMap (·.offer? refuse)
    postHandlers := calls.filterMap (·.postHandler? refuse)
    eventHandlers := calls.filterMap (·.eventHandler? refuse) }

end RegistryBuilder

namespace RegistryBuilder
variable {D α β : Type} {calls : List (TypedCall D)} {refuse refuse' : Refusal}

/-- With the refusal of the engine, the builder is what the calls make it. -/
theorem refusing_mismatch (calls : List (TypedCall D)) :
    refusing .mismatch calls = ofTyped calls := by
  have hmade {α : Type} (made? : TypedCall D → Option α) (made?' : BuilderCall D → Option α)
      (hcall : ∀ call, made?' call.call = made? call) :
      calls.filterMap made? = (calls.map (·.call)).filterMap made?' := by
    rw [List.filterMap_map]
    exact List.filterMap_congr fun call _ => (hcall call).symm
  have hoffers : calls.filterMap (·.offer? .mismatch) = (ofTyped calls).offers := by
    rw [ofTyped, ofCalls_eq_told]
    refine hmade _ _ fun call => ?_
    cases call with
    | typed o => exact congrArg (fun offer => some (o.command, offer)) o.wrapped_mismatch.symm
    | _ => rfl
  have hpost : calls.filterMap (·.postHandler? .mismatch) = (ofTyped calls).postHandlers := by
    rw [ofTyped, ofCalls_eq_told]
    refine hmade _ _ fun call => ?_
    cases call with
    | postHandler t code => exact congrArg (fun slot => some (t, slot)) (code.map_map _ _)
    | _ => rfl
  have hevent : calls.filterMap (·.eventHandler? .mismatch) = (ofTyped calls).eventHandlers := by
    rw [ofTyped, ofCalls_eq_told]
    refine hmade _ _ fun call => ?_
    cases call with
    | eventHandler t code => exact congrArg (fun slot => some (t, slot)) (code.map_map _ _)
    | _ => rfl
  unfold refusing
  rw [hoffers, hpost, hevent]

/-! ## What the wrappers change -/

/-- Registrations that agree on what is made for a type, each beside the type it is made for. -/
theorem filter_agree {f f' : TypedCall D → Option (TypeKey × α)} {g : TypeKey × α → β} {t : TypeKey}
    (hagree : ∀ call, Option.Rel (fun x x' => x'.1 = x.1 ∧ (x.1.id = t.id → g x' = g x))
      (f call) (f' call)) :
    ((calls.filterMap f').filter (·.1.id == t.id)).map g =
      ((calls.filterMap f).filter (·.1.id == t.id)).map g := by
  induction calls with
  | nil => rfl
  | cons call calls ih =>
    have hcall := hagree call
    rw [List.filterMap_cons, List.filterMap_cons]
    generalize f call = made, f' call = made' at hcall
    cases hcall with
    | none => exact ih
    | @some x x' hx =>
      obtain ⟨htype, hmade⟩ := hx
      by_cases hid : x.1.id = t.id
      · simp only [List.filter_cons, htype, hid, beq_self_eq_true, if_true, List.map_cons,
          hmade hid]
        exact congrArg _ ih
      · simp only [List.filter_cons, htype, beq_eq_false_iff_ne.mpr hid]
        exact ih

/-- Registrations that agree on what is made for a type. -/
theorem registered_agree {f f' : TypedCall D → Option (TypeKey × α)} {g : α → β} {t : TypeKey}
    (hagree : ∀ call, Option.Rel (fun x x' => x'.1 = x.1 ∧ (x.1.id = t.id → g x'.2 = g x.2))
      (f call) (f' call)) :
    (registered (calls.filterMap f') t).map g = (registered (calls.filterMap f) t).map g := by
  rw [registered, registered, List.map_map, List.map_map]
  exact filter_agree hagree

theorem candidates_agree {g : Candidate × Slot D (Handler D) → β} {t : TypeKey}
    (hoffer : ∀ o : TypedOffer D, o.command.id = t.id →
      g ((o.wrapped refuse').signature o.command, (o.wrapped refuse').handler) =
        g ((o.wrapped refuse).signature o.command, (o.wrapped refuse).handler)) :
    ((refusing refuse' calls).candidates t).map g =
      ((refusing refuse calls).candidates t).map g := by
  rw [candidates, candidates, List.map_map, List.map_map]
  refine filter_agree fun call => ?_
  cases call with
  | typed o => exact .some ⟨rfl, hoffer o⟩
  | candidate command o => exact .some ⟨rfl, fun _ => rfl⟩
  | _ => exact .none

/-- The elections are between the same signatures. -/
theorem signatures_refusing (t : TypeKey) :
    (refusing refuse' calls).signatures t = (refusing refuse calls).signatures t :=
  candidates_agree fun _ _ => rfl

theorem elect_eq_map (b : RegistryBuilder D) (h : Hierarchy) (d : Declaration) :
    b.elect h d = (Election.elect h (b.seat d) (b.signatures d.type)).map
      fun winner => winner.bind ((b.candidates d.type)[·]?) := by
  show (Election.elect h (b.seat d) (b.signatures d.type) >>= fun winner =>
    pure (winner.bind ((b.candidates d.type)[·]?))) = _
  cases Election.elect h (b.seat d) (b.signatures d.type) with
  | error e => rfl
  | ok winner => rfl

/-- Who is elected is one of the candidates. -/
theorem elect_ok_inv {b : RegistryBuilder D} {h : Hierarchy} {d : Declaration}
    {handler : Option (Candidate × Slot D (Handler D))} (helect : b.elect h d = .ok handler) :
    ∃ winner, Election.elect h (b.seat d) (b.signatures d.type) = .ok winner ∧
      handler = winner.bind ((b.candidates d.type)[·]?) := by
  rw [elect_eq_map] at helect
  cases hvote : Election.elect h (b.seat d) (b.signatures d.type) with
  | error e =>
    rw [hvote] at helect
    cases helect
  | ok winner =>
    rw [hvote] at helect
    exact ⟨winner, rfl, (Except.ok.inj helect).symm⟩

/-- What is checked is the same. -/
theorem verdict_refusing (part : Part) :
    (refusing refuse' calls).verdict part = (refusing refuse calls).verdict part := by
  have hkeys {α : Type} {f f' : TypedCall D → Option (TypeKey × α)}
      (hf : ∀ call, (f' call).map (·.1) = (f call).map (·.1)) :
      (calls.filterMap f').map (·.1) = (calls.filterMap f).map (·.1) := by
    rw [List.map_filterMap, List.map_filterMap]
    exact List.filterMap_congr fun call _ => hf call
  cases part with
  | supertypes | declarations => rfl
  | registrations registration =>
    have hreferences : (refusing refuse' calls).references registration =
        (refusing refuse calls).references registration := by
      cases registration with
      | handler => exact hkeys fun call => by cases call <;> rfl
      | postHandler => exact hkeys fun call => by cases call <;> rfl
      | eventHandler => exact hkeys fun call => by cases call <;> rfl
      | incomingValidator | handlingValidator | owningService => rfl
    show ((refusing refuse' calls).references registration).forM _ = _
    rw [hreferences]
    rfl
  | elections =>
    have hballot (d : Declaration) :
        (refusing refuse' calls).ballot d = (refusing refuse calls).ballot d := by
      have hseat : (refusing refuse' calls).seat d = (refusing refuse calls).seat d := rfl
      have hdrawn : (refusing refuse' calls).drawn = (refusing refuse calls).drawn := rfl
      unfold ballot
      rw [elect_eq_map, elect_eq_map, signatures_refusing, hseat, hdrawn]
      cases Election.elect (refusing refuse calls).drawn ((refusing refuse calls).seat d)
          ((refusing refuse calls).signatures d.type) with
      | error e => rfl
      | ok winner => rfl
    show (refusing refuse calls).types.forM _ = _
    rw [funext hballot]
    rfl

/-- The registry is built just the same. -/
theorem exists_build_refusing {r : Registry D} (hbuild : (refusing refuse calls).build = .ok r)
    (refuse' : Refusal) : ∃ r', (refusing refuse' calls).build = .ok r' := by
  rw [← map_ok_iff, build_map, funext verdict_refusing, ← build_map, map_ok_iff]
  exact ⟨r, hbuild⟩

/-! ## What the wrappers do not change -/

section Objects
variable {o : Object} {t : TypeKey} (htype : o.type.id = t.id)
include htype

theorem candidates_at :
    ((refusing refuse' calls).candidates t).map (·.2.at o) =
      ((refusing refuse calls).candidates t).map (·.2.at o) := by
  refine candidates_agree fun offered hid => offered.code.at_map fun code services => ?_
  unfold Refusal.handler
  rw [Refusal.check_eq_pure (htype.trans hid.symm), Refusal.check_eq_pure (htype.trans hid.symm)]

theorem postHandlers_at :
    (registered (refusing refuse' calls).postHandlers t).map (·.at o) =
      (registered (refusing refuse calls).postHandlers t).map (·.at o) := by
  refine registered_agree fun call => ?_
  cases call with
  | postHandler t' code =>
    refine .some ⟨rfl, fun hid => code.at_map fun code services => funext fun result => ?_⟩
    unfold Refusal.postHandler
    rw [Refusal.check_eq_pure (htype.trans hid.symm), Refusal.check_eq_pure (htype.trans hid.symm)]
  | _ => exact .none

theorem eventHandlers_at :
    (registered (refusing refuse' calls).eventHandlers t).map (·.at o) =
      (registered (refusing refuse calls).eventHandlers t).map (·.at o) := by
  refine registered_agree fun call => ?_
  cases call with
  | eventHandler t' code =>
    refine .some ⟨rfl, fun hid => code.at_map fun code services => ?_⟩
    unfold Refusal.eventHandler
    rw [Refusal.check_eq_pure (htype.trans hid.symm), Refusal.check_eq_pure (htype.trans hid.symm)]
  | _ => exact .none

end Objects

section Built
variable {r r' : Registry D} (hbuild : (refusing refuse calls).build = .ok r)
  (hbuild' : (refusing refuse' calls).build = .ok r')
include hbuild hbuild'

theorem hierarchy_refusing : r'.hierarchy = r.hierarchy := by
  have hdeclared := (build_ok_iff.mp hbuild).1.hierarchy
  have hdeclared' := (build_ok_iff.mp hbuild').1.hierarchy
  exact Except.ok.inj (hdeclared'.symm.trans hdeclared)

/-- Descriptors of one declaration serve the objects of their type alike. -/
theorem servesLike_of_declaration {d d' : Descriptor D} (hd : d ∈ r.descriptors)
    (hd' : d' ∈ r'.descriptors) (hsame : d'.declaration = d.declaration) {o : Object}
    (htype : o.type.id = d.type.id) : d.ServesLike o d' := by
  have hfills := (build_ok_iff.mp hbuild).2.2.2.2 d hd
  have hfills' := (build_ok_iff.mp hbuild').2.2.2.2 d' hd'
  obtain ⟨htypes, hkind, hresult⟩ := Declaration.mk.inj hsame
  have hhandler : d'.handler.map (·.2.at o) = d.handler.map (·.2.at o) := by
    by_cases hcommand : d.kind.isCommand = true
    · obtain ⟨winner, hvote, hhandler⟩ := elect_ok_inv (hfills.elected hcommand)
      obtain ⟨winner', hvote', hhandler'⟩ := elect_ok_inv (hfills'.elected (hkind ▸ hcommand))
      rw [hierarchy_refusing hbuild hbuild', hsame, signatures_refusing] at hvote'
      obtain rfl : winner' = winner := Except.ok.inj (hvote'.symm.trans hvote)
      rw [hhandler, hhandler', hsame]
      cases winner' with
      | none => rfl
      | some w =>
        show Option.map _ (((refusing refuse' calls).candidates d.type)[w]?) =
          Option.map _ (((refusing refuse calls).candidates d.type)[w]?)
        rw [← List.getElem?_map, ← List.getElem?_map, candidates_at htype]
    · have hcommand := Bool.eq_false_iff.mpr hcommand
      rw [hfills'.handlerless (hkind ▸ hcommand), hfills.handlerless hcommand]
  have hevent : d'.eventHandlers.map (·.at o) = d.eventHandlers.map (·.at o) := by
    rw [hfills'.event, hfills.event, htypes, eventHandlers_at htype]
  refine ⟨htypes, hkind, hhandler, ?handling, ?post, hevent, ?isHandled⟩
  case handling => rw [hfills'.handling, hfills.handling, htypes]; rfl
  case post => rw [hfills'.post, hfills.post, htypes, postHandlers_at htype]
  case isHandled =>
    rw [hfills'.handled, hfills.handled, hkind, ← Option.isSome_map, hhandler, Option.isSome_map,
      ← List.isEmpty_map, hevent, List.isEmpty_map]

theorem servesLike_refusing : r.ServesLike r' := by
  refine ⟨fun o => ?_, ?_⟩
  · have hdeclared := isSome_descriptor?_iff hbuild (t := o.type)
    have hdeclared' := isSome_descriptor?_iff hbuild' (t := o.type)
    unfold Registry.descriptorOf?
    cases hd : r.descriptor? o.type with
    | none =>
      have hnone : r'.descriptor? o.type = none := by
        rw [← Option.not_isSome_iff_eq_none, hdeclared']
        rw [hd] at hdeclared
        exact fun hsome => by cases hdeclared.mpr hsome
      rw [hnone]
      exact .none
    | some d =>
      obtain ⟨d', hd'⟩ : ∃ d', r'.descriptor? o.type = some d' := by
        rw [← Option.isSome_iff_exists, hdeclared']
        exact hdeclared.mp (by rw [hd]; rfl)
      rw [hd']
      obtain ⟨hmem, hid⟩ := (descriptor?_eq_some_iff hbuild).mp hd
      obtain ⟨hmem', hid'⟩ := (descriptor?_eq_some_iff hbuild').mp hd'
      refine .some (servesLike_of_declaration hbuild hbuild' hmem hmem' ?_ hid.symm)
      have hdistinct := (build_ok_iff.mp hbuild).1.distinct
      have hin : d.declaration ∈ (refusing refuse calls).types :=
        map_declaration hbuild ▸ List.mem_map_of_mem hmem
      have hin' : d'.declaration ∈ (refusing refuse calls).types :=
        map_declaration hbuild' ▸ List.mem_map_of_mem hmem'
      exact List.inj_on_of_nodup_map hdistinct hin' hin (hid'.trans hid.symm)
  · rw [(build_ok_iff.mp hbuild').2.1, (build_ok_iff.mp hbuild).2.1]
    rfl

end Built

/-! ## What the elected handlers return -/

/-- Who is viable returns what the command promises. -/
theorem isSubtype_of_isViable {h : Hierarchy} {seat : Seat} {c : Candidate} {promised : TypeKey}
    (hviable : Election.isViable h seat c = true) (hpromised : seat.result = some promised) :
    h.isSubtype c.returns promised = true := by
  by_contra hnot
  rw [Bool.not_eq_true] at hnot
  have hwrong : seat.result.filter (fun result => !h.isSubtype c.returns result) =
      some promised := by simp [hpromised, hnot]
  unfold Election.isViable Election.objection? at hviable
  rw [hwrong] at hviable
  -- whatever is objected to first, there is an objection
  split at hviable
  · cases hviable
  · split_ifs at hviable <;> cases hviable

/-- **The elected handler returns the promised type** or one that is declared below it. -/
theorem returns_promised {b : RegistryBuilder D} {r : Registry D} (hbuild : b.build = .ok r)
    {d : Descriptor D} (hd : d ∈ r.descriptors) {promised : TypeKey}
    (hpromised : d.result = some promised) {signature : Candidate} {slot : Slot D (Handler D)}
    (hhandler : d.handler = some (signature, slot)) :
    Relation.ReflTransGen (Hierarchy.Drawn b.supertypes) signature.returns.id promised.id := by
  obtain ⟨hadmissible, -, -, -, hfills⟩ := build_ok_iff.mp hbuild
  obtain ⟨hloopless, hdrawn⟩ := Hierarchy.declareAll_ok_iff.mp hadmissible.hierarchy
  have hcommand : d.kind.isCommand = true := by
    by_contra hnot
    rw [(hfills d hd).handlerless (Bool.eq_false_iff.mpr hnot)] at hhandler
    cases hhandler
  obtain ⟨winner, hvote, hwinner⟩ := elect_ok_inv ((hfills d hd).elected hcommand)
  rw [hhandler] at hwinner
  obtain ⟨w, rfl, hw⟩ := Option.bind_eq_some_iff.mp hwinner.symm
  have hdeclared : r.hierarchy.Declared := hdrawn ▸ hloopless.declared
  obtain ⟨c, hc, hviable, -⟩ := (Election.elect_some_iff hdeclared).mp hvote
  have hsignature : (b.signatures d.declaration.type)[w]? = some signature := by
    rw [signatures, List.getElem?_map, hw]
    rfl
  obtain rfl := Option.some.inj (hsignature.symm.trans hc)
  rw [← Hierarchy.isSubtype_ofPairs, ← hdrawn]
  exact isSubtype_of_isViable hviable hpromised

end RegistryBuilder
end CommandEngine
