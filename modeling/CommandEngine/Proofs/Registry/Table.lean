import CommandEngine.Proofs.Election.Reordering
import CommandEngine.Proofs.Registry.Building
import Mathlib.Data.List.Induction

/-!
# A registry is the table of its registrations

A builder is used by calling it, one call after the other, and what it has been told is read off
the sequence of the calls: each sort of registration is the calls of that sort, in their order
(`ofCalls_eq_told`).  Building hands each registration to the position of its type, so that a
descriptor ends up with the registrations for its type (`build_eq_tabulated`), and these are the
calls of their sort that name the type (`registered_filterMap`).

The main result (`build_tabulates`) says this of a registry that was built: there is one descriptor
for each declaration, in order, the index leads to it, and it holds the registrations made for its
type and no others.  Nothing gets lost either, since a registration for a type that is not declared,
or is of a kind that does not fit, is an error.  A handler is taken out of the row of all offers for
its command, at the position that was elected, so its signature and its slot are parts of one offer.
-/
namespace CommandEngine

/-- A call of a builder. -/
inductive BuilderCall (D : Type) where
  | declare (d : Declaration)
  | supertype (sub sup : TypeKey)
  | owningService (command : TypeKey) (service : String)
  | offer (command : TypeKey) (o : Offer D)
  | incomingValidator (t : TypeKey) (v : Slot D (Validator D))
  | handlingValidator (t : TypeKey) (v : Slot D (Validator D))
  | postHandler (t : TypeKey) (h : Slot D (TypedPostHandler D))
  | eventHandler (t : TypeKey) (h : Slot D (TypedEventHandler D))
  | ambientProvider (p : AmbientProvider D)

namespace BuilderCall
variable {D α : Type}

/-- The builder after the call. -/
def apply (b : RegistryBuilder D) : BuilderCall D → RegistryBuilder D
  | declare d => b.declare d
  | supertype sub sup => b.supertype sub sup
  | owningService command service => b.owningService command service
  | offer command o => b.offer command o
  | incomingValidator t v => b.incomingValidator t v
  | handlingValidator t v => b.handlingValidator t v
  | postHandler t h => b.postHandler t h
  | eventHandler t h => b.eventHandler t h
  | ambientProvider p => b.ambientProvider p

/-! ## The sorts of calls -/

/-- What is declared. -/
def declaration? : BuilderCall D → Option Declaration
  | declare d => some d
  | _ => none

/-- The subtype and the supertype. -/
def supertype? : BuilderCall D → Option (TypeKey × TypeKey)
  | supertype sub sup => some (sub, sup)
  | _ => none

/-- The service that is named for a command. -/
def owner? : BuilderCall D → Option (TypeKey × String)
  | owningService command service => some (command, service)
  | _ => none

/-- The handler that is offered for a command. -/
def offer? : BuilderCall D → Option (TypeKey × Offer D)
  | offer command o => some (command, o)
  | _ => none

/-- The incoming validator that is registered for a type. -/
def incomingValidator? : BuilderCall D → Option (TypeKey × Slot D (Validator D))
  | incomingValidator t v => some (t, v)
  | _ => none

/-- The handling validator that is registered for a type. -/
def handlingValidator? : BuilderCall D → Option (TypeKey × Slot D (Validator D))
  | handlingValidator t v => some (t, v)
  | _ => none

/-- The post-handler that is registered for a type, made ready for objects of any type. -/
def postHandler? : BuilderCall D → Option (TypeKey × Slot D (PostHandler D))
  | postHandler t h => some (t, h.map (·.erase))
  | _ => none

/-- The event handler that is registered for a type, made ready for objects of any type. -/
def eventHandler? : BuilderCall D → Option (TypeKey × Slot D (EventHandler D))
  | eventHandler t h => some (t, h.map (·.erase))
  | _ => none

/-- The provider that is set. -/
def provider? : BuilderCall D → Option (AmbientProvider D)
  | ambientProvider p => some p
  | _ => none

/-- The type the call refers to, and what it registers for it. -/
def reference? : BuilderCall D → Option (Registration × TypeKey)
  | declare _ | supertype .. | ambientProvider _ => none
  | owningService t _ => some (.owningService, t)
  | offer t _ => some (.handler, t)
  | incomingValidator t _ => some (.incomingValidator, t)
  | handlingValidator t _ => some (.handlingValidator, t)
  | postHandler t _ => some (.postHandler, t)
  | eventHandler t _ => some (.eventHandler, t)

/-- What the calls of one sort register for a type, in their order. -/
def madeFor (made? : BuilderCall D → Option (TypeKey × α)) (t : TypeKey)
    (calls : List (BuilderCall D)) : List α :=
  calls.filterMap fun call =>
    match made? call with
    | some (t', a) => if t'.id = t.id then some a else none
    | none => none

/-- The declared types, in the order of the calls. -/
def declarations (calls : List (BuilderCall D)) : List Declaration := calls.filterMap declaration?

/-- The service that owns a command: the one that was named for it last. -/
def ownerOf (calls : List (BuilderCall D)) (t : TypeKey) : Option String :=
  (madeFor owner? t calls).getLast?

/-- The offers for a command, in their order. -/
def offersFor (calls : List (BuilderCall D)) (t : TypeKey) : List (TypeKey × Offer D) :=
  (calls.filterMap offer?).filter (·.1.id == t.id)

/-- The offers are elected by their signatures. -/
def candidatesFor (calls : List (BuilderCall D)) (t : TypeKey) : List Candidate :=
  (offersFor calls t).map fun (command, o) => o.signature command

end BuilderCall

namespace RegistryBuilder
open BuilderCall
variable {D α : Type}

/-- The builder after a sequence of calls. -/
def ofCalls (calls : List (BuilderCall D)) : RegistryBuilder D :=
  calls.foldl BuilderCall.apply empty

/-! ## What a builder has been told -/

section Calls
variable {calls : List (BuilderCall D)}

/-- The calls, sort by sort. -/
def told (calls : List (BuilderCall D)) : RegistryBuilder D where
  types := declarations calls
  supertypes := calls.filterMap supertype?
  owners := calls.filterMap BuilderCall.owner?
  offers := calls.filterMap offer?
  incomingValidators := calls.filterMap incomingValidator?
  handlingValidators := calls.filterMap handlingValidator?
  postHandlers := calls.filterMap postHandler?
  eventHandlers := calls.filterMap eventHandler?
  provider := (calls.filterMap provider?).getLast?

theorem apply_told (calls : List (BuilderCall D)) (call : BuilderCall D) :
    BuilderCall.apply (told calls) call = told (calls ++ [call]) := by
  -- a call adds to the list of its own sort and is left out of the others
  cases call <;> simp [told, BuilderCall.apply, declarations, List.filterMap_append,
    List.filterMap_cons, declaration?, supertype?, BuilderCall.owner?, offer?, incomingValidator?,
    handlingValidator?, postHandler?, eventHandler?, provider?, declare, supertype, owningService,
    offer, incomingValidator, handlingValidator, postHandler, eventHandler, ambientProvider]

theorem ofCalls_eq_told (calls : List (BuilderCall D)) : ofCalls calls = told calls := by
  induction calls using List.reverseRecOn with
  | nil => rfl
  | append_singleton calls call ih =>
    rw [ofCalls, List.foldl_append, ← ofCalls, ih]
    exact apply_told calls call

/-- What is registered for a type is what the calls registered for it. -/
theorem registered_filterMap (made? : BuilderCall D → Option (TypeKey × α)) (t : TypeKey) :
    registered (calls.filterMap made?) t = madeFor made? t calls := by
  induction calls with
  | nil => rfl
  | cons call calls ih =>
    rw [madeFor, List.filterMap_cons, List.filterMap_cons, ← madeFor, ← ih]
    cases made? call with
    | none => rfl
    | some item =>
      show registered (item :: calls.filterMap made?) t = _
      by_cases hid : item.1.id = t.id
      · simp [registered, hid]
      · simp [registered, hid]

end Calls

/-! ## The table -/

section Table
variable {calls : List (BuilderCall D)} {r : Registry D}

/-- **The registry is the table of what the calls declare and register.** -/
structure Tabulates (calls : List (BuilderCall D)) (r : Registry D) : Prop where
  /-- Descriptor `i` is that of the `i`-th declared type, with its kind and its result. -/
  declared : r.descriptors.map (fun d => (d.declaration, d.index)) = (declarations calls).zipIdx
  /-- Each type is declared once. -/
  distinct : (r.descriptors.map (·.type.id)).Nodup
  /-- The declared types are the ones that are found, -/
  found : ∀ t, (r.descriptor? t).isSome = true ↔ ∃ d ∈ declarations calls, d.type.id = t.id
  /-- and what is found stands at its index. -/
  lookup : ∀ t d, r.descriptor? t = some d ↔ r.descriptors[d.index]? = some d ∧ d.type.id = t.id
  incoming : ∀ d ∈ r.descriptors, d.incomingValidators = madeFor incomingValidator? d.type calls
  handling : ∀ d ∈ r.descriptors, d.handlingValidators = madeFor handlingValidator? d.type calls
  post : ∀ d ∈ r.descriptors, d.postHandlers = madeFor postHandler? d.type calls
  event : ∀ d ∈ r.descriptors, d.eventHandlers = madeFor eventHandler? d.type calls
  /-- Whatever is registered, is registered for a declared type of a kind it fits. -/
  placed : ∀ call ∈ calls, ∀ registration t, call.reference? = some (registration, t) →
    ∃ d ∈ r.descriptors, d.type.id = t.id ∧ registration.fits d.kind = true
  /-- The elections use the declared supertypes. -/
  hierarchy : Hierarchy.empty.declareAll (calls.filterMap supertype?) = .ok r.hierarchy
  /-- The handler of a command, its signature and its slot, is the offer that wins the election. -/
  elected : ∀ d ∈ r.descriptors, d.kind.isCommand = true → ∃ winner,
    Election.elect r.hierarchy ⟨d.type, d.result, ownerOf calls d.type⟩
      (candidatesFor calls d.type) = .ok winner ∧
    (d.handler.isSome = true ↔ winner.isSome = true) ∧
    ∀ signature slot, d.handler = some (signature, slot) ↔
      ∃ w command o, winner = some w ∧ (offersFor calls d.type)[w]? = some (command, o) ∧
        signature = o.signature command ∧ slot = o.handler
  /-- Only commands have handlers, validators or post-handlers. -/
  commandsOnly : ∀ d ∈ r.descriptors, d.kind.isCommand = false → d.handler = none ∧
    d.incomingValidators = [] ∧ d.handlingValidators = [] ∧ d.postHandlers = []
  /-- Only routed events have event handlers. -/
  routedOnly : ∀ d ∈ r.descriptors, d.kind.isRouted = false → d.eventHandlers = []
  handled : ∀ d ∈ r.descriptors, d.isHandled = true ↔
    d.kind.isCommand = true ∧ d.handler.isSome = true ∨
      d.kind.isRouted = true ∧ d.eventHandlers ≠ []
  provider : r.provider = (calls.filterMap provider?).getLast?

/-- A descriptor of a built registry stands at its index. -/
theorem mem_descriptors_iff {b : RegistryBuilder D} (hbuild : b.build = .ok r) {d : Descriptor D} :
    d ∈ r.descriptors ↔ r.descriptors[d.index]? = some d := by
  constructor
  · intro hd
    obtain ⟨i, hi⟩ := List.mem_iff_getElem?.mp hd
    have hentry := congrArg (·[i]?) (build_ok_iff.mp hbuild).2.2.2.1
    simp only [List.getElem?_map, hi, Option.map_some, List.getElem?_zipIdx] at hentry
    obtain ⟨declared, -, hdeclared⟩ := Option.map_eq_some_iff.mp hentry.symm
    have hindex : d.index = i := by simpa using (Prod.ext_iff.mp hdeclared).2.symm
    rw [hindex, hi]
  · exact List.mem_of_getElem?

/-- The types of the descriptors are the declared types. -/
theorem map_declaration {b : RegistryBuilder D} (hbuild : b.build = .ok r) :
    r.descriptors.map (·.declaration) = b.types := by
  have hentries := congrArg (List.map Prod.fst) (build_ok_iff.mp hbuild).2.2.2.1
  rw [List.map_map, List.zipIdx_map_fst] at hentries
  exact hentries

theorem nodup_descriptors {b : RegistryBuilder D} (hbuild : b.build = .ok r) :
    (r.descriptors.map (·.type.id)).Nodup := by
  have hdistinct := (build_ok_iff.mp hbuild).1.distinct
  rwa [← map_declaration hbuild, List.map_map] at hdistinct

/-- The index of a built registry leads to the descriptor of a type. -/
theorem descriptor?_eq_find? {b : RegistryBuilder D} (hbuild : b.build = .ok r) {t : TypeKey} :
    r.descriptor? t = r.descriptors.find? (·.type.id == t.id) := by
  rw [Registry.descriptor?, (build_ok_iff.mp hbuild).2.2.1, lookup_positions,
    ← map_declaration hbuild, List.findIdx?_map, List.find?_eq_bind_findIdx?_getElem?]
  rfl

/-- A type is found where its descriptor stands. -/
theorem descriptor?_eq_some_iff {b : RegistryBuilder D} (hbuild : b.build = .ok r) {t : TypeKey}
    {d : Descriptor D} : r.descriptor? t = some d ↔ d ∈ r.descriptors ∧ d.type.id = t.id := by
  rw [descriptor?_eq_find? hbuild]
  exact find?_key_iff (nodup_descriptors hbuild)

/-- The types that are found are the declared ones. -/
theorem isSome_descriptor?_iff {b : RegistryBuilder D} (hbuild : b.build = .ok r) {t : TypeKey} :
    (r.descriptor? t).isSome = true ↔ ∃ d ∈ b.types, d.type.id = t.id := by
  rw [Option.isSome_iff_exists, ← map_declaration hbuild]
  constructor
  · rintro ⟨d, hfind⟩
    obtain ⟨hd, hid⟩ := (descriptor?_eq_some_iff hbuild).mp hfind
    exact ⟨d.declaration, List.mem_map_of_mem hd, hid⟩
  · rintro ⟨declared, hdeclared, hid⟩
    obtain ⟨d, hd, rfl⟩ := List.mem_map.mp hdeclared
    exact ⟨d, (descriptor?_eq_some_iff hbuild).mpr ⟨hd, hid⟩⟩

theorem isHandled_iff {b : RegistryBuilder D} {h : Hierarchy} {d : Descriptor D}
    (hd : b.Fills h d) : d.isHandled = true ↔
      d.kind.isCommand = true ∧ d.handler.isSome = true ∨
        d.kind.isRouted = true ∧ d.eventHandlers ≠ [] := by
  rw [hd.handled]
  cases hkind : d.kind <;> simp [Kind.isCommand, Kind.isRouted]

/-- What passes the check is registered for the type of a descriptor of a kind it fits. -/
theorem checkOne_placed {b : RegistryBuilder D} (hbuild : b.build = .ok r)
    {registration : Registration} {t : TypeKey} (hcheck : b.checkOne registration t = .ok ()) :
    ∃ d ∈ r.descriptors, d.type.id = t.id ∧ registration.fits d.kind = true := by
  obtain ⟨declared, hfind, hfits⟩ := checkOne_ok_iff.mp hcheck
  obtain ⟨hmem, hid⟩ := (find?_key_iff (build_ok_iff.mp hbuild).1.distinct).mp hfind
  rw [← map_declaration hbuild] at hmem
  obtain ⟨d, hd, rfl⟩ := List.mem_map.mp hmem
  exact ⟨d, hd, hid, hfits⟩

/-- What passes the check is not registered for a descriptor of a kind it does not fit. -/
theorem registered_eq_nil {b : RegistryBuilder D} (hbuild : b.build = .ok r)
    {registration : Registration} {items : List (TypeKey × α)}
    (hcheck : ∀ item ∈ items, b.checkOne registration item.1 = .ok ()) {d : Descriptor D}
    (hd : d ∈ r.descriptors) (hfits : registration.fits d.kind = false) :
    registered items d.type = [] := by
  rw [registered, List.map_eq_nil_iff, List.filter_eq_nil_iff]
  intro item hitem hid
  obtain ⟨d', hd', hid', hfits'⟩ := checkOne_placed hbuild (hcheck item hitem)
  have hsame : d'.type.id = d.type.id := hid'.trans (beq_iff_eq.mp hid)
  rw [List.inj_on_of_nodup_map (nodup_descriptors hbuild) hd' hd hsame, hfits] at hfits'
  cases hfits'

/-- The elected position is one of the offers. -/
theorem elect_lt_length {h : Hierarchy} {seat : Seat} {candidates : List Candidate} {w : Nat}
    (helect : Election.elect h seat candidates = .ok (some w)) : w < candidates.length := by
  rcases @Election.elect_cases h seat candidates with
    ⟨-, hnone⟩ | ⟨c, w', hmax, hsome⟩ | ⟨-, e, herror⟩
  · rw [hnone] at helect
    cases helect
  · rw [hsome] at helect
    cases helect
    have hmem : (c, w) ∈ Election.maximal h seat candidates := hmax ▸ List.mem_singleton_self _
    exact (List.getElem?_eq_some_iff.mp
      (Election.mem_viable.mp (Election.mem_maximal.mp hmem).1).1).1
  · rw [herror] at helect
    cases helect

/-- The handler is one of the offers, of which it has both the signature and the slot. -/
theorem elect_told {h : Hierarchy} {d : Declaration}
    {handler : Option (Candidate × Slot D (Handler D))}
    (helect : (told calls).elect h d = .ok handler) : ∃ winner,
      Election.elect h ⟨d.type, d.result, ownerOf calls d.type⟩ (candidatesFor calls d.type) =
        .ok winner ∧
      (handler.isSome = true ↔ winner.isSome = true) ∧
      ∀ signature slot, handler = some (signature, slot) ↔
        ∃ w command o, winner = some w ∧ (offersFor calls d.type)[w]? = some (command, o) ∧
          signature = o.signature command ∧ slot = o.handler := by
  -- the seat and the candidates are those of the calls
  have hseat : (told calls).seat d = ⟨d.type, d.result, ownerOf calls d.type⟩ := by
    show Seat.mk d.type d.result (registered (calls.filterMap BuilderCall.owner?) d.type).getLast? =
      _
    rw [registered_filterMap]
    rfl
  have hcandidates : (told calls).candidates d.type =
      (offersFor calls d.type).map fun (command, o) => (o.signature command, o.handler) := rfl
  have hsignatures : ((told calls).candidates d.type).map (·.1) = candidatesFor calls d.type := by
    rw [hcandidates, List.map_map]
    rfl
  unfold elect at helect
  obtain ⟨winner, hwinner, hhandler⟩ := bind_ok_iff.mp helect
  rw [hseat, hsignatures] at hwinner
  rw [hcandidates] at hhandler
  cases hhandler
  refine ⟨winner, hwinner, ?_, ?_⟩
  · cases winner with
    | none => exact Iff.rfl
    | some w =>
      have hlt := elect_lt_length hwinner
      rw [candidatesFor, List.length_map] at hlt
      simp [hlt]
  · intro signature slot
    rw [Option.bind_eq_some_iff]
    constructor
    · rintro ⟨w, hw, hoffer⟩
      rw [List.getElem?_map] at hoffer
      obtain ⟨⟨command, o⟩, ho, hboth⟩ := Option.map_eq_some_iff.mp hoffer
      cases hboth
      exact ⟨w, command, o, hw, ho, rfl, rfl⟩
    · rintro ⟨w, command, o, hw, ho, rfl, rfl⟩
      refine ⟨w, hw, ?_⟩
      rw [List.getElem?_map, ho]
      rfl

/-- Everything that the calls register has passed its check. -/
theorem checkOne_of_reference {h : Hierarchy} (hadmissible : (told calls).Admissible h)
    {call : BuilderCall D} (hcall : call ∈ calls) {registration : Registration} {t : TypeKey}
    (hreference : call.reference? = some (registration, t)) :
    (told calls).checkOne registration t = .ok () := by
  have hitem {β : Type} {made? : BuilderCall D → Option (TypeKey × β)} {a : β}
      (hmade : made? call = some (t, a)) : (t, a) ∈ calls.filterMap made? :=
    List.mem_filterMap.mpr ⟨call, hcall, hmade⟩
  cases call <;> cases hreference
  case owningService => exact hadmissible.owners _ (hitem rfl)
  case offer => exact hadmissible.offers _ (hitem rfl)
  case incomingValidator => exact hadmissible.incoming _ (hitem rfl)
  case handlingValidator => exact hadmissible.handling _ (hitem rfl)
  case postHandler => exact hadmissible.post _ (hitem rfl)
  case eventHandler => exact hadmissible.event _ (hitem rfl)

/-- **A registry that was built is the table of the calls of its builder.** -/
theorem build_tabulates (hbuild : (ofCalls calls).build = .ok r) : Tabulates calls r := by
  rw [ofCalls_eq_told] at hbuild
  obtain ⟨hadmissible, hprovider, -, hentries, hfills⟩ := build_ok_iff.mp hbuild
  refine ⟨hentries, nodup_descriptors hbuild, ?found, ?lookup, ?incoming, ?handling, ?post, ?event,
    ?placed, hadmissible.hierarchy, ?elected, ?commandsOnly, ?routedOnly, ?handled, hprovider⟩
  case found => exact fun t => isSome_descriptor?_iff hbuild
  case lookup =>
    intro t d
    rw [descriptor?_eq_some_iff hbuild, mem_descriptors_iff hbuild]
  case incoming =>
    intro d hd
    rw [(hfills d hd).incoming, ← registered_filterMap]
    rfl
  case handling =>
    intro d hd
    rw [(hfills d hd).handling, ← registered_filterMap]
    rfl
  case post =>
    intro d hd
    rw [(hfills d hd).post, ← registered_filterMap]
    rfl
  case event =>
    intro d hd
    rw [(hfills d hd).event, ← registered_filterMap]
    rfl
  case placed =>
    intro call hcall registration t hreference
    exact checkOne_placed hbuild (checkOne_of_reference hadmissible hcall hreference)
  case elected =>
    intro d hd hcommand
    -- against the goal, the unifier would unfold the election
    have helect := elect_told ((hfills d hd).elected hcommand)
    exact helect
  case commandsOnly =>
    intro d hd hkind
    refine ⟨(hfills d hd).handlerless hkind, ?_, ?_, ?_⟩
    · rw [(hfills d hd).incoming]
      exact registered_eq_nil hbuild hadmissible.incoming hd hkind
    · rw [(hfills d hd).handling]
      exact registered_eq_nil hbuild hadmissible.handling hd hkind
    · rw [(hfills d hd).post]
      exact registered_eq_nil hbuild hadmissible.post hd hkind
  case routedOnly =>
    intro d hd hkind
    rw [(hfills d hd).event]
    exact registered_eq_nil hbuild hadmissible.event hd hkind
  case handled => exact fun d hd => isHandled_iff (hfills d hd)

end Table

/-! ### A shop -/

namespace Shop

/-- Orders are commands, and a part of all business. -/
def order : TypeKey := ⟨"Order", "shop::Order"⟩

def business : TypeKey := ⟨"Business", "shop::Business"⟩

def shipped : TypeKey := ⟨"Shipped", "shop::Shipped"⟩

/-- The desk takes orders. -/
def desk : Offer Unit := Offer.of "Desk" "order" (.pooled fun _ _ => pure CommandResult.void)

/-- The office takes any business. -/
def office : Offer Unit :=
  ⟨"Office", "handle", some business, TypeKey.unit, true,
    .pooled fun _ _ => pure CommandResult.void⟩

def validator : Slot Unit (Validator Unit) := .pooled fun _ _ => pure ()

def packer : Slot Unit (TypedEventHandler Unit) := .pooled ⟨shipped, fun _ _ => pure ()⟩

/-- Types are declared between and after what is registered for them. -/
def calls : List (BuilderCall Unit) :=
  [.offer order office, .declare ⟨shipped, .routedEvent, none⟩, .handlingValidator order validator,
    .supertype order business, .declare ⟨order, .command, none⟩, .eventHandler shipped packer,
    .offer order desk]

def registry : Registry Unit where
  descriptors := [⟨0, shipped, .routedEvent, none, none, [], [], [], [packer.map (·.erase)], true⟩,
    ⟨1, order, .command, none, some (desk.signature order, desk.handler), [], [validator], [], [],
      true⟩]
  byType := [("Shipped", 0), ("Order", 1)]
  hierarchy := ⟨[("Order", ["Business"])]⟩
  provider := none

theorem declare_business : Hierarchy.empty.declare order business = .ok registry.hierarchy := by
  simp [Hierarchy.declare, Hierarchy.isSubtype, Hierarchy.search, Hierarchy.direct,
    Hierarchy.empty, Hierarchy.insert, order, business, registry]

/-- The desk beats the office, which is not closed. -/
theorem elect_desk : Election.elect registry.hierarchy ⟨order, none, none⟩
    [office.signature order, desk.signature order] = .ok (some 1) := by
  refine (Election.elect_some_iff (.declare .empty declare_business)).mpr ⟨_, rfl, ?_, ?_⟩
  · simp [Election.isViable, Election.objection?, Hierarchy.isSubtype, desk, Offer.of,
      Offer.signature]
  · intro j b hj hb _
    rcases j with _ | _ | j
    · obtain rfl := Option.some.inj hb
      rfl
    · exact absurd rfl hj
    · cases hb

theorem build_calls : (ofCalls calls).build = .ok registry := by
  refine build_ok_iff.mpr ⟨⟨?hierarchy, ?distinct, ?offers, ?incoming, ?handling, ?post, ?event,
    ?owners⟩, rfl, rfl, rfl, ?fills⟩
  case hierarchy =>
    show (Hierarchy.empty.declare order business >>= fun h => pure h) = _
    rw [declare_business]
    rfl
  case distinct => decide
  case offers => exact List.forall_mem_cons.mpr ⟨rfl, List.forall_mem_singleton.mpr rfl⟩
  case incoming => exact List.forall_mem_nil _
  case handling => exact List.forall_mem_singleton.mpr rfl
  case post => exact List.forall_mem_nil _
  case event => exact List.forall_mem_singleton.mpr rfl
  case owners => exact List.forall_mem_nil _
  case fills =>
    intro d hd
    rcases List.mem_pair.mp hd with rfl | rfl
    · exact ⟨fun hcommand => absurd hcommand (by decide), fun _ => rfl, rfl, rfl, rfl, rfl, rfl⟩
    · refine ⟨fun _ => ?_, fun hcommand => absurd hcommand (by decide), rfl, rfl, rfl, rfl, rfl⟩
      show (Election.elect registry.hierarchy ⟨order, none, none⟩
        [office.signature order, desk.signature order] >>= _) = _
      rw [elect_desk]
      rfl

/-- **A shop's registry.** -/
theorem build_tabulates_shop : (ofCalls calls).build = .ok registry ∧ Tabulates calls registry :=
  ⟨build_calls, build_tabulates build_calls⟩

end Shop
end RegistryBuilder
end CommandEngine
