import CommandEngine.Proofs.Election.Reordering
import CommandEngine.Proofs.Hierarchy.Declarations
import CommandEngine.Proofs.Registry.Table
import Mathlib.Data.List.Perm.Basic

/-!
# The order of the calls

The types of a registry stand in the order of their declarations, and the validators, post-handlers
and event handlers of a type run in the order in which they were registered.  Nothing else about
the order of a builder's calls gets into the registry: kinds of calls may be mixed in any way, what
is registered for one type may stand before or after what is registered for another, and supertypes
and handlers of one type may stand in any order (`Rearranges`).

For most parts of a registry this is because each part is read off the calls of one sort.  Two parts
look at more.  The supertypes are checked one after the other, but what they make is the graph of
their pairs, in any order.  An election goes through the candidates as they stand, but it is won by
the one that is ahead of all the others (`elect_some_iff`), wherever it stands; and the hierarchies
of both builders order the candidates alike, although they are not the same map.
-/
namespace CommandEngine

namespace Election
variable {h h' : Hierarchy} {seat : Seat} {D : Type}

/-- An election asks a hierarchy for subtypes only. -/
theorem elect_congr (hsub : h'.isSubtype = h.isSubtype) : elect h' seat = elect h seat := by
  have hstrict : h'.isStrictSubtype = h.isStrictSubtype := by
    funext a b
    rw [Hierarchy.isStrictSubtype, Hierarchy.isStrictSubtype, hsub]
  have hviable : isViable h' seat = isViable h seat := by
    funext c
    simp only [isViable, objection?, hsub]
  have hdominates : dominates h' seat = dominates h seat := by
    funext a b
    simp only [dominates, hstrict]
  funext candidates
  simp only [elect, maximal, viable, hviable, hdominates]

/-- The candidate is viable and dominates all the others that are. -/
def Ahead (h : Hierarchy) (seat : Seat) (offered : List (Candidate × Slot D (Handler D)))
    (p : Candidate × Slot D (Handler D)) : Prop :=
  isViable h seat p.1 = true ∧ ∃ others, offered.Perm (p :: others) ∧
    ∀ q ∈ others, isViable h seat q.1 = true → dominates h seat p.1 q.1 = true

variable {offered offered' : List (Candidate × Slot D (Handler D))}
  {p : Candidate × Slot D (Handler D)}

theorem Ahead.perm (hahead : Ahead h seat offered p) (hperm : offered'.Perm offered) :
    Ahead h seat offered' p := by
  obtain ⟨hviable, others, hothers, habove⟩ := hahead
  exact ⟨hviable, others, hperm.trans hothers, habove⟩

/-- Who is ahead is the greatest where it stands. -/
theorem ahead_iff : Ahead h seat offered p ↔
    ∃ w, Greatest h seat (offered.map (·.1)) w ∧ offered[w]? = some p := by
  have hplace {w : Nat} (hw : offered[w]? = some p) : offered.Perm (p :: offered.eraseIdx w) := by
    obtain ⟨hlt, rfl⟩ := List.getElem?_eq_some_iff.mp hw
    exact (List.getElem_cons_eraseIdx_perm hlt).symm
  constructor
  · rintro ⟨hviable, others, hothers, habove⟩
    obtain ⟨w, hw⟩ := List.mem_iff_getElem?.mp (hothers.mem_iff.mpr List.mem_cons_self)
    refine ⟨w, ⟨p.1, by rw [List.getElem?_map, hw]; rfl, hviable, ?_⟩, hw⟩
    intro j b hj hb hb'
    rw [List.getElem?_map] at hb
    obtain ⟨q, hq, rfl⟩ := Option.map_eq_some_iff.mp hb
    -- the others are what stands elsewhere
    have hrest := ((hplace hw).symm.trans hothers).cons_inv
    exact habove q (hrest.mem_iff.mp (List.mem_eraseIdx_iff_getElem?.mpr ⟨j, hj, hq⟩)) hb'
  · rintro ⟨w, ⟨c, hc, hviable, habove⟩, hw⟩
    rw [List.getElem?_map, hw] at hc
    obtain rfl := Option.some.inj hc
    refine ⟨hviable, offered.eraseIdx w, hplace hw, ?_⟩
    intro q hq hqviable
    obtain ⟨j, hj, hq⟩ := List.mem_eraseIdx_iff_getElem?.mp hq
    exact habove j q.1 hj (by rw [List.getElem?_map, hq]; rfl) hqviable

end Election

namespace RegistryBuilder

section Builders
variable {D : Type} {b b' : RegistryBuilder D} {h h' : Hierarchy} {d : Declaration}

/-! ## Elections -/

/-- A handler is elected if it is ahead of all the others. -/
theorem elect_some_iff (hd : h.Declared) {p : Candidate × Slot D (Handler D)} :
    b.elect h d = .ok (some p) ↔ Election.Ahead h (b.seat d) (b.candidates d.type) p := by
  rw [elect, bind_ok_iff, Election.ahead_iff]
  constructor
  · rintro ⟨winner, hwinner, hp⟩
    obtain ⟨w, rfl, hw⟩ := Option.bind_eq_some_iff.mp (Except.ok.inj hp)
    exact ⟨w, (Election.elect_some_iff hd).mp hwinner, hw⟩
  · rintro ⟨w, hgreatest, hw⟩
    exact ⟨some w, (Election.elect_some_iff hd).mpr hgreatest, congrArg Except.ok hw⟩

/-- No handler is elected if none is viable. -/
theorem elect_none_iff (hd : h.Declared) : b.elect h d = .ok none ↔
    ∀ p ∈ b.candidates d.type, Election.isViable h (b.seat d) p.1 = false := by
  rw [elect, bind_ok_iff]
  constructor
  · rintro ⟨winner, hwinner, hnone⟩
    cases winner with
    | none =>
      have hviable := (Election.elect_none_iff hd).mp hwinner
      exact fun p hp => hviable p.1 (List.mem_map_of_mem hp)
    | some w =>
      -- a winner is one of the candidates
      have hlt := elect_lt_length hwinner
      rw [List.length_map] at hlt
      have hsome := Except.ok.inj hnone
      rw [Option.bind_some, List.getElem?_eq_none_iff] at hsome
      omega
  · intro hnone
    refine ⟨none, (Election.elect_none_iff hd).mpr ?_, rfl⟩
    intro c hc
    obtain ⟨p, hp, rfl⟩ := List.mem_map.mp hc
    exact hnone p hp

/-- Builders with the same candidates in any order, and hierarchies with the same subtypes, elect
the same handler. -/
theorem elect_rearranged (hd : h.Declared) (hsub : h'.isSubtype = h.isSubtype)
    (hseat : b'.seat d = b.seat d) (hperm : (b'.candidates d.type).Perm (b.candidates d.type))
    {handler : Option (Candidate × Slot D (Handler D))} (helect : b.elect h d = .ok handler) :
    b'.elect h' d = .ok handler := by
  have hsame : b'.elect h' d = b'.elect h d := by
    rw [elect, elect, Election.elect_congr hsub]
  rw [hsame]
  cases handler with
  | none =>
    rw [elect_none_iff hd] at helect ⊢
    intro p hp
    rw [hseat]
    exact helect p (hperm.mem_iff.mp hp)
  | some p =>
    rw [elect_some_iff hd] at helect ⊢
    rw [hseat]
    exact helect.perm hperm

/-- The check of a registration looks at the declared types only. -/
theorem checkOne_congr (htypes : b'.types = b.types) : b'.checkOne = b.checkOne := by
  funext registration t
  rw [checkOne, checkOne, htypes]

end Builders
end RegistryBuilder

/-! ## Rearranged calls -/

/-- The call neither declares a type nor sets the provider. -/
def BuilderCall.registers {D : Type} : BuilderCall D → Bool
  | declare _ | ambientProvider _ => false
  | _ => true

namespace RegistryBuilder
open BuilderCall

section Calls
variable {D α : Type} {calls calls' : List (BuilderCall D)} {r : Registry D}

/-- **The same calls in another order.**  Types are declared in the same order, and for each type
its validators, post-handlers, event handlers and owning services stand in the same order;
supertypes and offers stand in any order, and so do the calls for different types. -/
structure Rearranges (calls calls' : List (BuilderCall D)) : Prop where
  declared : declarations calls' = declarations calls
  perm : (calls'.filter registers).Perm (calls.filter registers)
  owners : ∀ t, madeFor BuilderCall.owner? t calls' = madeFor BuilderCall.owner? t calls
  incoming : ∀ t, madeFor incomingValidator? t calls' = madeFor incomingValidator? t calls
  handling : ∀ t, madeFor handlingValidator? t calls' = madeFor handlingValidator? t calls
  post : ∀ t, madeFor postHandler? t calls' = madeFor postHandler? t calls
  event : ∀ t, madeFor eventHandler? t calls' = madeFor eventHandler? t calls

namespace Rearranges

theorem symm (hrearranges : Rearranges calls calls') : Rearranges calls' calls where
  declared := hrearranges.declared.symm
  perm := hrearranges.perm.symm
  owners t := (hrearranges.owners t).symm
  incoming t := (hrearranges.incoming t).symm
  handling t := (hrearranges.handling t).symm
  post t := (hrearranges.post t).symm
  event t := (hrearranges.event t).symm

/-- The calls of one sort are the same in another order. -/
theorem sort (hrearranges : Rearranges calls calls') {made? : BuilderCall D → Option α}
    (hmade : ∀ call, call.registers = false → made? call = none) :
    (calls'.filterMap made?).Perm (calls.filterMap made?) := by
  have hfilter (xs : List (BuilderCall D)) :
      (xs.filter registers).filterMap made? = xs.filterMap made? := by
    rw [List.filterMap_filter]
    congr 1
    funext call
    cases hcall : call.registers with
    | false => exact (hmade call hcall).symm
    | true => rfl
  rw [← hfilter, ← hfilter calls]
  exact hrearranges.perm.filterMap made?

section Parts
variable (hrearranges : Rearranges calls calls')
include hrearranges

theorem supertypes : (told calls').supertypes.Perm (told calls).supertypes :=
  hrearranges.sort fun call hcall => by cases call <;> first | rfl | cases hcall

theorem offers : (told calls').offers.Perm (told calls).offers :=
  hrearranges.sort fun call hcall => by cases call <;> first | rfl | cases hcall

theorem candidates (t : TypeKey) :
    ((told calls').candidates t).Perm ((told calls).candidates t) :=
  (hrearranges.offers.filter _).map _

theorem types : (told calls').types = (told calls).types := hrearranges.declared

theorem seat (d : Declaration) : (told calls').seat d = (told calls).seat d := by
  have howners :
      registered (told calls').owners d.type = registered (told calls).owners d.type := by
    show registered (calls'.filterMap _) _ = registered (calls.filterMap _) _
    rw [registered_filterMap, registered_filterMap, hrearranges.owners]
  rw [RegistryBuilder.seat, RegistryBuilder.seat, RegistryBuilder.owner?, howners]
  rfl

/-- What passes a check passes it in the other order. -/
theorem checks {registration : Registration} {made? : BuilderCall D → Option (TypeKey × α)}
    (hmade : ∀ call, call.registers = false → made? call = none)
    (hchecked : ∀ item ∈ calls.filterMap made?,
      (told calls).checkOne registration item.1 = .ok ()) :
    ∀ item ∈ calls'.filterMap made?, (told calls').checkOne registration item.1 = .ok () := by
  intro item hitem
  rw [checkOne_congr hrearranges.types]
  exact hchecked item ((hrearranges.sort hmade).mem_iff.mp hitem)

theorem isSubtype : (Hierarchy.ofPairs (told calls').supertypes).isSubtype =
    (Hierarchy.ofPairs (told calls).supertypes).isSubtype := by
  funext a b
  exact Hierarchy.isSubtype_ofPairs_perm hrearranges.supertypes a b

end Parts

/-- What is admitted is admitted in the other order, with a hierarchy of the same subtypes. -/
theorem admissible (hrearranges : Rearranges calls calls') {h : Hierarchy}
    (hadmissible : (told calls).Admissible h) :
    (told calls').Admissible (Hierarchy.ofPairs (told calls').supertypes) := by
  obtain ⟨hloopless, -⟩ := Hierarchy.declareAll_ok_iff.mp hadmissible.hierarchy
  refine ⟨?hierarchy, ?distinct, ?offers, ?incoming, ?handling, ?post, ?event, ?owners⟩
  case hierarchy =>
    exact Hierarchy.declareAll_ok_iff.mpr
      ⟨(Hierarchy.loopless_perm hrearranges.supertypes).mpr hloopless, rfl⟩
  case distinct =>
    show ((declarations calls').map _).Nodup
    rw [hrearranges.declared]
    exact hadmissible.distinct
  all_goals refine hrearranges.checks ?_ ?_
  case offers.refine_2 => exact hadmissible.offers
  case incoming.refine_2 => exact hadmissible.incoming
  case handling.refine_2 => exact hadmissible.handling
  case post.refine_2 => exact hadmissible.post
  case event.refine_2 => exact hadmissible.event
  case owners.refine_2 => exact hadmissible.owners
  all_goals exact fun call hcall => by cases call <;> first | rfl | cases hcall

/-- A builder that builds a registry builds it from the rearranged calls, with a hierarchy of the
same subtypes and the provider that was set. -/
theorem build_ok (hrearranges : Rearranges calls calls') (hbuild : (ofCalls calls).build = .ok r) :
    (ofCalls calls').build = .ok ⟨r.descriptors, r.byType,
      Hierarchy.ofPairs (told calls').supertypes, (told calls').provider⟩ := by
  rw [ofCalls_eq_told] at hbuild ⊢
  obtain ⟨hadmissible, -, hpositions, hentries, hfills⟩ := build_ok_iff.mp hbuild
  obtain ⟨hloopless, hhierarchy⟩ := Hierarchy.declareAll_ok_iff.mp hadmissible.hierarchy
  refine build_ok_iff.mpr ⟨hrearranges.admissible hadmissible, rfl, ?_, ?_, ?_⟩
  · exact hpositions.trans (congrArg positions hrearranges.declared.symm)
  · exact hentries.trans (congrArg List.zipIdx hrearranges.declared.symm)
  · intro d hd
    have hd' := hfills d hd
    refine ⟨?elected, hd'.handlerless, ?incoming, ?handling, ?post, ?event, hd'.handled⟩
    case elected =>
      intro hcommand
      have helect := hd'.elected hcommand
      rw [hhierarchy] at helect
      exact elect_rearranged hloopless.declared hrearranges.isSubtype (hrearranges.seat _)
        (hrearranges.candidates _) helect
    case incoming =>
      show _ = registered (calls'.filterMap _) _
      rw [registered_filterMap, hrearranges.incoming, ← registered_filterMap]
      exact hd'.incoming
    case handling =>
      show _ = registered (calls'.filterMap _) _
      rw [registered_filterMap, hrearranges.handling, ← registered_filterMap]
      exact hd'.handling
    case post =>
      show _ = registered (calls'.filterMap _) _
      rw [registered_filterMap, hrearranges.post, ← registered_filterMap]
      exact hd'.post
    case event =>
      show _ = registered (calls'.filterMap _) _
      rw [registered_filterMap, hrearranges.event, ← registered_filterMap]
      exact hd'.event

end Rearranges

/-- **The order of the calls does not matter** beyond the order of the declarations and, for each
type, of what runs one after the other.  Either all rearrangements build a registry or none does,
and they all have the same descriptors, which is everything that is registered for a type, at the
same positions, and the same subtypes. -/
theorem build_rearranged (hrearranges : Rearranges calls calls') :
    ((∃ r, (ofCalls calls).build = .ok r) ↔ ∃ r', (ofCalls calls').build = .ok r') ∧
    ∀ r r', (ofCalls calls).build = .ok r → (ofCalls calls').build = .ok r' →
      r'.descriptors = r.descriptors ∧ r'.byType = r.byType ∧
      ∀ a b, r'.hierarchy.isSubtype a b = r.hierarchy.isSubtype a b := by
  refine ⟨⟨?_, ?_⟩, ?_⟩
  · rintro ⟨r, hbuild⟩
    exact ⟨_, hrearranges.build_ok hbuild⟩
  · rintro ⟨r', hbuild⟩
    exact ⟨_, hrearranges.symm.build_ok hbuild⟩
  · intro r r' hbuild hbuild'
    obtain rfl := Except.ok.inj ((hrearranges.build_ok hbuild).symm.trans hbuild')
    rw [ofCalls_eq_told] at hbuild
    have hhierarchy := (build_ok_iff.mp hbuild).1.hierarchy
    rw [(Hierarchy.declareAll_ok_iff.mp hhierarchy).2]
    exact ⟨rfl, rfl, fun a b => congrFun (congrFun hrearranges.isSubtype a) b⟩

end Calls

namespace Shop

/-- What is registered besides the desk. -/
def otherCalls : List (BuilderCall Unit) :=
  [.offer order office, .handlingValidator order validator, .supertype order business,
    .eventHandler shipped packer]

/-- Everything is declared before anything is registered, and the desk offers itself first. -/
def tidyCalls : List (BuilderCall Unit) :=
  .declare ⟨shipped, .routedEvent, none⟩ :: .declare ⟨order, .command, none⟩ ::
    .offer order desk :: otherCalls

theorem rearranges_tidyCalls : Rearranges calls tidyCalls where
  declared := rfl
  perm := by
    show (.offer order desk :: otherCalls).Perm (otherCalls ++ [.offer order desk])
    exact (List.perm_append_singleton _ _).symm
  owners _ := rfl
  incoming _ := rfl
  handling _ := rfl
  post _ := rfl
  event _ := rfl

/-- The desk is elected, wherever it stands. -/
theorem build_rearranged_tidyCalls : Rearranges calls tidyCalls ∧
    (ofCalls calls).build = .ok registry ∧
    ∃ r, (ofCalls tidyCalls).build = .ok r ∧ r.descriptors = registry.descriptors ∧
      r.byType = registry.byType ∧
      ∀ a b, r.hierarchy.isSubtype a b = registry.hierarchy.isSubtype a b := by
  obtain ⟨hiff, hsame⟩ := build_rearranged rearranges_tidyCalls
  obtain ⟨r, hbuild⟩ := hiff.mp ⟨registry, build_calls⟩
  exact ⟨rearranges_tidyCalls, build_calls, r, hbuild, hsame registry r build_calls hbuild⟩

end Shop
end RegistryBuilder
end CommandEngine
