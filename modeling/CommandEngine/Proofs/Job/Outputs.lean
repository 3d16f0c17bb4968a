import CommandEngine.Proofs.Job.Typed

/-!
# What typed handlers give

A command declared without a result has nothing to promise, so the election does not look at what
the candidates return: it compares return types with a declared result, and here there is none.  Nor
does anything look at the declaration afterwards.  A typed handler makes a result of its own output,
nothing if this is of the unit type and a value otherwise, and that is what the post-handlers of the
command are given and what its caller gets.

So over a registry of typed code alone, what a command comes to is told by the handler that was
elected for it (`Elects`), one of those that were offered for the type of the command.  It is
nothing exactly if this handler returns the unit type.  The declaration decides it only as far as
those who offer handlers for the command keep to it.
-/
namespace CommandEngine

/-- Whether the call registers typed code, or none. -/
def TypedCall.isTyped {D : Type} : TypedCall D → Bool
  | candidate .. => false
  | _ => true

/-- A typed handler that was offered for the type of a descriptor has been elected for it. -/
structure Elects {D : Type} (calls : List (TypedCall D)) (d : Descriptor D) (o : TypedOffer D) :
    Prop where
  offered : .typed o ∈ calls
  type : o.command.id = d.type.id
  elected : d.handler = some (o.offer.signature d.type, o.offer.handler)

/-- An output is no result exactly if it is of the unit type. -/
theorem CommandResult.ofOutput_eq_void_iff {returns : TypeKey} {data : Json} :
    ofOutput returns data = .void ↔ returns.id = TypeKey.unit.id := by
  unfold ofOutput
  by_cases hunit : returns.id = TypeKey.unit.id
  · rw [if_pos hunit]
    exact iff_of_true rfl hunit
  · rw [if_neg hunit]
    exact iff_of_false nofun hunit

namespace RegistryBuilder
variable {D : Type} {calls : List (TypedCall D)} {r : Registry D} {d : Descriptor D}

/-- What typed calls offer is typed. -/
theorem mem_offers_ofTyped (htyped : ∀ call ∈ calls, call.isTyped) {t : TypeKey} {offer : Offer D}
    (hoffer : (t, offer) ∈ (ofTyped calls).offers) :
    ∃ o, .typed o ∈ calls ∧ t = o.command ∧ offer = o.offer := by
  rw [← refusing_mismatch] at hoffer
  obtain ⟨call, hcall, hmade⟩ := List.mem_filterMap.mp hoffer
  cases call with
  | typed o =>
    cases hmade
    exact ⟨o, hcall, rfl, o.wrapped_mismatch⟩
  | candidate => cases htyped _ hcall
  | _ => cases hmade

/-- Who is elected was offered for the type, so it is a typed handler. -/
theorem exists_elects (htyped : ∀ call ∈ calls, call.isTyped)
    (hbuild : (ofTyped calls).build = .ok r) (hd : d ∈ r.descriptors)
    (hhandled : d.handler ≠ none) : ∃ o, Elects calls d o := by
  obtain ⟨-, -, -, -, hfills⟩ := build_ok_iff.mp hbuild
  have hcommand : d.kind.isCommand = true := by
    by_contra hnot
    exact hhandled ((hfills d hd).handlerless (Bool.eq_false_iff.mpr hnot))
  obtain ⟨winner, -, hwinner⟩ := elect_ok_inv ((hfills d hd).elected hcommand)
  cases winner with
  | none => exact absurd hwinner hhandled
  | some w =>
    obtain ⟨elected, helected⟩ := Option.ne_none_iff_exists'.mp hhandled
    have hcandidate : elected ∈ (ofTyped calls).candidates d.type :=
      List.mem_of_getElem? (hwinner.symm.trans helected)
    obtain ⟨⟨t, offer⟩, hoffer, rfl⟩ := List.mem_map.mp hcandidate
    obtain ⟨hmem, htype⟩ := List.mem_filter.mp hoffer
    obtain ⟨o, hcall, rfl, rfl⟩ := mem_offers_ofTyped htyped hmem
    exact ⟨o, hcall, beq_iff_eq.mp htype, helected⟩

end RegistryBuilder

/-- The result is the output of a typed handler that was elected for the descriptor's type. -/
inductive IsOutput {D : Type} (calls : List (TypedCall D)) (d : Descriptor D) :
    CommandResult → Prop
  | intro {o : TypedOffer D} (helects : Elects calls d o) (data : Json) :
    IsOutput calls d (.ofOutput o.returns data)

section Outputs
variable {D : Type} {calls : List (TypedCall D)} {d : Descriptor D} {o o' : TypedOffer D}
  {result : CommandResult}

/-- Who is elected states what it returns, so all elected handlers return the same type. -/
theorem Elects.returns_eq (helects : Elects calls d o) (helects' : Elects calls d o') :
    o'.returns = o.returns := by
  have hsame := helects'.elected.symm.trans helects.elected
  exact congrArg (fun elected => elected.1.returns) (Option.some.inj hsame)

/-- An output is nothing exactly if the elected handler returns the unit type. -/
theorem IsOutput.eq_void_iff (houtput : IsOutput calls d result) (helects : Elects calls d o) :
    result = .void ↔ o.returns.id = TypeKey.unit.id := by
  obtain ⟨helects', data⟩ := houtput
  rw [CommandResult.ofOutput_eq_void_iff, helects.returns_eq helects']

/-- An output is nothing if all handlers offered for the type return the unit type. -/
theorem IsOutput.eq_void (houtput : IsOutput calls d result)
    (hunit : ∀ o, .typed o ∈ calls → o.command.id = d.type.id → o.returns.id = TypeKey.unit.id) :
    result = .void := by
  obtain ⟨helects, data⟩ := houtput
  exact CommandResult.ofOutput_eq_void_iff.mpr (hunit _ helects.offered helects.type)

end Outputs

namespace Chain
variable {D : Type} {env : Environment D} {answer : (q : ContextRequest) → OnStack q.Reply}
  {command : Object} {d : Descriptor D} {fs fs' : List Frame} {h : List Happening}
  {result : CommandResult} {out : Outcome CommandResult}

/-- In the handling of a command its handler returns `result`, and the post-handlers are given it,
one after the other, up to the first that does not return. -/
inductive HandsOn (env : Environment D) (answer : (q : ContextRequest) → OnStack q.Reply)
    (command : Object) (d : Descriptor D) (fs : List Frame) (result : CommandResult) :
      List Happening → Outcome CommandResult → List Frame → Prop where
  | intro {signature : Candidate} {slot : Slot D (Handler D)} {handler : Handler D}
    {h₁ h₂ : List Happening} {out : Outcome Unit} {mid fs' : List Frame}
    (hslot : d.handler = some (signature, slot))
    (hresolve : (slot.resolve env.services).outcome = .ok handler)
    (hrun : Ends (runProgram answer (handler env.services command)).run fs h₁ (.ok result) mid)
    (hposts : PostHandling env answer command result d.postHandlers.zipIdx mid h₂ out fs') :
    HandsOn env answer command d fs result
      (resolving env slot ++ .mark (.handler command) :: (h₁ ++ h₂)) (out.map fun _ => result) fs'

/-- A command that returns has handed on what it returns. -/
theorem Handling.handsOn (hhandling : Handling env answer command d fs h (.ok result) fs') :
    HandsOn env answer command d fs result h (.ok result) fs' := by
  generalize hout : (Except.ok result : Outcome CommandResult) = out at hhandling
  cases hhandling with
  | unresolved => cases hout
  | raised => cases hout
  | @returned _ _ _ _ _ _ posts _ _ hslot hresolve hrun hposts =>
    cases posts with
    | error e => cases hout
    | ok =>
      cases hout
      exact .intro hslot hresolve hrun hposts

/-- A typed handler hands its output on. -/
theorem HandsOn.eq_ofOutput {signature : Candidate} {o : TypedOffer D}
    (hhandler : d.handler = some (signature, o.offer.handler))
    (hgiven : HandsOn env answer command d fs result h out fs') :
    ∃ data, result = .ofOutput o.returns data := by
  cases hgiven with
  | intro hslot hresolve hrun hposts =>
    rw [hhandler, ← o.wrapped_mismatch] at hslot
    cases hslot
    obtain ⟨code, rfl⟩ := outcome_map hresolve
    exact ends_handler hrun

theorem HandsOn.isOutput {calls : List (TypedCall D)} {r : Registry D}
    (htyped : ∀ call ∈ calls, call.isTyped)
    (hbuild : (RegistryBuilder.ofTyped calls).build = .ok r) (hd : d ∈ r.descriptors)
    (hgiven : HandsOn env answer command d fs result h out fs') : IsOutput calls d result := by
  have hhandled : d.handler ≠ none := by
    cases hgiven with
    | intro hslot => exact Option.ne_none_iff_exists'.mpr ⟨_, hslot⟩
  obtain ⟨o, helects⟩ := RegistryBuilder.exists_elects htyped hbuild hd hhandled
  obtain ⟨data, rfl⟩ := hgiven.eq_ofOutput helects.elected
  exact .intro helects data

end Chain

section Executions
open Chain
variable {D : Type} {calls : List (TypedCall D)} {r : Registry D} {d : Descriptor D}
  {command : Object}

/-- A successful execution of a command has handed its result on. -/
theorem Registry.Executed.exists_handsOn {result : CommandResult}
    (hfound : r.descriptorOf? command = some d) (hexecuted : r.Executed command result) :
    ∃ (env : Environment D) (answer : (q : ContextRequest) → OnStack q.Reply) (fs : List Frame)
      (h : List Happening) (fs' : List Frame),
      env.registry = r ∧ HandsOn env answer command d fs result h (.ok result) fs' := by
  obtain ⟨env, n, validated, fs, h, fs', rfl, hraw⟩ := hexecuted.exists_rawExecute
  rcases rawExecute_protocol hraw with ⟨e, -, herror, -⟩ | ⟨d', h₁, h₂, hadmitted, hhandling, -⟩
  · cases herror
  · obtain rfl : d' = d := Option.some.inj (hadmitted.found.symm.trans hfound)
    exact ⟨env, _, fs, h₂, fs', rfl, hhandling.handsOn⟩

/-- **A command comes to the output of its handler.**  Over a registry of typed code, what the
post-handlers of a command are given is an output of the typed handler that was elected for it, in
all chains and whatever its requests are answered.  Every successful execution of the command, as a
root, nested or as a job, returns such an output, and what it returns is what the post-handlers
were given.  An output is nothing exactly if the elected handler returns the unit type, so a command
for which only such handlers are offered comes to nothing. -/
theorem output_handed_on (htyped : ∀ call ∈ calls, call.isTyped)
    (hbuild : (RegistryBuilder.ofTyped calls).build = .ok r) (hd : d ∈ r.descriptors)
    (htype : command.type.id = d.type.id) :
    (∀ (env : Environment D) (answer : (q : ContextRequest) → OnStack q.Reply) (fs : List Frame)
      (result : CommandResult) (h : List Happening) (out : Outcome CommandResult)
      (fs' : List Frame), HandsOn env answer command d fs result h out fs' →
        IsOutput calls d result) ∧
    (∀ result, r.Executed command result → IsOutput calls d result ∧
      ∃ (env : Environment D) (answer : (q : ContextRequest) → OnStack q.Reply) (fs : List Frame)
        (h : List Happening) (fs' : List Frame),
        env.registry = r ∧ HandsOn env answer command d fs result h (.ok result) fs') ∧
    (∀ o, Elects calls d o → ∀ result, IsOutput calls d result →
      (result = .void ↔ o.returns.id = TypeKey.unit.id)) ∧
    ((∀ o, .typed o ∈ calls → o.command.id = d.type.id → o.returns.id = TypeKey.unit.id) →
      ∀ result, IsOutput calls d result → result = .void) := by
  have hfound := (RegistryBuilder.descriptor?_eq_some_iff hbuild).mpr ⟨hd, htype.symm⟩
  refine ⟨?_, fun result hexecuted => ?_, ?_, ?_⟩
  · intro env answer fs result h out fs' hgiven
    exact hgiven.isOutput htyped hbuild hd
  · obtain ⟨env, answer, fs, h, fs', hr, hgiven⟩ := hexecuted.exists_handsOn hfound
    exact ⟨hgiven.isOutput htyped hbuild hd, env, answer, fs, h, fs', hr, hgiven⟩
  · intro o helects result houtput
    exact houtput.eq_void_iff helects
  · intro hunit result houtput
    exact houtput.eq_void hunit

end Executions

/-! ### A desk that writes receipts -/

namespace Receipts
open RegistryBuilder Chain Counter

/-- The desk is written for orders and takes the money. -/
def cashier (returns : TypeKey) : TypedOffer Unit :=
  ⟨"Desk", order, returns, order, false, .pooled fun _ _ => pure (Json.str "paid")⟩

/-- Files away what it is given. -/
def file : Slot Unit (Unit → Object → CommandResult → ChainProgram Unit) :=
  .pooled fun _ _ _ => pure ()

/-- Orders are declared without a result. -/
def calls (returns : TypeKey) : List (TypedCall Unit) :=
  [.declare ⟨order, .command, none⟩, .typed (cashier returns), .postHandler order file]

def descriptor (returns : TypeKey) : Descriptor Unit :=
  ⟨0, order, .command, none, some ((cashier returns).offer.signature order,
    (cashier returns).offer.handler), [], [], [file.map fun code => (⟨order, code⟩ :
      TypedPostHandler Unit).erase], [], true⟩

def registry (returns : TypeKey) : Registry Unit := .of [descriptor returns]

/-- The desk is the only candidate. -/
theorem elect_cashier (returns : TypeKey) : Election.elect .empty ⟨order, none, none⟩
    [(cashier returns).offer.signature order] = .ok (some 0) := by
  refine (Election.elect_some_iff .empty).mpr ⟨_, rfl, ?_, ?_⟩
  · simp [Election.isViable, Election.objection?, Hierarchy.isSubtype, Hierarchy.search,
      cashier, TypedOffer.offer, Offer.ofTyped, Offer.signature]
  · intro j b hj hb _
    rcases j with _ | j
    · exact absurd rfl hj
    · cases hb

theorem build_receipts (returns : TypeKey) :
    (ofTyped (calls returns)).build = .ok (registry returns) := by
  refine build_ok_iff.mpr ⟨⟨rfl, List.nodup_singleton _, ?offers, ?incoming, ?handling, ?post,
    ?event, ?owners⟩, rfl, rfl, rfl, ?fills⟩
  case offers | post => exact List.forall_mem_singleton.mpr rfl
  case incoming | handling | event | owners => exact List.forall_mem_nil _
  case fills =>
    refine List.forall_mem_singleton.mpr
      ⟨fun _ => ?_, fun hcommand => Bool.noConfusion hcommand, rfl, rfl, rfl, rfl, rfl⟩
    show (Election.elect .empty ⟨order, none, none⟩
      [(cashier returns).offer.signature order] >>= _) = _
    rw [elect_cashier]
    rfl

/-- A desk that returns nothing, as orders promise it. -/
theorem output_handed_on_nothing :
    (∀ call ∈ calls .unit, call.isTyped) ∧
      (ofTyped (calls .unit)).build = .ok (registry .unit) ∧
      (registry .unit).Executed placed .void ∧
      ∀ result, (registry .unit).Executed placed result → result = .void := by
  have htyped : ∀ call ∈ calls .unit, call.isTyped := by decide
  have hexecuted : (registry .unit).Executed placed .void := by
    obtain ⟨h, hends⟩ : ∃ h, Ends (executeRoot (.of (registry .unit) ())
        (perform (.of (registry .unit) ()) 1) 1 placed false).run [] h (.ok ⟨.void, []⟩) [] :=
      ⟨_, rfl⟩
    exact .root rfl hends
  refine ⟨htyped, build_receipts .unit, hexecuted, fun result hresult => ?_⟩
  have htype : placed.type.id = (descriptor .unit).type.id := rfl
  obtain ⟨-, houtput, -, hnothing⟩ :=
    output_handed_on htyped (build_receipts .unit) (List.mem_singleton_self _) htype
  refine hnothing (fun o hoffered _ => ?_) result (houtput result hresult).1
  simp only [calls, List.mem_cons, reduceCtorEq, TypedCall.typed.injEq, List.not_mem_nil, or_false,
    false_or] at hoffered
  rw [hoffered]
  rfl

/-- **A result that was not declared.**  Orders are declared without a result, and the typed desk
returns receipts all the same: the post-handler is given one, and so is who executes the order. -/
theorem undeclared_result :
    (∀ call ∈ calls receipt, call.isTyped) ∧
      (ofTyped (calls receipt)).build = .ok (registry receipt) ∧
      (∀ d ∈ (registry receipt).descriptors, d.kind = .command ∧ d.result = none) ∧
      (registry receipt).Executed placed (.of receipt (.str "paid")) ∧
      ∃ h, Ends (executeRoot (.of (registry receipt) ()) (perform (.of (registry receipt) ()) 1) 1
          placed false).run [] h (.ok ⟨.of receipt (.str "paid"), []⟩) [] ∧
        .postHandler placed 0 (.of receipt (.str "paid")) ∈ marks h := by
  obtain ⟨h, hends, hmark⟩ : ∃ h, Ends (executeRoot (.of (registry receipt) ())
      (perform (.of (registry receipt) ()) 1) 1 placed false).run [] h
        (.ok ⟨.of receipt (.str "paid"), []⟩) [] ∧
      .postHandler placed 0 (.of receipt (.str "paid")) ∈ marks h := ⟨_, rfl, by decide⟩
  refine ⟨by decide, build_receipts receipt, ?_, .root rfl hends, h, hends, hmark⟩
  exact List.forall_mem_singleton.mpr ⟨rfl, rfl⟩

end Receipts
end CommandEngine
