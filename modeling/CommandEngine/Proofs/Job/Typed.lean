import CommandEngine.Proofs.Chain.FinalEvents
import CommandEngine.Proofs.Chain.Protocol
import CommandEngine.Proofs.Job.Course
import CommandEngine.Proofs.Registry.Typed

/-!
# Typed dispatch is sound

Objects and results carry their types with them, and the engine passes them on without looking
inside.  Whoever registers typed code relies on two things.  The code is called for objects of its
own type only, so that its wrapper, which has to refuse any other, never does; and who executes a
command with a result gets a value of the type that was promised.

The first is said by comparing the registry with one whose wrappers treat other objects in any way
whatever: what happens over the two is the same in every chain and in every job, so the difference
between them is never met.  The second follows an execution down to its handler: a command that
returns was handled (`rawExecute_protocol`), by the handler that was elected for it, whose wrapper
returns its output (`ofOutput_of_rawExecute`), and the election keeps the promise
(`returns_promised`).
-/
namespace CommandEngine

/-- What the output of a typed handler is to who executes its command: nothing, if the handler
returns the type without values of interest, and otherwise a value of a type that leads up to the
one the command promises. -/
structure CommandResult.Keeps (pairs : List (TypeKey × TypeKey)) (output promised : TypeKey)
    (result : CommandResult) : Prop where
  nothing : output.id = TypeKey.unit.id → result = .void
  value : output.id ≠ TypeKey.unit.id → (∃ data, result = .of output data) ∧
    Relation.ReflTransGen (Hierarchy.Drawn pairs) output.id promised.id

namespace Chain

open Run

/-! ## Handlers that return -/

variable {D : Type} {env : Environment D} {answer : (q : ContextRequest) → OnStack q.Reply}
  {fs fs' : List Frame} {h : List Happening}

/-- Whatever a program returns that makes something of its last value has been made of one. -/
theorem ends_runProgram_map {α β : Type} {p : ChainProgram α} {g : α → β} {b : β}
    (hends : Ends (runProgram answer (p >>= fun a => pure (g a))).run fs h (.ok b) fs') :
    ∃ a, b = g a := by
  induction p generalizing fs h with
  | done outcome =>
    cases outcome with
    | ok a =>
      obtain ⟨-, hout, -⟩ := ends_pure.mp hends
      exact ⟨a, Except.ok.inj hout⟩
    | error e =>
      obtain ⟨-, hout, -⟩ := ends_pure.mp hends
      cases hout
  | ask q next ih =>
    obtain ⟨reply, mid, h₁, h₂, -, hrest, -⟩ := ends_bind.mp hends
    exact ih reply hrest

/-- A typed handler returns its output. -/
theorem ends_handler {refuse : Refusal} {accepts returns : TypeKey}
    {code : D → Object → ChainProgram Json} {services : D} {command : Object}
    {result : CommandResult}
    (hends : Ends (runProgram answer (refuse.handler accepts returns code services command)).run
      fs h (.ok result) fs') :
    ∃ data, result = CommandResult.ofOutput returns data := by
  unfold Refusal.handler at hends
  rw [← bind_assoc] at hends
  exact ends_runProgram_map hends

/-- What is made of typed code by a slot is in a wrapper. -/
theorem outcome_map {T S : Type} {slot : Slot D T} {f : T → S} {services : D} {service : S}
    (hservice : ((slot.map f).resolve services).outcome = .ok service) :
    ∃ code, service = f code := by
  rw [Slot.resolve_map] at hservice
  have hmap : (f <$> slot.resolve services).outcome = (slot.resolve services).outcome.map f := by
    show ((f <$> slot.resolve services).run).value = _
    rw [ExceptT.run_map]
    rfl
  rw [hmap] at hservice
  cases hcode : (slot.resolve services).outcome with
  | error e =>
    rw [hcode] at hservice
    cases hservice
  | ok code =>
    rw [hcode] at hservice
    exact ⟨code, (Except.ok.inj hservice).symm⟩

/-- A command whose handler returned was handled by it. -/
theorem Handling.exists_run {command : Object} {d : Descriptor D} {result : CommandResult}
    (hhandling : Handling env answer command d fs h (.ok result) fs') :
    ∃ signature slot handler h₁ mid, d.handler = some (signature, slot) ∧
      (slot.resolve env.services).outcome = .ok handler ∧
      Ends (runProgram answer (handler env.services command)).run fs h₁ (.ok result) mid := by
  generalize hout : (Except.ok result : Outcome CommandResult) = out at hhandling
  cases hhandling with
  | unresolved => cases hout
  | raised => cases hout
  | @returned signature slot handler h₁ h₂ returned posts mid _ hslot hresolve hrun hposts =>
    cases posts with
    | error e => cases hout
    | ok =>
      cases hout
      exact ⟨signature, slot, handler, h₁, mid, hslot, hresolve, hrun⟩

section Result
variable {command : Object} {d : Descriptor D} {signature : Candidate} {o : TypedOffer D}

theorem Admitted.found {validated : Bool} (hadmitted : Admitted env command d validated h) :
    env.registry.descriptorOf? command = some d := by
  cases hadmitted with
  | before hd => exact hd.found
  | valid hd => exact hd.found

/-- A command with a typed handler ends in the output of the handler. -/
theorem ofOutput_of_rawExecute {validated : Bool} {result : CommandResult}
    (hd : env.registry.descriptorOf? command = some d)
    (hhandler : d.handler = some (signature, o.offer.handler))
    (hends : Ends (rawExecute env answer command validated).run fs h (.ok result) fs') :
    ∃ data, result = CommandResult.ofOutput o.returns data := by
  rcases rawExecute_protocol hends with ⟨e, -, herror, -⟩ | ⟨d', h₁, h₂, hadmitted, hhandling, -⟩
  · cases herror
  · obtain rfl : d' = d := Option.some.inj (hadmitted.found.symm.trans hd)
    obtain ⟨signature', slot, handler, h₃, mid, hslot, hresolve, hrun⟩ := hhandling.exists_run
    rw [hhandler, ← o.wrapped_mismatch] at hslot
    cases hslot
    obtain ⟨code, rfl⟩ := outcome_map hresolve
    exact ends_handler hrun

end Result

/-- Of a nested command that returns, the result is that of the command. -/
theorem Closes.eq_ok {stop giveEvents : Bool} {depth : Nat} {mid : List Frame}
    {inner : Outcome CommandResult} {result : CommandResult} {events : List Object}
    (hclose : Closes stop giveEvents depth mid inner h (.ok (result, events)) fs') :
    inner = .ok result := by
  cases hclose with
  | withheld => rfl
  | joined => rfl

/-- A nested command that returns was executed on a frame of its own. -/
theorem exists_rawExecute_of_nested {command : Object} {stop giveEvents : Bool}
    {result : CommandResult} {events : List Object}
    (hends : Ends (executeNested env answer command stop giveEvents).run fs h
      (.ok (result, events)) fs') :
    ∃ mid h₁ left, Ends (rawExecute env answer command false).run mid h₁ (.ok result) left := by
  rcases ends_executeNested hends with
    ⟨-, -, hrefused, -⟩ | ⟨inner, mid, h₁, h₂, -, hraw, hclose, -⟩
  · cases hrefused
  · rw [hclose.eq_ok] at hraw
    exact ⟨_, h₁, mid, hraw⟩

/-- A root command that returns was executed on the root's frame. -/
theorem exists_rawExecute_of_root {limit : Nat} {command : Object} {validated : Bool}
    {outcome : ExecutionOutcome}
    (hends : Ends (executeRoot env answer limit command validated).run fs h (.ok outcome) fs') :
    ∃ mid h₁ left,
      Ends (rawExecute env answer command validated).run mid h₁ (.ok outcome.result) left := by
  rcases ends_executeRoot_parts hends with ⟨-, -, hrefused⟩ | ⟨h₁, raw, mid, -, hraw, hfinal⟩
  · cases hrefused
  · cases raw with
    | error e => cases hfinal.1
    | ok result =>
      obtain ⟨h₂, events, left, -, hout, -⟩ := hfinal
      cases events with
      | error e => cases hout
      | ok events =>
        cases hout
        exact ⟨_, h₁, mid, hraw⟩

end Chain

/-! ## Successful executions -/

section Executions
open Chain Run
variable {D : Type}

/-- The command is executed over the registry with this result: for a program in a chain, as the
root of a chain, or as a job. -/
inductive Registry.Executed (r : Registry D) (command : Object) (result : CommandResult) : Prop
  | nested {env : Environment D} {n : Nat} {fs fs' : List Frame} {h : List Happening}
      (hr : env.registry = r)
      (hends : Ends (perform env n (.execute command)) fs h (.ok result) fs')
  | withEvents {env : Environment D} {n : Nat} {stop : Bool} {events : List Object}
      {fs fs' : List Frame} {h : List Happening} (hr : env.registry = r)
      (hends : Ends (perform env n (.executeWithEvents command stop)) fs h
        (.ok (result, events)) fs')
  | root {env : Environment D} {n : Nat} {validated : Bool} {events : List Object}
      {fs fs' : List Frame} {h : List Happening} (hr : env.registry = r)
      (hends : Ends (executeRoot env (perform env n) n command validated).run fs h
        (.ok ⟨result, events⟩) fs')
  | job {party : String} {job : Job D} {h : List Happening} {run : JobRun}
      (hcommand : job.info.command = command) (hyields : Yields (Job.run r party job) h run)
      (hsuccess : run.result = .success result)

/-- A job that succeeds has executed its command as the root of a chain. -/
theorem Job.exists_root {r : Registry D} {party : String} {job : Job D} {h : List Happening}
    {run : JobRun} {result : CommandResult} (hyields : Yields (Job.run r party job) h run)
    (hsuccess : run.result = .success result) : ∃ services fs h₁ outcome,
      Ends (executeRoot (environment r party job services)
        (perform (environment r party job services) nestingLimit) nestingLimit job.info.command
        true).run [] h₁ (.ok outcome) fs ∧ outcome.result = result := by
  cases yields_run.mp hyields with
  | notCreated => cases hsuccess
  | @created _ _ out s _ hcourse =>
    cases hcourse with
    | notRestored | notValidated | notTold | rejected => cases hsuccess
    | @executed installed _ h₁ out _ _ _ _ _ hexecuted =>
      cases out with
      | error e => cases hsuccess
      | ok outcome =>
        obtain ⟨fs, hends, -⟩ := yields_executed.mp hexecuted
        exact ⟨installed, fs, h₁, outcome, hends, CallerResult.success.inj hsuccess⟩

theorem Registry.Executed.exists_rawExecute {r : Registry D} {command : Object}
    {result : CommandResult} (hexecuted : r.Executed command result) :
    ∃ (env : Environment D) (n : Nat) (validated : Bool) (fs : List Frame) (h : List Happening)
      (fs' : List Frame), env.registry = r ∧
      Ends (rawExecute env (perform env n) command validated).run fs h (.ok result) fs' := by
  cases hexecuted with
  | @nested env n _ _ _ hr hends =>
    cases n with
    | zero => exact absurd hends not_ends_failure
    | succ n =>
      obtain ⟨inner, hnested, hout⟩ := ends_execute.mp hends
      cases inner with
      | error e => cases hout
      | ok given =>
        obtain ⟨mid, h₁, left, hraw⟩ := exists_rawExecute_of_nested hnested
        cases hout
        exact ⟨env, n, false, mid, h₁, left, hr, hraw⟩
  | @withEvents env n _ _ _ _ _ hr hends =>
    cases n with
    | zero => exact absurd hends not_ends_failure
    | succ n =>
      obtain ⟨mid, h₁, left, hraw⟩ := exists_rawExecute_of_nested hends
      exact ⟨env, n, false, mid, h₁, left, hr, hraw⟩
  | @root env n validated _ _ _ _ hr hends =>
    obtain ⟨mid, h₁, left, hraw⟩ := exists_rawExecute_of_root hends
    exact ⟨env, n, validated, mid, h₁, left, hr, hraw⟩
  | job hcommand hyields hsuccess =>
    obtain ⟨services, fs, h₁, outcome, hends, rfl⟩ := Job.exists_root hyields hsuccess
    obtain ⟨mid, h₂, left, hraw⟩ := exists_rawExecute_of_root hends
    rw [hcommand] at hraw
    exact ⟨_, nestingLimit, true, mid, h₂, left, rfl, hraw⟩

/-! ## Soundness -/

/-- **Typed dispatch is sound.**  Whatever the wrappers of the engine do with objects of other types
than their own, the registry is built and the same happens in all chains and jobs over it, so none
of them ever comes to refuse an object.  And a command whose elected handler is typed ends, if it is
executed successfully, in the output of the handler, which is of the type that the command promises
or of one that is declared below it. -/
theorem typed_dispatch_sound {calls : List (TypedCall D)} {r : Registry D}
    (hbuild : (RegistryBuilder.ofTyped calls).build = .ok r) :
    (∀ refuse : Refusal, ∃ r', (RegistryBuilder.refusing refuse calls).build = .ok r' ∧
      (∀ env : Environment D, env.registry = r → ∀ n,
        perform (env.withRegistry r') n = perform env n ∧ ∀ command validated,
          executeRoot (env.withRegistry r') (perform (env.withRegistry r') n) n command validated =
            executeRoot env (perform env n) n command validated) ∧
      ∀ party job, Job.process r' party job = Job.process r party job) ∧
    ∀ d ∈ r.descriptors, ∀ (o : TypedOffer D) promised, d.result = some promised →
      d.handler = some (o.offer.signature d.type, o.offer.handler) →
      ∀ command result, command.type.id = d.type.id → r.Executed command result →
        result.Keeps (RegistryBuilder.ofTyped calls).supertypes o.returns promised := by
  refine ⟨fun refuse => ?_, ?_⟩
  · rw [← RegistryBuilder.refusing_mismatch] at hbuild
    obtain ⟨r', hbuild'⟩ := RegistryBuilder.exists_build_refusing hbuild refuse
    have hlike := RegistryBuilder.servesLike_refusing hbuild hbuild'
    refine ⟨r', hbuild', ?_, fun party job => Job.process_exchange hlike party job⟩
    rintro env rfl n
    rw [perform_exchange hlike]
    exact ⟨rfl, fun command validated => executeRoot_exchange hlike n command validated⟩
  · intro d hd o promised hpromised hhandler command result htype hexecuted
    obtain ⟨env, n, validated, fs, h, fs', rfl, hraw⟩ := hexecuted.exists_rawExecute
    have hfound := (RegistryBuilder.descriptor?_eq_some_iff hbuild).mpr ⟨hd, htype.symm⟩
    obtain ⟨data, rfl⟩ := ofOutput_of_rawExecute hfound hhandler hraw
    have hbelow := RegistryBuilder.returns_promised hbuild hd hpromised hhandler
    exact ⟨fun hunit => if_pos hunit, fun hvalue => ⟨⟨data, if_neg hvalue⟩, hbelow⟩⟩

end Executions

/-! ### A counter -/

namespace Counter
open RegistryBuilder Chain

def order : TypeKey := ⟨"Order", "shop::Order"⟩

def business : TypeKey := ⟨"Business", "shop::Business"⟩

def receipt : TypeKey := ⟨"Receipt", "shop::Receipt"⟩

def document : TypeKey := ⟨"Document", "shop::Document"⟩

/-- The desk is written for orders and returns receipts. -/
def desk : TypedOffer Unit :=
  ⟨"Desk", order, receipt, order, false, .pooled fun _ _ => pure (Json.str "paid")⟩

/-- The office takes any business, and whatever it is given. -/
def office : Offer Unit := ⟨"Office", "handle", some business, document, true,
  .pooled fun _ _ => pure (CommandResult.of document .null)⟩

/-- Orders are a part of all business and promise a document. -/
def calls : List (TypedCall Unit) :=
  [.declare ⟨order, .commandWithResult, some document⟩, .supertype order business,
    .supertype receipt document, .candidate order office, .typed desk]

def registry : Registry Unit where
  descriptors := [⟨0, order, .commandWithResult, some document,
    some (desk.offer.signature order, desk.offer.handler), [], [], [], [], true⟩]
  byType := [("Order", 0)]
  hierarchy := ⟨[("Order", ["Business"]), ("Receipt", ["Document"])]⟩
  provider := none

theorem declare_order : Hierarchy.empty.declare order business =
    .ok ⟨[("Order", ["Business"])]⟩ := by
  simp [Hierarchy.declare, Hierarchy.isSubtype, Hierarchy.search, Hierarchy.direct,
    Hierarchy.empty, Hierarchy.insert, order, business]

theorem declare_receipt : Hierarchy.declare ⟨[("Order", ["Business"])]⟩ receipt document =
    .ok registry.hierarchy := by
  simp [Hierarchy.declare, Hierarchy.isSubtype, Hierarchy.search, Hierarchy.direct,
    Hierarchy.insert, receipt, document, registry]

/-- The desk beats the office, which is not closed. -/
theorem elect_desk : Election.elect registry.hierarchy ⟨order, some document, none⟩
    [office.signature order, desk.offer.signature order] = .ok (some 1) := by
  have hdeclared : registry.hierarchy.Declared :=
    .declare (.declare .empty declare_order) declare_receipt
  refine (Election.elect_some_iff hdeclared).mpr ⟨_, rfl, ?_, ?_⟩
  · simp [Election.isViable, Election.objection?, Hierarchy.isSubtype, Hierarchy.search,
      Hierarchy.direct, desk, TypedOffer.offer, Offer.ofTyped, Offer.signature, registry, document,
      receipt]
  · intro j b hj hb _
    rcases j with _ | _ | j
    · obtain rfl := Option.some.inj hb
      rfl
    · exact absurd rfl hj
    · cases hb

theorem build_calls : (ofTyped calls).build = .ok registry := by
  refine build_ok_iff.mpr ⟨⟨?hierarchy, ?distinct, ?offers, ?incoming, ?handling, ?post, ?event,
    ?owners⟩, rfl, rfl, rfl, ?fills⟩
  case hierarchy =>
    show (Hierarchy.empty.declare order business >>= fun h => h.declare receipt document >>=
      fun h => pure h) = _
    rw [declare_order]
    show (Hierarchy.declare _ receipt document >>= fun h => pure h) = _
    rw [declare_receipt]
    rfl
  case distinct => exact List.nodup_singleton _
  case offers => exact List.forall_mem_cons.mpr ⟨rfl, List.forall_mem_singleton.mpr rfl⟩
  case incoming | handling | post | event | owners => exact List.forall_mem_nil _
  case fills =>
    refine List.forall_mem_singleton.mpr
      ⟨fun _ => ?_, fun hcommand => absurd hcommand (by decide), rfl, rfl, rfl, rfl, rfl⟩
    show (Election.elect registry.hierarchy ⟨order, some document, none⟩
      [office.signature order, desk.offer.signature order] >>= _) = _
    rw [elect_desk]
    rfl

/-- An order. -/
def placed : Object := .fresh ⟨order, false, 1, ""⟩

theorem placed_executed : registry.Executed placed (.of receipt (.str "paid")) := by
  obtain ⟨h, hends⟩ : ∃ h, Ends (executeRoot (.of registry ()) (perform (.of registry ()) 1) 1
      placed false).run [] h (.ok ⟨.of receipt (.str "paid"), []⟩) [] := ⟨_, rfl⟩
  exact .root rfl hends

/-- **A counter** at which a typed handler competes with one that takes any business: whatever
wrappers do with other objects, the order is paid all the same, and who executes it gets a receipt.
-/
theorem typed_dispatch_sound_counter :
    (ofTyped calls).build = .ok registry ∧ registry.Executed placed (.of receipt (.str "paid")) ∧
    (∀ refuse : Refusal, ∃ r', (refusing refuse calls).build = .ok r') ∧
    ∀ result, registry.Executed placed result →
      result.Keeps [(order, business), (receipt, document)] receipt document := by
  obtain ⟨hrefusals, hkeeps⟩ := typed_dispatch_sound build_calls
  refine ⟨build_calls, placed_executed, fun refuse => ?_, fun result hexecuted => ?_⟩
  · obtain ⟨r', hbuild', -⟩ := hrefusals refuse
    exact ⟨r', hbuild'⟩
  · exact hkeeps _ (List.mem_singleton_self _) desk document rfl rfl placed result rfl hexecuted

end Counter
end CommandEngine
