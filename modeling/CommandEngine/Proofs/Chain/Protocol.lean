import CommandEngine.Proofs.Chain.Callers
import CommandEngine.Proofs.Chain.FinalEvents
import CommandEngine.Proofs.Chain.Validated

/-!
# The protocol of a command

What happens between the opening of a command's frame and its closing has a fixed order, and it is
the same for the root command and for the nested ones, however deep.  Either the command is barred
(`Barred`): it has no handler, or its handling validation did not accept it.  Then nothing but
validators was called on its behalf.  Or it is admitted (`Admitted`) and handled (`Handling`): its
handler runs, and then its post-handlers, each given the result of the handler, up to the first that
does not return (`PostHandling`).  What the command returns is the result of the handler.

The histories of these parts are put together without gaps.  All else that happens during a command
happens within the run of one of its programs, and the commands that such a program executes have
protocols of their own.

A nested command is always validated.  Only a root command can be executed without it, by who has
validated it before.
-/
namespace CommandEngine
namespace Chain

open Validation

variable {D : Type} {env : Environment D} {answer : (q : ContextRequest) → OnStack q.Reply}
  {command : Object} {d : Descriptor D}

/-! ## Before the handler -/

/-- The command does not get to its handler: the history of finding this out, and what is raised. -/
inductive Barred (env : Environment D) (command : Object) : (validated : Bool) →
    List Happening → Raise → Prop where
  | unknown {validated : Bool} (hunknown : env.registry.descriptorOf? command = none) :
    Barred env command validated [] (EngineError.unknownType command.type.name : Raise)
  | notCommand {validated : Bool} {d : Descriptor D}
    (hfound : env.registry.descriptorOf? command = some d) (hkind : d.kind.isCommand = false) :
    Barred env command validated []
      (EngineError.kindMismatch d.type.name "command" d.kind : Raise)
  | unhandled {validated : Bool} {d : Descriptor D}
    (hfound : env.registry.descriptorOf? command = some d) (hkind : d.kind.isCommand = true)
    (hnone : d.handler = none) :
    Barred env command validated [] (EngineError.noHandler d.type.name : Raise)
  /-- A validator did not return.  What was recorded until then does not matter. -/
  | broken {d : Descriptor D} {h : List Happening} {e : Raise} {s : ValidationState}
    (hd : Handled env command d)
    (hcalls : Calls env.registry env.services .handling env.token command
      d.handlingValidators.zipIdx start h (.error e) s) :
    Barred env command false h e
  /-- All validators returned, and an error is among the messages that they recorded. -/
  | rejected {d : Descriptor D} {h : List Happening} {s : ValidationState} {m : UserMessage}
    (hd : Handled env command d)
    (hcalls : Calls env.registry env.services .handling env.token command
      d.handlingValidators.zipIdx start h (.ok ()) s)
    (hm : m ∈ s.collector.messages) (herror : m.isError = true) :
    Barred env command false
      (h ++ [.log (.validationFailed env.token .handling command.type.name
        (s.collector.messages.filter (·.isError)).length)])
      (EngineError.validationFailed d.type.name
        ⟨s.collector.messages, false, some env.token.text⟩ : Raise)

/-- The command gets to its handler: it was validated before, or all its validators returned and
recorded no error. -/
inductive Admitted (env : Environment D) (command : Object) (d : Descriptor D) :
    (validated : Bool) → List Happening → Prop where
  | before (hd : Handled env command d) : Admitted env command d true []
  | valid {h : List Happening} {s : ValidationState} (hd : Handled env command d)
    (hcalls : Calls env.registry env.services .handling env.token command
      d.handlingValidators.zipIdx start h (.ok ()) s)
    (hclean : ∀ m ∈ s.collector.messages, m.isError = false) :
    Admitted env command d false h

/-- Nothing but validators is called for a command that is barred. -/
theorem Barred.validating {validated : Bool} {h : List Happening} {e : Raise}
    (hbarred : Barred env command validated h e) : ∀ m ∈ marks h, m.isValidating := by
  cases hbarred with
  | unknown => exact nofun
  | notCommand => exact nofun
  | unhandled => exact nofun
  | broken _ hcalls => exact (hcalls.validates Collector.counted_empty).1
  | rejected _ hcalls =>
    rw [marks_append, List.forall_mem_append]
    exact ⟨(hcalls.validates Collector.counted_empty).1, nofun⟩

/-- So is it for a command that is admitted, until it is. -/
theorem Admitted.validating {validated : Bool} {h : List Happening}
    (hadmitted : Admitted env command d validated h) : ∀ m ∈ marks h, m.isValidating := by
  cases hadmitted with
  | before => exact nofun
  | valid _ hcalls _ => exact (hcalls.validates Collector.counted_empty).1

/-- Every validator of a command that is admitted was called once, and in order. -/
theorem Admitted.validators {h : List Happening} (hadmitted : Admitted env command d false h) :
    validatorCalls h = d.handlingValidators.zipIdx.map fun slot =>
      .validator .handling command.type.name slot.2 := by
  cases hadmitted with
  | valid _ hcalls _ =>
    obtain ⟨k, hvalidators, hall⟩ := hcalls.validators
    rw [hvalidators, hall rfl, List.take_length]

/-! ## The handler and what follows it -/

/-- The signs made when a service is obtained. -/
def resolving {T : Type} (env : Environment D) (slot : Slot D T) : List Happening :=
  (Account.act (slot.resolve env.services)).history

/-- The post-handlers run one after the other, each given the result, up to the first that does not
return. -/
inductive PostHandling (env : Environment D) (answer : (q : ContextRequest) → OnStack q.Reply)
    (command : Object) (result : CommandResult) : List (Slot D (PostHandler D) × Nat) →
      List Frame → List Happening → Outcome Unit → List Frame → Prop where
  | none (fs : List Frame) : PostHandling env answer command result [] fs [] (.ok ()) fs
  | unresolved {slot : Slot D (PostHandler D)} {index : Nat}
    {rest : List (Slot D (PostHandler D) × Nat)} {fs : List Frame} {e : Raise}
    (hresolve : (slot.resolve env.services).outcome = .error e) :
    PostHandling env answer command result ((slot, index) :: rest) fs (resolving env slot)
      (.error e) fs
  | raised {slot : Slot D (PostHandler D)} {post : PostHandler D} {index : Nat}
    {rest : List (Slot D (PostHandler D) × Nat)} {fs fs' : List Frame} {h : List Happening}
    {e : Raise} (hresolve : (slot.resolve env.services).outcome = .ok post)
    (hrun : Ends (runProgram answer (post env.services command result)).run fs h (.error e) fs') :
    PostHandling env answer command result ((slot, index) :: rest) fs
      (resolving env slot ++ .mark (.postHandler command index result) :: h) (.error e) fs'
  | next {slot : Slot D (PostHandler D)} {post : PostHandler D} {index : Nat}
    {rest : List (Slot D (PostHandler D) × Nat)} {fs mid fs' : List Frame}
    {h₁ h₂ : List Happening} {out : Outcome Unit}
    (hresolve : (slot.resolve env.services).outcome = .ok post)
    (hrun : Ends (runProgram answer (post env.services command result)).run fs h₁ (.ok ()) mid)
    (hrest : PostHandling env answer command result rest mid h₂ out fs') :
    PostHandling env answer command result ((slot, index) :: rest) fs
      (resolving env slot ++ .mark (.postHandler command index result) :: (h₁ ++ h₂)) out fs'

/-- The handler of an admitted command runs, and then its post-handlers. -/
inductive Handling (env : Environment D) (answer : (q : ContextRequest) → OnStack q.Reply)
    (command : Object) (d : Descriptor D) (fs : List Frame) :
      List Happening → Outcome CommandResult → List Frame → Prop where
  | unresolved {signature : Candidate} {slot : Slot D (Handler D)} {e : Raise}
    (hslot : d.handler = some (signature, slot))
    (hresolve : (slot.resolve env.services).outcome = .error e) :
    Handling env answer command d fs (resolving env slot) (.error e) fs
  | raised {signature : Candidate} {slot : Slot D (Handler D)} {handler : Handler D}
    {h : List Happening} {e : Raise} {fs' : List Frame}
    (hslot : d.handler = some (signature, slot))
    (hresolve : (slot.resolve env.services).outcome = .ok handler)
    (hrun : Ends (runProgram answer (handler env.services command)).run fs h (.error e) fs') :
    Handling env answer command d fs (resolving env slot ++ .mark (.handler command) :: h)
      (.error e) fs'
  | returned {signature : Candidate} {slot : Slot D (Handler D)} {handler : Handler D}
    {h₁ h₂ : List Happening} {result : CommandResult} {out : Outcome Unit} {mid fs' : List Frame}
    (hslot : d.handler = some (signature, slot))
    (hresolve : (slot.resolve env.services).outcome = .ok handler)
    (hrun : Ends (runProgram answer (handler env.services command)).run fs h₁ (.ok result) mid)
    (hposts : PostHandling env answer command result d.postHandlers.zipIdx mid h₂ out fs') :
    Handling env answer command d fs
      (resolving env slot ++ .mark (.handler command) :: (h₁ ++ h₂)) (out.map fun _ => result) fs'

section Execution
variable {fs fs' : List Frame} {h : List Happening}

theorem callPostHandlers_postHandling {result : CommandResult}
    {slots : List (Slot D (PostHandler D) × Nat)} {out : Outcome Unit}
    (hends : Ends (callPostHandlers env answer command result slots).run fs h out fs') :
    PostHandling env answer command result slots fs h out fs' := by
  induction slots generalizing fs h with
  | nil =>
    obtain ⟨rfl, rfl, rfl⟩ := ends_pure_run.mp hends
    exact .none _
  | cons slot rest ih =>
    unfold callPostHandlers at hends
    rcases ends_bind_run.mp hends with ⟨e, hact, rfl⟩ | ⟨post, mid, h₁, h₂, hact, hcall, rfl⟩
    · obtain ⟨rfl, houtcome, rfl⟩ := ends_act.mp hact
      exact .unresolved houtcome.symm
    · obtain ⟨rfl, houtcome, rfl⟩ := ends_act.mp hact
      obtain ⟨h₃, hrun, rfl⟩ := ends_mark_bind.mp hcall
      rcases ends_bind_run.mp hrun with ⟨e, hpost, rfl⟩ | ⟨_, mid, h₄, h₅, hpost, hrest, rfl⟩
      · exact .raised houtcome.symm hpost
      · exact .next houtcome.symm hpost (ih hrest)

/-- Behind its validation, a command is handled. -/
theorem Handled.handling (hd : Handled env command d) {out : Outcome CommandResult}
    (hends : Ends (Chain.rawExecute env answer command true).run fs h out fs') :
    Handling env answer command d fs h out fs' := by
  obtain ⟨⟨signature, slot⟩, hslot⟩ := Option.isSome_iff_exists.mp hd.handler
  unfold Chain.rawExecute at hends
  rw [hd.require, pure_bind, if_pos hd.kind, hslot] at hends
  dsimp only at hends
  rcases ends_bind_run.mp hends with ⟨e, hact, rfl⟩ | ⟨handler, mid, h₁, h₂, hact, hcall, rfl⟩
  · obtain ⟨rfl, houtcome, rfl⟩ := ends_act.mp hact
    exact .unresolved hslot houtcome.symm
  · obtain ⟨rfl, houtcome, rfl⟩ := ends_act.mp hact
    obtain ⟨h₃, hrun, rfl⟩ := ends_mark_bind.mp hcall
    rcases ends_bind_run.mp hrun with
      ⟨e, hhandler, rfl⟩ | ⟨result, mid, h₄, h₅, hhandler, hposts, rfl⟩
    · exact .raised hslot houtcome.symm hhandler
    · rcases ends_bind_run.mp hposts with ⟨e, hpost, rfl⟩ | ⟨_, mid, h₆, h₇, hpost, hpure, rfl⟩
      · exact .returned hslot houtcome.symm hhandler (callPostHandlers_postHandling hpost)
      · obtain ⟨rfl, rfl, rfl⟩ := ends_pure_run.mp hpure
        rw [List.append_nil]
        exact .returned hslot houtcome.symm hhandler (callPostHandlers_postHandling hpost)

/-- What the handling validation of a command with a handler lets through, and what it does not. -/
theorem Handled.barred_or_admitted (hd : Handled env command d) :
    (∃ e, Validation.accepting d.type.name (validation env command).value = .error e ∧
      Barred env command false (validation env command).history e) ∨
    (Validation.accepting d.type.name (validation env command).value = .ok () ∧
      Admitted env command d false (validation env command).history) := by
  have hfound : env.registry.require command = .ok d := by
    rw [Registry.require, hd.found]
  have hjudges : Judges env.registry env.services env.token command d.handlingValidators
      (validation env command).history (validation env command).value := handling_judges hfound
  generalize (validation env command).history = h at hjudges
  generalize (validation env command).value = out at hjudges
  cases hjudges with
  | raised hcalls => exact .inl ⟨_, rfl, .broken hd hcalls⟩
  | accepted hcalls hclean => exact .inr ⟨rfl, .valid hd hcalls hclean⟩
  | rejected hcalls hm herror => exact .inl ⟨_, rfl, .rejected hd hcalls hm herror⟩

/-- **The execution of a command**, on its own frame: it is barred, or admitted and handled. -/
theorem rawExecute_protocol {validated : Bool} {out : Outcome CommandResult}
    (hends : Ends (rawExecute env answer command validated).run fs h out fs') :
    (∃ e, Barred env command validated h e ∧ out = .error e ∧ fs' = fs) ∨
    ∃ d h₁ h₂, Admitted env command d validated h₁ ∧
      Handling env answer command d fs h₂ out fs' ∧ h = h₁ ++ h₂ := by
  by_cases hhandled : ∃ d, Handled env command d
  · obtain ⟨d, hd⟩ := hhandled
    cases validated with
    | true => exact .inr ⟨d, [], h, .before hd, hd.handling hends, rfl⟩
    | false =>
      rw [hd.rawExecute] at hends
      rcases ends_bind_run.mp hends with
        ⟨e, hvalidate, rfl⟩ | ⟨_, mid, h₁, h₂, hvalidate, hrest, rfl⟩
      · obtain ⟨rfl, haccepting, rfl⟩ := ends_validate.mp hvalidate
        rcases hd.barred_or_admitted with ⟨e', haccepting', hbarred⟩ | ⟨haccepting', -⟩
        · rw [haccepting'] at haccepting
          cases haccepting
          exact .inl ⟨_, hbarred, rfl, rfl⟩
        · rw [haccepting'] at haccepting
          cases haccepting
      · obtain ⟨rfl, haccepting, rfl⟩ := ends_validate.mp hvalidate
        rcases hd.barred_or_admitted with ⟨e', haccepting', -⟩ | ⟨-, hadmitted⟩
        · rw [haccepting'] at haccepting
          cases haccepting
        · exact .inr ⟨d, _, h₂, hadmitted, hd.handling hrest, rfl⟩
  · -- without a handler, the checks before the validation raise something
    refine .inl ?_
    unfold Chain.rawExecute at hends
    cases hfound : env.registry.descriptorOf? command with
    | none =>
      rw [require_of_unknown hfound] at hends
      obtain ⟨rfl, rfl, rfl⟩ := ends_throw_bind.mp hends
      exact ⟨_, .unknown hfound, rfl, rfl⟩
    | some d =>
      rw [require_of_found hfound, pure_bind] at hends
      by_cases hkind : d.kind.isCommand = true
      · rw [if_pos hkind] at hends
        cases hhandler : d.handler with
        | none =>
          rw [hhandler] at hends
          obtain ⟨rfl, rfl, rfl⟩ := ends_throw_run.mp hends
          exact ⟨_, .unhandled hfound hkind hhandler, rfl, rfl⟩
        | some elected =>
          exact absurd ⟨d, hfound, hkind, hhandler ▸ rfl⟩ hhandled
      · rw [if_neg hkind] at hends
        obtain ⟨rfl, rfl, rfl⟩ := ends_throw_bind.mp hends
        exact ⟨_, .notCommand hfound (Bool.eq_false_iff.mpr hkind), rfl, rfl⟩

end Execution

/-! ## The whole of it -/

/-- A command is executed: nested in a chain or as its root, by a request of a program at some depth
of nesting, or else by who has validated it before. -/
inductive Executes (env : Environment D) (command : Object) : (validated : Bool) →
    List Frame → List Happening → Outcome CommandResult → List Frame → Prop where
  | execute {n : Nat} {fs fs' : List Frame} {h : List Happening} {out : Outcome CommandResult}
    (hne : fs ≠ []) (hends : Ends (perform env n (.execute command)) fs h out fs') :
    Executes env command false fs h out fs'
  | executeWithEvents {n : Nat} {stop : Bool} {fs fs' : List Frame} {h : List Happening}
    {out : Outcome (CommandResult × List Object)} (hne : fs ≠ [])
    (hends : Ends (perform env n (.executeWithEvents command stop)) fs h out fs') :
    Executes env command false fs h (out.map Prod.fst) fs'
  | executeRoot {n : Nat} {h : List Happening} {out : Outcome ExecutionOutcome} {fs' : List Frame}
    (hends : Ends (perform env n (.executeRoot command)) [] h out fs') :
    Executes env command false [] h (out.map (·.result)) fs'
  | executeValidated {n limit : Nat} {h : List Happening} {out : Outcome ExecutionOutcome}
    {fs' : List Frame}
    (hends : Ends (executeRoot env (perform env n) limit command true).run [] h out fs') :
    Executes env command true [] h (out.map (·.result)) fs'

/-- What follows on the command's own execution, what the caller is given, and the frames after it;
`fs` are the caller's frames, and `mid` those that the execution left.  The frame of a nested command
is closed, or left to who contains the panic, and the caller gets what the execution ended in.  So
does the caller of a root command that raised something; when it returned, the final events are
dispatched, and what this raises goes before the result. -/
inductive Aftermath (env : Environment D) (answer : (q : ContextRequest) → OnStack q.Reply) :
    (fs : List Frame) → Outcome CommandResult → (mid : List Frame) → List Happening →
      Outcome CommandResult → List Frame → Prop where
  | left {fs : List Frame} (hne : fs ≠ []) (p : Panic) (mid : List Frame) :
    Aftermath env answer fs (.error (.panic p)) mid [] (.error (.panic p)) mid
  | failed {fs : List Frame} (hne : fs ≠ []) (f : Failure) (mid : List Frame) :
    Aftermath env answer fs (.error (.failure f)) mid [.mark (.closed .failed)]
      (.error (.failure f)) (mid.take fs.length)
  | withheld {fs : List Frame} (hne : fs ≠ []) (result : CommandResult) (mid : List Frame) :
    Aftermath env answer fs (.ok result) mid [.mark (.closed .withheld)] (.ok result)
      (mid.take fs.length)
  /-- The events that wait on the command's frame join those of the caller. -/
  | joined {fs : List Frame} (hne : fs ≠ []) (result : CommandResult) (mid : List Frame) :
    Aftermath env answer fs (.ok result) mid [.mark (.closed .joined)] (.ok result)
      (joinTop ((mid[fs.length]?.map (·.pending)).getD []) (mid.take fs.length))
  | ended (e : Raise) (mid : List Frame) :
    Aftermath env answer [] (.error e) mid [.mark .ended] (.error e) []
  | dispatched {result : CommandResult} {limit : Nat} {mid left : List Frame}
    {h : List Happening} {events : Outcome (List Object)}
    (hdispatch : Ends (finalDispatch env answer limit (rootEvents mid)).run (emptyRoot mid) h events
      left) :
    Aftermath env answer [] (.ok result) mid (h ++ [.mark .ended]) (events.map fun _ => result) []

/-- **The protocol of a command**, from the opening of its frame on. -/
inductive Follows (env : Environment D) (answer : (q : ContextRequest) → OnStack q.Reply)
    (command : Object) (validated : Bool) (fs : List Frame) :
      List Happening → Outcome CommandResult → List Frame → Prop where
  /-- Nothing but validators was called, no event waits on the command's frame, and the frames of the
  caller are as they were. -/
  | barred {body rest : List Happening} {e : Raise} {fs' : List Frame}
    (hbarred : Barred env command validated body e)
    (hvalidating : ∀ m ∈ marks body, m.isValidating)
    (hrest : Aftermath env answer fs (.error e) (fs ++ [⟨command, []⟩]) rest (.error e) fs')
    (hkept : fs <+: fs') :
    Follows env answer command validated fs (.mark (.opened command) :: (body ++ rest)) (.error e)
      fs'
  /-- The validators were called, each once and in order, and then the handler and the
  post-handlers. -/
  | handled {d : Descriptor D} {before body rest : List Happening}
    {inner out : Outcome CommandResult} {mid fs' : List Frame}
    (hadmitted : Admitted env command d validated before)
    (hvalidators : validated = false → validatorCalls before =
      d.handlingValidators.zipIdx.map fun slot => .validator .handling command.type.name slot.2)
    (hhandling : Handling env answer command d (fs ++ [⟨command, []⟩]) body inner mid)
    (hrest : Aftermath env answer fs inner mid rest out fs') :
    Follows env answer command validated fs
      (.mark (.opened command) :: (before ++ body ++ rest)) out fs'

section Follows
variable {fs mid fs' : List Frame} {h body rest : List Happening}
  {inner out : Outcome CommandResult} {validated : Bool}

/-- A nested command that has a caller ends in what its own execution ended in. -/
theorem Closes.aftermath {stop giveEvents : Bool} {given : Outcome (CommandResult × List Object)}
    (hne : fs ≠ []) (hdeep : fs.length ≤ mid.length)
    (hclose : Closes stop giveEvents fs.length mid inner h given fs') :
    Aftermath env answer fs inner mid h (given.map Prod.fst) fs' := by
  cases hclose with
  | panicked p => exact .left hne p _
  | failed f => exact .failed hne f _
  | withheld result => exact .withheld hne result _
  | joined result => exact .joined hne result _
  | orphaned _ _ hempty => exact absurd hempty (take_ne_nil hne hdeep)

/-- A command that raises something on a frame of its own leaves the frames below as they were. -/
theorem Aftermath.kept {f : Frame} {e : Raise}
    (hrest : Aftermath env answer fs (.error e) (fs ++ [f]) rest out fs') : fs <+: fs' := by
  cases hrest with
  | left => exact List.prefix_append ..
  | failed => exact (List.take_left ..).symm ▸ List.prefix_rfl
  | ended => exact List.prefix_rfl

/-- A raise goes through the aftermath as it is. -/
theorem Aftermath.raised {e : Raise}
    (hrest : Aftermath env answer fs (.error e) mid rest out fs') : out = .error e := by
  cases hrest with
  | left => rfl
  | failed => rfl
  | ended => rfl

/-- An execution on the command's own frame and its aftermath make up the protocol. -/
theorem follows_of_rawExecute
    (hraw : Ends (rawExecute env answer command validated).run (fs ++ [⟨command, []⟩]) body inner
      mid)
    (hrest : Aftermath env answer fs inner mid rest out fs') :
    Follows env answer command validated fs (.mark (.opened command) :: (body ++ rest)) out
      fs' := by
  rcases rawExecute_protocol hraw with
    ⟨e, hbarred, rfl, rfl⟩ | ⟨d, h₁, h₂, hadmitted, hhandling, rfl⟩
  · obtain rfl := hrest.raised
    exact .barred hbarred hbarred.validating hrest hrest.kept
  · refine .handled hadmitted ?_ hhandling hrest
    rintro rfl
    exact hadmitted.validators

theorem executeNested_follows {n : Nat} {stop giveEvents : Bool}
    {given : Outcome (CommandResult × List Object)} (hne : fs ≠ [])
    (hends : Ends (executeNested env (perform env n) command stop giveEvents).run fs h given fs') :
    Follows env (perform env n) command false fs h (given.map Prod.fst) fs' := by
  rcases ends_executeNested hends with ⟨hnone, -⟩ | ⟨inner, mid, body, rest, -, hraw, hclose, rfl⟩
  · exact absurd hnone hne
  have hdeep := (extending_rawExecute (extends_perform n) command false hraw).length_le
  rw [List.length_append] at hdeep
  rw [List.singleton_append]
  exact follows_of_rawExecute hraw (hclose.aftermath hne (by omega))

theorem executeRoot_follows {n limit : Nat} {given : Outcome ExecutionOutcome}
    (hends : Ends (executeRoot env (perform env n) limit command validated).run [] h given fs') :
    Follows env (perform env n) command validated [] h (given.map (·.result)) fs' := by
  obtain rfl : fs' = [] := by
    rcases ends_executeRoot.mp hends with ⟨-, -, -, hcleared⟩ | ⟨_, _, -, -, -, hcleared⟩
    · exact hcleared
    · exact hcleared
  rcases ends_executeRoot_parts hends with ⟨hactive, -⟩ | ⟨body, inner, mid, -, hraw, hparts⟩
  · exact absurd rfl hactive
  obtain ⟨rest, hrest, rfl⟩ : ∃ rest,
      Aftermath env (perform env n) [] inner mid rest (given.map (·.result)) [] ∧
        h = .mark (.opened command) :: (body ++ rest) := by
    cases inner with
    | error e =>
      obtain ⟨rfl, rfl⟩ := hparts
      exact ⟨_, .ended e mid, rfl⟩
    | ok result =>
      obtain ⟨h₂, events, left, hdispatch, rfl, rfl⟩ := hparts
      have hgiven : (events.map (ExecutionOutcome.mk result)).map (·.result) =
          events.map fun _ => result := by
        cases events <;> rfl
      rw [hgiven]
      exact ⟨_, .dispatched hdispatch, by rw [List.cons_append, List.append_assoc]⟩
  exact follows_of_rawExecute hraw hrest

/-- **Every command follows the protocol**, whatever the application code is: the root command and
every nested one, at any depth, whether a handler, a post-handler or an event handler executes it.
Only the commands whose executor has validated them before are not validated. -/
theorem executes_follows (hexecutes : Executes env command validated fs h out fs') :
    ∃ n, Follows env (perform env n) command validated fs h out fs' := by
  cases hexecutes with
  | @execute n _ _ _ _ hne hends =>
    cases n with
    | zero => exact absurd hends not_ends_failure
    | succ n =>
      have hmapped : Ends (Prod.fst <$> executeNested env (perform env n) command false false).run
        fs h out fs' := hends
      rw [← bind_pure_comp] at hmapped
      obtain ⟨inner, hnested, rfl⟩ := ends_bind_pure.mp hmapped
      exact ⟨n, executeNested_follows hne hnested⟩
  | @executeWithEvents n _ _ _ _ _ hne hends =>
    cases n with
    | zero => exact absurd hends not_ends_failure
    | succ n => exact ⟨n, executeNested_follows hne hends⟩
  | @executeRoot n _ _ _ hends =>
    cases n with
    | zero => exact absurd hends not_ends_failure
    | succ n => exact ⟨n, executeRoot_follows hends⟩
  | @executeValidated n _ _ _ _ hends => exact ⟨n, executeRoot_follows hends⟩

end Follows

/-! ### Commands with validators -/

namespace Checked

open Nested

/-- Records a message of a level. -/
def recording (level : MessageLevel) : ValidationProgram Unit :=
  .ask (.record (.plain level "seen")) fun _ => .done (.ok ())

/-- A command that does nothing, with validators and some post-handlers that do nothing either. -/
def checked (type : String) (validators : List (ValidationProgram Unit)) (posts : Nat) :
    Descriptor Unit :=
  { descriptor type .command (some (.done (.ok .void))) with
    handlingValidators := validators.map fun v => .pooled fun _ _ => v
    postHandlers := List.replicate posts (.pooled fun _ _ _ => .done (.ok ())) }

/-- The validators of the one command have no objection, those of the other have two. -/
def environment : Environment Unit :=
  .of (.of [checked "easy" [recording .warn, recording .info] 2,
    checked "hard" [recording .error, .raise (.failure (.other "broken"))] 0]) ()

/-- A command is in execution, and an event waits. -/
def frames : List Frame := [⟨object "outer" 0, [object "event" 0]⟩]

theorem easy_executes : ∃ h,
    Ends (perform environment 2 (.execute (object "easy" 1))) frames h (.ok .void) frames ∧
    calls h = [.validator .handling "easy" 0, .validator .handling "easy" 1,
      .handler (object "easy" 1), .postHandler (object "easy" 1) 0 .void,
      .postHandler (object "easy" 1) 1 .void] :=
  ⟨_, rfl, rfl⟩

/-- A nested command that is validated and handled, step by step. -/
theorem executes_follows_easy : ∃ h,
    Executes environment (object "easy" 1) false frames h (.ok .void) frames ∧
    ∃ n, Follows environment (perform environment n) (object "easy" 1) false frames h (.ok .void)
      frames := by
  obtain ⟨h, hends, -⟩ := easy_executes
  have hexecutes : Executes environment (object "easy" 1) false frames h (.ok .void) frames :=
    .execute (List.cons_ne_nil _ _) hends
  exact ⟨h, hexecutes, executes_follows hexecutes⟩

/-- **A recorded error may be overtaken.**  The first validator records an error and returns, but
then the second one fails, and its failure is what the command ends in. -/
theorem recorded_error_overtaken :
    (∃ slot h s, (checked "hard" [recording .error, .raise (.failure (.other "broken"))]
        0).handlingValidators[0]? = some slot ∧
      (call environment.registry () .handling environment.token (object "hard" 1) slot 0).run start =
        ⟨h, .ok (), s⟩ ∧
      s.collector.messages = [.plain .error "seen"]) ∧
    (∃ h, Executes environment (object "hard" 1) false [] h
      (.error (.failure (.other "broken"))) []) ∧
    ∀ typeName result,
      (EngineError.validationFailed typeName result : Raise) ≠ .failure (.other "broken") := by
  obtain ⟨h, hends⟩ : ∃ h, Ends (perform environment 2 (.executeRoot (object "hard" 1))) [] h
      (.error (.failure (.other "broken"))) [] := ⟨_, rfl⟩
  exact ⟨⟨_, _, _, rfl, rfl, rfl⟩, ⟨h, .executeRoot hends⟩, nofun⟩

end Checked
end Chain
end CommandEngine
