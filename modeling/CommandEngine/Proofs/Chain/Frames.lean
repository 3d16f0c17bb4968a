import CommandEngine.Proofs.Chain.Bubbling

/-!
# What an answered request leaves of the frames

A program goes on after a request that was answered with a result or a failure, and it goes on
where it was: the stack is as deep as before and holds the same commands, and only the frame on top
may have got events, behind those that waited there already (`Continues`).  A program inside a chain
can thus rely on its own frame being on top, and one outside on there being none.

This is what `Returns` says of frames when the marks are left out.  That every answer without a
panic returns was shown by induction on the depth of nesting (`answers_perform`), so the result
holds of requests at every depth and of all frames, those that no chain leads to included.

A command that fails gives nothing to the frame on top.  Here the marks of the command do not help,
since they say that its events are lost but not what was on the frame before; the way its frame is
closed does (`ends_executeNested`).
-/
namespace CommandEngine

/-- The reply is the failure of a command. -/
def ContextRequest.IsFailedExecution : (q : ContextRequest) → q.Reply → Prop
  | execute _, reply => ∃ f, reply = .error (.failure f)
  | executeWithEvents _ _, reply => ∃ f, reply = .error (.failure f)
  | executeRoot _, reply => ∃ f, reply = .error (.failure f)
  | _, _ => False

namespace Chain

/-- The frames after an operation continue those it was begun on: there are as many, for the same
commands; those below the top are the same, and what waited on top still waits there, first. -/
structure Continues (fs fs' : List Frame) : Prop where
  depth : fs'.length = fs.length
  commands : fs'.map (·.command) = fs.map (·.command)
  below : fs'.dropLast = fs.dropLast
  top : ∀ f f', fs.getLast? = some f → fs'.getLast? = some f' → f.pending <+: f'.pending

section Continues

variable {fs fs' : List Frame} {ms : List Mark} {events : List Object}

theorem continues_joinTop : Continues fs (joinTop events fs) := by
  rcases fs.eq_nil_or_concat with rfl | ⟨lower, top, rfl⟩
  · exact ⟨rfl, rfl, rfl, nofun⟩
  · rw [List.concat_eq_append, joinTop_concat]
    refine ⟨by simp, by simp, by simp, fun f f' hf hf' => ?_⟩
    rw [List.getLast?_concat] at hf hf'
    cases hf
    cases hf'
    exact List.prefix_append ..

theorem Returns.continues (h : Returns fs ms fs') : Continues fs fs' :=
  h.frames ▸ continues_joinTop

end Continues

section Requests

variable {D : Type} {env : Environment D} {answer : (q : ContextRequest) → OnStack q.Reply}
  {fs fs' : List Frame} {h : List Happening} {command : Object}

/-- A nested command that fails leaves the frames as they were. -/
theorem executeNested_failure (hregistry : env.registry.PassesPanics env.services)
    (hanswer : Answers answer) {stop giveEvents : Bool} {f : Failure}
    (hends : Ends (executeNested env answer command stop giveEvents).run fs h
      (.error (.failure f)) fs') : fs' = fs := by
  rcases ends_executeNested hends with ⟨rfl, -, -, rfl⟩ | ⟨inner, mid, h₁, h₂, -, hraw, hclose, -⟩
  · rfl
  · have hpassage := keeps_rawExecute hregistry hanswer command false hraw
    cases hclose with
    | failed =>
      have hreturns : Returns (fs ++ [_]) (marks h₁) mid := hpassage
      exact hreturns.take_concat
    | orphaned =>
      have hreturns : Returns (fs ++ [_]) (marks h₁) mid := hpassage
      exact hreturns.take_concat

/-- A root command that fails leaves the frames as they were: it is refused inside a chain, and
outside there are none. -/
theorem executeRoot_failure {limit : Nat} {validated : Bool} {f : Failure}
    (hends : Ends (executeRoot env answer limit command validated).run fs h (.error (.failure f))
      fs') : fs' = fs := by
  rcases ends_executeRoot.mp hends with ⟨-, -, -, rfl⟩ | ⟨_, _, rfl, -, -, rfl⟩
  · rfl
  · rfl

theorem serve_failure (hregistry : env.registry.PassesPanics env.services)
    (hanswer : Answers answer) {limit : Nat} {q : ContextRequest} {reply : q.Reply}
    (hends : Ends (serve env answer limit q) fs h reply fs') (hfailed : q.IsFailedExecution reply) :
    fs' = fs := by
  cases q with
  | execute command =>
    obtain ⟨f, rfl⟩ := hfailed
    obtain ⟨inner, hnested, hinner⟩ := ends_execute.mp hends
    -- the result is taken out of the pair, which a failure is not
    cases inner with
    | error e =>
      cases hinner
      exact executeNested_failure hregistry hanswer hnested
    | ok given => cases hinner
  | executeWithEvents command stop =>
    obtain ⟨f, rfl⟩ := hfailed
    exact executeNested_failure hregistry hanswer hends
  | executeRoot command =>
    obtain ⟨f, rfl⟩ := hfailed
    exact executeRoot_failure hends
  | emit | dispatch | dispatchSafe | view | sign => exact hfailed.elim

/-- **Frame discipline.**  Whatever frames a request is made on, and however deep the programs are
nested that it runs: when it is answered, and not by a panic, the program that asked goes on with
its own frames.  They are as many as before and stand for the same commands, those below the top
are unchanged, and the one on top has got at most further events.  A command that failed has not
changed any of them. -/
theorem answered_continues (hregistry : env.registry.PassesPanics env.services) {n : Nat}
    {q : ContextRequest} {reply : q.Reply} (hends : Ends (perform env n q) fs h reply fs')
    (hreturned : q.panic? reply = none) :
    Continues fs fs' ∧ (q.IsFailedExecution reply → fs' = fs) := by
  constructor
  · have hpassage := answers_perform hregistry n hends
    rw [hreturned] at hpassage
    exact Returns.continues hpassage
  · cases n with
    | zero => exact absurd hends not_ends_failure
    | succ n => exact serve_failure hregistry (answers_perform hregistry n) hends

end Requests

/-! ### An alarm that breaks -/

namespace Alarmed

open Nested

/-- Queues an event and panics. -/
def breaking : ChainProgram CommandResult := do
  emitting 3
  .raise (.panic (.text "broken"))

/-- Executes a command, and passes on what it raises. -/
def executing (type : String) : ChainProgram Unit :=
  .ask (.execute (object type 0)) fun outcome => .done (outcome.map fun _ => ())

/-- A routed event with handlers. -/
def reaction (type : String) (handlers : List (ChainProgram Unit)) : Descriptor Unit :=
  ⟨0, ⟨type, type⟩, .routedEvent, none, none, [], [], [],
    handlers.map fun p => .pooled fun _ _ => p, !handlers.isEmpty⟩

/-- An alarm is answered by an event, and then by a command that breaks. -/
def environment : Environment Unit :=
  .of (.of [descriptor "broken" .command (some breaking), descriptor "event" .callerOnlyEvent none,
    reaction "alarm" [emitting 2, executing "broken"]]) ()

/-- A nested command in a chain, each with an event that waits. -/
def frames : List Frame :=
  [⟨object "outer" 0, [object "event" 0]⟩, ⟨object "inner" 0, [object "event" 1]⟩]

theorem breaking_passesPanics : breaking.PassesPanics :=
  (emitting_passesPanics 3).bind fun _ => .done _

theorem executing_passesPanics (type : String) : (executing type).PassesPanics := by
  refine .ask (fun reply p hpanic => ?_) fun _ _ => .done _
  rw [Outcome.eq_of_panic? hpanic]
  rfl

theorem mem_descriptors {d : Descriptor Unit} : d ∈ environment.registry.descriptors ↔
    d = descriptor "broken" .command (some breaking) ∨
      d = descriptor "event" .callerOnlyEvent none ∨
      d = reaction "alarm" [emitting 2, executing "broken"] := by
  simp [environment, Environment.of]

theorem alarm_passesPanics : environment.registry.PassesPanics environment.services := by
  constructor
  · intro d hd signature slot hslot
    rcases mem_descriptors.mp hd with rfl | rfl | rfl
    · cases hslot
      exact Slot.all_pooled fun _ => breaking_passesPanics
    · cases hslot
    · cases hslot
  · intro d hd slot hslot
    rcases mem_descriptors.mp hd with rfl | rfl | rfl <;> cases hslot
  · intro d hd slot hslot
    rcases mem_descriptors.mp hd with rfl | rfl | rfl
    · cases hslot
    · cases hslot
    · obtain ⟨p, hp, rfl⟩ := List.mem_map.mp hslot
      refine Slot.all_pooled fun _ => ?_
      rcases List.mem_cons.mp hp with rfl | hp
      · exact emitting_passesPanics 2
      · rw [List.mem_singleton.mp hp]
        exact executing_passesPanics "broken"

/-- The panic of the broken command is contained; the frames that it left are gone, and so is its
event, but not the one of the handler before it. -/
theorem answered_continues_alarm : environment.registry.PassesPanics environment.services ∧
    ∃ h fs', Ends (perform environment 3 (.dispatchSafe (object "alarm" 0))) frames h false fs' ∧
      ContextRequest.panic? (.dispatchSafe (object "alarm" 0)) false = none ∧
      fs'.map (·.pending.length) = [1, 2] ∧ Continues frames fs' := by
  refine ⟨alarm_passesPanics, ?_⟩
  obtain ⟨h, fs', hends, hpending⟩ : ∃ h fs',
      Ends (perform environment 3 (.dispatchSafe (object "alarm" 0))) frames h false fs' ∧
        fs'.map (·.pending.length) = [1, 2] := ⟨_, _, rfl, rfl⟩
  exact ⟨h, fs', hends, rfl, hpending, (answered_continues alarm_passesPanics hends rfl).1⟩

end Alarmed
end Chain
end CommandEngine
