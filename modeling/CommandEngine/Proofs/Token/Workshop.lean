import CommandEngine.Proofs.Chain.Bubbling
import CommandEngine.Proofs.Token.Crew
import CommandEngine.Proofs.Token.Job
import CommandEngine.Proofs.Workshop.Basic

/-!
# Workshops with two tokens

In two workshops the same calls are made and the same runners move, but some jobs of the one have
another token in the other.  A move of a crew does not depend on its jobs (`Crew.Alike.step`), and
where a runner comes to the end of a job, the same job with the other token has come to its end as
well, with a report that is alike (`Job.matches_process`).  So each list of moves that the one
workshop makes can be made by the other, and every caller is told the same but for the token.
-/
namespace CommandEngine

open Run

section Alike
variable {D : Type} (t t' : Token) (registry : Registry D)

/-- The same job, or one with the first token and the same job with the second. -/
inductive Job.Alike : Job D → Job D → Prop
  | same (job : Job D) : Job.Alike job job
  | token {job : Job D} (htoken : job.info.token = t) (hblind : job.Blind t t' registry) :
    Job.Alike job (job.withToken t')

structure TicketedJob.Alike (j j' : TicketedJob D) : Prop where
  ticket : j'.ticket = j.ticket
  job : Job.Alike t t' registry j.job j'.job

/-- The same standing of a job, or reports that are alike. -/
inductive Completion.Alike : Completion → Completion → Prop
  | same (x : Completion) : Completion.Alike x x
  | reported {x x' : ExecutedCommand} (hx : x.Alike t t' x') :
    Completion.Alike (.reported x) (.reported x')

/-- Tickets with the same numbers whose jobs stand alike. -/
abbrev TicketsAlike (tickets tickets' : List (Nat × Completion)) : Prop :=
  List.Forall₂ (fun x x' => x'.1 = x.1 ∧ x.2.Alike t t' x'.2) tickets tickets'

/-- Workshops that differ in the tokens of jobs at most. -/
structure Workshop.Alike (w w' : Workshop D) : Prop where
  here : w.registry = registry
  there : w'.registry = registry
  party : w'.party = w.party
  crew : w.crew.Alike (TicketedJob.Alike t t' registry) w'.crew
  tickets : TicketsAlike t t' w.tickets w'.tickets
  made : List.Forall₂ (TicketedJob.Alike t t' registry) w.made w'.made
  refused : List.Forall₂ (TicketedJob.Alike t t' registry) w.refused w'.refused
  discarded : List.Forall₂ (TicketedJob.Alike t t' registry) w.discarded w'.discarded
  exited : w'.exited = w.exited
  released : w'.released = w.released

/-- Moves that make jobs with the one and the other token, or the same other move. -/
inductive Workshop.Move.Alike : Workshop.Move D → Workshop.Move D → Prop
  | make {job job' : Job D} (hjob : Job.Alike t t' registry job job') :
    Workshop.Move.Alike (.make job) (.make job')
  | submit (i : Nat) : Workshop.Move.Alike (.submit i) (.submit i)
  | discard (i : Nat) : Workshop.Move.Alike (.discard i) (.discard i)
  | setRunnerCount (n : Nat) : Workshop.Move.Alike (.setRunnerCount n) (.setRunnerCount n)
  | beginShutdown : Workshop.Move.Alike .beginShutdown .beginShutdown
  | take (i : Nat) : Workshop.Move.Alike (.take i) (.take i)
  | follow (i : Nat) : Workshop.Move.Alike (.follow i) (.follow i)
  | release : Workshop.Move.Alike .release .release

end Alike

section Runs
variable {D : Type} {t t' : Token} {registry : Registry D}

/-! ## Tickets -/

theorem TicketsAlike.write {tickets tickets' : List (Nat × Completion)}
    (htickets : TicketsAlike t t' tickets tickets') (number : Nat) {x x' : Completion}
    (hx : x.Alike t t' x') :
    TicketsAlike t t' (Workshop.write number x tickets) (Workshop.write number x' tickets') := by
  refine List.rel_map ?_ htickets
  rintro ⟨n, y⟩ ⟨n', y'⟩ ⟨hn, hy⟩
  obtain rfl : n' = n := hn
  exact @related_ite (Nat × Completion) (fun x x' => x'.1 = x.1 ∧ x.2.Alike t t' x'.2)
    (n' = number) _ _ _ _ _ ⟨rfl, hx⟩ ⟨rfl, hy⟩

theorem TicketsAlike.writeLost {jobs jobs' : List (TicketedJob D)}
    (hjobs : List.Forall₂ (TicketedJob.Alike t t' registry) jobs jobs')
    {tickets tickets' : List (Nat × Completion)} (htickets : TicketsAlike t t' tickets tickets') :
    TicketsAlike t t' (Workshop.writeLost jobs tickets) (Workshop.writeLost jobs' tickets') := by
  induction hjobs generalizing tickets tickets' with
  | nil => exact htickets
  | @cons j j' _ _ hj _ ih =>
    have hwritten := htickets.write j.ticket (.same .lost)
    nth_rewrite 2 [← hj.ticket] at hwritten
    exact ih hwritten

/-! ## Jobs -/

/-- A job comes to its end if and only if the one with the other token does, and they stand alike
then. -/
theorem Job.Alike.ofRun {job job' : Job D} (hjob : Job.Alike t t' registry job job')
    (party : String) : Option.Rel
      (fun x x' => (Completion.ofRun (some x)).Alike t t' (Completion.ofRun (some x')))
      (job.process registry party).run.value (job'.process registry party).run.value := by
  cases hjob with
  | same =>
    cases (job.process registry party).run.value with
    | none => exact .none
    | some x => exact .some (.same _)
  | token htoken hblind =>
    subst htoken
    have hvalue := (@Job.matches_process D registry party job t' hblind).value
    generalize (job.process registry party).run.value = x,
      ((job.withToken t').process registry party).run.value = x' at hvalue ⊢
    cases hvalue with
    | none => exact .none
    | some hx =>
      cases hx with
      | none => exact .some (.same .lost)
      | some hx => exact .some (.reported hx)

theorem related_queuedJobs {J : Type} {R : J → J → Prop} {p p' : Pool J} (hp : p.Alike R p') :
    List.Forall₂ R p.queuedJobs p'.queuedJobs := by
  obtain ⟨hqueue⟩ := hp
  refine List.rel_filterMap ?_ hqueue
  intro m m' hm
  cases hm with
  | job hj => exact .some hj
  | grow => exact .none
  | poison => exact .none

namespace Workshop

variable {w w' : Workshop D}

/-- A runner comes to the end of what it has in hand. -/
theorem Alike.follow (hw : w.Alike t t' registry w') (i : Nat) {m m' : Message (TicketedJob D)}
    (hm : m.Alike (TicketedJob.Alike t t' registry) m') :
    Option.Rel (Workshop.Alike t t' registry) (w.follow i m) (w'.follow i m') := by
  have hcrew := hw.crew.follow i hm
  cases hm with
  | @job j j' hj =>
    have hended : Option.Rel
        (fun x x' => (Completion.ofRun (some x)).Alike t t' (Completion.ofRun (some x')))
        (w.processed j) (w'.processed j') := by
      rw [processed, processed, hw.here, hw.there, hw.party]
      exact hj.job.ofRun w.party
    unfold Workshop.follow
    dsimp only
    generalize w.processed j = x, w'.processed j' = x' at hended ⊢
    cases hended with
    | none => exact .none
    | some hx =>
      rw [hj.ticket]
      exact .some { hw with crew := hcrew, tickets := hw.tickets.write _ hx }
  | grow => exact .some { hw with crew := hcrew }
  | poison =>
    have hexited : w'.exited + w'.crew.pool.poison.1.toNat =
        w.exited + w.crew.pool.poison.1.toNat := by
      rw [hw.exited, hw.crew.pool.poison.1]
    exact .some { hw with crew := hcrew, exited := hexited }

theorem Alike.direct (hw : w.Alike t t' registry w')
    {m m' : CommandEngine.Move (TicketedJob D)}
    (hm : m.Alike (TicketedJob.Alike t t' registry) m') :
    Option.Rel (Workshop.Alike t t' registry) (w.direct m) (w'.direct m') := by
  have hcrew := hw.crew.step hm
  unfold Workshop.direct
  generalize w.crew.step m = c, w'.crew.step m' = c' at hcrew ⊢
  cases hcrew with
  | none => exact .none
  | some hcrew => exact .some { hw with crew := hcrew }

theorem Alike.submit (hw : w.Alike t t' registry w') {j j' : TicketedJob D}
    (hj : j.Alike t t' registry j') : (w.submit j).Alike t t' registry (w'.submit j') := by
  have hcall := hw.crew.pool.submit hj
  unfold Workshop.submit
  generalize w.crew.pool.submit j = x, w'.crew.pool.submit j' = x' at hcall ⊢
  cases hcall with
  | ok hpool =>
    exact { hw with
      crew := { hw.crew with pool := hpool, accepted := related_snoc hw.crew.accepted hj } }
  | error =>
    dsimp only
    rw [hj.ticket]
    exact { hw with
      refused := related_snoc hw.refused hj
      tickets := hw.tickets.write _ (.same .lost) }

/-- **Moves of workshops with two tokens.** -/
theorem Alike.step (hw : w.Alike t t' registry w') {m m' : Move D}
    (hm : m.Alike t t' registry m') :
    Option.Rel (Workshop.Alike t t' registry) (w.step m) (w'.step m') := by
  unfold Workshop.step
  cases hm with
  | @make job job' hjob =>
    have hnumber : w'.tickets.length = w.tickets.length := hw.tickets.length_eq.symm
    unfold Workshop.make
    dsimp only
    rw [hnumber]
    exact .some { hw with
      tickets := related_snoc hw.tickets ⟨rfl, .same .pending⟩
      made := related_snoc hw.made ⟨rfl, hjob⟩ }
  | submit i =>
    have hmade := related_getElem? hw.made i
    dsimp only
    generalize w.made[i]? = j, w'.made[i]? = j' at hmade ⊢
    cases hmade with
    | none => exact .none
    | some hj =>
      have hleft : Workshop.Alike t t' registry { w with made := w.made.eraseIdx i }
          { w' with made := w'.made.eraseIdx i } :=
        { hw with made := related_eraseIdx hw.made i }
      exact .some (hleft.submit hj)
  | discard i =>
    have hmade := related_getElem? hw.made i
    dsimp only
    generalize w.made[i]? = j, w'.made[i]? = j' at hmade ⊢
    cases hmade with
    | none => exact .none
    | some hj =>
      dsimp only [Option.map_some]
      rw [hj.ticket]
      exact .some { hw with
        made := related_eraseIdx hw.made i
        discarded := related_snoc hw.discarded hj
        tickets := hw.tickets.write _ (.same .lost) }
  | setRunnerCount n => exact hw.direct (.setRunnerCount n)
  | beginShutdown => exact hw.direct .beginShutdown
  | take i => exact hw.direct (.take i)
  | follow i =>
    have hhand := related_getElem? hw.crew.hands i
    dsimp only
    generalize w.crew.hands[i]? = hand, w'.crew.hands[i]? = hand' at hhand ⊢
    cases hhand with
    | none => exact .none
    | some hhand =>
      cases hhand with
      | none => exact .none
      | some hm => exact hw.follow i hm
  | release =>
    have hgone : w'.crew.hands = [] ↔ w.crew.hands = [] := by
      rw [← List.length_eq_zero_iff, ← List.length_eq_zero_iff, hw.crew.hands.length_eq]
    have hdropped := TicketsAlike.writeLost (related_queuedJobs hw.crew.pool) hw.tickets
    dsimp only
    rw [hw.crew.pool.shuttingDown, hw.released]
    simp only [hgone]
    exact related_ite (.some { hw with tickets := hdropped, released := rfl }) .none

/-- **Runs of workshops with two tokens.** -/
theorem Alike.run (hw : w.Alike t t' registry w') {moves moves' : List (Move D)}
    (hmoves : List.Forall₂ (Move.Alike t t' registry) moves moves') :
    Option.Rel (Workshop.Alike t t' registry) (w.run moves) (w'.run moves') := by
  induction hmoves generalizing w w' with
  | nil => exact .some hw
  | @cons m m' moves moves' hm _ ih =>
    have hstep := hw.step hm
    rw [run_cons, run_cons]
    generalize w.step m = x, w'.step m' = x' at hstep ⊢
    cases hstep with
    | none => exact .none
    | some hnext => exact ih hnext

theorem alike_start {config : HostConfig} (hstart : start registry config = .ok w) :
    w.Alike t t' registry w := by
  obtain ⟨crew, hcrew, rfl⟩ := start_ok hstart
  obtain ⟨-, rfl⟩ := Crew.start_ok hcrew
  refine ⟨rfl, rfl, rfl, ⟨.mk .nil, ?_, rfl, .nil, .nil, .nil⟩, .nil, .nil, .nil, .nil, rfl, rfl⟩
  exact related_replicate .none _

end Workshop
end Runs

/-! ## The main result -/

/-- **The token does not influence what is done.**  For any two tokens, absent or not, and
application code that looks neither at these nor at keys: validations, root commands, programs in a
context and jobs have histories that are alike and end alike; and two workshops in which the same
calls are made and the same runners move, for jobs that have the one token here and the other there,
accept the same moves and stay alike. -/
theorem Token.interchangeable {D : Type} (t t' : Token) :
    (∀ (registry : Registry D) services, registry.Blind t t' services → ∀ o,
      Account.Matches t t' (ValidationResult.Alike t t')
        (Validation.incoming registry services t o) (Validation.incoming registry services t' o) ∧
      Account.Matches t t' (OutcomeAlike t t' (ValidationResult.Alike t t'))
        (Validation.handling registry services t o).run
        (Validation.handling registry services t' o).run) ∧
    (∀ env env' : Environment D, env.Alike t t' env' → env.registry.Blind t t' env.services →
      (∀ n command validated, Parallel t t' Eq (OutcomeAlike t t' Eq)
        (Chain.executeRoot env (Chain.perform env n) n command validated).run
        (Chain.executeRoot env' (Chain.perform env' n) n command validated).run) ∧
      ∀ (α : Type) (p : ChainProgram α), p.Blind t t' → ∀ frames,
        Run.Matches t t' (fun x x' => OutcomeAlike t t' Eq x.1 x'.1 ∧ x'.2.frames = x.2.frames)
          ((⟨env, frames⟩ : Context D).run p) ((⟨env', frames⟩ : Context D).run p)) ∧
    (∀ (registry : Registry D) party (job : Job D), job.info.token = t →
      job.Blind t t' registry →
      Run.Matches t t' (Option.Rel (ExecutedCommand.Alike t t')) (job.process registry party)
        ((job.withToken t').process registry party)) ∧
    ∀ (registry : Registry D) config w₀, Workshop.start registry config = .ok w₀ →
      ∀ moves moves', List.Forall₂ (Workshop.Move.Alike t t' registry) moves moves' →
        Option.Rel (Workshop.Alike t t' registry) (w₀.run moves) (w₀.run moves') := by
  refine ⟨fun registry services hblind o => ?_, fun env env' henv hblind => ⟨?_, ?_⟩, ?_, ?_⟩
  · exact ⟨Validation.matches_incoming hblind o, Validation.matches_handling hblind o⟩
  · intro n command validated
    have hanswer := Chain.parallel_perform henv hblind n
    exact Chain.twin_executeRoot henv hanswer hblind n command validated
  · intro α p hp frames
    have hc : Context.Alike t t' ⟨env, frames⟩ ⟨env', frames⟩ := ⟨henv, rfl⟩
    exact (Context.matches_program hc hblind hp).mono fun x x' hx => ⟨hx.1, hx.2.frames⟩
  · rintro registry party job rfl hblind
    exact Job.matches_process hblind
  · intro registry config w₀ hstart moves moves' hmoves
    exact (Workshop.alike_start hstart).run hmoves

/-! ### A nested command that is refused -/

namespace Token.Refusal

open Chain.Nested (object descriptor)

/-- Executes a nested command and ends as it does. -/
def order : ChainProgram CommandResult := .ask (.execute (object "check" 1)) fun outcome =>
  .done outcome

/-- Objects to everything. -/
def strict : ValidationProgram Unit :=
  .ask (.record (.plain .error "refused")) fun _ => .done (.ok ())

def registry : Registry Unit :=
  .of [descriptor "order" .command (some order),
    { descriptor "check" .command (some (.done (.ok .void))) with
      handlingValidators := [.pooled fun _ _ => strict] }]

def job : Job Unit := ⟨⟨object "order" 0, .absent⟩, .empty, .ofFactory fun _ => pure (), none⟩

variable {t t' : Token}

theorem registry_blind : registry.Blind t t' () := by
  have hboth {P : Descriptor Unit → Prop} (horder : P (descriptor "order" .command (some order)))
      (hcheck : P { descriptor "check" .command (some (.done (.ok .void))) with
        handlingValidators := [.pooled fun _ _ => strict] }) : ∀ d ∈ registry.descriptors, P d :=
    List.forall_mem_cons.mpr ⟨horder, List.forall_mem_singleton.mpr hcheck⟩
  refine ⟨⟨?_, hboth nofun nofun, hboth nofun nofun⟩, hboth nofun nofun, ?_⟩
  · refine hboth ?_ ?_
    · rintro _ _ ⟨⟩
      exact Slot.all_pooled fun _ => .ask fun _ _ hreply => .done hreply
    · rintro _ _ ⟨⟩
      exact Slot.all_pooled fun _ => .done (.ok rfl)
  · refine hboth nofun (List.forall_mem_singleton.mpr (Slot.all_pooled fun _ => ?_))
    exact .ask fun _ _ _ => .done (.ok rfl)

theorem job_blind : job.Blind t t' registry where
  registry := fun _ _ => registry_blind
  executor := ⟨fun _ => rfl, fun _ _ _ => rfl, fun _ => rfl, fun _ _ _ _ => rfl, fun _ => rfl⟩
  report := fun _ hreport => nomatch hreport

theorem job_ends : ∃ x, (job.process registry "local").run.value = some (some x) ∧
    x.result = .error ⟨true, [.plain .error "refused"], some "NONE"⟩ :=
  ⟨_, rfl, rfl⟩

/-- A job is made, submitted, taken and executed. -/
def moves (job : Job Unit) : List (Workshop.Move Unit) :=
  [.make job, .submit 0, .take 0, .follow 0]

theorem exists_executed : ∃ w₀ w, Workshop.start registry Workshop.Small.config = .ok w₀ ∧
    w₀.run (moves job) = some w :=
  ⟨_, _, rfl, rfl⟩

theorem moves_alike : List.Forall₂ (Workshop.Move.Alike .absent ⟨1⟩ registry) (moves job)
    (moves (job.withToken ⟨1⟩)) :=
  .cons (.make (.token rfl job_blind)) <| .cons (.submit 0) <| .cons (.take 0) <|
    .cons (.follow 0) .nil

def environment (token : Token) : Environment Unit := ⟨registry, (), token, "local", none⟩

theorem order_blind : order.Blind t t' := .ask fun _ _ hreply => .done hreply

/-- The job without a token is known to be refused with the key `NONE`.  So the job with a token is
refused with the text of its token, and a workshop executes it in the same moves. -/
theorem interchangeable_refusal :
    (registry.Blind .absent ⟨1⟩ () ∧
      (environment .absent).Alike .absent ⟨1⟩ (environment ⟨1⟩) ∧ order.Blind .absent ⟨1⟩ ∧
      job.info.token = .absent ∧ job.Blind .absent ⟨1⟩ registry) ∧
    (Validation.incoming registry () ⟨1⟩ (object "check" 1)).value.messages =
      (Validation.incoming registry () .absent (object "check" 1)).value.messages ∧
    HistoryAlike .absent ⟨1⟩ ((⟨environment .absent, []⟩ : Context Unit).run order).run.history
      ((⟨environment ⟨1⟩, []⟩ : Context Unit).run order).run.history ∧
    (∃ x, ((job.withToken ⟨1⟩).process registry "local").run.value = some (some x) ∧
      x.result = .error ⟨true, [.plain .error "refused"], some (Token.text ⟨1⟩)⟩) ∧
    ∃ w₀ w, Workshop.start registry Workshop.Small.config = .ok w₀ ∧
      w₀.run (moves (job.withToken ⟨1⟩)) = some w := by
  have henv : (environment .absent).Alike .absent ⟨1⟩ (environment ⟨1⟩) := .mk .none
  obtain ⟨hvalidations, hchains, hjobs, hworkshops⟩ :=
    @Token.interchangeable Unit .absent ⟨1⟩
  refine ⟨⟨registry_blind, henv, order_blind, rfl, job_blind⟩, ?_, ?_, ?_, ?_⟩
  · exact (hvalidations registry () registry_blind (object "check" 1)).1.value.messages
  · exact ((hchains _ _ henv registry_blind).2 _ order order_blind []).history
  · have hvalue := (hjobs registry "local" job rfl job_blind).value
    obtain ⟨x, hx, hresult⟩ := job_ends
    rw [hx] at hvalue
    generalize ((job.withToken ⟨1⟩).process registry "local").run.value = v at hvalue ⊢
    cases hvalue with
    | some hvalue =>
      cases hvalue with
      | @some _ x' hx' =>
        refine ⟨x', rfl, ?_⟩
        have hsame := hx'.result
        rw [hresult] at hsame
        generalize x'.result = r at hsame ⊢
        cases hsame with
        | error he => rw [he.eq_of_some rfl]
  · obtain ⟨w₀, w, hstart, hrun⟩ := exists_executed
    have hruns := hworkshops registry _ w₀ hstart _ _ moves_alike
    rw [hrun] at hruns
    cases hother : w₀.run (moves (job.withToken ⟨1⟩)) with
    | none =>
      rw [hother] at hruns
      cases hruns
    | some w' => exact ⟨w₀, w', hstart, hother⟩

end Token.Refusal
end CommandEngine
