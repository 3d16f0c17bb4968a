import CommandEngine.Proofs.Host.Streams

/-!
# The caller's stream of immediate events

The caller of a job gets the immediate events that the executor's hook took, in the order in which
the hook was called with them, and nothing else.  What a job streams is settled by the job
(`Job.relays_process`), so it remains to follow the channel from the job to its caller through
whatever happens to the host: jobs are made, submitted, refused or discarded, the runners move, and
callers receive events (`Turn`).  Every turn is a number of steps of every channel
(`Turn.follows`), so the channel of a job is always in a state that it comes to from its first one
(`Turns.follows`), and what is true of these is true of the caller's stream: before the report is
there, all events are; and when it is there, or the job is gone, no event is added.

A job that is dropped before it is run has nothing in its stream.  Which jobs these are is written
down in the ledger, with what the callers received.
-/
namespace CommandEngine

/-- The events that a job streams when it is run. -/
def Job.stream {D : Type} (registry : Registry D) (party : String) (job : Job D) : List Object :=
  streamed (job.process registry party).run.history

/-- A host with its callers. -/
structure Served (D : Type) where
  host : Host D
  /-- The jobs that callers have and did not submit yet. -/
  made : List (TicketedJob D)
  ledger : Ledger D

namespace Served

variable {D : Type}

/-- A host that nobody called yet. -/
def new (h : Host D) : Served D := ⟨h, [], ⟨[], [], []⟩⟩

/-- What can happen to a host and its callers. -/
inductive Turn : Served D → Served D → Prop
  | made (s : Served D) (job : Job D) :
    Turn s ⟨(s.host.ticketFor job).2, s.made ++ [(s.host.ticketFor job).1], s.ledger.make job⟩
  | accepted {h : Host D} {before after : List (TicketedJob D)} {j : TicketedJob D} {l : Ledger D}
    (haccepted : (h.submit j).1 = .ok ()) :
    Turn ⟨h, before ++ j :: after, l⟩ ⟨(h.submit j).2, before ++ after, l⟩
  | refused {h : Host D} {before after : List (TicketedJob D)} {j : TicketedJob D} {l : Ledger D}
    {e : EngineError} (hrefused : (h.submit j).1 = .error e) :
    Turn ⟨h, before ++ j :: after, l⟩ ⟨(h.submit j).2, before ++ after, l.drop [j.ticket]⟩
  | discarded {h : Host D} {before after : List (TicketedJob D)} {j : TicketedJob D}
    {l : Ledger D} :
    Turn ⟨h, before ++ j :: after, l⟩ ⟨h.lose j.ticket, before ++ after, l.drop [j.ticket]⟩
  | replanned (s : Served D) (count : Nat) :
    Turn s { s with host := (s.host.setRunnerCount count).2 }
  | shutdown (s : Served D) : Turn s { s with host := s.host.beginShutdown }
  | opened (s : Served D) (gate : String) : Turn s { s with host := s.host.openGate gate }
  | settled (s : Served D) (steps left : Nat) :
    Turn s { s with host := s.host.settleWithin steps left }
  /-- The queue goes with the host. -/
  | released (s : Served D) :
    Turn s { s with
      host := s.host.dropQueue
      ledger := s.ledger.drop (s.host.pool.queuedJobs.map (·.ticket)) }
  | received (s : Served D) (ticket : Nat) :
    Turn s { s with
      host := (s.host.receiveEvent ticket).2
      ledger := s.ledger.receive ticket (s.host.receiveEvent ticket).1 }
  /-- Whatever concerns neither the pool, nor the runners, nor the tickets. -/
  | aside (s : Served D) {h' : Host D} (hside : Host.Beside s.host h') : Turn s { s with host := h' }

/-- What may happen to a host and its callers in the course of time. -/
abbrev Turns : Served D → Served D → Prop := Relation.ReflTransGen Turn

/-- The channel of ticket `n` is in a state of which `P` holds. -/
abbrev Follows (P : Channel → Prop) (n : Nat) (stream : TicketedJob D → List Object)
    (s : Served D) : Prop := Host.Follows P n stream s.made s.ledger s.host

section Turns

variable {P : Channel → Prop} {n : Nat} {stream : TicketedJob D → List Object} {s s' : Served D}

/-- **Every turn is a number of steps of every channel**, and beside that there may be a channel
more. -/
theorem Turn.follows (hturn : Turn s s') (hP : Channel.Stable P)
    (hfresh : ∀ job, s'.ledger.jobs = s.ledger.jobs ++ [job] → s.host.issued = n →
      P (.fresh (stream ⟨n, job⟩)))
    (hf : Follows P n stream s) : Follows P n stream s' := by
  cases hturn with
  | made _ job => exact Host.Follows.ticketFor hf job (hfresh job rfl)
  | accepted haccepted => exact Host.Follows.submit_ok hf haccepted
  | refused hrefused => exact Host.Follows.submit_error hP hf hrefused
  | discarded => exact Host.Follows.discard hP hf
  | replanned _ count => exact Host.Follows.setRunnerCount hf count
  | shutdown => exact Host.Follows.beginShutdown hf
  | opened _ gate => exact Host.Follows.openGate hf gate
  | settled _ steps left => exact Host.Follows.settleWithin hP hf steps left
  | released => exact Host.Follows.dropQueue hP hf
  | received _ ticket => exact Host.Follows.received hP hf ticket
  | aside _ hside => exact Host.Follows.of_beside hf hside

/-- Jobs stay in the ledger. -/
theorem Turn.jobs (hturn : Turn s s') : s.ledger.jobs <+: s'.ledger.jobs := by
  cases hturn with
  | made => exact List.prefix_append _ _
  | accepted | refused | discarded | replanned | shutdown | opened | settled | released
  | received | aside => exact List.prefix_rfl

theorem Turn.job {job : Job D} (hturn : Turn s s') (hjob : s.ledger.jobs[n]? = some job) :
    s'.ledger.jobs[n]? = some job := by
  obtain ⟨hthere, rfl⟩ := List.getElem?_eq_some_iff.mp hjob
  exact List.prefix_iff_getElem?.mp hturn.jobs n hthere

/-- The channel of a job that was made is there already. -/
theorem Turn.follows_of_lt (hturn : Turn s s') (hP : Channel.Stable P)
    (hold : n < s.ledger.jobs.length) (hf : Follows P n stream s) : Follows P n stream s' := by
  refine hturn.follows hP (fun job _ hnext => ?_) hf
  rw [← hf.keeps.2, hnext] at hold
  exact absurd hold (Nat.lt_irrefl n)

theorem Turns.follows_of_lt (hturns : Turns s s') (hP : Channel.Stable P)
    (hold : n < s.ledger.jobs.length) (hf : Follows P n stream s) :
    Follows P n stream s' ∧ n < s'.ledger.jobs.length := by
  induction hturns with
  | refl => exact ⟨hf, hold⟩
  | tail _ hturn ih =>
    obtain ⟨hfollows, hthere⟩ := ih
    exact ⟨hturn.follows_of_lt hP hthere hfollows, Nat.lt_of_lt_of_le hthere hturn.jobs.length_le⟩

/-- What a host shows of a channel in the state `c`. -/
structure Shows (n : Nat) (s : Served D) (t : Ticket) (c : Channel) : Prop where
  ticket : s.host.ticket? n = some t
  received : c.received = s.ledger.receivedFor n
  waiting : c.waiting = t.events
  fits : c.progress.Fits t.completion
  dropped : c.progress = .dropped ↔ n ∈ s.ledger.dropped
  /-- A runner with a due has that of the channel. -/
  due : ∀ runner ∈ s.host.runners, ∀ p, runner.phase.due? = some (n, p) → p = c.progress

/-- The host shows the channel of a job that was made, and follows it from here. -/
theorem Follows.channel (hf : Follows P n stream s) (hold : n < s.ledger.jobs.length) :
    ∃ t c, Shows n s t c ∧ P c ∧ Follows c.Reaches n stream s := by
  rcases hf.sees with ⟨hnew⟩ | @⟨t, p, hissued, hticket, hdues, hfits, hdropped, hstate⟩
  · rw [hf.keeps.2] at hnew
    exact absurd hold (Nat.not_lt_of_le hnew)
  · refine ⟨t, _, ⟨hticket, rfl, rfl, hfits, hdropped, fun runner hrunner q hdue => ?_⟩, hstate,
      hf.numbered, hf.keeps, .issued hissued hticket hdues hfits hdropped .refl⟩
    have hmem : (n, q) ∈ runnerDues s.host.runners := List.mem_filterMap.mpr ⟨_, hrunner, hdue⟩
    exact Progress.eq_of_mem_due (hdues ▸ mem_duesFor.mpr (List.mem_append_left _ hmem))

/-- The report is there when the job is nowhere any more. -/
theorem Shows.isOpen_eq_false_iff {t : Ticket} {c : Channel} (hshows : Shows n s t c) :
    c.progress.isOpen = false ↔ t.report?.isSome = true := by
  rw [Ticket.isSome_report?_iff]
  exact hshows.fits.isOpen_eq_false_iff

theorem Shows.sent {t : Ticket} {c : Channel} (hshows : Shows n s t c) :
    c.sent = s.ledger.receivedFor n ++ t.events := by
  rw [Channel.sent, hshows.received, hshows.waiting]

theorem Shows.carried {t : Ticket} {c : Channel} (hshows : Shows n s t c) (events : List Object) :
    c.carried events = if n ∈ s.ledger.dropped then [] else events := by
  unfold Channel.carried
  by_cases hlost : n ∈ s.ledger.dropped
  · rw [if_pos hlost, hshows.dropped.mpr hlost]
  · rw [if_neg hlost]
    cases hprogress : c.progress with
    | queued | running | ended => rfl
    | dropped => exact absurd (hshows.dropped.mp hprogress) hlost

/-- **When the report is there, no event is added.** -/
theorem Follows.report_stays (hf : Follows P n stream s)
    (hold : n < s.ledger.jobs.length) {t : Ticket} (hticket : s.host.ticket? n = some t)
    (hreport : t.report?.isSome = true) (hlater : Turns s s') :
    ∃ t', s'.host.ticket? n = some t' ∧ t'.report?.isSome = true ∧
      s'.ledger.receivedFor n ++ t'.events = s.ledger.receivedFor n ++ t.events := by
  obtain ⟨t, c, hshows, -, hreaches⟩ := hf.channel hold
  cases hticket.symm.trans hshows.ticket
  obtain ⟨hthere, hold'⟩ := Turns.follows_of_lt hlater c.stable_reaches hold hreaches
  obtain ⟨t', c', hshows', hreach, -⟩ := hthere.channel hold'
  obtain ⟨hprogress, hsent⟩ :=
    Channel.closed_of_reaches (hshows.isOpen_eq_false_iff.mpr hreport) hreach
  refine ⟨t', hshows'.ticket, hshows'.isOpen_eq_false_iff.mp ?_, ?_⟩
  · rw [hprogress, hshows.isOpen_eq_false_iff.mpr hreport]
  · rw [← hshows'.sent, hsent, hshows.sent]

end Turns

/-! ## Commands from outside -/

section Receiving

variable (s : Served D) (job : Job D)

/-- A job is made and submitted at once. -/
theorem turns_accepted
    (haccepted : ((s.host.ticketFor job).2.submit (s.host.ticketFor job).1).1 = .ok ()) :
    Turns s ⟨((s.host.ticketFor job).2.submit (s.host.ticketFor job).1).2, s.made,
      s.ledger.make job⟩ := by
  have haccepting : Turn
      ⟨(s.host.ticketFor job).2, s.made ++ [(s.host.ticketFor job).1], s.ledger.make job⟩
      ⟨_, s.made ++ [], s.ledger.make job⟩ := .accepted haccepted
  rw [List.append_nil] at haccepting
  exact .tail (.single (.made s job)) haccepting

theorem turns_refused {e : EngineError}
    (hrefused : ((s.host.ticketFor job).2.submit (s.host.ticketFor job).1).1 = .error e) :
    Turns s ⟨((s.host.ticketFor job).2.submit (s.host.ticketFor job).1).2, s.made,
      (s.ledger.make job).drop [s.host.issued]⟩ := by
  have hrefusing : Turn
      ⟨(s.host.ticketFor job).2, s.made ++ [(s.host.ticketFor job).1], s.ledger.make job⟩
      ⟨_, s.made ++ [], (s.ledger.make job).drop [s.host.issued]⟩ := .refused hrefused
  rw [List.append_nil] at hrefusing
  exact .tail (.single (.made s job)) hrefusing

/-- Receiving a command is a number of turns. -/
theorem turns_receive (executor : Executor D) (services : D) (command : Object) (data : ScopeData)
    (token : Token) : ∃ later, Turns s later ∧
      later.host = (s.host.receive executor services command data token).2 := by
  have hobserved (observed : Observed) :
      Turns s { s with host := { s.host with observed } } :=
    .single (.aside s ⟨⟨rfl, rfl, rfl⟩, rfl⟩)
  unfold Host.receive
  dsimp only
  split
  · split
    · exact ⟨_, hobserved _, rfl⟩
    · split
      all_goals
        rename_i hsubmit
        obtain ⟨hout, rfl⟩ := Prod.mk.inj hsubmit
      · exact ⟨_, (hobserved _).trans (turns_accepted _ _ hout), rfl⟩
      · exact ⟨_, (hobserved _).trans (turns_refused _ _ hout), rfl⟩
  · exact ⟨_, hobserved _, rfl⟩

end Receiving

/-! ## From the beginning on -/

section Beginning

variable {registry : Registry D} {config : HostConfig} {observed : Observed} {h₀ : Host D}
  {s : Served D} {n : Nat}

/-- The channel of ticket `n` may be in this state: it comes to it from its first one. -/
def Comes (registry : Registry D) (party : String) (n : Nat) (s : Served D) (c : Channel) : Prop :=
  ∃ job, s.ledger.jobs[n]? = some job ∧ (Channel.fresh (job.stream registry party)).Reaches c

/-- **The channels of a host**, whatever happens to it. -/
theorem Turns.follows (hstart : Host.start registry config observed = .ok h₀)
    (hturns : Turns (.new h₀) s) :
    Follows (Comes registry config.party n s) n (fun j => j.job.stream registry config.party) s := by
  induction hturns with
  | refl => exact Host.follows_start hstart fun j => rfl
  | @tail s s' _ hturn ih =>
    have hstable : Channel.Stable (Comes registry config.party n s') := by
      rintro c c' hstep ⟨job, hjob, hreach⟩
      exact ⟨job, hjob, hreach.tail hstep⟩
    refine hturn.follows hstable (fun job hjobs hnext => ?_) (Host.Follows.mono ih ?_)
    · rw [ih.keeps.2] at hnext
      exact ⟨job, by rw [hjobs, ← hnext, List.getElem?_concat_length], .refl⟩
    · rintro c ⟨job, hjob, hreach⟩
      exact ⟨job, hturn.job hjob, hreach⟩

/-- What the caller with ticket `n` gets of these events, of which `t` has those that it did not
receive yet. -/
structure Delivers (s : Served D) (n : Nat) (t : Ticket) (events : List Object) : Prop where
  /-- It gets nothing else, and gets them in this order. -/
  ordered : s.ledger.receivedFor n ++ t.events <+: events
  /-- What it cannot receive yet was not streamed yet. -/
  atOnce : ∀ runner ∈ s.host.runners, ∀ rest, runner.phase.due? = some (n, .running rest) →
    s.ledger.receivedFor n ++ t.events ++ rest = events
  complete : t.report?.isSome = true → s.ledger.receivedFor n ++ t.events = events
  closed : t.isClosed = true ↔ t.report?.isSome = true ∧ s.ledger.receivedFor n = events

/-- A caller gets what its channel carries. -/
theorem Shows.delivers {t : Ticket} {c : Channel} {events : List Object} (hshows : Shows n s t c)
    (hcarries : c.Carries events) :
    s.Delivers n t (if n ∈ s.ledger.dropped then [] else events) := by
  rw [← hshows.carried]
  have hcomplete (hreport : t.report?.isSome = true) :
      s.ledger.receivedFor n ++ t.events = c.carried events := by
    rw [← hshows.sent]
    exact hcarries.complete (hshows.isOpen_eq_false_iff.mpr hreport)
  refine ⟨?_, fun runner hrunner rest hrest => ?_, hcomplete, ?_⟩
  · rw [← hshows.sent]
    exact hcarries.ordered
  · rw [← hshows.sent]
    exact hcarries.running (hshows.due runner hrunner _ hrest).symm
  · rw [Ticket.isClosed_iff]
    refine and_congr_right fun hreport => ?_
    rw [← hcomplete hreport]
    exact List.self_eq_append_right.symm

/-- **The caller's stream of immediate events.**  The executor's hook is called with the immediate
events that the chain gives to the sink; what it ends in is what their emission ends in, and those
that it takes are streamed.  The caller of the job gets what is streamed, in this order: all of it
before the report, whatever the job ends in and whether it had a scope or not, and nothing after
that.  If the job is dropped, nothing is streamed. -/
theorem stream_delivered {job : Job D} (hstart : Host.start registry config observed = .ok h₀)
    (hturns : Turns (.new h₀) s) (hjob : s.ledger.jobs[n]? = some job) :
    let history := (job.process registry config.party).run.history
    hookEvents history = Chain.sinkCalls history ∧
      (∀ services answer event top d fs h out fs', fs.getLast? = some top →
        registry.descriptorOf? (event.stamp top.command config.party) = some d →
        d.kind.isImmediate = true →
        Chain.Ends (Chain.emit (job.environment registry config.party services) answer event).run
          fs h out fs' →
        job.Presented registry config.party services answer (event.stamp top.command config.party)
          fs h out fs') ∧
      (∀ event, streamed (job.offering event) = if job.takes event then [event] else []) ∧
      ∃ t, s.host.ticket? n = some t ∧
        s.Delivers n t
          (if n ∈ s.ledger.dropped then [] else (hookEvents history).filter job.takes) ∧
        (t.report?.isSome = true → ∀ later, Turns s later → ∃ t',
          later.host.ticket? n = some t' ∧ t'.report?.isSome = true ∧
            later.ledger.receivedFor n ++ t'.events = s.ledger.receivedFor n ++ t.events) := by
  intro history
  have hrelays := job.relays_process registry config.party
  have hold : n < s.ledger.jobs.length := (List.getElem?_eq_some_iff.mp hjob).1
  obtain ⟨t, c, hshows, hcomes, hf⟩ := (Turns.follows hstart hturns).channel hold
  have hcarries : c.Carries ((hookEvents history).filter job.takes) := by
    obtain ⟨made, hmade, hreach⟩ := hcomes
    cases hjob.symm.trans hmade
    rw [← hrelays.streamed]
    exact Channel.carries_of_reaches hreach
  exact ⟨hrelays.shown, fun _ _ _ _ _ _ _ _ _ => job.ends_emit_immediate registry config.party,
    job.streamed_offering, t, hshows.ticket, hshows.delivers hcarries,
    fun hreport _ => hf.report_stays hold hshows.ticket hreport⟩

end Beginning

/-! ### The caller of a job that fails -/

namespace Recital

open Chain.Nested

/-- Emits a second event, or a third one if the second is refused, and fails. -/
def order : ChainProgram CommandResult := do
  emitting 1
  .ask (.emit (object "event" 2)) fun
    | .error (.failure _) => emitting 3
    | outcome => .done outcome
  .raise (.failure (.other "no"))

def registry : Registry Unit :=
  .of [descriptor "order" .command (some order), descriptor "event" .callerOnlyImmediateEvent none]

/-- Refuses the second event. -/
def executor : Executor Unit where
  createScope _ _ := pure ()
  restoreAmbientValues _ _ := pure ()
  onValidationResult _ _ := .silent
  onImmediateEvent _ event :=
    if event = object "event" 2 then throw (.failure (.other "busy")) else pure ()
  onFinalResult _ _ _ := .silent
  disposeScope _ _ := .silent

def job : Job Unit := ⟨⟨object "order" 0, .absent⟩, .empty, executor, none⟩

def config : HostConfig := ⟨1, "local", 2⟩

def submission (h : Host Unit) : Except EngineError Unit × Host Unit :=
  (h.ticketFor job).2.submit (h.ticketFor job).1

/-- The host when its runner ran the job. -/
def worked (h : Host Unit) : Host Unit := (submission h).2.settleWithin 10 Host.roundMoves

/-- The caller received one event. -/
def served (h : Host Unit) : Served Unit :=
  ⟨((worked h).receiveEvent 0).2, [],
    ((new h).ledger.make job).receive 0 ((worked h).receiveEvent 0).1⟩

theorem turns_served {h : Host Unit} (haccepted : (submission h).1 = .ok ()) :
    Turns (new h) (served h) :=
  ((turns_accepted (new h) job haccepted).tail (.settled _ 10 Host.roundMoves)).tail (.received _ 0)

theorem exists_started : ∃ h₀ : Host Unit,
    Host.start registry config default = .ok h₀ ∧ (submission h₀).1 = .ok () ∧
      (served h₀).ledger.jobs[0]? = some job ∧ (served h₀).ledger.receivedFor 0 = [object "event" 1] ∧
      ∃ t, (served h₀).host.ticket? 0 = some t ∧ t.report?.isSome = true :=
  ⟨_, rfl, rfl, rfl, rfl, _, rfl, rfl⟩

/-- The hook is called with three events, the third one because it refused the second.  One of those
that it took was received, and the other is all that will ever come. -/
theorem stream_delivered_recital : ∃ h₀ : Host Unit,
    Host.start registry config default = .ok h₀ ∧ Turns (new h₀) (served h₀) ∧
      hookEvents (job.process registry "local").run.history =
        [object "event" 1, object "event" 2, object "event" 3] ∧
      (served h₀).ledger.receivedFor 0 = [object "event" 1] ∧
      ∀ later, Turns (served h₀) later → ∃ t, later.host.ticket? 0 = some t ∧
        later.ledger.receivedFor 0 ++ t.events = [object "event" 1, object "event" 3] := by
  obtain ⟨h₀, hstart, haccepted, hjob, hreceived, t, hticket, hreport⟩ := exists_started
  have hturns := turns_served haccepted
  obtain ⟨-, -, -, t', hticket', hdelivers, hlater⟩ := stream_delivered hstart hturns hjob
  cases hticket.symm.trans hticket'
  have hall := hdelivers.complete hreport
  refine ⟨h₀, hstart, hturns, rfl, hreceived, fun later hafter => ?_⟩
  obtain ⟨t', hthere, -, hsame⟩ := hlater hreport later hafter
  exact ⟨t', hthere, hsame.trans hall⟩

end Recital

end Served
end CommandEngine
