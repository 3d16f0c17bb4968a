import CommandEngine.Proofs.Host.Simulation
import CommandEngine.Proofs.Job.Restoring
import CommandEngine.Proofs.Validation.Preparation

/-!
# Receiving a command

A command that is received is validated, gets ambient values, and becomes a job.  Each of the three
may fail, in this order, and then nothing is queued (`Received`).  What can be seen of a reception
are the histories of the validation and of the provider, and a record if the host shuts down; no
hook is called in them.

The job waits behind whatever was queued before it, and the pool may change meanwhile.  It is still
the same job when its turn comes: a host at work is a workshop, whose accepted jobs have numbers of
their own and stay accepted, so there is one queued job with a ticket or none (`job_of_ticket`).
Whichever host runs the job, it restores the ambient values that it carries
(`Job.restorations_process`).
-/
namespace CommandEngine

/-! ## Jobs keep their tickets -/

/-- What was accepted stays accepted. -/
theorem Workshop.Reaches.accepted {D : Type} {w w' : Workshop D} {j : TicketedJob D}
    (hreach : w.Reaches w') (hj : j ∈ w.crew.accepted) : j ∈ w'.crew.accepted := by
  obtain ⟨moves, hrun⟩ := hreach
  refine run_keeps (fun {w w'} hs (hj : j ∈ w.crew.accepted) => ?_) hrun hj
  cases hs with
  | made | refused | discarded | finished | released => exact hj
  | accepted => exact List.mem_append_left _ hj
  | moved _ haccepted => exact haccepted ▸ hj

namespace Host

variable {D : Type} {h h₀ later : Host D} {made made' : List (TicketedJob D)}
  {registry : Registry D} {config : HostConfig} {observed : Observed}

/-- The queued jobs of a host were accepted by its workshop. -/
theorem Mirrors.accepted {w : Workshop D} {j : TicketedJob D} (hm : Mirrors h made w)
    (hw : w.Kept) (hj : j ∈ h.pool.queuedJobs) : j ∈ w.crew.accepted := by
  rw [hw.accounted.accepted_eq, hm.pool]
  exact List.mem_append_right _ hj

/-- **A ticket stays with its job.**  Whatever happens to a host, a queued job with the ticket of a
job that was queued before is that job. -/
theorem job_of_ticket {j k : TicketedJob D} (hstart : start registry config observed = .ok h₀)
    (hchanges : Relation.ReflTransGen Change (h₀, []) (h, made)) (hj : j ∈ h.pool.queuedJobs)
    (hlater : Relation.ReflTransGen Change (h, made) (later, made'))
    (hk : k ∈ later.pool.queuedJobs) (hticket : k.ticket = j.ticket) : k = j := by
  obtain ⟨w₀, w, moves, hworkshop, hrun, hmirrors⟩ := exists_workshop hstart hchanges
  obtain ⟨w', hreach, hmirrors'⟩ := hmirrors.changes hlater
  have hkept : w.Kept := .of_run hworkshop hrun
  obtain ⟨moves', hrun'⟩ := hreach
  have hkept' : w'.Kept := Workshop.run_keeps Workshop.Kept.step hrun' hkept
  have hfirst := Workshop.Reaches.accepted ⟨moves', hrun'⟩ (hmirrors.accepted hkept hj)
  exact List.inj_on_of_nodup_map hkept'.accepted_nodup (hmirrors'.accepted hkept' hk) hfirst hticket

/-! ## Capturing ambient values -/

/-- The ambient values that a received command gets, and what was done for that: those of the scope
data if there are any, and then the provider is not called; else those that the provider makes; else
none. -/
inductive Captured (registry : Registry D) (services : D) (data : ScopeData) :
    List Happening → Outcome (Option AmbientValues) → Prop where
  | given {values : AmbientValues} (hdata : data.ambient = some values) :
    Captured registry services data [] (.ok (some values))
  | absent (hdata : data.ambient = none) (hprovider : registry.provider = none) :
    Captured registry services data [] (.ok none)
  | provided {provider : AmbientProvider D} (hdata : data.ambient = none)
    (hprovider : registry.provider = some provider) :
    Captured registry services data (Account.act (provider services)).history
      ((provider services).outcome.map some)

variable {services : D} {data : ScopeData} {executor : Executor D} {command : Object}
  {token : Token}

/-- What the scope data of a job become when ambient values are captured.  A failure of the provider
is wrapped, a panic is not. -/
def withCaptured (data : ScopeData) : Outcome (Option AmbientValues) → Outcome ScopeData
  | .ok ambient => .ok ⟨data.payload, ambient⟩
  | .error (.failure f) =>
    .error (EngineError.scopeCreation ("capturing ambient values: " ++ f.text) : Raise)
  | .error (.panic p) => .error (.panic p)

theorem captured_capture (h : Host D) (services : D) (data : ScopeData) : ∃ out,
    Captured h.registry services data (h.capture services data).history out ∧
    (h.capture services data).value = withCaptured data out := by
  obtain ⟨payload, ambient⟩ := data
  cases ambient with
  | some values => exact ⟨_, .given rfl, rfl⟩
  | none =>
    cases hprovider : h.registry.provider with
    | none =>
      unfold capture
      rw [hprovider]
      exact ⟨_, .absent rfl hprovider, rfl⟩
    | some provider =>
      have hcapture : h.capture services ⟨payload, none⟩ =
          ⟨(Account.act (provider services)).history,
            withCaptured ⟨payload, none⟩ ((provider services).outcome.map some)⟩ := by
        have hmade : (Account.act (provider services)).value = (provider services).outcome := rfl
        unfold capture
        rw [hprovider, ← hmade]
        dsimp only
        rcases Account.act (provider services) with ⟨seen, (f | p) | values⟩
        · exact Traced.ext (List.append_nil _) rfl
        · exact Traced.ext (List.append_nil _) rfl
        · exact Traced.ext (List.append_nil _) rfl
      rw [hcapture]
      exact ⟨_, .provided rfl hprovider, rfl⟩

/-! ## What comes of a reception -/

/-- The host after something was seen of it. -/
def showing (h : Host D) (seen : List Happening) : Host D :=
  { h with observed := h.observed.happenAll seen }

/-- Nothing of the host changed but what can be seen of it, and that there may be a ticket more; and
what was seen is no call of a hook. -/
structure Untouched (h : Host D) (seen : List Happening) (h' : Host D) : Prop where
  same : h' = { h.showing seen with issued := h'.issued, tickets := h'.tickets }
  tickets : ∀ number, number ≠ h.issued → h'.ticket? number = h.ticket? number
  hookless : hookCalls seen = []

theorem untouched_showing {seen : List Happening} (h : Host D) (hseen : hookCalls seen = []) :
    Untouched h seen (h.showing seen) := ⟨rfl, fun _ _ => rfl, hseen⟩

/-- The job of a received command. -/
def receivedJob (executor : Executor D) (command : Object) (data : ScopeData) (token : Token)
    (ambient : Option AmbientValues) : Job D :=
  ⟨⟨command, token⟩, ⟨data.payload, ambient⟩, executor, none⟩

/-- What comes of a reception whose validation was `validated`. -/
inductive Received (h : Host D) (validated : Account ValidationResult) (executor : Executor D)
    (services : D) (command : Object) (data : ScopeData) (token : Token) :
    Outcome Receipt → Host D → Prop where
  /-- The command is not valid, whatever else is the case. -/
  | rejected {h' : Host D} (hinvalid : validated.value.success = false)
    (hsame : Untouched h validated.history h') :
    Received h validated executor services command data token (.ok (.rejected validated.value)) h'
  /-- The provider fails. -/
  | uncaptured {captured : List Happening} {f : Failure} {h' : Host D}
    (hvalid : validated.value.success = true)
    (hcaptured : Captured h.registry services data captured (.error (.failure f)))
    (hsame : Untouched h (validated.history ++ captured) h') :
    Received h validated executor services command data token
      (.error (EngineError.scopeCreation ("capturing ambient values: " ++ f.text) : Raise)) h'
  /-- The provider panics, and so does the reception. -/
  | panicked {captured : List Happening} {p : Panic} {h' : Host D}
    (hvalid : validated.value.success = true)
    (hcaptured : Captured h.registry services data captured (.error (.panic p)))
    (hsame : Untouched h (validated.history ++ captured) h') :
    Received h validated executor services command data token (.error (.panic p)) h'
  /-- The host shuts down, and there is a record of the refusal. -/
  | refused {captured : List Happening} {ambient : Option AmbientValues} {h' : Host D}
    (hvalid : validated.value.success = true)
    (hcaptured : Captured h.registry services data captured (.ok ambient))
    (hclosing : h.pool.shuttingDown = true)
    (hsame : Untouched h (validated.history ++ captured ++ [.log (.jobRejected token)]) h') :
    Received h validated executor services command data token
      (.error (EngineError.hostShuttingDown : Raise)) h'
  /-- One job is put at the end of the queue. -/
  | accepted {captured : List Happening} {ambient : Option AmbientValues} {h' : Host D}
    (hvalid : validated.value.success = true)
    (hcaptured : Captured h.registry services data captured (.ok ambient))
    (hopen : h.pool.shuttingDown = false)
    (hqueued : h'.pool = h.pool.enqueue
      [.job ⟨h.issued, receivedJob executor command data token ambient⟩])
    (hseen : h'.observed = h.observed.happenAll (validated.history ++ captured))
    (hhookless : hookCalls (validated.history ++ captured) = []) :
    Received h validated executor services command data token (.ok (.accepted h.issued)) h'

theorem hookCalls_incoming (registry : Registry D) (services : D) (token : Token) (o : Object) :
    hookCalls (Validation.incoming registry services token o).history = [] := by
  cases hfind : registry.descriptorOf? o with
  | none =>
    rw [Validation.incoming_of_none hfind]
    rfl
  | some d =>
    obtain ⟨called, out, s, hcalls, hmarks, -⟩ :=
      @Validation.incoming_calls D registry services token o d hfind
    rw [hookCalls, hmarks]
    refine List.filterMap_eq_nil_iff.mpr fun m hm => ?_
    exact Mark.hook?_of_isValidating ((hcalls.validates Collector.counted_empty).1 m hm)

theorem Captured.hookless {registry : Registry D} {captured : List Happening}
    {out : Outcome (Option AmbientValues)}
    (hcaptured : Captured registry services data captured out) : hookCalls captured = [] := by
  cases hcaptured with
  | given | absent => rfl
  | provided =>
    rw [hookCalls, Job.marks_act]
    rfl

theorem happenAll_append (o : Observed) (h₁ h₂ : List Happening) :
    o.happenAll (h₁ ++ h₂) = (o.happenAll h₁).happenAll h₂ := List.foldl_append

/-- A record that is written is a record that happens. -/
theorem showing_record (h : Host D) (seen : List Happening) (event : LogEvent) :
    h.showing (seen ++ [.log event]) = (h.showing seen).log [event] := by
  unfold showing
  rw [happenAll_append]
  rfl

/-! ### The job of a received command -/

/-- The last part of a reception: a job gets a ticket and is submitted. -/
def offer (h : Host D) (job : Job D) : Outcome Receipt × Host D :=
  match (h.ticketFor job).2.submit (h.ticketFor job).1 with
  | (.ok (), h') => (.ok (.accepted h.issued), h')
  | (.error e, h') => (.error (.failure e), h')

/-- A command is validated, ambient values are captured, and a job is offered. -/
theorem receive_eq (h : Host D) (executor : Executor D) (services : D) (command : Object)
    (data : ScopeData) (token : Token) :
    h.receive executor services command data token =
      let validated := Validation.incoming h.registry services token command
      if validated.value.success then
        let captured := h.capture services data
        let h := h.showing (validated.history ++ captured.history)
        match captured.value with
        | .error e => (.error e, h)
        | .ok data => h.offer ⟨⟨command, token⟩, data, executor, none⟩
      else (.ok (.rejected validated.value), h.showing validated.history) := by
  dsimp only [showing]
  rw [happenAll_append]
  rfl

theorem offer_of_closing (h : Host D) (job : Job D) (hclosing : h.pool.shuttingDown = true) :
    h.offer job = (.error (EngineError.hostShuttingDown : Raise),
      ((h.ticketFor job).2.log [.jobRejected job.info.token]).lose h.issued) := by
  have hsubmit : (h.ticketFor job).2.pool.submit (h.ticketFor job).1 = .error .hostShuttingDown :=
    if_pos hclosing
  unfold offer submit
  rw [hsubmit]
  rfl

theorem offer_of_open (h : Host D) (job : Job D) (hopen : h.pool.shuttingDown = false) :
    h.offer job = (.ok (.accepted h.issued),
      (h.ticketFor job).2.setPool (h.pool.enqueue [.job ⟨h.issued, job⟩])) := by
  have hsubmit : (h.ticketFor job).2.pool.submit (h.ticketFor job).1 =
      .ok (h.pool.enqueue [.job ⟨h.issued, job⟩]) := if_neg (Bool.eq_false_iff.mp hopen)
  unfold offer submit
  rw [hsubmit]

/-- Nothing is seen of a new pool. -/
theorem setPool_observed (h : Host D) (pool : Pool (TicketedJob D)) :
    (h.setPool pool).observed = h.observed := by
  unfold setPool wake
  dsimp only
  repeat' split
  all_goals rfl

theorem received_receive (h : Host D) (executor : Executor D) (services : D) (command : Object)
    (data : ScopeData) (token : Token) :
    Received h (Validation.incoming h.registry services token command) executor services command
      data token (h.receive executor services command data token).1
      (h.receive executor services command data token).2 := by
  have hvalidated := hookCalls_incoming h.registry services token command
  obtain ⟨out, hcaptured, hvalue⟩ := captured_capture h services data
  have hhookless := hcaptured.hookless
  rw [receive_eq]
  dsimp only
  generalize Validation.incoming h.registry services token command = validated at hvalidated ⊢
  generalize capture h services data = captured at hcaptured hvalue hhookless ⊢
  have hseen : hookCalls (validated.history ++ captured.history) = [] := by
    rw [hookCalls_append, hvalidated, hhookless]
    rfl
  cases hvalid : validated.value.success with
  | false => exact .rejected hvalid (untouched_showing h hvalidated)
  | true =>
    rw [if_pos rfl, hvalue]
    rcases out with (f | p) | ambient
    · exact .uncaptured hvalid hcaptured (untouched_showing h hseen)
    · exact .panicked hvalid hcaptured (untouched_showing h hseen)
    · dsimp only [withCaptured]
      cases hclosing : h.pool.shuttingDown with
      | true =>
        rw [offer_of_closing (h.showing _) _ hclosing]
        refine .refused hvalid hcaptured hclosing ⟨?_, fun number hother => ?_, ?_⟩
        · rw [showing_record]
          rfl
        · exact (ticket?_lose _ hother).trans (ticket?_ticketFor (h.showing _)
            (receivedJob executor command data token ambient) hother)
        · rw [hookCalls_append, hseen]
          rfl
      | false =>
        rw [offer_of_open (h.showing _) _ hclosing]
        exact .accepted hvalid hcaptured hclosing (aside_setPool _ _).pool (setPool_observed _ _)
          hseen

/-- Nobody asks the executor while a command is received.  It only shows in the job. -/
theorem receive_executor (h : Host D) (executor other : Executor D) (services : D)
    (command : Object) (data : ScopeData) (token : Token)
    (hnone : ∀ n, (h.receive executor services command data token).1 ≠ .ok (.accepted n)) :
    h.receive other services command data token =
      h.receive executor services command data token := by
  rw [receive_eq] at hnone
  rw [receive_eq, receive_eq]
  dsimp only at hnone ⊢
  split at hnone
  · rename_i hvalid
    rw [if_pos hvalid, if_pos hvalid]
    generalize capture h services data = captured at hnone ⊢
    cases hcaptured : captured.value with
    | error e => rfl
    | ok data =>
      rw [hcaptured] at hnone
      dsimp only at hnone ⊢
      cases hclosing : h.pool.shuttingDown with
      | true =>
        rw [offer_of_closing (h.showing _) _ hclosing, offer_of_closing (h.showing _) _ hclosing]
        rfl
      | false =>
        exact absurd (congrArg Prod.fst (offer_of_open (h.showing _) _ hclosing)) (hnone _)
  · rename_i hinvalid
    rw [if_neg hinvalid, if_neg hinvalid]

/-- The host with another provider. -/
def withProvider (h : Host D) (provider : Option (AmbientProvider D)) : Host D :=
  { h with registry := { h.registry with provider } }

theorem setPool_withProvider (h : Host D) (provider : Option (AmbientProvider D))
    (pool : Pool (TicketedJob D)) :
    (h.withProvider provider).setPool pool = (h.setPool pool).withProvider provider := by
  unfold setPool withProvider wake phase?
  dsimp only
  repeat' split
  all_goals rfl

theorem offer_withProvider (h : Host D) (provider : Option (AmbientProvider D)) (job : Job D) :
    (h.withProvider provider).offer job =
      ((h.offer job).1, (h.offer job).2.withProvider provider) := by
  cases hclosing : h.pool.shuttingDown with
  | true =>
    rw [offer_of_closing (h.withProvider provider) job hclosing, offer_of_closing h job hclosing]
    rfl
  | false =>
    rw [offer_of_open (h.withProvider provider) job hclosing, offer_of_open h job hclosing]
    exact congrArg _ (setPool_withProvider (h.ticketFor job).2 provider _)

/-- A command that comes with ambient values needs no provider but for its validation: with any
other one that leaves the validation as it is, the same comes of it. -/
theorem receive_withProvider (h : Host D) (executor : Executor D) (services : D) (command : Object)
    (data : ScopeData) (token : Token) {values : AmbientValues} (hdata : data.ambient = some values)
    (provider : Option (AmbientProvider D))
    (hvalidated : Validation.incoming (h.withProvider provider).registry services token command =
      Validation.incoming h.registry services token command) :
    (h.withProvider provider).receive executor services command data token =
      ((h.receive executor services command data token).1,
        (h.receive executor services command data token).2.withProvider provider) := by
  have hcapture : ∀ g : Host D, g.capture services data = pure (.ok data) := by
    intro g
    unfold capture
    rw [hdata]
  rw [receive_eq, receive_eq, hcapture, hcapture, hvalidated]
  dsimp only
  split
  · exact offer_withProvider (h.showing _) provider _
  · rfl

/-! ## The main result -/

theorem Received.rejected_iff {validated : Account ValidationResult} {out : Outcome Receipt}
    {h' : Host D} (hr : Received h validated executor services command data token out h')
    (v : ValidationResult) :
    out = .ok (.rejected v) ↔ validated.value.success = false ∧ v = validated.value := by
  cases hr with
  | rejected hinvalid =>
    refine ⟨fun hout => ?_, fun hv => hv.2 ▸ rfl⟩
    cases hout
    exact ⟨hinvalid, rfl⟩
  | uncaptured hvalid | panicked hvalid | refused hvalid | accepted hvalid =>
    refine ⟨nofun, fun hv => ?_⟩
    rw [hvalid] at hv
    cases hv.1

/-- **What comes of a received command.**

* It is rejected if and only if its validation failed.
* In every case it is as `Received` has it.
* Unless it is accepted it makes no difference who the executor is.
* If it comes with ambient values, it makes no difference but to the validation who the provider is.
* If it is accepted, then it is by its ticket the same job for as long as it waits, whatever happens
  to the host, and when it is run and a scope could be created for it, the ambient values that were
  captured are restored, and none if there are none. -/
theorem receive_command (h : Host D) (executor : Executor D) (services : D) (command : Object)
    (data : ScopeData) (token : Token) :
    let validated := Validation.incoming h.registry services token command
    let received := h.receive executor services command data token
    (∀ v, received.1 = .ok (.rejected v) ↔ validated.value.success = false ∧ v = validated.value) ∧
    Received h validated executor services command data token received.1 received.2 ∧
    ((∀ n, received.1 ≠ .ok (.accepted n)) →
      ∀ other, h.receive other services command data token = received) ∧
    (∀ values, data.ambient = some values → ∀ provider,
      Validation.incoming (h.withProvider provider).registry services token command = validated →
      (h.withProvider provider).receive executor services command data token =
        (received.1, received.2.withProvider provider)) ∧
    ∀ n, received.1 = .ok (.accepted n) → ∃ captured ambient,
      Captured h.registry services data captured (.ok ambient) ∧
      ∀ (registry : Registry D) (config : HostConfig) (observed : Observed)
        (h₀ later : Host D) (made made' : List (TicketedJob D)),
        start registry config observed = .ok h₀ →
        Relation.ReflTransGen Change (h₀, []) (h, made) →
        Relation.ReflTransGen Change (received.2, made) (later, made') →
        ∀ j ∈ later.pool.queuedJobs, j.ticket = n →
          j.job = receivedJob executor command data token ambient ∧
          ∀ registry party, restorations (j.job.process registry party).run.history =
            match (Job.created j.job).value with
            | .ok _ => ambient.toList
            | .error _ => [] := by
  have hreceived := received_receive h executor services command data token
  refine ⟨hreceived.rejected_iff, hreceived, fun hnone other => ?_, fun values hdata provider => ?_,
    fun n hn => ?_⟩
  · exact receive_executor h executor other services command data token hnone
  · exact receive_withProvider h executor services command data token hdata provider
  · have hchanges := fun made => changes_receive h made executor services command data token
    generalize h.receive executor services command data token = received at hreceived hn hchanges ⊢
    obtain ⟨out, h'⟩ := received
    cases hreceived with
    | rejected | uncaptured | panicked | refused => cases hn
    | @accepted captured ambient _ _ hcaptured _ hqueued =>
      refine ⟨captured, ambient, hcaptured, ?_⟩
      intro registry config observed h₀ later made made' hstart hbefore hafter j hj hticket
      have hwaits : ⟨n, receivedJob executor command data token ambient⟩ ∈ h'.pool.queuedJobs := by
        cases hn
        rw [hqueued]
        exact List.mem_filterMap.mpr ⟨_, List.mem_append_right _ (List.mem_singleton_self _), rfl⟩
      obtain rfl := job_of_ticket hstart (hbefore.trans (hchanges made)) hwaits hafter hj hticket
      exact ⟨rfl, fun registry party => Job.restorations_process registry party _⟩

end Host

/-! ### A host with a provider -/

namespace Host.Post

def letter : TypeKey := ⟨"letter", "letter"⟩

def sending : Object := .fresh ⟨letter, false, 0, ""⟩

def values : AmbientValues := .ofList [("language", .str "la")]

/-- One command without validators, and a provider that ends so. -/
def registry (made : Outcome AmbientValues) : Registry Unit :=
  { Registry.of [⟨0, letter, .command, none,
      some (⟨"Clerk", "handle", letter, .unit, false⟩, .pooled fun _ _ => pure .void),
      [], [], [], [], true⟩]
    with provider := some fun _ => ⟨[], made⟩ }

/-- Two runners at most, and one at first. -/
def config : HostConfig := ⟨1, "local", 2⟩

/-- An executor whose scopes are created so. -/
def executor (scope : Outcome Unit) : Executor Unit := .ofFactory fun _ => ⟨[], scope⟩

def arrival (h : Host Unit) : Outcome Receipt × Host Unit :=
  h.receive (executor (.ok ())) () sending .empty .absent

theorem exists_carried : ∃ h₀ : Host Unit,
    start (registry (.ok values)) config default = .ok h₀ ∧
    (h₀.setRunnerCount 2).2.registry = registry (.ok values) ∧
    (arrival (h₀.setRunnerCount 2).2).1 = .ok (.accepted 0) ∧
    ∃ j ∈ ((arrival (h₀.setRunnerCount 2).2).2.setRunnerCount 1).2.pool.queuedJobs, j.ticket = 0 :=
  ⟨_, rfl, rfl, rfl, _, .head _, rfl⟩

/-- The command waits behind the order for a second runner and before the order to let one go, and
takes the provider's values with it. -/
theorem receive_command_carried : ∃ h₀ : Host Unit,
    start (registry (.ok values)) config default = .ok h₀ ∧
    (arrival (h₀.setRunnerCount 2).2).1 = .ok (.accepted 0) ∧
    ∃ j ∈ ((arrival (h₀.setRunnerCount 2).2).2.setRunnerCount 1).2.pool.queuedJobs, j.ticket = 0 ∧
      j.job.scopeData.ambient = some values ∧
      restorations (j.job.process h₀.registry h₀.party).run.history = [values] := by
  obtain ⟨h₀, hstart, hregistry, haccepted, j, hj, hticket⟩ := exists_carried
  obtain ⟨-, -, -, -, hcarried⟩ :=
    receive_command (h₀.setRunnerCount 2).2 (executor (.ok ())) () sending .empty .absent
  obtain ⟨captured, ambient, hcaptured, hjob⟩ := hcarried 0 haccepted
  obtain ⟨hsame, hrestored⟩ := hjob _ _ _ _ _ _ _ hstart (.single (.replanned h₀ [] 2))
    (.single (.replanned _ [] 1)) j hj hticket
  have hvalues : ambient = some values := by
    generalize hout : (Except.ok ambient : Outcome (Option AmbientValues)) = out at hcaptured
    cases hcaptured with
    | given hdata => cases hdata
    | absent _ hprovider =>
      rw [hregistry] at hprovider
      cases hprovider
    | provided _ hprovider =>
      rw [hregistry] at hprovider
      cases hprovider
      cases hout
      rfl
  subst hvalues
  refine ⟨h₀, hstart, haccepted, j, hj, hticket, hsame ▸ rfl, (hrestored _ _).trans ?_⟩
  rw [hsame]
  rfl

/-- A provider that panics takes the reception with it, though the command is valid and the host is
open; and a job whose scope cannot be created keeps its ambient values to itself. -/
theorem provider_panic_escapes : ∃ h₀ : Host Unit,
    start (registry (.error (.panic (.text "busy")))) config default = .ok h₀ ∧
    (Validation.incoming h₀.registry () .absent sending).value.success = true ∧
    h₀.pool.shuttingDown = false ∧
    (arrival h₀).1 = .error (.panic (.text "busy")) ∧ (arrival h₀).2.pool = h₀.pool ∧
    restorations ((receivedJob (executor (.error (.panic .other))) sending .empty .absent
      (some values)).process h₀.registry h₀.party).run.history = [] := by
  refine ⟨_, rfl, rfl, rfl, rfl, rfl, ?_⟩
  exact Job.restorations_process _ _ _

end Host.Post
end CommandEngine
