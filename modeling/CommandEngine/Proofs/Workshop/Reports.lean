import CommandEngine.Proofs.Job.Course
import CommandEngine.Proofs.Workshop.Ledger

/-!
# What callers are told of their jobs

A caller who asks for the report on a job is told nothing while the job may still be run.  Once the
job was run, the caller is told the report, provided the callback that sees it first returns.  A
callback that panics takes the report with it, and then the caller of a job that was executed is
told the same as the caller of a job that was dropped: that the host is shutting down
(`Workshop.answers_told`).
-/
namespace CommandEngine

open Run

namespace Job

variable {D : Type} {registry : Registry D} {party : String} {job : Job D}

/-- The callback panics at the report. -/
def callbackPanics (job : Job D) (executed : ExecutedCommand) : Bool :=
  (job.report.bind fun report => (report executed).panic).isSome

/-- The report is delivered unless the callback panics. -/
theorem delivered_eq (job : Job D) (r : JobRun) : delivered job r =
    if callbackPanics job (summary job r) then none else some (summary job r) := by
  unfold delivered reported callbackPanics
  cases job.report with
  | none => rfl
  | some report =>
    rcases Option.eq_none_or_eq_some (report (summary job r)).panic with hreturns | ⟨p, hpanics⟩
    · simp only [Account.notice, Option.bind_some, hreturns]
      rfl
    · simp only [Account.notice, Option.bind_some, hpanics]
      rfl

/-- A job that is processed to its end was run to its end. -/
theorem exists_run_of_process {x : Option ExecutedCommand}
    (hprocessed : (process registry party job).run.value = some x) :
    ∃ h r, Yields (run registry party job) h r ∧ x = delivered job r := by
  have hyields : Yields (process registry party job) (process registry party job).run.history x :=
    Traced.ext rfl hprocessed
  obtain ⟨h, r, hwhole, -, hx⟩ := yields_process.mp hyields
  exact ⟨h, r, yields_run.mpr hwhole, hx⟩

/-- A job that is run to its end is processed to its end. -/
theorem process_of_run {h : List Happening} {r : JobRun} (hrun : Yields (run registry party job) h r) :
    (process registry party job).run.value = some (delivered job r) :=
  congrArg Traced.value (yields_process.mpr ⟨h, r, yields_run.mp hrun, rfl, rfl⟩)

end Job

namespace Workshop

variable {D : Type} {w w' : Workshop D} {number : Nat} {x : Completion} {j : TicketedJob D}

/-- Nothing changes the registry and the party of a workshop. -/
theorem registry_of_run {registry : Registry D} {config : HostConfig} {w₀ : Workshop D}
    {moves : List (Move D)} (hstart : start registry config = .ok w₀)
    (hrun : w₀.run moves = some w) : w.registry = registry ∧ w.party = config.party := by
  obtain ⟨crew, -, rfl⟩ := start_ok hstart
  refine run_keeps (P := fun w => w.registry = registry ∧ w.party = config.party) ?_ hrun ⟨rfl, rfl⟩
  intro w w' hs hw
  cases hs <;> exact hw

/-! ## Answers and tickets -/

/-- The answer to a caller is what the ticket says. -/
theorem Kept.answer (hw : w.Kept) (hticket : (number, x) ∈ w.tickets) :
    w.answer? number = x.answer? := by
  obtain ⟨i, hentry⟩ := List.getElem?_of_mem hticket
  obtain rfl := hw.number_eq hentry
  rw [answer?, hentry]
  rfl

theorem Kept.answer_pending (hw : w.Kept) (hj : j ∈ w.pendingJobs) : w.answer? j.ticket = none :=
  hw.answer (hw.standing.subset (List.mem_append_left _ (List.mem_map_of_mem hj)))

theorem Kept.answer_lost (hw : w.Kept) (hj : j ∈ w.lostJobs) :
    w.answer? j.ticket = some (.error .hostShuttingDown) := by
  have hentry : (j.ticket, Completion.lost) ∈ entries (fun _ => .lost) w.lostJobs :=
    List.mem_map_of_mem hj
  exact hw.answer (hw.standing.subset (List.mem_append_right _ (List.mem_append_left _ hentry)))

/-- The answer to the caller of a job that was executed. -/
theorem Kept.answer_finished (hw : w.Kept) (hj : j ∈ w.crew.finished) :
    ∃ h r, Yields (j.job.run w.registry w.party) h r ∧ w.answer? j.ticket =
      some (if j.job.callbackPanics (j.job.summary r) then .error .hostShuttingDown
        else .ok (j.job.summary r)) := by
  obtain ⟨report, hended⟩ := hw.ended j hj
  obtain ⟨h, r, hrun, rfl⟩ := Job.exists_run_of_process hended
  have hentry : (j.ticket, w.ending j) ∈ entries w.ending w.crew.finished := List.mem_map_of_mem hj
  refine ⟨h, r, hrun, ?_⟩
  rw [hw.answer (hw.standing.subset (List.mem_append_right _ (List.mem_append_right _ hentry))),
    ending, hended, Job.delivered_eq]
  split <;> rfl

/-- A lost job is not one that a runner took. -/
theorem Kept.not_dequeued (hw : w.Kept) (hj : j ∈ w.lostJobs) :
    j.ticket ∉ w.crew.dequeued.map (·.ticket) := by
  intro hdequeued
  obtain ⟨k, hk, heq⟩ := List.mem_map.mp hdequeued
  have hrefused : j ∉ w.refused ++ w.discarded := by
    intro hj
    refine hw.not_accepted hj ?_ heq.symm
    rw [hw.accounted.accepted_eq]
    exact List.mem_append_left _ hk
  rcases List.mem_append.mp hj with hj | hj
  · exact hrefused hj
  · -- the job went with the queue, where no job is that was taken
    split at hj
    · have honce := hw.accepted_nodup
      rw [hw.accounted.accepted_eq, List.map_append] at honce
      exact (List.nodup_append.mp honce).2.2 _ hdequeued _ (List.mem_map_of_mem hj) rfl
    · cases hj

/-- A job that was executed counts as lost only if its callback panicked. -/
theorem Kept.of_ending_lost (hw : w.Kept) (hj : j ∈ w.crew.finished) (hlost : w.ending j = .lost) :
    ∃ h r, Yields (j.job.run w.registry w.party) h r ∧ j.job.callbackPanics (j.job.summary r) := by
  obtain ⟨report, hended⟩ := hw.ended j hj
  obtain ⟨h, r, hrun, rfl⟩ := Job.exists_run_of_process hended
  refine ⟨h, r, hrun, ?_⟩
  rw [ending, hended, Job.delivered_eq] at hlost
  split at hlost
  · assumption
  · cases hlost

/-- Who is told that the host shuts down has a ticket for a job that was lost, or that was executed
and whose callback panicked. -/
theorem Kept.of_answer_shuttingDown (hw : w.Kept)
    (hanswer : w.answer? number = some (.error .hostShuttingDown)) :
    (∃ j ∈ w.lostJobs, j.ticket = number) ∨ ∃ j ∈ w.crew.finished, j.ticket = number ∧
      ∃ h r, Yields (j.job.run w.registry w.party) h r ∧ j.job.callbackPanics (j.job.summary r) := by
  obtain ⟨⟨n, x⟩, hticket, hx⟩ := Option.bind_eq_some_iff.mp hanswer
  obtain rfl := hw.number_eq hticket
  obtain rfl : x = .lost := by
    cases x with
    | lost => rfl
    | pending | reported => cases hx
  have hentry := hw.standing.symm.subset (List.mem_of_getElem? hticket)
  rcases List.mem_append.mp hentry with hpending | hentry
  · obtain ⟨j, -, heq⟩ := List.mem_map.mp hpending
    cases heq
  · rcases List.mem_append.mp hentry with hlost | hfinished
    · obtain ⟨j, hj, heq⟩ := List.mem_map.mp hlost
      exact .inl ⟨j, hj, congrArg Prod.fst heq⟩
    · obtain ⟨j, hj, heq⟩ := List.mem_map.mp hfinished
      exact .inr ⟨j, hj, congrArg Prod.fst heq, hw.of_ending_lost hj (congrArg Prod.snd heq)⟩

/-- Nothing is told to those whose jobs may still be run, and to nobody else who has a ticket. -/
theorem Kept.answer_eq_none_iff (hw : w.Kept) (hnumber : number < w.tickets.length) :
    w.answer? number = none ↔ ∃ j ∈ w.pendingJobs, j.ticket = number := by
  constructor
  · intro hnone
    obtain ⟨x, hticket⟩ : ∃ x, (number, x) ∈ w.tickets := by
      have hmem : number ∈ w.tickets.map Prod.fst := by
        rw [hw.numbers]
        exact List.mem_range.mpr hnumber
      obtain ⟨⟨n, x⟩, hticket, rfl⟩ := List.mem_map.mp hmem
      exact ⟨x, hticket⟩
    rw [hw.answer hticket] at hnone
    rcases List.mem_append.mp (hw.standing.symm.subset hticket) with hpending | hentry
    · obtain ⟨j, hj, heq⟩ := List.mem_map.mp hpending
      exact ⟨j, hj, congrArg Prod.fst heq⟩
    · exfalso
      rcases List.mem_append.mp hentry with hlost | hfinished
      · obtain ⟨j, -, heq⟩ := List.mem_map.mp hlost
        obtain rfl := congrArg Prod.snd heq
        cases hnone
      · obtain ⟨j, hj, heq⟩ := List.mem_map.mp hfinished
        obtain ⟨report, hended⟩ := hw.ended j hj
        obtain rfl := congrArg Prod.snd heq
        simp only [ending, hended] at hnone
        cases report <;> cases hnone
  · rintro ⟨j, hj, rfl⟩
    exact hw.answer_pending hj

/-! ## The main result -/

/-- **What callers are told of their jobs.**  After any moves: a job that was executed has a report,
and its caller is told the report, or, if the callback panicked at it, that the host is shutting
down; the caller of a job that may still be run is told nothing; the caller of a job that was lost
is told that the host is shutting down, and no runner took the job; and nobody else is told so. -/
theorem answers_told {registry : Registry D} {config : HostConfig} {w₀ : Workshop D}
    {moves : List (Move D)} (hstart : start registry config = .ok w₀)
    (hrun : w₀.run moves = some w) :
    (∀ j ∈ w.crew.finished, ∃ h r, Yields (j.job.run registry config.party) h r ∧
      w.answer? j.ticket =
        some (if j.job.callbackPanics (j.job.summary r) then .error .hostShuttingDown
          else .ok (j.job.summary r))) ∧
      (∀ j ∈ w.pendingJobs, w.answer? j.ticket = none) ∧
      (∀ j ∈ w.lostJobs, w.answer? j.ticket = some (.error .hostShuttingDown) ∧
        j.ticket ∉ w.crew.dequeued.map (·.ticket)) ∧
      ∀ number, w.answer? number = some (.error .hostShuttingDown) →
        (∃ j ∈ w.lostJobs, j.ticket = number) ∨ ∃ j ∈ w.crew.finished, j.ticket = number ∧
          ∃ h r, Yields (j.job.run registry config.party) h r ∧
            j.job.callbackPanics (j.job.summary r) := by
  have hw : w.Kept := .of_run hstart hrun
  obtain ⟨hregistry, hparty⟩ := registry_of_run hstart hrun
  rw [← hregistry, ← hparty]
  exact ⟨fun j hj => hw.answer_finished hj, fun j hj => hw.answer_pending hj,
    fun j hj => ⟨hw.answer_lost hj, hw.not_dequeued hj⟩,
    fun number hanswer => hw.of_answer_shuttingDown hanswer⟩

/-! ### One job, executed -/

namespace Small

/-- The command is executed whatever the callback does. -/
theorem exists_run (report : Option (ExecutedCommand → Notice)) :
    ∃ h r, Yields ((job report).run registry config.party) h r ∧ r.result = .success .void :=
  ⟨_, _, rfl, rfl⟩

/-- A job is made, submitted, taken and executed. -/
theorem exists_executed (report : Option (ExecutedCommand → Notice)) :
    ∃ w₀ w, start registry config = .ok w₀ ∧
      w₀.run [.make (job report), .submit 0, .take 0, .follow 0] = some w ∧
      w.crew.pool.shuttingDown = false ∧ w.crew.accepted = [⟨0, job report⟩] ∧
      w.crew.finished = [⟨0, job report⟩] := by
  obtain ⟨w₀, w, hstart, htaken, hregistry, hparty, hopen, hhands, haccepted, hfinished⟩ :
      ∃ w₀ w, start registry config = .ok w₀ ∧
        w₀.run [.make (job report), .submit 0, .take 0] = some w ∧
        w.registry = registry ∧ w.party = config.party ∧ w.crew.pool.shuttingDown = false ∧
        w.crew.hands = [some (.job ⟨0, job report⟩)] ∧ w.crew.accepted = [⟨0, job report⟩] ∧
        w.crew.finished = [] :=
    ⟨_, _, rfl, rfl, rfl, rfl, rfl, rfl, rfl, rfl⟩
  obtain ⟨h, r, hrun, -⟩ := exists_run report
  have hended : w.processed ⟨0, job report⟩ = some ((job report).delivered r) := by
    rw [processed, hregistry, hparty]
    exact Job.process_of_run hrun
  have hfollow : w.step (.follow 0) = some { w with
      crew := w.crew.follow 0 (.job ⟨0, job report⟩)
      tickets := write 0 (.ofRun (some ((job report).delivered r))) w.tickets } := by
    simp only [step, hhands, List.getElem?_cons_zero, follow, hended]
  have hmoves : w₀.run ([.make (job report), .submit 0, .take 0] ++ [.follow 0]) =
      w.step (.follow 0) := by
    rw [run_append, htaken, Option.bind_some, run_cons]
    exact Option.bind_fun_some _
  have hdone : (w.crew.follow 0 (.job ⟨0, job report⟩)).finished = [⟨0, job report⟩] := by
    show w.crew.finished ++ _ = _
    rw [hfinished, List.nil_append]
  exact ⟨w₀, _, hstart, hmoves.trans hfollow, hopen, haccepted, hdone⟩

end Small

/-- The callback returns, and the caller gets the report. -/
theorem answers_told_report : ∃ w₀ w, start Small.registry Small.config = .ok w₀ ∧
    w₀.run [.make (Small.job (some fun _ => .silent)), .submit 0, .take 0, .follow 0] = some w ∧
    ∃ h r, Yields ((Small.job (some fun _ => .silent)).run Small.registry "local") h r ∧
      w.answer? 0 = some (.ok ((Small.job (some fun _ => .silent)).summary r)) := by
  obtain ⟨w₀, w, hstart, hrun, -, -, hfinished⟩ := Small.exists_executed (some fun _ => .silent)
  obtain ⟨hreports, -⟩ := answers_told hstart hrun
  rw [hfinished] at hreports
  obtain ⟨h, r, hyields, hanswer⟩ := hreports _ (List.mem_singleton_self _)
  exact ⟨w₀, w, hstart, hrun, h, r, hyields, hanswer⟩

/-- The command was executed and its callback panicked: the caller is told that the host is shutting
down, as if the job had been dropped. -/
theorem executed_job_disowned : ∃ w₀ w, start Small.registry Small.config = .ok w₀ ∧
    w₀.run [.make (Small.job (some fun _ => ⟨[], some .other⟩)), .submit 0, .take 0, .follow 0] =
      some w ∧
    w.crew.pool.shuttingDown = false ∧
    ∃ j h r, j ∈ w.crew.accepted ∧ j ∈ w.crew.finished ∧
      Yields (j.job.run Small.registry "local") h r ∧ r.result = .success .void ∧
      w.answer? j.ticket = some (.error .hostShuttingDown) ∧
      w.answer? j.ticket ≠ some (.ok (j.job.summary r)) := by
  obtain ⟨w₀, w, hstart, hrun, hopen, haccepted, hfinished⟩ :=
    Small.exists_executed (some fun _ => ⟨[], some .other⟩)
  have hw : w.Kept := .of_run hstart hrun
  obtain ⟨hregistry, hparty⟩ := registry_of_run hstart hrun
  have hj : ⟨0, Small.job (some fun _ => ⟨[], some .other⟩)⟩ ∈ w.crew.finished :=
    hfinished ▸ List.mem_singleton_self _
  obtain ⟨h, r, hyields, hanswer⟩ := hw.answer_finished hj
  rw [hregistry, hparty] at hyields
  obtain ⟨h', r', hyields', hresult⟩ := Small.exists_run (some fun _ => ⟨[], some .other⟩)
  obtain ⟨-, rfl⟩ := (yields_of_run hyields').mp hyields
  have htold : w.answer? 0 = some (.error .hostShuttingDown) := hanswer
  refine ⟨w₀, w, hstart, hrun, hopen, _, h, r, haccepted ▸ List.mem_singleton_self _, hj, hyields,
    hresult, htold, ?_⟩
  rw [htold]
  exact fun heq => nomatch heq

end Workshop
end CommandEngine
