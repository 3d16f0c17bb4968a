import CommandEngine.Proofs.Host.Simulation
import CommandEngine.Proofs.Workshop.Reports
import CommandEngine.Proofs.Workshop.Runners

/-!
# Jobs do not see each other

Many jobs go through a workshop, some of them at once, and each may fail or panic at any stage, the
callback that sees its report included.  Meanwhile others resize the pool or shut it down.  A job
leaves nothing behind for the next one: it is run in services of its own and on a stack of its own,
so all that it depends on besides itself is the registry and the party, and nothing changes these.

Handlers, validators and hooks are functions of the services of their job and of what they are
called for, so application code that remembers something from one job to the next is outside of what
is said here.  What a job's code asks of the pool while it runs is a move of its own; following the
job to its end leaves the pool as it is.

A job that runs alone is made, submitted, taken and followed by the only runner of a new workshop.
Whatever happened in another workshop over the same registry and for the same party, the caller of a
job that was executed there is told what the caller of the lone job is told (`jobs_isolated`).
-/
namespace CommandEngine
namespace Workshop

open Run

variable {D : Type} {registry : Registry D} {config : HostConfig} {w₀ w w' : Workshop D}
  {moves : List (Move D)}

/-! ## A job alone -/

/-- A job is made, submitted, taken by the only runner and followed to its end. -/
def solitary (job : Job D) : List (Move D) := [.make job, .submit 0, .take 0, .follow 0]

/-- The only runner of a new workshop has the job in its hand. -/
theorem exists_taken (registry : Registry D) (job : Job D) (hvalid : config.validate = .ok ())
    (hone : config.runnerCount = 1) : ∃ a₀ a, start registry config = .ok a₀ ∧
      a₀.run [.make job, .submit 0, .take 0] = some a ∧ a.registry = registry ∧
      a.party = config.party ∧ a.crew.hands = [some (.job ⟨0, job⟩)] ∧ a.crew.finished = [] := by
  obtain ⟨count, party, maximum⟩ := config
  obtain rfl : count = 1 := hone
  unfold start Crew.start
  rw [hvalid]
  exact ⟨_, _, rfl, rfl, rfl, rfl, rfl, rfl⟩

/-- A job that ends when it is run may run alone. -/
theorem exists_solitary {job : Job D} {h : List Happening} {r : JobRun}
    (hvalid : config.validate = .ok ()) (hone : config.runnerCount = 1)
    (hended : Yields (job.run registry config.party) h r) :
    ∃ a₀ a, start registry config = .ok a₀ ∧ a₀.run (solitary job) = some a ∧
      a.crew.finished = [⟨0, job⟩] := by
  obtain ⟨a₀, a, hstart, htaken, hregistry, hparty, hhands, hfinished⟩ :=
    exists_taken registry job hvalid hone
  have hhand : a.crew.hands[0]? = some (some (.job ⟨0, job⟩)) := by
    rw [hhands]
    rfl
  have hprocessed : a.processed ⟨0, job⟩ = some (job.delivered r) := by
    rw [processed, hregistry, hparty]
    exact Job.process_of_run hended
  have hfollow : a.step (.follow 0) = some { a with
      crew := a.crew.follow 0 (.job ⟨0, job⟩)
      tickets := write 0 (.ofRun (some (job.delivered r))) a.tickets } := by
    simp only [step, hhand, follow, hprocessed]
  -- the last move is the only one that depends on the job
  have hmoves : a₀.run (solitary job) = a.step (.follow 0) := by
    show a₀.run ([.make job, .submit 0, .take 0] ++ [.follow 0]) = _
    rw [run_append, htaken, Option.bind_some, run_cons]
    exact Option.bind_fun_some _
  have hdone : (a.crew.follow 0 (.job ⟨0, job⟩)).finished = [⟨0, job⟩] := by
    show a.crew.finished ++ _ = _
    rw [hfinished, List.nil_append]
  exact ⟨a₀, _, hstart, hmoves.trans hfollow, hdone⟩

/-! ## Two workshops -/

/-- Over the same registry and for the same party, the callers of a job that was executed are told
the same. -/
theorem Kept.answer_eq {j j' : TicketedJob D} (hw : w.Kept) (hw' : w'.Kept)
    (hregistry : w'.registry = w.registry) (hparty : w'.party = w.party)
    (hj : j ∈ w.crew.finished) (hj' : j' ∈ w'.crew.finished) (hsame : j'.job = j.job) :
    w'.answer? j'.ticket = w.answer? j.ticket := by
  obtain ⟨h, r, hrun, hanswer⟩ := hw.answer_finished hj
  obtain ⟨h', r', hrun', hanswer'⟩ := hw'.answer_finished hj'
  rw [hsame, hregistry, hparty] at hrun'
  obtain ⟨-, rfl⟩ := (yields_of_run hrun).mp hrun'
  rw [hanswer, hanswer', hsame]

/-! ## One job among others -/

/-- Who has another ticket is told what he was told before. -/
theorem Kept.answer_write {number other : Nat} {x : Completion} (hw : w.Kept)
    (htickets : w'.tickets = write number x w.tickets) (hother : other ≠ number) :
    w'.answer? other = w.answer? other := by
  rw [answer?, answer?, htickets, write, List.getElem?_map]
  cases hentry : w.tickets[other]? with
  | none => rfl
  | some t =>
    have hkey : t.1 ≠ number := by
      rw [hw.number_eq hentry]
      exact hother
    rw [Option.map_some, if_neg hkey]

/-- A job that comes to its end concerns its runner and its ticket. -/
theorem Kept.follow_job {i : Nat} {j : TicketedJob D} (hw : w.Kept)
    (hhand : w.crew.hands[i]? = some (some (.job j))) (hstep : w.step (.follow i) = some w') :
    w'.crew.pool = w.crew.pool ∧ w'.crew.hands = w.crew.hands.set i none ∧
      ∀ other, other ≠ j.ticket → w'.answer? other = w.answer? other := by
  simp only [Workshop.step, hhand, Workshop.follow] at hstep
  split at hstep
  · cases hstep
  · obtain rfl := Option.some.inj hstep
    exact ⟨rfl, rfl, fun other hother => hw.answer_write rfl hother⟩

/-- Playing back a job does not change the pool of the host. -/
theorem pool_process (h : Host D) (id : Nat) (j : TicketedJob D) (budget : Nat) :
    (h.process id j budget).1.pool = h.pool := by
  have hplayed : Host.Played h id j.ticket _ budget (h.process id j budget) := Host.played_play ..
  generalize h.process id j budget = played at hplayed ⊢
  cases hplayed with
  | done hside => exact hside.pool
  | stopped hside => exact hside.pool

/-! ## The main result -/

/-- **Jobs are isolated.**  Every run of a host is that of a workshop.  Whatever moves were made in
it, each job that was executed can run alone on the only runner of a new workshop, and is the same
computation there, so its caller is told the same.  The callers are told the same in any two
workshops that executed the job, and in the hosts that these are.  A job that comes to its end
changes neither the pool nor the other hands, nor what other callers are told, and playing it back
leaves the pool of a host as it is. -/
theorem jobs_isolated {alone : HostConfig} (hstart : start registry config = .ok w₀)
    (hrun : w₀.run moves = some w) (hvalid : alone.validate = .ok ())
    (hone : alone.runnerCount = 1) (hparty : alone.party = config.party) :
    (∀ j ∈ w.crew.finished, ∃ a₀ a, start registry alone = .ok a₀ ∧
      a₀.run (solitary j.job) = some a ∧ a.crew.finished = [⟨0, j.job⟩] ∧
      j.job.process a.registry a.party = j.job.process w.registry w.party ∧
      a.answer? 0 = w.answer? j.ticket) ∧
    (∀ {other : HostConfig} {v₀ v : Workshop D} {moves' : List (Move D)},
      start registry other = .ok v₀ → v₀.run moves' = some v → other.party = config.party →
      ∀ j ∈ w.crew.finished, ∀ k ∈ v.crew.finished, k.job = j.job →
        v.answer? k.ticket = w.answer? j.ticket ∧
        ∀ (host host' : Host D) made made', host.Mirrors made w → host'.Mirrors made' v →
          (host'.ticket? k.ticket).bind (·.report?) = (host.ticket? j.ticket).bind (·.report?)) ∧
    (∀ {observed : Observed} {host₀ host : Host D} {made : List (TicketedJob D)},
      Host.start registry config observed = .ok host₀ →
      Relation.ReflTransGen Host.Change (host₀, []) (host, made) →
      ∃ v₀ v moves', start registry config = .ok v₀ ∧ v₀.run moves' = some v ∧
        host.Mirrors made v) ∧
    (∀ i j w', w.crew.hands[i]? = some (some (.job j)) → w.step (.follow i) = some w' →
      w'.crew.pool = w.crew.pool ∧ w'.crew.hands = w.crew.hands.set i none ∧
      ∀ other, other ≠ j.ticket → w'.answer? other = w.answer? other) ∧
    ∀ (host : Host D) id j budget, (host.process id j budget).1.pool = host.pool := by
  have hw : w.Kept := .of_run hstart hrun
  obtain ⟨hregistry_w, hparty_w⟩ := registry_of_run hstart hrun
  have hsame {other : HostConfig} {v₀ v : Workshop D} {moves' : List (Move D)}
      (hstart' : start registry other = .ok v₀) (hrun' : v₀.run moves' = some v)
      (hother : other.party = config.party) :
      v.Kept ∧ v.registry = w.registry ∧ v.party = w.party := by
    obtain ⟨hregistry_v, hparty_v⟩ := registry_of_run hstart' hrun'
    exact ⟨.of_run hstart' hrun', hregistry_v.trans hregistry_w.symm,
      hparty_v.trans (hother.trans hparty_w.symm)⟩
  refine ⟨?_, ?_, fun hstarted hchanges => Host.exists_workshop hstarted hchanges, ?_,
    pool_process⟩
  · intro j hj
    -- a job that was executed has ended, and what it depends on is the same for the lone runner
    obtain ⟨h, r, hended, -⟩ := hw.answer_finished hj
    rw [hregistry_w, hparty_w, ← hparty] at hended
    obtain ⟨a₀, a, hstart', hrun', hfinished⟩ := exists_solitary hvalid hone hended
    obtain ⟨ha, hregistry_a, hparty_a⟩ := hsame hstart' hrun' hparty
    have hdone : (⟨0, j.job⟩ : TicketedJob D) ∈ a.crew.finished :=
      hfinished ▸ List.mem_singleton_self _
    exact ⟨a₀, a, hstart', hrun', hfinished, by rw [hregistry_a, hparty_a],
      hw.answer_eq ha hregistry_a hparty_a hj hdone rfl⟩
  · intro other v₀ v moves' hstart' hrun' hother j hj k hk hjob
    obtain ⟨hv, hregistry_v, hparty_v⟩ := hsame hstart' hrun' hother
    have hanswer := hw.answer_eq hv hregistry_v hparty_v hj hk hjob
    refine ⟨hanswer, fun host host' made made' hmirrors hmirrors' => ?_⟩
    rw [Host.report_eq hmirrors'.books hv, hanswer, Host.report_eq hmirrors.books hw]
  · intro i j w' hhand hstep
    exact hw.follow_job hhand hstep

/-! ### A job after one whose callback panicked -/

/-- The first job is executed, but its callback panics at the report; while it is in hand the second
job is submitted and a runner is ordered. -/
def busyMoves : List (Move Unit) :=
  [.make (Small.job (some fun _ => ⟨[], some .other⟩)), .submit 0, .take 0, .setRunnerCount 2,
    .make (Small.job none), .submit 0, .follow 0, .take 0, .follow 0, .take 0, .follow 0]

/-- The second job is told of as if it had been alone. -/
theorem jobs_isolated_busy : ∃ w₀ w, start Small.registry Small.config = .ok w₀ ∧
    w₀.run busyMoves = some w ∧ Small.config.validate = .ok () ∧ Small.config.runnerCount = 1 ∧
    ∃ j ∈ w.crew.finished, j.ticket = 1 ∧ ∃ a₀ a, start Small.registry Small.config = .ok a₀ ∧
      a₀.run (solitary j.job) = some a ∧ a.answer? 0 = w.answer? 1 := by
  have hends : (start Small.registry Small.config).toOption.bind (fun w₀ =>
      (w₀.run busyMoves).map fun w => w.crew.finished.map (·.ticket)) = some [0, 1] := by
    decide +kernel
  obtain ⟨w₀, hstart⟩ := Small.exists_start
  rw [hstart] at hends
  obtain ⟨w, hrun, hfinished⟩ := Option.map_eq_some_iff.mp hends
  have hone : (1 : Nat) ∈ w.crew.finished.map (·.ticket) := by
    rw [hfinished]
    decide
  obtain ⟨j, hj, hticket⟩ := List.mem_map.mp hone
  obtain ⟨hisolated, -⟩ :=
    jobs_isolated hstart hrun (show Small.config.validate = .ok () from rfl) rfl rfl
  obtain ⟨a₀, a, hstart', hrun', -, -, hanswer⟩ := hisolated j hj
  rw [hticket] at hanswer
  exact ⟨w₀, w, hstart, hrun, rfl, rfl, j, hj, hticket, a₀, a, hstart', hrun', hanswer⟩

end Workshop
end CommandEngine
