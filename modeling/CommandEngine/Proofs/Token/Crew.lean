import CommandEngine.Proofs.Crew.Basic
import CommandEngine.Proofs.Token.Alike

/-!
# Pools with jobs of two sorts

A pool does not look at the jobs in its queue, nor does a runner when it takes one.  So two crews
whose jobs are related, one by one and by any relation, stay so as long as the same calls are made
and the same runners move: the same calls are refused, with the same errors, and the same moves can
be made.  For the tokens of jobs this says that the steps of a pool do not depend on them.

The relation is kept by every operation of a pool, since each of them leaves the queue alone or adds
to it, or takes from it, what it takes or adds on the other side; so it is kept by every move of a
crew.
-/
namespace CommandEngine

/-! ## Related lists -/

section Lists
variable {α : Type} {R : α → α → Prop} {xs ys : List α}

theorem related_getElem? (hxs : List.Forall₂ R xs ys) (i : Nat) : Option.Rel R xs[i]? ys[i]? := by
  induction hxs generalizing i with
  | nil => exact .none
  | cons hhead _ ih =>
    cases i with
    | zero => exact .some hhead
    | succ i => exact ih i

theorem related_set (hxs : List.Forall₂ R xs ys) {x y : α} (hxy : R x y) (i : Nat) :
    List.Forall₂ R (xs.set i x) (ys.set i y) := by
  induction hxs generalizing i with
  | nil => exact .nil
  | cons hhead htail ih =>
    cases i with
    | zero => exact .cons hxy htail
    | succ i => exact .cons hhead (ih i)

theorem related_eraseIdx (hxs : List.Forall₂ R xs ys) (i : Nat) :
    List.Forall₂ R (xs.eraseIdx i) (ys.eraseIdx i) := by
  induction hxs generalizing i with
  | nil => exact .nil
  | cons hhead htail ih =>
    cases i with
    | zero => exact htail
    | succ i => exact .cons hhead (ih i)

theorem related_replicate {x : α} (hx : R x x) (n : Nat) :
    List.Forall₂ R (List.replicate n x) (List.replicate n x) := by
  induction n with
  | zero => exact .nil
  | succ n ih => exact .cons hx ih

theorem related_snoc (hxs : List.Forall₂ R xs ys) {x y : α} (hxy : R x y) :
    List.Forall₂ R (xs ++ [x]) (ys ++ [y]) := List.rel_append hxs (.cons hxy .nil)

end Lists

variable {J : Type} {R : J → J → Prop}

/-- Messages that are the same order, or jobs that are related. -/
inductive Message.Alike (R : J → J → Prop) : Message J → Message J → Prop
  | job {j j' : J} (hj : R j j') : Message.Alike R (.job j) (.job j')
  | grow : Message.Alike R .grow .grow
  | poison : Message.Alike R .poison .poison

/-! ## Pools -/

/-- Pools that differ in the jobs of their queues at most. -/
inductive Pool.Alike (R : J → J → Prop) : Pool J → Pool J → Prop
  | mk {p : Pool J} {queue : List (Message J)}
      (hqueue : List.Forall₂ (Message.Alike R) p.queue queue) : Pool.Alike R p { p with queue }

namespace Pool

variable {p p' : Pool J}

theorem Alike.started (hp : p.Alike R p') : p'.started = p.started := by
  obtain ⟨-⟩ := hp
  rfl

theorem Alike.shuttingDown (hp : p.Alike R p') : p'.shuttingDown = p.shuttingDown := by
  obtain ⟨-⟩ := hp
  rfl

theorem Alike.publish (hp : p.Alike R p') : p.publish.Alike R p'.publish := by
  obtain ⟨hqueue⟩ := hp
  exact .mk (p := p.publish) hqueue

theorem Alike.enqueue (hp : p.Alike R p') {ms ms' : List (Message J)}
    (hms : List.Forall₂ (Message.Alike R) ms ms') : (p.enqueue ms).Alike R (p'.enqueue ms') := by
  obtain ⟨hqueue⟩ := hp
  exact .mk (p := p.enqueue ms) (List.rel_append hqueue hms)

theorem Alike.checkConvergence (hp : p.Alike R p') :
    p.checkConvergence.Alike R p'.checkConvergence := by
  obtain ⟨hqueue⟩ := hp
  refine related_ite ?_ (.mk hqueue)
  exact .mk (p := { p with awaiting := false, convergences := p.convergences + 1 }) hqueue

theorem Alike.setRunnerCount (hp : p.Alike R p') (n : Nat) :
    ExceptAlike Eq (Alike R) (p.setRunnerCount n) (p'.setRunnerCount n) := by
  have hreplanned (orders : List (Message J))
      (horders : List.Forall₂ (Message.Alike R) orders orders) :
      Alike R ({ p with plannedCount := n, awaiting := true }.enqueue orders)
        ({ p' with plannedCount := n, awaiting := true }.enqueue orders) := by
    obtain ⟨hqueue⟩ := hp
    exact Alike.enqueue (.mk (p := { p with plannedCount := n, awaiting := true }) hqueue) horders
  have horders : List.Forall₂ (Message.Alike R)
      (if n > p.plannedCount then List.replicate (n - p.plannedCount) .grow
        else List.replicate (p.plannedCount - n) .poison)
      (if n > p.plannedCount then List.replicate (n - p.plannedCount) .grow
        else List.replicate (p.plannedCount - n) .poison) :=
    related_ite (related_replicate .grow _) (related_replicate .poison _)
  have hdone := (hreplanned _ horders).checkConvergence.publish
  obtain ⟨hqueue⟩ := hp
  refine related_ite (.error rfl) (related_ite (.error rfl) (related_ite ?_ (.ok hdone)))
  exact .ok (.mk hqueue)

theorem Alike.submit (hp : p.Alike R p') {j j' : J} (hj : R j j') :
    ExceptAlike Eq (Alike R) (p.submit j) (p'.submit j') := by
  have haccepted := hp.enqueue (.cons (.job hj) .nil)
  obtain ⟨hqueue⟩ := hp
  exact related_ite (.error rfl) (.ok haccepted)

theorem Alike.beginShutdown (hp : p.Alike R p') : p.beginShutdown.Alike R p'.beginShutdown := by
  obtain ⟨hqueue⟩ := hp
  refine related_ite (.mk hqueue) ?_
  refine Alike.publish (Alike.checkConvergence (Alike.enqueue ?_ (related_replicate .poison _)))
  exact .mk (p := { p with shuttingDown := true, plannedCount := 0, awaiting := true }) hqueue

theorem Alike.grow (hp : p.Alike R p') : p.grow.Alike R p'.grow := by
  obtain ⟨hqueue⟩ := hp
  refine related_ite (Alike.publish (Alike.checkConvergence ?_)) (.mk hqueue)
  exact .mk (p := { p with runnerCount := p.runnerCount + 1, started := p.started + 1 }) hqueue

theorem Alike.poison (hp : p.Alike R p') :
    p'.poison.1 = p.poison.1 ∧ p.poison.2.Alike R p'.poison.2 := by
  obtain ⟨hqueue⟩ := hp
  unfold Pool.poison
  by_cases henough : p.runnerCount ≤ p.plannedCount
  · rw [if_pos henough, if_pos henough]
    exact ⟨rfl, .mk hqueue⟩
  · rw [if_neg henough, if_neg henough]
    refine ⟨rfl, Alike.publish (Alike.checkConvergence ?_)⟩
    exact .mk (p := { p with runnerCount := p.runnerCount - 1 }) hqueue

theorem Alike.dequeue (hp : p.Alike R p') :
    Option.Rel (fun x y => x.1.Alike R y.1 ∧ x.2.Alike R y.2) p.dequeue p'.dequeue := by
  obtain ⟨hqueue⟩ := hp
  rename_i queue
  have hqueued {ms : List (Message J)} (hms : p.queue = ms)
      (hrelated : List.Forall₂ (Message.Alike R) ms queue) :
      Option.Rel (fun x y => x.1.Alike R y.1 ∧ x.2.Alike R y.2) p.dequeue
        (dequeue { p with queue }) := by
    unfold dequeue
    rw [hms]
    cases hrelated with
    | nil => exact .none
    | @cons _ _ rest _ hhead htail => exact .some ⟨hhead, .mk (p := { p with queue := rest }) htail⟩
  exact hqueued rfl hqueue

end Pool

/-! ## Crews -/

/-- Crews with related jobs in the same places. -/
structure Crew.Alike (R : J → J → Prop) (c c' : Crew J) : Prop where
  pool : c.pool.Alike R c'.pool
  hands : List.Forall₂ (Option.Rel (Message.Alike R)) c.hands c'.hands
  lastAccepted : c'.lastAccepted = c.lastAccepted
  accepted : List.Forall₂ R c.accepted c'.accepted
  dequeued : List.Forall₂ R c.dequeued c'.dequeued
  finished : List.Forall₂ R c.finished c'.finished

/-- Moves that submit related jobs, or the same other move. -/
inductive Move.Alike (R : J → J → Prop) : Move J → Move J → Prop
  | setRunnerCount (n : Nat) : Move.Alike R (.setRunnerCount n) (.setRunnerCount n)
  | submit {j j' : J} (hj : R j j') : Move.Alike R (.submit j) (.submit j')
  | beginShutdown : Move.Alike R .beginShutdown .beginShutdown
  | take (i : Nat) : Move.Alike R (.take i) (.take i)
  | follow (i : Nat) : Move.Alike R (.follow i) (.follow i)

namespace Crew

variable {c c' : Crew J}

theorem Alike.follow (hc : c.Alike R c') (i : Nat) {m m' : Message J} (hm : m.Alike R m') :
    (c.follow i m).Alike R (c'.follow i m') := by
  have hempty := related_set hc.hands (Option.Rel.none (r := Message.Alike R)) i
  cases hm with
  | job hj => exact { hc with hands := hempty, finished := related_snoc hc.finished hj }
  | grow =>
    refine { hc with pool := hc.pool.grow, hands := ?_ }
    show List.Forall₂ _
      (c.hands.set i none ++ if c.pool.started < c.pool.grow.started then [none] else [])
      (c'.hands.set i none ++ if c'.pool.started < c'.pool.grow.started then [none] else [])
    rw [hc.pool.started, hc.pool.grow.started]
    exact List.rel_append hempty (related_ite (.cons .none .nil) .nil)
  | poison =>
    obtain ⟨hexits, hpool⟩ := hc.pool.poison
    refine { hc with pool := hpool, hands := ?_ }
    show List.Forall₂ _ (if c.pool.poison.1 then c.hands.eraseIdx i else c.hands.set i none)
      (if c'.pool.poison.1 then c'.hands.eraseIdx i else c'.hands.set i none)
    rw [hexits]
    exact related_ite (related_eraseIdx hc.hands i) hempty

/-- **Crews with related jobs move alike**: what the one can do the other can, and the jobs stay
related. -/
theorem Alike.step (hc : c.Alike R c') {m m' : Move J} (hm : m.Alike R m') :
    Option.Rel (Alike R) (c.step m) (c'.step m') := by
  unfold Crew.step
  cases hm with
  | setRunnerCount n =>
    have hcall := hc.pool.setRunnerCount n
    dsimp only
    generalize c.pool.setRunnerCount n = x, c'.pool.setRunnerCount n = y at hcall ⊢
    cases hcall with
    | ok hpool => exact .some { hc with pool := hpool, lastAccepted := rfl }
    | error => exact .some hc
  | @submit j j' hj =>
    have hcall := hc.pool.submit hj
    dsimp only
    generalize c.pool.submit j = x, c'.pool.submit j' = y at hcall ⊢
    cases hcall with
    | ok hpool => exact .some { hc with pool := hpool, accepted := related_snoc hc.accepted hj }
    | error => exact .some hc
  | beginShutdown => exact .some { hc with pool := hc.pool.beginShutdown }
  | take i =>
    have hhand := related_getElem? hc.hands i
    have hnext := hc.pool.dequeue
    dsimp only
    generalize c.hands[i]? = hand, c'.hands[i]? = hand' at hhand ⊢
    generalize c.pool.dequeue = next, c'.pool.dequeue = next' at hnext ⊢
    cases hhand with
    | none => exact .none
    | some hhand =>
      cases hhand with
      | some => exact .none
      | none =>
        cases hnext with
        | none => exact .none
        | @some x y hxy =>
          obtain ⟨m, pool⟩ := x
          obtain ⟨m', pool'⟩ := y
          obtain ⟨hm, hpool⟩ := hxy
          refine .some { hc with
            pool := hpool
            hands := related_set hc.hands (.some hm) i
            dequeued := List.rel_append hc.dequeued ?_ }
          cases hm with
          | job hj => exact .cons hj .nil
          | grow => exact .nil
          | poison => exact .nil
  | follow i =>
    have hhand := related_getElem? hc.hands i
    dsimp only
    generalize c.hands[i]? = hand, c'.hands[i]? = hand' at hhand ⊢
    cases hhand with
    | none => exact .none
    | some hhand =>
      cases hhand with
      | none => exact .none
      | some hm => exact .some (hc.follow i hm)

end Crew
end CommandEngine
