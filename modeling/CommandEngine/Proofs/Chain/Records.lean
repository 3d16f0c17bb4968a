import CommandEngine.Proofs.Chain.Callers
import CommandEngine.Proofs.Chain.Congruence
import Mathlib.Data.Set.Defs

/-!
# The records of a chain

What fails in a chain is passed on, and whoever gets it has to deal with it.  Only a safe dispatch
keeps a failure to itself, so it is the only operation that records one.  Its record comes last,
after whatever the handlers recorded in safe dispatches of their own (`ends_dispatchSafe_records`).

So all records of errors in the history of a chain lie within safe dispatches.  `Apart` takes these
out of a history, each as a whole, and what is left of a chain are no records at all.  A safe
dispatch is taken out before anything is said of its steps, so the property is one that all steps
but its record respect (`Stepwise`).  The sink stands outside the chain, and is taken to make no
records of the engine.
-/
namespace CommandEngine

/-- The record of a dispatch whose outcome is contained. -/
def dispatchErrors (token : Token) (eventName : String) : Outcome Unit → List LogEvent
  | .ok () => []
  | .error (.failure f) => [.dispatchFailed token eventName f]
  | .error (.panic p) => [.eventHandlerPanicked token eventName p]

/-- What the sink does is recorded by nobody. -/
def Environment.CalmSink {D : Type} (env : Environment D) : Prop :=
  ∀ sink, env.sink = some sink → ∀ event, (sink.receive event).Calm

theorem Environment.CalmSink.give {D : Type} {env : Environment D} {sink : Sink}
    (hcalm : env.CalmSink) (hsink : env.sink = some sink) (event : Object) :
    (sink.give event).Calm :=
  (Account.calm_mark _).bind (hcalm sink hsink event)

namespace Chain

variable {D α β : Type} {env : Environment D} {answer : (q : ContextRequest) → OnStack q.Reply}
  {envs : Set (Environment D)} {fs fs' : List Frame} {h h₁ h₂ : List Happening}
  {es es₁ es₂ : List LogEvent}

/-- **A safe dispatch that does not return makes one record**, and one that returns makes none,
after those of the dispatch. -/
theorem ends_dispatchSafe_records {event : Object} {returned : Bool}
    (hends : Ends (dispatchSafe env answer event) fs h returned fs') : ∃ out mid h₁ h₂,
      Ends (dispatch env answer event).run fs h₁ out mid ∧ h = h₁ ++ h₂ ∧
      errors h₂ = dispatchErrors env.token event.type.name out ∧ returned = out.isOk := by
  obtain ⟨out, mid, h₁, h₂, hdispatch, hcontained, rfl⟩ := ends_dispatchSafe hends
  refine ⟨out, mid, h₁, h₂, hdispatch, rfl, ?_⟩
  cases hcontained with
  | returned => exact ⟨rfl, rfl⟩
  | failed f => exact ⟨rfl, rfl⟩
  | panicked p => exact ⟨rfl, rfl⟩

/-! ## Records apart from those of safe dispatches -/

/-- `es` are the records of errors in a history, apart from those made inside safe dispatches of
chains over the given environments. -/
inductive Apart (envs : Set (Environment D)) : List Happening → List LogEvent → Prop where
  | none : Apart envs [] []
  | other {entry : Happening} {rest : List Happening} {es : List LogEvent}
    (hentry : entry.error? = none) (hrest : Apart envs rest es) : Apart envs (entry :: rest) es
  | record {e : LogEvent} {rest : List Happening} {es : List LogEvent} (hlevel : e.level = .error)
    (hown : e.isContained = false) (hrest : Apart envs rest es) :
    Apart envs (.log e :: rest) (e :: es)
  | inside {env : Environment D} {n : Nat} {event : Object} {fs fs' : List Frame} {returned : Bool}
    {h rest : List Happening} {es : List LogEvent} (henv : env ∈ envs)
    (hends : Ends (dispatchSafe env (perform env n) event) fs h returned fs')
    (hrest : Apart envs rest es) : Apart envs (h ++ rest) es

theorem Apart.append (hfirst : Apart envs h₁ es₁) (hrest : Apart envs h₂ es₂) :
    Apart envs (h₁ ++ h₂) (es₁ ++ es₂) := by
  induction hfirst with
  | none => exact hrest
  | other hentry _ ih => exact .other hentry ih
  | record hlevel hown _ ih => exact .record hlevel hown ih
  | inside henv hends _ ih =>
    rw [List.append_assoc]
    exact .inside henv hends ih

theorem apart_calm (hcalm : errors h = []) : Apart envs h [] := by
  rw [errors_eq_nil] at hcalm
  induction h with
  | nil => exact .none
  | cons entry rest ih =>
    rw [List.forall_mem_cons] at hcalm
    exact .other hcalm.1 (ih hcalm.2)

/-- What comes before may make no records. -/
theorem Apart.behind (hrest : Apart envs h₂ es) (hfirst : Apart envs h₁ []) :
    Apart envs (h₁ ++ h₂) es :=
  hfirst.append hrest

theorem apart_stepwise (hsink : env.CalmSink) : Stepwise env fun x _ =>
    ∀ ⦃fs h a fs'⦄, Ends x fs h a fs' → Apart envs h [] where
  bind hx hf := by
    intro fs h b fs' hends
    obtain ⟨a, mid, h₁, h₂, hfirst, hrest, rfl⟩ := ends_bind.mp hends
    exact (hx hfirst).append (hf a hrest)
  frames step := by
    intro fs h a fs' hends
    obtain ⟨rfl, -⟩ := (ends_of_run rfl).mp hends
    exact .none
  own _ hplain := by
    intro fs h a fs' hends
    obtain ⟨rfl, -⟩ := ends_lift.mp hends
    exact apart_calm hplain.calm
  sink event hsome := by
    intro fs h a fs' hends
    obtain ⟨rfl, -⟩ := ends_lift.mp hends
    exact apart_calm (hsink.give hsome event)
  failure _ := fun _ _ _ _ hends => absurd hends not_ends_failure

/-- A safe dispatch is taken out as a whole, whatever was recorded in it. -/
theorem apart_safeDispatches (henv : env ∈ envs) : SafeDispatches env fun x _ =>
    ∀ ⦃fs h a fs'⦄, Ends x fs h a fs' → Apart envs h [] := by
  intro n m hnm hanswer event fs h returned fs' hends
  have hinside := Apart.inside henv hends .none
  rwa [List.append_nil] at hinside

/-- **What is requested in a chain makes no record of an error**, apart from those of safe
dispatches. -/
theorem apart_perform (henv : env ∈ envs) (hsink : env.CalmSink) {n : Nat} {q : ContextRequest}
    {reply : q.Reply} (hends : Ends (perform env n q) fs h reply fs') : Apart envs h [] :=
  (apart_stepwise hsink).perform (apart_safeDispatches henv) (Nat.le_refl n) q hends

theorem apart_executeRoot (henv : env ∈ envs) (hsink : env.CalmSink) {n : Nat} {command : Object}
    {validated : Bool} {out : Outcome ExecutionOutcome}
    (hends : Ends (executeRoot env (perform env n) n command validated).run fs h out fs') :
    Apart envs h [] :=
  (apart_stepwise hsink).executeRoot (apart_safeDispatches henv) (Nat.le_refl n) command
    validated hends

/-! ## Which records these are -/

/-- All records of errors of the computation are those of contained dispatches. -/
def Contains (x : OnStack α) : Prop :=
  ∀ ⦃fs h a fs'⦄, Ends x fs h a fs' → ∀ e ∈ errors h, e.isContained = true

theorem contains_congruence (hsink : env.CalmSink) : Congruence env fun x _ => Contains x where
  bind hx hf := by
    intro fs h b fs' hends
    obtain ⟨a, mid, h₁, h₂, hfirst, hrest, rfl⟩ := ends_bind.mp hends
    rw [errors_append, List.forall_mem_append]
    exact ⟨hx hfirst, hf a hrest⟩
  frames step := by
    intro fs h a fs' hends
    obtain ⟨rfl, -⟩ := (ends_of_run rfl).mp hends
    exact nofun
  own _ hplain := by
    intro fs h a fs' hends
    obtain ⟨rfl, -⟩ := ends_lift.mp hends
    rw [hplain.calm]
    exact nofun
  sink event hsome := by
    intro fs h a fs' hends
    obtain ⟨rfl, -⟩ := ends_lift.mp hends
    rw [hsink.give hsome event]
    exact nofun
  failure _ := fun _ _ _ _ hends => absurd hends not_ends_failure
  contained {e} he := by
    intro fs h a fs' hends e' he'
    obtain ⟨rfl, -⟩ := ends_lift.mp hends
    obtain ⟨entry, hentry, hsome⟩ := List.mem_filterMap.mp he'
    obtain rfl := List.mem_singleton.mp hentry
    obtain ⟨hlog, -⟩ := Option.filter_eq_some_iff.mp hsome
    cases hlog
    exact he

/-- The records that are made apart from safe dispatches are those of another kind. -/
theorem Apart.eq (hsinks : ∀ env ∈ envs, env.CalmSink) (hapart : Apart envs h es) :
    es = (errors h).filter fun e => !e.isContained := by
  induction hapart with
  | none => rfl
  | @other entry rest es hentry _ ih =>
    rw [ih]
    exact congrArg (List.filter _) (List.filterMap_cons_none hentry).symm
  | @record e rest es hlevel hown _ ih =>
    have herror : (Happening.log e).error? = some e := by
      simp [Happening.error?, Happening.log?, hlevel]
    have herrors : errors (.log e :: rest) = e :: errors rest := List.filterMap_cons_some herror
    rw [herrors, List.filter_cons_of_pos (by rw [hown]; rfl), ih]
  | @inside env n event fs fs' returned h rest es henv hends _ ih =>
    have hcontained : ∀ e ∈ errors h, e.isContained = true :=
      (contains_congruence (hsinks env henv)).perform (Nat.le_refl (n + 1)) (.dispatchSafe event)
        hends
    have hnone : (errors h).filter (fun e => !e.isContained) = [] := by
      rw [List.filter_eq_nil_iff]
      intro e he
      rw [hcontained e he]
      exact Bool.false_ne_true
    rw [errors_append, List.filter_append, hnone, ih]
    rfl

end Chain
end CommandEngine
