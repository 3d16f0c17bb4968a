import CommandEngine.Proofs.Chain.Operations

/-!
# The frames of a caller

Application code may go on after a panic that it was given, and then frames are left above its own
that nobody closes.  Those that were there before are safe even so.  Whatever an operation runs, the
frames below the top are unchanged after it, and what waited on the top frame still waits there,
before anything that was added (`Extends`).

A sequence extends the frames that its first part extended: if that part left frames above, the
second one adds to the topmost of these, and to the old top frame otherwise.  A nested command and a
safe dispatch drop frames only down to the depth they were begun at, and a root command is refused
where there are any.  The requests of programs are nested less deep, so the induction is on the
depth of nesting (`extends_perform`).
-/
namespace CommandEngine
namespace Chain

variable {D α β : Type} {env : Environment D} {answer : (q : ContextRequest) → OnStack q.Reply}
  {fs mid fs' : List Frame} {f : Frame} {h : List Happening}

/-- The frames begin with those from before, whose top may have got further events. -/
def Extends (fs fs' : List Frame) : Prop := ∃ events above, fs' = joinTop events fs ++ above

theorem extends_joinTop {events : List Object} : Extends fs (joinTop events fs) :=
  ⟨events, [], (List.append_nil _).symm⟩

theorem Extends.refl (fs : List Frame) : Extends fs fs := by
  have h : Extends fs (joinTop [] fs) := extends_joinTop
  rwa [joinTop_nil] at h

theorem Extends.trans (hfirst : Extends fs mid) (hrest : Extends mid fs') : Extends fs fs' := by
  obtain ⟨events, above, rfl⟩ := hfirst
  obtain ⟨more, higher, rfl⟩ := hrest
  rcases above.eq_nil_or_concat with rfl | ⟨lower, top, rfl⟩
  · exact ⟨events ++ more, higher, by rw [List.append_nil, joinTop_joinTop]⟩
  · -- the old top frame is not on top any more, so it is not the one that gets events
    refine ⟨events, lower ++ [{ top with pending := top.pending ++ more }] ++ higher, ?_⟩
    rw [List.concat_eq_append, ← List.append_assoc, joinTop_concat]
    simp only [List.append_assoc]

theorem Extends.length_le (hextends : Extends fs fs') : fs.length ≤ fs'.length := by
  obtain ⟨events, above, rfl⟩ := hextends
  rw [List.length_append, length_joinTop]
  exact Nat.le_add_right _ _

/-- Below the top frame nothing changes, and that one keeps its command and its events. -/
theorem extends_concat : Extends (fs ++ [f]) fs' ↔
    ∃ events above, fs' = fs ++ ⟨f.command, f.pending ++ events⟩ :: above := by
  unfold Extends
  simp only [joinTop_concat, List.append_assoc, List.singleton_append]

/-- What was added above the caller's frames can be dropped without touching these. -/
theorem Extends.take_concat (hextends : Extends (fs ++ [f]) mid) : mid.take fs.length = fs := by
  obtain ⟨events, above, rfl⟩ := extends_concat.mp hextends
  exact List.take_left

theorem Extends.take (hextends : Extends fs mid) : Extends fs (mid.take fs.length) := by
  obtain ⟨events, above, rfl⟩ := hextends
  have hlength : (joinTop events fs).length = fs.length := length_joinTop
  rw [← hlength, List.take_left]
  exact extends_joinTop

/-! ## Operations -/

/-- Every run of the computation extends the frames it was begun on. -/
def Extending (x : OnStack α) : Prop := ∀ ⦃fs h a fs'⦄, Ends x fs h a fs' → Extends fs fs'

theorem extending_compositional : Compositional fun {_} x => Extending x.run where
  outcome outcome := by
    intro fs h out fs' hends
    obtain ⟨-, -, rfl⟩ := ends_ofOutcome.mp hends
    exact .refl _
  quiet _ := by
    intro fs h out fs' hends
    obtain ⟨-, -, rfl⟩ := ends_lift_run.mp hends
    exact .refl _
  get := by
    intro fs h out fs' hends
    obtain ⟨-, -, rfl⟩ := ends_get_run.mp hends
    exact .refl _
  queue event := by
    intro fs h out fs' hends
    rw [ends_modify_bind] at hends
    obtain ⟨-, -, rfl⟩ := ends_lift_run.mp hends
    exact extends_joinTop
  bind_of hx hf := by
    intro fs h out fs' hends
    rcases ends_bind_run.mp hends with ⟨e, hfirst, -⟩ | ⟨a, mid, h₁, h₂, hfirst, hrest, -⟩
    · exact hx hfirst
    · exact (hx hfirst).trans (hf hfirst hrest)

/-- Nothing is asked of the programs. -/
theorem gives_any : env.registry.Gives env.services fun _ => True where
  handlers := fun _ _ _ _ _ _ _ _ => trivial
  postHandlers := fun _ _ _ _ _ _ _ _ => trivial
  eventHandlers := fun _ _ _ _ _ _ _ => trivial

section Operations

variable (hanswer : ∀ q, Extending (answer q))
include hanswer

theorem extending_runProgram (p : ChainProgram α) : Extending (runProgram answer p).run := by
  induction p with
  | done outcome => exact extending_compositional.outcome outcome
  | ask request next ih =>
    intro fs h out fs' hends
    obtain ⟨reply, mid, h₁, h₂, hreply, hrest, -⟩ := ends_bind.mp hends
    exact (hanswer request hreply).trans (ih reply hrest)

theorem extending_dispatch (event : Object) : Extending (dispatch env answer event).run :=
  extending_compositional.dispatch (fun _ => extending_runProgram hanswer _) gives_any event

theorem extending_emit (event : Object) : Extending (emit env answer event).run :=
  extending_compositional.emit (fun _ => extending_runProgram hanswer _) gives_any event

theorem extending_rawExecute (command : Object) (validated : Bool) :
    Extending (rawExecute env answer command validated).run :=
  extending_compositional.rawExecute (fun _ => extending_runProgram hanswer _) gives_any command
    validated

/-- What a panic left is dropped down to the depth before. -/
theorem extending_dispatchSafe (event : Object) : Extending (dispatchSafe env answer event) := by
  intro fs h returned fs' hends
  obtain ⟨out, mid, h₁, h₂, hdispatch, hcontained, -⟩ := ends_dispatchSafe hends
  have hextends := extending_dispatch hanswer event hdispatch
  cases hcontained with
  | returned => exact hextends
  | failed => exact hextends
  | panicked => exact hextends.take

/-- The frame of a nested command is dropped, and the one below it may get its events. -/
theorem extending_executeNested (command : Object) (stop giveEvents : Bool) :
    Extending (executeNested env answer command stop giveEvents).run := by
  intro fs h out fs' hends
  rcases ends_executeNested hends with ⟨rfl, -, -, rfl⟩ | ⟨inner, mid, h₁, h₂, -, hraw, hclose, -⟩
  · exact .refl _
  · have hextends := extending_rawExecute hanswer command false hraw
    have htake := hextends.take_concat
    cases hclose with
    | panicked =>
      obtain ⟨events, above, rfl⟩ := extends_concat.mp hextends
      exact ⟨[], _, by rw [joinTop_nil]⟩
    | failed | withheld | orphaned =>
      rw [htake]
      exact .refl _
    | joined =>
      rw [htake]
      exact extends_joinTop

omit hanswer in
theorem extending_executeRoot (limit : Nat) (command : Object) (validated : Bool) :
    Extending (executeRoot env answer limit command validated).run := by
  intro fs h out fs' hends
  rcases ends_executeRoot.mp hends with ⟨-, -, -, rfl⟩ | ⟨_, _, rfl, -, -, rfl⟩
  · exact .refl _
  · exact .refl _

theorem extending_serve (limit : Nat) (q : ContextRequest) :
    Extending (serve env answer limit q) := by
  cases q with
  | execute command =>
    exact extending_compositional.map (extending_executeNested hanswer command false false) Prod.fst
  | executeWithEvents command stop => exact extending_executeNested hanswer command stop true
  | executeRoot command => exact extending_executeRoot limit command false
  | emit event => exact extending_emit hanswer event
  | dispatch event => exact extending_dispatch hanswer event
  | dispatchSafe event => exact extending_dispatchSafe hanswer event
  | view =>
    intro fs h reply fs' hends
    obtain ⟨-, -, rfl⟩ := (ends_of_run rfl).mp hends
    exact .refl _
  | sign s =>
    intro fs h reply fs' hends
    obtain ⟨-, -, rfl⟩ := ends_lift.mp hends
    exact .refl _

omit hanswer in
/-- **A request leaves the frames of its caller where they are**, whatever it runs and however that
ends. -/
theorem extends_perform (n : Nat) (q : ContextRequest) : Extending (perform env n q) := by
  induction n generalizing q with
  | zero => exact fun _ _ _ _ hends => absurd hends not_ends_failure
  | succ n ih => exact extending_serve ih n q

end Operations

/-- A nested command that returns finds a frame of its caller to give its events to. -/
theorem take_ne_nil (hne : fs ≠ []) (hdeep : fs.length ≤ mid.length) :
    mid.take fs.length ≠ [] := by
  intro hempty
  have hlength := congrArg List.length hempty
  rw [List.length_take, Nat.min_eq_left hdeep] at hlength
  exact hne (List.length_eq_zero_iff.mp hlength)

end Chain
end CommandEngine
