import CommandEngine.Proofs.Chain.Operations

/-!
# Root commands that are validated elsewhere

A root command may be executed with its handling validation or, when that was done before, without.
If the command has a handler, the first is the second behind the validation: the validation stops
the chain when it fails, and otherwise it leaves nothing that the chain could see.

The calls of application code can be read off the marks.  Without the validation, the first call of
the chain is that of the root's handler.
-/
namespace CommandEngine

/-- A call of application code from inside a chain or a validation. -/
def Mark.isCall : Mark → Bool
  | validator .. | ambientRequested | handler _ | postHandler .. | eventHandler .. => true
  | _ => false

/-- The calls of application code in a history. -/
def calls (h : List Happening) : List Mark := (Chain.marks h).filter (·.isCall)

@[simp] theorem calls_nil : calls [] = [] := rfl

@[simp] theorem calls_append (h₁ h₂ : List Happening) : calls (h₁ ++ h₂) = calls h₁ ++ calls h₂ := by
  rw [calls, Chain.marks_append, List.filter_append]
  rfl

theorem calls_opened (command : Object) (h : List Happening) :
    calls (.mark (.opened command) :: h) = calls h := rfl

theorem calls_of_leaves {α : Type} {a : Account α} (ha : a.Leaves fun m => m.isCall = false) :
    calls a.history = [] :=
  List.filter_eq_nil_iff.mpr fun m hm => Bool.eq_false_iff.mp (ha m hm)

/-- What comes of a validation whose result has to be a success. -/
def Validation.accepting (typeName : String) : Outcome ValidationResult → Outcome Unit
  | .ok r => if r.success then .ok () else .error (EngineError.validationFailed typeName r : Raise)
  | .error e => .error e

theorem Validation.eq_of_accepting_error {typeName : String} {out : Outcome ValidationResult}
    {e : Raise} (haccepting : accepting typeName out = .error e) :
    out = .error e ∨ ∃ r, out = .ok r ∧ r.success = false ∧
      e = (EngineError.validationFailed typeName r : Raise) := by
  rcases out with e' | ⟨messages, _ | _, logKey⟩
  · exact .inl (congrArg Except.error (Except.error.inj haccepting))
  · exact .inr ⟨_, rfl, rfl, (Except.error.inj haccepting).symm⟩
  · exact nomatch (haccepting : Except.ok () = _)

theorem Validation.eq_of_accepting_ok {typeName : String} {out : Outcome ValidationResult}
    (haccepting : accepting typeName out = .ok ()) : ∃ r, out = .ok r ∧ r.success = true := by
  rcases out with e | ⟨messages, _ | _, logKey⟩
  · cases haccepting
  · exact nomatch (haccepting : Except.error _ = _)
  · exact ⟨_, rfl, rfl⟩

namespace Chain

variable {D : Type} {env : Environment D} {answer : (q : ContextRequest) → OnStack q.Reply}
  {fs fs' : List Frame} {h : List Happening} {command : Object} {d : Descriptor D}

/-- The handling validation of a command in a chain. -/
def validation (env : Environment D) (command : Object) : Account (Outcome ValidationResult) :=
  (Validation.handling env.registry env.services env.token command).run

theorem ends_validate {typeName : String} {out : Outcome Unit} :
    Ends (validate env command typeName).run fs h out fs' ↔
      h = (validation env command).history ∧
        out = Validation.accepting typeName (validation env command).value ∧ fs' = fs := by
  have hdecided : ∀ {outcome : Outcome ValidationResult} {h : List Happening},
      Ends (do
        let result ← ofOutcome outcome
        unless result.success do
          throw (EngineError.validationFailed typeName result : Raise) : Chain Unit).run fs h out fs' ↔
      h = [] ∧ out = Validation.accepting typeName outcome ∧ fs' = fs := by
    intro outcome h
    cases outcome with
    | error e => exact ends_of_run rfl
    | ok result =>
      obtain ⟨messages, success, logKey⟩ := result
      cases success with
      | true => exact ends_of_run rfl
      | false => exact ends_of_run rfl
  unfold validate
  rw [ends_lift_bind]
  constructor
  · rintro ⟨rest, hrest, rfl⟩
    obtain ⟨rfl, rfl, rfl⟩ := hdecided.mp hrest
    exact ⟨List.append_nil _, rfl, rfl⟩
  · rintro ⟨rfl, rfl, rfl⟩
    exact ⟨[], hdecided.mpr ⟨rfl, rfl, rfl⟩, (List.append_nil _).symm⟩

/-- A command with a handler. -/
structure Handled (env : Environment D) (command : Object) (d : Descriptor D) : Prop where
  found : env.registry.descriptorOf? command = some d
  kind : d.kind.isCommand
  handler : d.handler.isSome

theorem Handled.require (hhandled : Handled env command d) : require env command = pure d :=
  require_of_found hhandled.found

theorem Handled.rawExecute (hhandled : Handled env command d) :
    rawExecute env answer command false =
      (do validate env command d.type.name; rawExecute env answer command true) := by
  obtain ⟨elected, helected⟩ := Option.isSome_iff_exists.mp hhandled.handler
  unfold Chain.rawExecute
  rw [hhandled.require, pure_bind, pure_bind, if_pos hhandled.kind, if_pos hhandled.kind, helected]
  rfl

/-- The validation of a root command stands between the opening of its frame and all the rest. -/
theorem Handled.ends_runRoot (hhandled : Handled env command d) {limit : Nat}
    {out : Outcome ExecutionOutcome} :
    Ends (runRoot env answer limit command false).run [] h out fs' ↔
      (∃ e, Validation.accepting d.type.name (validation env command).value = .error e ∧
        h = .mark (.opened command) :: (validation env command).history ∧ out = .error e ∧
          fs' = [⟨command, []⟩]) ∨
      (Validation.accepting d.type.name (validation env command).value = .ok () ∧ ∃ rest,
        Ends (runRoot env answer limit command true).run []
          (.mark (.opened command) :: rest) out fs' ∧
        h = .mark (.opened command) :: ((validation env command).history ++ rest)) := by
  unfold runRoot
  rw [hhandled.rawExecute, bind_assoc, ends_frames_bind]
  constructor
  · rintro ⟨_, _, h₁, h₂, hopen, hbody, rfl⟩
    obtain ⟨rfl, -, rfl⟩ := ends_openFrame.mp hopen
    rcases ends_bind_run.mp hbody with ⟨e, hvalidate, rfl⟩ | ⟨_, mid, h₃, rest, hvalidate, hrest, rfl⟩
    · obtain ⟨rfl, haccepting, rfl⟩ := ends_validate.mp hvalidate
      exact .inl ⟨e, haccepting.symm, rfl, rfl, rfl⟩
    · obtain ⟨rfl, haccepting, rfl⟩ := ends_validate.mp hvalidate
      refine .inr ⟨haccepting.symm, rest, ends_frames_bind.mpr ?_, rfl⟩
      exact ⟨_, _, _, rest, ends_openFrame.mpr ⟨rfl, rfl, rfl⟩, hrest, rfl⟩
  · rintro (⟨e, haccepting, rfl, rfl, rfl⟩ | ⟨haccepting, rest, hroot, rfl⟩)
    · refine ⟨_, _, _, _, ends_openFrame.mpr ⟨rfl, rfl, rfl⟩, ?_, rfl⟩
      exact ends_bind_run.mpr (.inl ⟨e, ends_validate.mpr ⟨rfl, haccepting.symm, rfl⟩, rfl⟩)
    · obtain ⟨_, _, h₁, h₂, hopen, hbody, heq⟩ := ends_frames_bind.mp hroot
      obtain ⟨rfl, -, rfl⟩ := ends_openFrame.mp hopen
      obtain ⟨-, rfl⟩ := List.cons.inj heq
      refine ⟨_, _, _, _, hopen, ends_bind_run.mpr (.inr ?_), rfl⟩
      exact ⟨(), _, _, _, ends_validate.mpr ⟨rfl, haccepting.symm, rfl⟩, hbody, rfl⟩

/-- Without the validation, nothing is called before the handler. -/
theorem Handled.calls_rawExecute (hhandled : Handled env command d) {out : Outcome CommandResult}
    (hends : Ends (Chain.rawExecute env answer command true).run fs h out fs') :
    ((∃ e, out = .error e) ∧ calls h = []) ∨ ∃ more, calls h = .handler command :: more := by
  obtain ⟨elected, helected⟩ := Option.isSome_iff_exists.mp hhandled.handler
  unfold Chain.rawExecute at hends
  rw [hhandled.require, pure_bind, if_pos hhandled.kind, helected] at hends
  dsimp only at hends
  rcases ends_bind_run.mp hends with ⟨e, hact, rfl⟩ | ⟨handler, mid, h₁, h₂, hact, hrest, rfl⟩
  · refine .inl ⟨⟨e, rfl⟩, ?_⟩
    rw [(ends_act.mp hact).1]
    exact calls_of_leaves (Account.leaves_act _)
  · obtain ⟨h₃, -, rfl⟩ := ends_mark_bind.mp hrest
    refine .inr ⟨calls h₃, ?_⟩
    rw [(ends_act.mp hact).1, calls_append, calls_of_leaves (Account.leaves_act _)]
    rfl

theorem Handled.calls_runRoot (hhandled : Handled env command d) {limit : Nat}
    {out : Outcome ExecutionOutcome}
    (hends : Ends (runRoot env answer limit command true).run [] h out fs') :
    calls h = [] ∨ ∃ more, calls h = .handler command :: more := by
  obtain ⟨_, _, h₁, h₂, hopen, hbody, rfl⟩ := ends_frames_bind.mp hends
  obtain ⟨rfl, -, rfl⟩ := ends_openFrame.mp hopen
  rcases ends_bind_run.mp hbody with ⟨e, hraw, -⟩ | ⟨result, mid, h₃, h₄, hraw, -, rfl⟩
  · rw [calls_append]
    exact (hhandled.calls_rawExecute hraw).imp And.right id
  · rcases hhandled.calls_rawExecute hraw with ⟨⟨e, hout⟩, -⟩ | ⟨more, hmore⟩
    · cases hout
    · refine .inr ⟨more ++ calls h₄, ?_⟩
      rw [calls_append, calls_append, hmore]
      rfl

/-- If the root command ends without its validation whenever that would accept it, it ends with its
validation. -/
theorem Handled.exists_root (hhandled : Handled env command d) {limit : Nat}
    (haccepted : Validation.accepting d.type.name (validation env command).value = .ok () →
      ∃ h out fs, Ends (executeRoot env answer limit command true).run [] h out fs) :
    ∃ h out fs, Ends (executeRoot env answer limit command false).run [] h out fs := by
  have hroot : ∃ h out fs, Ends (runRoot env answer limit command false).run [] h out fs := by
    cases haccepting : Validation.accepting d.type.name (validation env command).value with
    | error e =>
      exact ⟨_, _, _, hhandled.ends_runRoot.mpr (.inl ⟨e, haccepting, rfl, rfl, rfl⟩)⟩
    | ok =>
      obtain ⟨h, out, fs, hends⟩ := haccepted haccepting
      rcases ends_executeRoot.mp hends with ⟨hne, -⟩ | ⟨h₁, mid, -, hrun, rfl, rfl⟩
      · exact absurd rfl hne
      · obtain ⟨_, _, h₂, rest, hopen, hbody, rfl⟩ := ends_frames_bind.mp hrun
        obtain ⟨rfl, -, rfl⟩ := ends_openFrame.mp hopen
        exact ⟨_, _, _, hhandled.ends_runRoot.mpr (.inr ⟨haccepting, rest, hrun, rfl⟩)⟩
  obtain ⟨h, out, fs, hends⟩ := hroot
  exact ⟨_, _, _, ends_executeRoot.mpr (.inr ⟨h, fs, rfl, hends, rfl, rfl⟩)⟩

/-- A root command is validated once, before its handler is called. -/
theorem Handled.calls_executeRoot (hhandled : Handled env command d) {limit : Nat}
    {out : Outcome ExecutionOutcome}
    (hends : Ends (executeRoot env answer limit command false).run [] h out fs') :
    ∃ after, calls h = calls (validation env command).history ++ after ∧
      (after = [] ∨ ∃ more, after = .handler command :: more) := by
  rcases ends_executeRoot.mp hends with ⟨hne, -⟩ | ⟨h₁, mid, -, hrun, rfl, -⟩
  · exact absurd rfl hne
  have hended : calls (h₁ ++ [.mark .ended]) = calls h₁ := by
    rw [calls_append]
    exact List.append_nil _
  rw [hended]
  rcases hhandled.ends_runRoot.mp hrun with ⟨e, -, rfl, -⟩ | ⟨-, rest, hrest, rfl⟩
  · exact ⟨[], (List.append_nil _).symm, .inl rfl⟩
  · exact ⟨calls rest, calls_append _ _, hhandled.calls_runRoot (h := .mark _ :: rest) hrest⟩

end Chain
end CommandEngine
