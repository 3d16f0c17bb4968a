import CommandEngine.Proofs.Validation.Incoming

/-!
# The two validations agree

The same validators may be registered for both stages of a command.  A validator is told the stage
it runs at, so two runs of it can be compared if it does not look: it makes the same requests and
ends in the same outcome whichever stage it is told (`IgnoresStage`).  It may look at everything
else that it is shown.

The stages have little in common beside the call of a validator.  Each walks along the row on its
own, one passes on what the other contains, and one does not even begin if there is no validator.
They are compared along the row of calls of the handling validation: as long as the validators
return, both stages go on in the same state, and the first validator that does not return ends both
rows.  The row of the incoming validation has one message more then (`Calls.alongside`).
-/
namespace CommandEngine

/-- Replies at the two stages, which differ in nothing but the stage. -/
def ValidationRequest.Staged : (q : ValidationRequest) → q.Reply → q.Reply → Prop
  | record _, r, r' => r' = r
  | ambientValues, r, r' => r' = r
  | view, v, v' => v.stage = .incoming ∧ v' = { v with stage := .handling }
  | sign _, r, r' => r' = r

namespace Validation

open Account

/-! ## Validators that do not look at the stage -/

/-- Two programs that make the same requests and end in the same outcome, the first one told that
the stage is the incoming one and the second one that it is the handling one. -/
inductive Coincide {α : Type} : ValidationProgram α → ValidationProgram α → Prop where
  | done (outcome : Outcome α) : Coincide (.done outcome) (.done outcome)
  | ask (q : ValidationRequest) {next next' : q.Reply → ValidationProgram α}
    (hnext : ∀ r r', q.Staged r r' → Coincide (next r) (next' r')) :
    Coincide (.ask q next) (.ask q next')

/-- The program does the same at both stages. -/
def IgnoresStage {α : Type} (p : ValidationProgram α) : Prop := Coincide p p

variable {D α : Type} {registry : Registry D} {services : D} {token : Token} {o : Object}

/-- A request is answered alike at both stages, and has the same effect. -/
theorem answer_staged (q : ValidationRequest) (s : ValidationState) :
    q.Staged ((answer registry services .incoming token q).run s).value.1
      ((answer registry services .handling token q).run s).value.1 ∧
    ((answer registry services .handling token q).run s).value.2 =
      ((answer registry services .incoming token q).run s).value.2 := by
  cases q with
  | record m => exact ⟨rfl, rfl⟩
  | ambientValues => exact ⟨rfl, rfl⟩
  | view => exact ⟨⟨rfl, rfl⟩, rfl⟩
  | sign s => exact ⟨rfl, rfl⟩

/-- Programs that coincide end in the same outcome and in the same state. -/
theorem Coincide.interpret {p p' : ValidationProgram α} (hp : Coincide p p')
    (s : ValidationState) :
    ((p'.interpret (answer registry services .handling token)).run s).value =
      ((p.interpret (answer registry services .incoming token)).run s).value := by
  induction hp generalizing s with
  | done outcome => rfl
  | ask q _ ih =>
    obtain ⟨hreply, hstate⟩ := @answer_staged D registry services token q s
    have hvalue := ih _ _ hreply ((answer registry services .incoming token q).run s).value.2
    rw [← hstate] at hvalue
    exact hvalue.trans (by rw [hstate]; rfl)

/-! ## A call and its program -/

/-- The program that a slot gives for a call.  If it gives no validator, the program ends in what
was raised instead. -/
def check (services : D) (o : Object) (slot : Slot D (Validator D)) : ValidationProgram Unit :=
  match (slot.resolve services).outcome with
  | .error e => .done (.error e)
  | .ok validator => validator services o

/-- A call is a mark, the signs of obtaining the validator, and a program. -/
theorem call_check {stage : ValidationStage} {slot : Slot D (Validator D)} {index : Nat}
    (s : ValidationState) :
    (call registry services stage token o slot index).run s =
      ⟨.mark (.validator stage o.type.name index) :: ((slot.resolve services).signs.map .sign ++
          (((check services o slot).interpret (answer registry services stage token)).run s).history),
        (((check services o slot).interpret (answer registry services stage token)).run s).value⟩ := by
  have hobtained : (liftM (act (slot.resolve services)) : Step (Outcome (Validator D))).run s =
      ⟨(slot.resolve services).signs.map .sign, (slot.resolve services).outcome, s⟩ :=
    Traced.ext (List.append_nil _) rfl
  have hprogram : StateT.run (do
        match ← (liftM (act (slot.resolve services)) : Step (Outcome (Validator D))) with
        | .error e => return .error e
        | .ok validator => (validator services o).interpret (answer registry services stage token))
      s = ⟨(slot.resolve services).signs.map .sign ++
        (((check services o slot).interpret (answer registry services stage token)).run s).history,
        (((check services o slot).interpret (answer registry services stage token)).run s).value⟩ := by
    unfold check
    rw [StateT.run_bind, hobtained]
    cases (slot.resolve services).outcome with
    | error e => rfl
    | ok validator => rfl
  unfold call
  rw [StateT.run_bind]
  exact congrArg (fun x : Account _ =>
    Traced.mk (.mark (.validator stage o.type.name index) :: x.history) x.value) hprogram

/-- The call of a validator that does not look at the stage ends alike at the other stage. -/
theorem call_staged {slot : Slot D (Validator D)} {index : Nat} {s s' : ValidationState}
    {h : List Happening} {out : Outcome Unit} (hslot : IgnoresStage (check services o slot))
    (hcall : (call registry services .handling token o slot index).run s = ⟨h, out, s'⟩) :
    ∃ h', (call registry services .incoming token o slot index).run s = ⟨h', out, s'⟩ := by
  rw [call_check] at hcall ⊢
  obtain ⟨-, hended⟩ := Traced.mk.inj hcall
  exact ⟨_, Traced.ext rfl ((Coincide.interpret hslot s).symm.trans hended)⟩

/-! ## The two rows -/

/-- The state in which the incoming validation leaves a row that ended so at the other stage. -/
def contained : Outcome Unit → ValidationState → ValidationState
  | .ok _, s => s
  | .error _, s => { s with collector := s.collector.add (.plain .error unhandledText) }

/-- A row of calls of the handling validation, beside that of the incoming validation: the same
validators ran, and what they recorded is there at both stages. -/
structure Alongside (registry : Registry D) (services : D) (token : Token) (o : Object)
    (slots : List (Slot D (Validator D) × Nat)) (s : ValidationState) (h : List Happening)
    (out : Outcome Unit) (s' : ValidationState) (h' : List Happening)
    (ran rest : List (Slot D (Validator D) × Nat)) : Prop where
  split : slots = ran ++ rest
  handled : validatorCalls h = ran.map fun slot => .validator .handling o.type.name slot.2
  messages : s'.collector.messages = s.collector.messages ++
    (turns registry services .handling token o ran s).flatMap (·.said)
  /-- The incoming validation ends in the same state but for the message in place of a failure, -/
  incoming : (callIncoming registry services token o slots).run s = ⟨h', (), contained out s'⟩
  received : validatorCalls h' = ran.map fun slot => .validator .incoming o.type.name slot.2
  /-- and no validator is left if there was none. -/
  complete : out = .ok () → rest = []

/-- **The rows of both stages stop at the same validator.** -/
theorem Calls.alongside {slots : List (Slot D (Validator D) × Nat)} {s s' : ValidationState}
    {h : List Happening} {out : Outcome Unit}
    (hcalls : Calls registry services .handling token o slots s h out s')
    (hignores : ∀ slot ∈ slots, IgnoresStage (check services o slot.1)) :
    ∃ h' ran rest, Alongside registry services token o slots s h out s' h' ran rest := by
  induction hcalls with
  | none s => exact ⟨[], [], [], rfl, rfl, (List.append_nil _).symm, rfl, rfl, fun _ => rfl⟩
  | @next slot index others s mid _ _ _ _ hcall _ ih =>
    obtain ⟨hslot, hothers⟩ := List.forall_mem_cons.mp hignores
    obtain ⟨h', ran, rest, hrow⟩ := ih hothers
    obtain ⟨h₁', hincoming⟩ := call_staged hslot hcall
    have hturns : turns registry services .handling token o ((slot, index) :: ran) s =
        turn registry services .handling token o slot index s ::
          turns registry services .handling token o ran mid := by
      rw [turns, hcall]
    refine ⟨h₁' ++ h', (slot, index) :: ran, rest, congrArg ((slot, index) :: ·) hrow.split,
      ?_, ?_, ?_, ?_, hrow.complete⟩
    · rw [validatorCalls_append, validatorCalls_call hcall, hrow.handled]
      rfl
    · rw [hrow.messages, hturns, List.flatMap_cons, (fails_of_call hcall).2, List.append_assoc]
    · rw [callIncoming_of_ok hincoming, hrow.incoming]
    · rw [validatorCalls_append, validatorCalls_call hincoming, hrow.received]
      rfl
  | @stopped slot index others _ _ _ _ hcall =>
    obtain ⟨h', hincoming⟩ := call_staged (hignores _ List.mem_cons_self) hcall
    refine ⟨_, [(slot, index)], others, rfl, validatorCalls_call hcall, ?_,
      callIncoming_of_error hincoming, ?_, fun hok => by cases hok⟩
    · rw [turns, turns, List.flatMap_singleton]
      exact (fails_of_call hcall).2
    · rw [validatorCalls_append, validatorCalls_call hincoming]
      rfl

/-! ## The results -/

/-- The handling validation is a row of calls, and the result of the state that it leaves. -/
theorem handling_calls {d : Descriptor D} (hfind : registry.descriptorOf? o = some d) :
    ∃ h out s,
      Calls registry services .handling token o d.handlingValidators.zipIdx start h out s ∧
      Chain.marks (handling registry services token o).run.history = Chain.marks h ∧
      (handling registry services token o).run.value = out.map fun _ => finish token s := by
  have hrequire : registry.require o = .ok d := by
    unfold Registry.require
    rw [hfind]
  have hjudges : Judges registry services token o d.handlingValidators _ _ :=
    handling_judges hrequire
  generalize (handling registry services token o).run.history = h at hjudges ⊢
  generalize (handling registry services token o).run.value = value at hjudges ⊢
  cases hjudges with
  | @raised _ e s hcalls => exact ⟨h, .error e, s, hcalls, rfl, rfl⟩
  | @accepted _ s hcalls hclean =>
    refine ⟨h, .ok (), s, hcalls, rfl, ?_⟩
    rcases @finish_eq token s (hcalls.validates Collector.counted_empty).2 with
      ⟨hfinish, -⟩ | ⟨-, m, hm, herror⟩
    · exact congrArg Except.ok hfinish.symm
    · exact absurd herror (Bool.eq_false_iff.mp (hclean m hm))
  | @rejected h s m hcalls hm herror =>
    refine ⟨h, .ok (), s, hcalls, ?_, ?_⟩
    · rw [Chain.marks_append]
      exact List.append_nil _
    · rcases @finish_eq token s (hcalls.validates Collector.counted_empty).2 with
        ⟨-, hclean⟩ | ⟨hfinish, -⟩
      · exact absurd herror (Bool.eq_false_iff.mp (hclean m hm))
      · exact congrArg Except.ok hfinish.symm

/-- The message in place of a failure is an error. -/
theorem finish_contained (s : ValidationState) :
    finish token { s with collector := s.collector.add (.plain .error unhandledText) } =
      ⟨s.collector.messages ++ [.plain .error unhandledText], false, some token.text⟩ := by
  have herror : (UserMessage.plain .error unhandledText).isError = true := rfl
  simp [finish, Collector.add, Collector.toResult, Collector.hasError, herror]

/-- **The two validations agree** on a command whose validators are the same at both stages and do
not look at the stage.  The same first validators run at both of them.  If the handling validation
gives a result, all validators ran, and the incoming validation gives the same result.  If it does
not, the incoming validation gives a failure: the messages that the validators had recorded, and
the one that stands in place of what was raised. -/
theorem stages_agree {d : Descriptor D} (hfind : registry.descriptorOf? o = some d)
    (hboth : d.incomingValidators = d.handlingValidators)
    (hignores : ∀ slot ∈ d.handlingValidators, IgnoresStage (check services o slot)) :
    ∃ ran rest, d.handlingValidators.zipIdx = ran ++ rest ∧
      validatorCalls (handling registry services token o).run.history =
        ran.map (fun slot => .validator .handling o.type.name slot.2) ∧
      validatorCalls (incoming registry services token o).history =
        ran.map (fun slot => .validator .incoming o.type.name slot.2) ∧
      match (handling registry services token o).run.value with
      | .ok r => rest = [] ∧ (incoming registry services token o).value = r
      | .error _ => (incoming registry services token o).value =
        ⟨(turns registry services .handling token o ran start).flatMap (·.said) ++
          [.plain .error unhandledText], false, some token.text⟩ := by
  obtain ⟨h, out, s, hcalls, hmarks, hvalue⟩ := @handling_calls D registry services token o d hfind
  have hhandled : validatorCalls (handling registry services token o).run.history =
      validatorCalls h := congrArg (List.filter _) hmarks
  obtain ⟨h', ran, rest, hrow⟩ := hcalls.alongside fun slot hslot =>
    hignores slot.1 (List.fst_mem_of_mem_zipIdx hslot)
  have hincoming := hrow.incoming
  rw [← hboth] at hincoming
  rw [hhandled, incoming_of_some hfind hincoming, hvalue, validatorCalls_append,
    validatorCalls_logOutcome, List.append_nil]
  refine ⟨ran, rest, hrow.split, hrow.handled, hrow.received, ?_⟩
  cases out with
  | ok _ => exact ⟨hrow.complete rfl, rfl⟩
  | error e =>
    have hmessages : s.collector.messages =
        (turns registry services .handling token o ran start).flatMap (·.said) := hrow.messages
    rw [← hmessages]
    exact finish_contained s

/-! ### A parcel that is looked at twice -/

namespace Lapse

/-- Has a remark if nobody had one before. -/
def observant : ValidationProgram Unit :=
  .ask .view fun view =>
    if view.collector.messages.isEmpty then
      .ask (.record (.plain .info "heavy")) fun _ => .done (.ok ())
    else .done (.ok ())

theorem ignoresStage_observant : IgnoresStage observant := by
  refine .ask .view fun view _ hview => ?_
  obtain ⟨-, rfl⟩ := hview
  dsimp only
  split
  · exact .ask (.record _) fun _ _ _ => .done _
  · exact .done _

/-- A clumsy validator stands between two others; it is made for the call. -/
def checks : List (Slot Unit (Validator Unit)) :=
  [.pooled fun _ _ => observant, .perCall fun _ => pure fun _ _ => clumsy, .pooled fun _ _ => strict]

def inspection : Descriptor Unit :=
  ⟨0, parcel, .command, none, none, checks, checks, [], [], false⟩

def depot : Registry Unit := .of [inspection]

theorem checks_ignoreStage : ∀ slot ∈ inspection.handlingValidators,
    IgnoresStage (check () (.fresh ⟨parcel, false, 0, ""⟩) slot) := by
  have hsays : ∀ m (outcome : Outcome Unit),
      IgnoresStage (.ask (.record m) fun _ => .done outcome) :=
    fun m outcome => .ask (.record m) fun _ _ _ => .done outcome
  intro slot hslot
  rcases List.mem_cons.mp hslot with rfl | hslot
  · exact ignoresStage_observant
  rcases List.mem_cons.mp hslot with rfl | hslot
  · exact hsays _ _
  · rw [List.mem_singleton.mp hslot]
    exact hsays _ _

/-- The clumsy validator panics at both stages. -/
theorem stages_agree_depot :
    (handling depot () .absent (.fresh ⟨parcel, false, 0, ""⟩)).run.value =
      .error (.panic (.text "dropped")) ∧
    ∃ ran rest, checks.zipIdx = ran ++ rest ∧
      validatorCalls (handling depot () .absent (.fresh ⟨parcel, false, 0, ""⟩)).run.history =
        ran.map (fun slot => .validator .handling "Parcel" slot.2) ∧
      validatorCalls (incoming depot () .absent (.fresh ⟨parcel, false, 0, ""⟩)).history =
        ran.map (fun slot => .validator .incoming "Parcel" slot.2) ∧
      (incoming depot () .absent (.fresh ⟨parcel, false, 0, ""⟩)).value =
        ⟨(turns depot () .handling .absent (.fresh ⟨parcel, false, 0, ""⟩) ran start).flatMap
          (·.said) ++ [.plain .error unhandledText], false, some "NONE"⟩ := by
  refine ⟨rfl, ?_⟩
  exact stages_agree (d := inspection) rfl rfl checks_ignoreStage

end Lapse
end Validation
end CommandEngine
