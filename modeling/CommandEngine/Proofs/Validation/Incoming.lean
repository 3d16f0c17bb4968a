import CommandEngine.Proofs.Validation.Order

/-!
# Incoming validation contains every failure

The validators of an object share one collector, and a validator that fails may have recorded
messages before it did.  What it recorded is read off its requests (`recorded`): a program makes
them one after the other, whatever it ends in, and each message is put behind those that are there
(`messages_interpret`).  So the collector holds what the validators recorded, one after the other,
and a failure takes nothing away and adds nothing.

A failure can come from the factory of a validator or from the validator itself, and it can be a
panic. All of them are the ending of one call, so they stop the row alike and leave one message of
fixed wording behind.  The main result (`incoming_contains`) follows by induction on the row of
validators. The count of errors is kept along, and the result can be read off the messages.
-/
namespace CommandEngine
namespace Validation

open Account

section Stage

variable {D α : Type} (registry : Registry D) (services : D) (stage : ValidationStage)
  (token : Token) (o : Object)

/-! ## What a validator records -/

/-- The message that a request records. -/
def message? : ValidationRequest → Option UserMessage
  | .record m => some m
  | _ => none

/-- The messages that a program records, up to its end. -/
def recorded : ValidationProgram α → ValidationState → List UserMessage
  | .done _, _ => []
  | .ask q next, s =>
    let reply := ((answer registry services stage token q).run s).value
    (message? q).toList ++ recorded (next reply.1) reply.2

/-- What comes of a validator: what it recorded, and how it ended. -/
structure Turn where
  said : List UserMessage
  ending : Outcome Unit

/-- The validator failed or panicked, or could not be obtained. -/
def Turn.fails (t : Turn) : Bool :=
  match t.ending with
  | .ok _ => false
  | .error _ => true

/-- What comes of a validator in a state.  One that cannot be obtained records nothing. -/
def turn (slot : Slot D (Validator D)) (index : Nat) (s : ValidationState) : Turn where
  said :=
    match (slot.resolve services).outcome with
    | .error _ => []
    | .ok validator => recorded registry services stage token (validator services o) s
  ending := ((call registry services stage token o slot index).run s).value.1

/-- What comes of validators that are called one after the other, each in the state that the ones
before it left. -/
def turns : List (Slot D (Validator D) × Nat) → ValidationState → List Turn
  | [], _ => []
  | (slot, index) :: rest, s =>
    turn registry services stage token o slot index s ::
      turns rest ((call registry services stage token o slot index).run s).value.2

end Stage

section Messages

variable {D α : Type} {registry : Registry D} {services : D} {stage : ValidationStage}
  {token : Token} {o : Object}

/-- Asking for ambient values records nothing. -/
theorem collector_ambientValues (s : ValidationState) :
    ((ambientValues registry services).run s).value.2.collector = s.collector := by
  unfold ambientValues
  cases hambient : s.ambient with
  | some values => simp [hambient]
  | none =>
    cases hprovider : registry.provider with
    | none => simp [hambient]
    | some provider =>
      simp only [StateT.run_bind, StateT.run_get, pure_bind, hambient]
      rcases Account.act (provider services) with ⟨h, e | values⟩
      · rfl
      · rfl

theorem messages_answer (q : ValidationRequest) (s : ValidationState) :
    ((answer registry services stage token q).run s).value.2.collector.messages =
      s.collector.messages ++ (message? q).toList := by
  cases q with
  | record m => rfl
  | ambientValues =>
    show ((ambientValues registry services).run s).value.2.collector.messages = _
    rw [collector_ambientValues]
    exact (List.append_nil _).symm
  | view => exact (List.append_nil _).symm
  | sign s => exact (List.append_nil _).symm

/-- **The messages of a program are put behind those that are there.** -/
theorem messages_interpret (p : ValidationProgram α) (s : ValidationState) :
    ((p.interpret (answer registry services stage token)).run s).value.2.collector.messages =
      s.collector.messages ++ recorded registry services stage token p s := by
  induction p generalizing s with
  | done outcome => exact (List.append_nil _).symm
  | ask q next ih =>
    have hreply := @messages_answer D registry services stage token q s
    exact (ih _ _).trans ((congrArg (· ++ _) hreply).trans (List.append_assoc _ _ _))

theorem messages_call {slot : Slot D (Validator D)} {index : Nat} (s : ValidationState) :
    ((call registry services stage token o slot index).run s).value.2.collector.messages =
      s.collector.messages ++ (turn registry services stage token o slot index s).said := by
  unfold turn
  show (StateT.run (match (slot.resolve services).outcome with
    | .error e => pure (.error e)
    | .ok validator => Program.interpret (answer registry services stage token)
      (validator services o)) s).value.2.collector.messages = _
  cases (slot.resolve services).outcome with
  | error e => exact (List.append_nil _).symm
  | ok validator => exact messages_interpret (validator services o) s

/-! ## The row of validators -/

theorem callIncoming_of_error {slot : Slot D (Validator D)} {index : Nat}
    {rest : List (Slot D (Validator D) × Nat)} {s s' : ValidationState} {h : List Happening}
    {e : Raise}
    (hcall : (call registry services .incoming token o slot index).run s = ⟨h, .error e, s'⟩) :
    (callIncoming registry services token o ((slot, index) :: rest)).run s =
      ⟨h ++ [.log (.incomingValidatorFailed token o.type.name index (containedText e))], (),
        { s' with collector := s'.collector.add (.plain .error unhandledText) }⟩ := by
  rw [callIncoming, StateT.run_bind, hcall]
  rfl

theorem callIncoming_of_ok {slot : Slot D (Validator D)} {index : Nat}
    {rest : List (Slot D (Validator D) × Nat)} {s mid : ValidationState} {h : List Happening}
    (hcall : (call registry services .incoming token o slot index).run s = ⟨h, .ok (), mid⟩) :
    (callIncoming registry services token o ((slot, index) :: rest)).run s =
      ⟨h ++ ((callIncoming registry services token o rest).run mid).history,
        ((callIncoming registry services token o rest).run mid).value⟩ := by
  rw [callIncoming, StateT.run_bind, hcall]
  rfl

/-- What comes of a row of validators of which the first failure is contained: those that ran and
those that did not, and the messages. -/
structure Row (registry : Registry D) (services : D) (token : Token) (o : Object)
    (slots : List (Slot D (Validator D) × Nat)) (s : ValidationState) (h : List Happening)
    (messages : List UserMessage) (ran rest : List (Slot D (Validator D) × Nat)) : Prop where
  split : slots = ran ++ rest
  calls : validatorCalls h = ran.map fun slot => .validator .incoming o.type.name slot.2
  /-- All but the last of those that ran returned, -/
  returned : ∀ t ∈ (turns registry services .incoming token o ran s).dropLast, t.fails = false
  /-- and the last one failed if there are others behind it. -/
  stopped : rest ≠ [] → (turns registry services .incoming token o ran s).any (·.fails) = true
  messages : messages = (turns registry services .incoming token o ran s).flatMap (·.said) ++
    if (turns registry services .incoming token o ran s).any (·.fails) then
      [.plain .error unhandledText] else []

/-- The turn of a call that is known. -/
theorem fails_of_call {slot : Slot D (Validator D)} {index : Nat} {s s' : ValidationState}
    {h : List Happening} {out : Outcome Unit}
    (hcall : (call registry services stage token o slot index).run s = ⟨h, out, s'⟩) :
    (turn registry services stage token o slot index s).fails = (Turn.mk [] out).fails ∧
    s'.collector.messages =
      s.collector.messages ++ (turn registry services stage token o slot index s).said := by
  rw [← messages_call, hcall]
  refine ⟨?_, rfl⟩
  unfold Turn.fails turn
  rw [hcall]

/-- **The first failure is contained**, and the errors are counted. -/
theorem callIncoming_row {slots : List (Slot D (Validator D) × Nat)} {s s' : ValidationState}
    {h : List Happening} (hs : s.collector.Counted)
    (hrun : (callIncoming registry services token o slots).run s = ⟨h, (), s'⟩) :
    s'.collector.Counted ∧ ∃ messages ran rest,
      s'.collector.messages = s.collector.messages ++ messages ∧
      Row registry services token o slots s h messages ran rest := by
  induction slots generalizing s h with
  | nil =>
    cases hrun
    exact ⟨hs, [], [], [], (List.append_nil _).symm, ⟨rfl, rfl, nofun, nofun, rfl⟩⟩
  | cons slot others ih =>
    obtain ⟨slot, index⟩ := slot
    rcases hcall : (call registry services .incoming token o slot index).run s with
      ⟨h₁, e | _, mid⟩
    · -- the message stands in place of whatever failed
      obtain ⟨hfails, hsaid⟩ := fails_of_call hcall
      have hcounted := (validates_call registry services .incoming token o slot index s hs).2
      rw [hcall] at hcounted
      rw [callIncoming_of_error hcall] at hrun
      cases hrun
      refine ⟨hcounted.add _, _, [(slot, index)], others, ?_, ⟨rfl, ?_, nofun, ?_, rfl⟩⟩
      · show mid.collector.messages ++ _ = _
        rw [hsaid, turns, turns, List.any_cons, hfails]
        simp [Turn.fails]
      · rw [validatorCalls_append, validatorCalls_call hcall]
        rfl
      · intro _
        rw [turns, List.any_cons, hfails]
        rfl
    · obtain ⟨hfails, hsaid⟩ := fails_of_call hcall
      have hcounted := (validates_call registry services .incoming token o slot index s hs).2
      rw [hcall] at hcounted
      rw [callIncoming_of_ok hcall] at hrun
      obtain ⟨rfl, hrest⟩ := Traced.mk.inj hrun
      obtain ⟨hcounted', messages, ran, rest, hmessages, hrow⟩ :=
        ih hcounted (Traced.ext rfl hrest)
      have hturns : turns registry services .incoming token o ((slot, index) :: ran) s =
          turn registry services .incoming token o slot index s ::
            turns registry services .incoming token o ran mid := by
        rw [turns, hcall]
      have hreturns : (turn registry services .incoming token o slot index s).fails = false :=
        hfails
      refine ⟨hcounted', _, (slot, index) :: ran, rest, ?_,
        ⟨congrArg ((slot, index) :: ·) hrow.split, ?_, ?_, ?_, rfl⟩⟩
      · rw [hmessages, hsaid, hrow.messages, hturns, List.any_cons, hreturns]
        simp
      · rw [validatorCalls_append, validatorCalls_call hcall, hrow.calls]
        rfl
      · rw [hturns]
        intro t ht
        cases hran : turns registry services .incoming token o ran mid with
        | nil =>
          rw [hran] at ht
          cases ht
        | cons t' ts =>
          have hreturned := hrow.returned
          rw [hran] at ht hreturned
          rcases List.mem_cons.mp ht with rfl | ht
          · exact hreturns
          · exact hreturned t ht
      · intro hrest
        rw [hturns, List.any_cons, hrow.stopped hrest, Bool.or_true]

/-! ## The result -/

/-- The result can be read off the messages. -/
theorem finish_messages {s : ValidationState} (hs : s.collector.Counted) :
    (finish token s).messages = s.collector.messages ∧
    (finish token s).success = !(finish token s).messages.any (·.isError) ∧
    (finish token s).logKey = if (finish token s).success then none else some token.text := by
  rcases finish_eq hs with ⟨hfinish, hclean⟩ | ⟨hfinish, m, hm, herror⟩
  · have hnone : s.collector.messages.any (·.isError) = false :=
      List.any_eq_false.mpr fun m hm => Bool.eq_false_iff.mp (hclean m hm)
    rw [hfinish]
    exact ⟨rfl, congrArg (!·) hnone.symm, rfl⟩
  · have hsome : s.collector.messages.any (·.isError) = true :=
      List.any_eq_true.mpr ⟨m, hm, herror⟩
    rw [hfinish]
    exact ⟨rfl, congrArg (!·) hsome.symm, rfl⟩

/-- The record of a failed result calls no validator. -/
theorem validatorCalls_logOutcome (typeName : String) (r : ValidationResult) :
    validatorCalls (logOutcome stage typeName token r).history = [] := by
  unfold logOutcome
  split
  · rfl
  · rfl

theorem incoming_of_none (hfind : registry.descriptorOf? o = none) :
    incoming registry services token o = ⟨[.log (.unknownIncoming token o.type.name)],
      ⟨[.plain .error unknownText], false, some token.text⟩⟩ := by
  unfold incoming
  rw [hfind]
  rfl

theorem incoming_of_some {d : Descriptor D} {h : List Happening} {s : ValidationState}
    (hfind : registry.descriptorOf? o = some d)
    (hrun : (callIncoming registry services token o d.incomingValidators.zipIdx).run start =
      ⟨h, (), s⟩) :
    incoming registry services token o =
      ⟨h ++ (logOutcome .incoming o.type.name token (finish token s)).history, finish token s⟩ := by
  unfold incoming
  rw [hfind]
  dsimp only
  rw [hrun]
  exact Traced.ext (congrArg (h ++ ·) (List.append_nil _)) rfl

/-- **Incoming validation contains every failure.**  It ends in a result, whatever the validators
do. The validators ran in the order of registration, up to the first that failed; the messages are
what they recorded, one after the other, and one more in place of a failure; and the result is a
success if none of the messages is an error, and has the token as its key to the log otherwise.  An
object of an unregistered type gets the one message that says so. -/
theorem incoming_contains (registry : Registry D) (services : D) (token : Token) (o : Object) :
    match registry.descriptorOf? o with
    | none =>
      (incoming registry services token o).value =
        ⟨[.plain .error unknownText], false, some token.text⟩ ∧
      validatorCalls (incoming registry services token o).history = []
    | some d => ∃ ran rest,
      Row registry services token o d.incomingValidators.zipIdx start
        (incoming registry services token o).history
        (incoming registry services token o).value.messages ran rest ∧
      (incoming registry services token o).value.success =
        !(incoming registry services token o).value.messages.any (·.isError) ∧
      (incoming registry services token o).value.logKey =
        if (incoming registry services token o).value.success then none else some token.text := by
  cases hfind : registry.descriptorOf? o with
  | none =>
    rw [incoming_of_none hfind]
    exact ⟨rfl, rfl⟩
  | some d =>
    rcases hrun : (callIncoming registry services token o d.incomingValidators.zipIdx).run start
      with ⟨h, _, s⟩
    obtain ⟨hcounted, messages, ran, rest, hmessages, hrow⟩ :=
      callIncoming_row Collector.counted_empty hrun
    obtain ⟨hall, hsuccess, hlogKey⟩ := @finish_messages token s hcounted
    rw [incoming_of_some hfind hrun]
    refine ⟨ran, rest, ⟨hrow.split, ?_, hrow.returned, hrow.stopped, ?_⟩, hsuccess, hlogKey⟩
    · rw [validatorCalls_append, validatorCalls_logOutcome, List.append_nil]
      exact hrow.calls
    · rw [hall, hmessages, hrow.messages]
      rfl

end Messages

/-! ### A validator that gives up -/

namespace Lapse

def parcel : TypeKey := ⟨"Parcel", "Parcel"⟩

/-- Has a remark, and panics. -/
def clumsy : ValidationProgram Unit :=
  .ask (.record (.plain .warn "dented")) fun _ => .raise (.panic (.text "dropped"))

/-- Objects to everything. -/
def strict : ValidationProgram Unit :=
  .ask (.record (.plain .error "refused")) fun _ => .done (.ok ())

def registry : Registry Unit :=
  .of [⟨0, parcel, .command, none, none,
    [.pooled fun _ _ => clumsy, .pooled fun _ _ => strict], [], [], [], false⟩]

/-- The remark stays, the strict validator is not asked. -/
example : (incoming registry () .absent (.fresh ⟨parcel, false, 0, ""⟩)).value =
    ⟨[.plain .warn "dented", .plain .error unhandledText], false, some "NONE"⟩ := rfl

end Lapse
end Validation
end CommandEngine
