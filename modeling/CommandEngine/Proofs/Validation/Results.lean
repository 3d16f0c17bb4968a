import CommandEngine.Codec
import CommandEngine.Proofs.Validation.Incoming

/-!
# The flag of a validation result

A result keeps its flag beside its messages, and those who are given a result look at the flag
alone.  So the flag has to say what the messages say: the result is a failure exactly if one of
them is an error (`Truthful`).

A flag is set in three ways: it is constant where there is no message, it is computed from a list of
messages, and it is computed from the count of errors that a collector keeps along with its
messages.  All of these are right (`Made.truthful`), and what the program made and stored is the
same when it is read back (`decode_encode`).  A stored result need not come from the program,
though.  Its flag is read like any other field, so it is right exactly if whoever stored it was
right.
-/
namespace CommandEngine
namespace ValidationResult

/-- The result is a failure exactly if there are error messages. -/
def Truthful (r : ValidationResult) : Prop := r.success = false ↔ r.errors ≠ []

/-- Results that the program itself makes. -/
inductive Made : ValidationResult → Prop where
  | ok : Made .ok
  | ofMessages (messages : List UserMessage) (logKey : Option String) :
    Made (.ofMessages messages logKey)
  | collected (messages : List UserMessage) (logKey : Option String) :
    Made ((Collector.empty.addAll messages).toResult logKey)
  | incoming {D : Type} (registry : Registry D) (services : D) (token : Token) (o : Object) :
    Made (Validation.incoming registry services token o).value
  | handling {D : Type} {registry : Registry D} {services : D} {token : Token} {o : Object}
    {r : ValidationResult}
    (hr : (Validation.handling registry services token o).run.value = .ok r) : Made r

/-! ## What the program makes -/

theorem truthful_iff {r : ValidationResult} :
    r.Truthful ↔ r.success = !r.messages.any (·.isError) := by
  have herrors : r.errors = [] ↔ r.messages.any (·.isError) = false := by
    rw [errors, List.filter_eq_nil_iff, List.any_eq_false]
  unfold Truthful
  rw [ne_eq, herrors]
  cases r.success <;> cases r.messages.any (·.isError) <;> decide

/-- The flag of every result that the program makes is right. -/
theorem Made.truthful {r : ValidationResult} (hr : Made r) : r.Truthful := by
  rw [truthful_iff]
  cases hr with
  | ok => rfl
  | ofMessages messages logKey => rfl
  | collected messages logKey =>
    rw [← Collector.ofMessages_eq_toResult]
    rfl
  | incoming registry services token o =>
    cases hfind : registry.descriptorOf? o with
    | none =>
      rw [Validation.incoming_of_none hfind]
      rfl
    | some d =>
      rcases hrun : (Validation.callIncoming registry services token o
        d.incomingValidators.zipIdx).run Validation.start with ⟨h, _, s⟩
      have hcounted := (Validation.callIncoming_row Collector.counted_empty hrun).1
      rw [Validation.incoming_of_some hfind hrun]
      exact (Validation.finish_messages hcounted).2.1
  | handling hr => exact ((Validation.handling_validates _ _ _ _).2 _ hr).success

/-! ## What is stored -/

/-- The stored form of a result, field by field. -/
theorem of_decode {json : Json} {r : ValidationResult} (hr : decode? json = some r) :
    ∃ field, Stored.record? ["messages", "success", "log_key"] 2 json = some field ∧
      (field "messages").bind decode? = some r.messages ∧
      field "success" = some (.bool r.success) := by
  obtain ⟨field, hfield, hr⟩ := Option.bind_eq_some_iff.mp hr
  obtain ⟨messages, hmessages, hr⟩ := Option.bind_eq_some_iff.mp hr
  obtain ⟨success, hsuccess, hr⟩ := Option.bind_eq_some_iff.mp hr
  obtain ⟨logKey, -, hr⟩ := Option.bind_eq_some_iff.mp hr
  cases hr
  obtain ⟨stored, hstored, hflag⟩ := Option.bind_eq_some_iff.mp hsuccess
  refine ⟨field, hfield, hmessages, hstored.trans ?_⟩
  cases stored with
  | bool b =>
    cases hflag
    rfl
  | _ => cases hflag

/-- A message is the same when it is read back. -/
theorem decode_encode_message (m : UserMessage) : decode? (encode m) = some m := by
  obtain ⟨level, text, code⟩ := m
  cases level <;> cases code <;> rfl

theorem mapM_decode_encode (messages : List UserMessage) :
    (messages.map encode).mapM decode? = some messages := by
  induction messages with
  | nil => rfl
  | cons m rest ih =>
    rw [List.map_cons, List.mapM_cons, decode_encode_message, ih]
    rfl

/-- A result is the same when it is read back. -/
theorem decode_encode (r : ValidationResult) : decode? (encode r) = some r := by
  obtain ⟨messages, success, logKey⟩ := r
  have hread : Stored.required? (some (encode messages)) = some messages :=
    mapM_decode_encode messages
  cases logKey with
  | none =>
    show (do
      let messages ← Stored.required? (some (encode messages))
      some (ValidationResult.mk messages success none)) = _
    rw [hread]
    rfl
  | some key =>
    show (do
      let messages ← Stored.required? (some (encode messages))
      some (ValidationResult.mk messages success (some key))) = _
    rw [hread]
    rfl

/-! ## The flag -/

/-- **The flag of a result that the program makes says what its messages say**, and it still does
when the result was stored and is read back.  The flag of a stored result is the stored one: it is
right exactly if the stored messages hold an error and it says so, or hold none and it says that. -/
theorem results_truthful (r : ValidationResult) :
    (Made r → r.Truthful ∧ decode? (encode r) = some r) ∧
    ∀ json, decode? json = some r → ∃ field messages flag,
      Stored.record? ["messages", "success", "log_key"] 2 json = some field ∧
      (field "messages").bind decode? = some messages ∧
      field "success" = some (.bool flag) ∧
      r.messages = messages ∧ r.success = flag ∧
      (r.Truthful ↔ flag = !messages.any (·.isError)) := by
  refine ⟨fun hr => ⟨hr.truthful, decode_encode r⟩, fun json hr => ?_⟩
  obtain ⟨field, hfield, hmessages, hflag⟩ := of_decode hr
  exact ⟨field, _, _, hfield, hmessages, hflag, rfl, rfl, truthful_iff⟩

/-! ### A refusal that is stored as a success -/

namespace Forged

/-- One error, and the flag of a success. -/
def json : Json :=
  .obj [("messages", .arr [.obj [("level", .str "Error"), ("text", .str "refused")]]),
    ("success", .bool true)]

def result : ValidationResult := ⟨[.plain .error "refused"], true, none⟩

/-- Made of its messages the result is right, read from the store it is as it was written. -/
theorem results_truthful_refused :
    ((ValidationResult.ofMessages result.messages none).Truthful ∧
      decode? (encode (ValidationResult.ofMessages result.messages none)) =
        some (ValidationResult.ofMessages result.messages none)) ∧
    ∃ field messages flag,
      Stored.record? ["messages", "success", "log_key"] 2 json = some field ∧
      (field "messages").bind decode? = some messages ∧
      field "success" = some (.bool flag) ∧
      result.messages = messages ∧ result.success = flag ∧
      (result.Truthful ↔ flag = !messages.any (·.isError)) :=
  ⟨(results_truthful _).1 (.ofMessages _ _), (results_truthful result).2 json rfl⟩

/-- What is read is a success with an error. -/
theorem stored_flag_believed :
    ∃ r : ValidationResult, decode? json = some r ∧ r.success = true ∧
      r.errors = [.plain .error "refused"] ∧ ¬ r.Truthful :=
  ⟨result, rfl, rfl, rfl, fun h => absurd (h.mpr nofun) nofun⟩

end Forged
end ValidationResult
end CommandEngine
