import CommandEngine.Proofs.Validation.Agreement

/-!
# Ambient values are prepared at most once

The validators of a run share one place for ambient values.  It is empty at first, and a request for
the values calls the provider while it is, and not any more when it is filled.  What a validator
sees of this are the replies to its requests and the flag in what the context shows; these are the
*inquiries* of a run, in order.  They begin with vain ones, where the provider failed or nobody
asked, and after the first success all of them get the same values (`PreparedOnce`).

A provider is a function of the services, so within one run of the engine's definitions it fails
always or never.  A real one may fail at the first request and succeed at the next one.  So the
statement is about a row of validators whose requests are answered by providers that may be other
ones each time (`Inquires`, `Consults`).  Nothing is known of the validators: they may ask as often
as they want to, and go on after a failure or after a panic.  What one request does to the place is
`prepares_answer`; the rest is an induction on the requests of a program, and one on the row.

The two validations are such rows, with one and the same provider at all requests.  The provider is
not called but for an inquiry, since all the marks of calling it are those of the inquiries.
-/
namespace CommandEngine

/-- How often ambient values were asked for while there were none: the calls of the provider, if
there is one. -/
def preparations (h : List Happening) : Nat := (Chain.marks h).count .ambientRequested

theorem preparations_append (h₁ h₂ : List Happening) :
    preparations (h₁ ++ h₂) = preparations h₁ + preparations h₂ := by
  rw [preparations, Chain.marks_append, List.count_append]
  rfl

namespace Validation

open Account

/-- What a validator gets to know of the ambient values: what became of a request for them, or
whether they are there. -/
inductive Inquiry where
  | asked (reply : Account (Outcome AmbientValues))
  | viewed (there : Bool)

namespace Inquiry

/-- What happened for an inquiry. -/
def history : Inquiry → List Happening
  | asked reply => reply.history
  | viewed _ => []

end Inquiry

/-- The inquiry that a request was. -/
def inquiry? (h : List Happening) : (q : ValidationRequest) → q.Reply → Option Inquiry
  | .ambientValues, reply => some (.asked ⟨h, reply⟩)
  | .view, view => some (.viewed view.hasAmbient)
  | .record _, _ => none
  | .sign _, _ => none

section Rows

variable {D α : Type} (providers : Registry D → Prop) (services : D) (stage : ValidationStage)
  (token : Token) (o : Object)

/-- The provider makes ambient values.  Without a provider there are none. -/
def prepare (registry : Registry D) (services : D) : Account (Outcome AmbientValues) := do
  Account.mark .ambientRequested
  match registry.provider with
  | some provider => Account.act (provider services)
  | none => pure (.ok .empty)

/-- The requests of a program are answered one after the other, each by one of the providers. -/
inductive Inquires : ValidationProgram α → ValidationState → List Inquiry → Outcome α →
    ValidationState → Prop where
  | done (outcome : Outcome α) (s : ValidationState) : Inquires (.done outcome) s [] outcome s
  | ask {registry : Registry D} {q : ValidationRequest} {next : q.Reply → ValidationProgram α}
    {s mid s' : ValidationState} {h : List Happening} {reply : q.Reply} {rest : List Inquiry}
    {out : Outcome α} (hmay : providers registry)
    (hanswer : (answer registry services stage token q).run s = ⟨h, reply, mid⟩)
    (hrest : Inquires (next reply) mid rest out s') :
    Inquires (.ask q next) s ((inquiry? h q reply).toList ++ rest) out s'

/-- Validators are called one after the other, up to the first that does not return. -/
inductive Consults : List (Slot D (Validator D)) → ValidationState → List Inquiry → Outcome Unit →
    ValidationState → Prop where
  | none (s : ValidationState) : Consults [] s [] (.ok ()) s
  | next {slot : Slot D (Validator D)} {others : List (Slot D (Validator D))}
    {s mid s' : ValidationState} {first rest : List Inquiry} {out : Outcome Unit}
    (hfirst : Inquires providers services stage token (check services o slot) s first (.ok ()) mid)
    (hrest : Consults others mid rest out s') : Consults (slot :: others) s (first ++ rest) out s'
  | stopped {slot : Slot D (Validator D)} {others : List (Slot D (Validator D))}
    {s s' : ValidationState} {first : List Inquiry} {e : Raise}
    (hfirst : Inquires providers services stage token (check services o slot) s first
      (.error e) s') :
    Consults (slot :: others) s first (.error e) s'

/-! ## Vain inquiries, and those that follow the first success -/

/-- The values are not there, and a request for them calls a provider that fails or panics. -/
inductive Vain : Inquiry → Prop where
  | viewed : Vain (.viewed false)
  | asked {registry : Registry D} {e : Raise} (hmay : providers registry)
    (hfailed : (prepare registry services).value = .error e) :
    Vain (.asked (prepare registry services))

/-- The values are there, and a request for them gives them and does nothing else. -/
inductive Answered (values : AmbientValues) : Inquiry → Prop where
  | viewed : Answered values (.viewed true)
  | asked : Answered values (.asked (pure (.ok values)))

/-- The inquiries of a run that began without ambient values, and the values that are there at its
end.  Either all inquiries were vain, or one call of the provider succeeded after the vain ones, and
all that followed got the values that it had made. -/
inductive PreparedOnce : List Inquiry → Option AmbientValues → Prop where
  | never {vain : List Inquiry} (hvain : ∀ i ∈ vain, Vain providers services i) :
    PreparedOnce vain none
  | once {vain answered : List Inquiry} {registry : Registry D} {values : AmbientValues}
    (hvain : ∀ i ∈ vain, Vain providers services i) (hmay : providers registry)
    (hmade : (prepare registry services).value = .ok values)
    (hanswered : ∀ i ∈ answered, Answered values i) :
    PreparedOnce (vain ++ .asked (prepare registry services) :: answered) (some values)

/-- The inquiries of a part of a run, by the ambient values before and after it. -/
def Prepares : Option AmbientValues → List Inquiry → Option AmbientValues → Prop
  | none, inquiries, after => PreparedOnce providers services inquiries after
  | some values, inquiries, after => after = some values ∧ ∀ i ∈ inquiries, Answered values i

end Rows

section Facts

variable {D α : Type} {providers : Registry D → Prop} {registry : Registry D} {services : D}
  {stage : ValidationStage} {token : Token} {o : Object}

theorem prepares_nil (before : Option AmbientValues) :
    Prepares providers services before [] before := by
  cases before with
  | none => exact .never nofun
  | some values => exact ⟨rfl, nofun⟩

theorem Prepares.append {before mid after : Option AmbientValues} {first rest : List Inquiry}
    (hfirst : Prepares providers services before first mid)
    (hrest : Prepares providers services mid rest after) :
    Prepares providers services before (first ++ rest) after := by
  cases before with
  | some values =>
    obtain ⟨rfl, hfirst⟩ := hfirst
    exact ⟨hrest.1, List.forall_mem_append.mpr ⟨hfirst, hrest.2⟩⟩
  | none =>
    cases hfirst with
    | never hvain =>
      cases hrest with
      | never hvain' => exact .never (List.forall_mem_append.mpr ⟨hvain, hvain'⟩)
      | once hvain' hmay hmade hanswered =>
        rw [← List.append_assoc]
        exact .once (List.forall_mem_append.mpr ⟨hvain, hvain'⟩) hmay hmade hanswered
    | once hvain hmay hmade hanswered =>
      obtain ⟨rfl, hrest⟩ := hrest
      rw [List.append_assoc, List.cons_append]
      exact .once hvain hmay hmade (List.forall_mem_append.mpr ⟨hanswered, hrest⟩)

/-! ## One request -/

theorem ambientValues_of_some {s : ValidationState} {values : AmbientValues}
    (hs : s.ambient = some values) :
    (ambientValues registry services).run s = ⟨[], .ok values, s⟩ := by
  unfold ambientValues
  simp only [StateT.run_bind, StateT.run_get, pure_bind, hs]
  rfl

theorem ambientValues_of_none {s : ValidationState} (hs : s.ambient = none) :
    (ambientValues registry services).run s =
      ⟨(prepare registry services).history, (prepare registry services).value,
        match (prepare registry services).value with
        | .ok values => { s with ambient := some values }
        | .error _ => s⟩ := by
  unfold ambientValues prepare
  simp only [StateT.run_bind, StateT.run_get, pure_bind, hs]
  cases registry.provider with
  | none => rfl
  | some provider =>
    cases hmade : (Account.act (provider services)).value with
    | error e => exact Traced.ext (by simp [hmade]) (by simp [hmade])
    | ok values => exact Traced.ext (by simp [hmade]) (by simp [hmade])

/-- What a request does to the ambient values, and what it shows of them. -/
theorem prepares_answer {q : ValidationRequest} {s mid : ValidationState} {h : List Happening}
    {reply : q.Reply} (hmay : providers registry)
    (hanswer : (answer registry services stage token q).run s = ⟨h, reply, mid⟩) :
    Prepares providers services s.ambient (inquiry? h q reply).toList mid.ambient := by
  cases q with
  | record m =>
    cases hanswer
    exact prepares_nil _
  | sign sign =>
    cases hanswer
    exact prepares_nil _
  | view =>
    cases hanswer
    cases hs : s.ambient with
    | none => exact .never (List.forall_mem_singleton.mpr .viewed)
    | some values => exact ⟨rfl, List.forall_mem_singleton.mpr .viewed⟩
  | ambientValues =>
    replace hanswer : (ambientValues registry services).run s = ⟨h, reply, mid⟩ := hanswer
    cases hs : s.ambient with
    | some values =>
      rw [ambientValues_of_some hs] at hanswer
      cases hanswer
      exact ⟨hs, List.forall_mem_singleton.mpr .asked⟩
    | none =>
      rw [ambientValues_of_none hs] at hanswer
      rcases hprepare : prepare registry services with ⟨h₀, e | values⟩
      · have hvain : Vain providers services (.asked (prepare registry services)) :=
          .asked hmay (by rw [hprepare])
        rw [hprepare] at hanswer hvain
        cases hanswer
        rw [hs]
        exact .never (List.forall_mem_singleton.mpr hvain)
      · have honce : PreparedOnce providers services ([] ++ [.asked (prepare registry services)])
            (some values) := .once nofun hmay (by rw [hprepare]) nofun
        rw [hprepare] at hanswer honce
        cases hanswer
        exact honce

/-! ## Whole runs -/

theorem Inquires.prepares {p : ValidationProgram α} {s s' : ValidationState}
    {inquiries : List Inquiry} {out : Outcome α}
    (hrun : Inquires providers services stage token p s inquiries out s') :
    Prepares providers services s.ambient inquiries s'.ambient := by
  induction hrun with
  | done outcome s => exact prepares_nil _
  | ask hmay hanswer _ ih => exact (prepares_answer hmay hanswer).append ih

theorem Consults.prepares {slots : List (Slot D (Validator D))} {s s' : ValidationState}
    {inquiries : List Inquiry} {out : Outcome Unit}
    (hrun : Consults providers services stage token o slots s inquiries out s') :
    Prepares providers services s.ambient inquiries s'.ambient := by
  induction hrun with
  | none s => exact prepares_nil _
  | next hfirst _ ih => exact hfirst.prepares.append ih
  | stopped hfirst => exact hfirst.prepares

/-! ## The two validations -/

/-- The provider is called for inquiries only. -/
theorem preparations_answer {q : ValidationRequest} {s mid : ValidationState} {h : List Happening}
    {reply : q.Reply} (hanswer : (answer registry services stage token q).run s = ⟨h, reply, mid⟩) :
    preparations h = preparations ((inquiry? h q reply).toList.flatMap Inquiry.history) := by
  cases q with
  | ambientValues => exact congrArg preparations (List.append_nil h).symm
  | record m =>
    cases hanswer
    rfl
  | view =>
    cases hanswer
    rfl
  | sign s =>
    cases hanswer
    rfl

/-- A program whose requests are answered by one registry. -/
theorem interpret_inquires (p : ValidationProgram α) (s : ValidationState) :
    ∃ inquiries, Inquires (· = registry) services stage token p s inquiries
      ((p.interpret (answer registry services stage token)).run s).value.1
      ((p.interpret (answer registry services stage token)).run s).value.2 ∧
    preparations ((p.interpret (answer registry services stage token)).run s).history =
      preparations (inquiries.flatMap Inquiry.history) := by
  induction p generalizing s with
  | done outcome => exact ⟨[], .done outcome s, rfl⟩
  | ask q next ih =>
    rcases hanswer : (answer registry services stage token q).run s with ⟨h, reply, mid⟩
    obtain ⟨rest, hrest, hpreparations⟩ := ih reply mid
    have hrun : ((Program.ask q next).interpret (answer registry services stage token)).run s =
        ⟨h ++ (((next reply).interpret (answer registry services stage token)).run mid).history,
          (((next reply).interpret (answer registry services stage token)).run mid).value⟩ := by
      show ((answer registry services stage token q).run s >>= fun x =>
        ((next x.1).interpret (answer registry services stage token)).run x.2) = _
      rw [hanswer]
      rfl
    rw [hrun]
    refine ⟨_, .ask rfl hanswer hrest, ?_⟩
    rw [preparations_append, List.flatMap_append, preparations_append, preparations_answer hanswer,
      hpreparations]

/-- Neither the mark of a validator nor the signs of obtaining it are calls of the provider. -/
theorem preparations_call (typeName : String) (index : Nat) (signs : List Sign)
    (h : List Happening) :
    preparations (.mark (.validator stage typeName index) :: (signs.map .sign ++ h)) =
      preparations h := by
  have hsigns : Chain.marks (signs.map .sign) = [] := by
    rw [Chain.marks, List.filterMap_map]
    exact List.filterMap_eq_nil_iff.mpr fun _ _ => rfl
  have hother : Mark.validator stage typeName index ≠ .ambientRequested := by
    intro hsame
    cases hsame
  show (Mark.validator stage typeName index :: Chain.marks (_ ++ h)).count _ = _
  rw [List.count_cons_of_ne hother, Chain.marks_append, hsigns]
  rfl

theorem call_inquires {slot : Slot D (Validator D)} {index : Nat} {s s' : ValidationState}
    {h : List Happening} {out : Outcome Unit}
    (hcall : (call registry services stage token o slot index).run s = ⟨h, out, s'⟩) :
    ∃ inquiries, Inquires (· = registry) services stage token (check services o slot) s inquiries
      out s' ∧ preparations h = preparations (inquiries.flatMap Inquiry.history) := by
  obtain ⟨inquiries, hrun, hpreparations⟩ :=
    @interpret_inquires D Unit registry services stage token (check services o slot) s
  rw [call_check] at hcall
  obtain ⟨rfl, hvalue⟩ := Traced.mk.inj hcall
  rw [hvalue] at hrun
  exact ⟨inquiries, hrun, (preparations_call _ _ _ _).trans hpreparations⟩

/-- A row of calls. -/
theorem Calls.consults {slots : List (Slot D (Validator D) × Nat)} {s s' : ValidationState}
    {h : List Happening} {out : Outcome Unit}
    (hcalls : Calls registry services stage token o slots s h out s') :
    ∃ inquiries,
      Consults (· = registry) services stage token o (slots.map (·.1)) s inquiries out s' ∧
      preparations h = preparations (inquiries.flatMap Inquiry.history) := by
  induction hcalls with
  | none s => exact ⟨[], .none s, rfl⟩
  | next hcall _ ih =>
    obtain ⟨first, hfirst, hpreparations⟩ := call_inquires hcall
    obtain ⟨rest, hrest, hpreparations'⟩ := ih
    refine ⟨first ++ rest, .next hfirst hrest, ?_⟩
    rw [preparations_append, List.flatMap_append, preparations_append, hpreparations,
      hpreparations']
  | stopped hcall =>
    obtain ⟨first, hfirst, hpreparations⟩ := call_inquires hcall
    exact ⟨first, .stopped hfirst, hpreparations⟩

/-- A validation that calls a row of validators and leaves no other marks. -/
theorem Calls.consulted {slots : List (Slot D (Validator D))} {s : ValidationState}
    {h history : List Happening} {out : Outcome Unit}
    (hcalls : Calls registry services stage token o slots.zipIdx start h out s)
    (hmarks : Chain.marks history = Chain.marks h) :
    ∃ inquiries, Consults (· = registry) services stage token o slots start inquiries out s ∧
      preparations history = preparations (inquiries.flatMap Inquiry.history) := by
  obtain ⟨inquiries, hrun, hpreparations⟩ := hcalls.consults
  rw [List.zipIdx_map_fst] at hrun
  exact ⟨inquiries, hrun, (congrArg (List.count _) hmarks).trans hpreparations⟩

/-- The row of the incoming validation is one of calls, and a record if it was stopped. -/
theorem callIncoming_calls {slots : List (Slot D (Validator D) × Nat)} {s s' : ValidationState}
    {h : List Happening}
    (hrun : (callIncoming registry services token o slots).run s = ⟨h, (), s'⟩) :
    ∃ called out mid logged, Calls registry services .incoming token o slots s called out mid ∧
      s' = contained out mid ∧ h = called ++ logged ∧ Chain.marks logged = [] := by
  induction slots generalizing s h with
  | nil =>
    cases hrun
    exact ⟨[], .ok (), _, [], .none _, rfl, rfl, rfl⟩
  | cons slot others ih =>
    obtain ⟨slot, index⟩ := slot
    rcases hcall : (call registry services .incoming token o slot index).run s with
      ⟨first, e | _, mid⟩
    · rw [callIncoming_of_error hcall] at hrun
      cases hrun
      exact ⟨first, .error e, mid, _, .stopped hcall, rfl, rfl, rfl⟩
    · rw [callIncoming_of_ok hcall] at hrun
      obtain ⟨rfl, hrest⟩ := Traced.mk.inj hrun
      obtain ⟨called, out, last, logged, hcalls, hstate, hhistory, hlogged⟩ :=
        ih (Traced.ext rfl hrest)
      exact ⟨first ++ called, out, last, logged, .next hcall hcalls, hstate,
        (congrArg (first ++ ·) hhistory).trans (List.append_assoc _ _ _).symm, hlogged⟩

/-- The incoming validation is a row of calls, and the result of the state that it leaves. -/
theorem incoming_calls {d : Descriptor D} (hfind : registry.descriptorOf? o = some d) :
    ∃ h out s,
      Calls registry services .incoming token o d.incomingValidators.zipIdx start h out s ∧
      Chain.marks (incoming registry services token o).history = Chain.marks h ∧
      (incoming registry services token o).value = finish token (contained out s) := by
  rcases hrun : (callIncoming registry services token o d.incomingValidators.zipIdx).run start
    with ⟨h, _, last⟩
  obtain ⟨called, out, s, logged, hcalls, rfl, rfl, hlogged⟩ := callIncoming_calls hrun
  have hrecord : ∀ r, Chain.marks (logOutcome .incoming o.type.name token r).history = [] := by
    intro r
    unfold logOutcome
    split
    · rfl
    · rfl
  rw [incoming_of_some hfind hrun]
  refine ⟨called, out, s, hcalls, ?_, rfl⟩
  rw [Chain.marks_append, Chain.marks_append, hlogged, hrecord, List.append_nil, List.append_nil]

/-- **Ambient values are prepared at most once in a validation**, whatever the validators ask for
and whatever the providers do.  As long as no call of a provider succeeded, a request for ambient values
calls the provider again and the context shows that there are none; from the first success on, all
requests give what was made then, no provider is called and the context shows that they are there.
Both validations are runs of this kind, with the provider of the registry at all requests, and the
provider is called at no other time. -/
theorem prepared_once (services : D) (token : Token) (o : Object) :
    (∀ (providers : Registry D → Prop) stage slots inquiries out s,
      Consults providers services stage token o slots start inquiries out s →
      PreparedOnce providers services inquiries s.ambient) ∧
    ∀ registry : Registry D, match registry.descriptorOf? o with
    | none => preparations (incoming registry services token o).history = 0 ∧
        preparations (handling registry services token o).run.history = 0
    | some d =>
        (∃ inquiries out s,
          Consults (· = registry) services .incoming token o d.incomingValidators start inquiries
            out s ∧
          (incoming registry services token o).value = finish token (contained out s) ∧
          preparations (incoming registry services token o).history =
            preparations (inquiries.flatMap Inquiry.history)) ∧
        ∃ inquiries out s,
          Consults (· = registry) services .handling token o d.handlingValidators start inquiries
            out s ∧
          (handling registry services token o).run.value = out.map (fun _ => finish token s) ∧
          preparations (handling registry services token o).run.history =
            preparations (inquiries.flatMap Inquiry.history) := by
  refine ⟨fun providers stage slots inquiries out s hrun => hrun.prepares, fun registry => ?_⟩
  cases hfind : registry.descriptorOf? o with
  | none =>
    have hrequire : registry.require o = .error (.unknownType o.type.name) := by
      unfold Registry.require
      rw [hfind]
    rw [incoming_of_none hfind]
    unfold handling
    rw [hrequire]
    exact ⟨rfl, rfl⟩
  | some d =>
    constructor
    · obtain ⟨h, out, s, hcalls, hmarks, hvalue⟩ :=
        @incoming_calls D registry services token o d hfind
      obtain ⟨inquiries, hrun, hpreparations⟩ := hcalls.consulted hmarks
      exact ⟨inquiries, out, s, hrun, hvalue, hpreparations⟩
    · obtain ⟨h, out, s, hcalls, hmarks, hvalue⟩ :=
        @handling_calls D registry services token o d hfind
      obtain ⟨inquiries, hrun, hpreparations⟩ := hcalls.consulted hmarks
      exact ⟨inquiries, out, s, hrun, hvalue, hpreparations⟩

end Facts

/-! ### A provider that has to be asked twice -/

namespace Hesitant

def parcel : TypeKey := ⟨"Parcel", "Parcel"⟩

def shipment : Object := .fresh ⟨parcel, false, 0, ""⟩

def values : AmbientValues := .ofList [("language", .str "la")]

/-- Asks for the values until they are there, at most twice, and looks whether they are. -/
def insistent : ValidationProgram Unit :=
  .ask .ambientValues fun
    | .ok _ => .done (.ok ())
    | .error _ => .ask .ambientValues fun _ => .ask .view fun _ => .done (.ok ())

/-- Fails with whatever the provider raises. -/
def dependent : ValidationProgram Unit :=
  .ask .ambientValues fun made => .done (made.map fun _ => ())

def checks : List (Slot Unit (Validator Unit)) :=
  [.pooled fun _ _ => insistent, .pooled fun _ _ => dependent]

/-- A registry with a provider that ends so. -/
def registry (made : Outcome AmbientValues) : Registry Unit :=
  { Registry.of [⟨0, parcel, .command, none, none, checks, checks, [], [], false⟩]
    with provider := some fun _ => ⟨[], made⟩ }

/-- The provider panics, and makes the values when it is asked again. -/
def inquiries : List Inquiry :=
  [.asked ⟨[.mark .ambientRequested], .error (.panic (.text "busy"))⟩,
    .asked ⟨[.mark .ambientRequested], .ok values⟩, .viewed true, .asked (pure (.ok values))]

theorem consults_checks : Consults (fun _ => True) () .incoming .absent
    shipment checks start inquiries (.ok ()) ⟨.empty, some values⟩ := by
  have hpanics : (answer (registry (.error (.panic (.text "busy")))) () .incoming .absent
      .ambientValues).run start =
      ⟨[.mark .ambientRequested], .error (.panic (.text "busy")), start⟩ := rfl
  have hmakes : (answer (registry (.ok values)) () .incoming .absent .ambientValues).run start =
      ⟨[.mark .ambientRequested], .ok values, ⟨.empty, some values⟩⟩ := rfl
  have hshows : (answer (registry (.ok values)) () .incoming .absent .view).run
      ⟨.empty, some values⟩ =
      ⟨[], ⟨.incoming, .absent, true, .empty⟩, ⟨.empty, some values⟩⟩ := rfl
  have hgives : (answer (registry (.ok values)) () .incoming .absent .ambientValues).run
      ⟨.empty, some values⟩ = ⟨[], .ok values, ⟨.empty, some values⟩⟩ := rfl
  have hinsistent : Inquires (fun _ => True) () .incoming .absent
      (check () shipment (.pooled fun _ _ => insistent)) start (inquiries.take 3) (.ok ())
      ⟨.empty, some values⟩ :=
    .ask trivial hpanics (.ask trivial hmakes (.ask trivial hshows (.done _ _)))
  have hdependent : Inquires (fun _ => True) () .incoming .absent
      (check () shipment (.pooled fun _ _ => dependent)) ⟨.empty, some values⟩ (inquiries.drop 3)
      (.ok ()) ⟨.empty, some values⟩ :=
    .ask trivial hgives (.done _ _)
  have hrest : Consults (fun _ => True) () .incoming .absent shipment
      [.pooled fun _ _ => dependent] ⟨.empty, some values⟩ (inquiries.drop 3 ++ []) (.ok ())
      ⟨.empty, some values⟩ := .next hdependent (.none _)
  exact .next hinsistent hrest

/-- The first validator sees the panic and asks again; nobody asks the provider after that. -/
theorem prepared_once_checks :
    PreparedOnce (fun _ => True) () inquiries (some values) :=
  (prepared_once () .absent shipment).1 _ _ _ _ _ _ consults_checks

/-- As long as the provider panics, every request calls it. -/
example : preparations
    (incoming (registry (.error (.panic (.text "busy")))) () .absent shipment).history = 3 := rfl

end Hesitant
end Validation
end CommandEngine
