import CommandEngine.Codec
import Mathlib.Algebra.GroupWithZero.Nat
import Mathlib.Data.List.Find
import Mathlib.Data.List.Forall2
import Mathlib.Data.List.Nodup

/-!
# What is stored is read back

Every value that has a stored form is the value that is read from the form.  Three things could
stand against it.

* A token is written by its digits, in groups, and there are four ways to read a text.  The digits
  stand for the number (`ofDigits?_digitsOf`), the dashes are taken out where they were put in
  (`ungroup_group`), and the one way of reading that is tried first takes no text with dashes.
* Ambient values are read entry by entry into a map.  Their entries are written in the order of the
  keys, so each one comes behind all that are there (`setEntry_append`).
* A record leaves out the fields that have no value, and whoever carries it may hand its fields over
  in another order.  A field is found by its name, and no two fields of a record share one, so the
  order does not matter (`Reorders.record?`), and a field that was left out is found by nobody.

A payload may be anything, null included: a payload that is null is written as such, and it is also
what an absent payload is read as.
-/
namespace CommandEngine

/-! ## Tokens -/

namespace Token

theorem hexValue?_digitChar {d : Nat} (hd : d < 16) : hexValue? (Nat.digitChar d) = some d := by
  have hall : ∀ d < 16, hexValue? (Nat.digitChar d) = some d := by decide
  exact hall d hd

theorem length_digitsOf (n count : Nat) : (digitsOf n count).length = count := by
  induction count generalizing n with
  | zero => rfl
  | succ count ih => rw [digitsOf, List.length_append, ih, List.length_singleton]

theorem ofDigits?_append (cs : List Char) (c : Char) : ofDigits? (cs ++ [c]) =
    (ofDigits? cs).bind fun n => (hexValue? c).map (16 * n + ·) := by
  rw [ofDigits?, List.foldlM_append]
  refine congrArg (Option.bind _) (funext fun n => ?_)
  rw [List.foldlM_cons]
  exact bind_pure _

/-- Digits stand for the number that they write, if there are enough of them. -/
theorem ofDigits?_digitsOf {n count : Nat} (hn : n < 16 ^ count) :
    ofDigits? (digitsOf n count) = some n := by
  induction count generalizing n with
  | zero =>
    obtain rfl : n = 0 := by omega
    rfl
  | succ count ih =>
    have hhigh : n / 16 < 16 ^ count := by
      rw [Nat.pow_succ] at hn
      omega
    have hlow : n % 16 < 16 := Nat.mod_lt _ (by omega)
    rw [digitsOf, ofDigits?_append, ih hhigh, Option.bind_some, hexValue?_digitChar hlow,
      Option.map_some, Nat.div_add_mod]

/-- There is a dash less than there are groups. -/
theorem length_group (size : Nat) (sizes : List Nat) (cs : List Char) :
    (group (size :: sizes) cs).length = cs.length + sizes.length := by
  induction sizes generalizing size cs with
  | nil => rfl
  | cons next sizes ih =>
    rw [group, List.length_append, List.length_cons, ih, List.length_take, List.length_drop,
      List.length_cons]
    omega

/-- The dashes are taken out where they were put in. -/
theorem ungroup_group (size : Nat) (sizes : List Nat) {cs : List Char}
    (hcs : cs.length = (size :: sizes).sum) :
    ungroup (size :: sizes) (group (size :: sizes) cs) = some cs := by
  induction sizes generalizing size cs with
  | nil => exact if_pos (hcs.trans (List.sum_singleton ..))
  | cons next sizes ih =>
    have htake : (cs.take size).length = size := by
      rw [List.length_take, hcs, List.sum_cons]
      omega
    have hdrop : (cs.drop size).length = (next :: sizes).sum := by
      rw [List.length_drop, hcs, List.sum_cons]
      omega
    rw [group, ungroup, List.drop_left' htake, List.take_left' htake]
    show (ungroup (next :: sizes) (group (next :: sizes) (cs.drop size))).map _ = _
    rw [ih next hdrop, Option.map_some, List.take_append_drop]

theorem length_digits (t : Token) : (digitsOf t.bits.toNat 32).length = 32 := length_digitsOf _ _

theorem ofSimple?_digits (t : Token) : ofSimple? (digitsOf t.bits.toNat 32) = some t := by
  have hbits : t.bits.toNat < 16 ^ 32 := t.bits.isLt
  rw [ofSimple?, if_pos (length_digits t), ofDigits?_digitsOf hbits, Option.map_some,
    BitVec.ofNat_toNat, BitVec.setWidth_eq]

/-- A token is read from the text it is written as. -/
theorem ofText?_uuid (t : Token) : ofText? t.uuid = some t := by
  have hgrouped : ofGrouped? (group groups (digitsOf t.bits.toNat 32)) = some t := by
    rw [ofGrouped?, groups, ungroup_group _ _ (length_digits t), Option.bind_some, ofSimple?_digits]
  -- the text has four dashes, so it is too long for plain digits
  have hsimple : ofSimple? (group groups (digitsOf t.bits.toNat 32)) = none := by
    refine if_neg ?_
    rw [groups, length_group, length_digits]
    decide
  rw [ofText?, uuid, String.toList_ofList, hsimple, hgrouped]
  rfl

end Token

/-! ## Ambient values -/

/-- An entry whose key is behind all others is put behind them. -/
theorem setEntry_append {key : String} {value : Json} {entries : List (String × Json)}
    (hbehind : ∀ e ∈ entries, e.1 < key) :
    setEntry key value entries = entries ++ [(key, value)] := by
  induction entries with
  | nil => rfl
  | cons e rest ih =>
    obtain ⟨hkey, hrest⟩ := List.forall_mem_cons.mp hbehind
    have hnot : ¬ key < e.1 := String.lt_asymm hkey
    have hne : key ≠ e.1 := fun heq => String.lt_irrefl _ (heq ▸ hkey)
    rw [setEntry, if_neg hnot, if_neg hne, ih hrest, List.cons_append]

namespace AmbientValues

theorem entries_foldl_set (a : AmbientValues) {entries : List (String × Json)}
    (hincreasing : KeysIncrease (a.entries ++ entries)) :
    (entries.foldl (fun a (key, value) => a.set key value) a).entries = a.entries ++ entries := by
  induction entries generalizing a with
  | nil => exact (List.append_nil _).symm
  | cons e rest ih =>
    have hbehind : ∀ e' ∈ a.entries, e'.1 < e.1 := fun e' he' =>
      (List.pairwise_append.mp hincreasing).2.2 e' he' e (List.mem_cons_self ..)
    have hset : (a.set e.1 e.2).entries = a.entries ++ [e] := setEntry_append hbehind
    rw [List.foldl_cons, ih, hset, List.append_assoc, List.singleton_append]
    rwa [hset, List.append_assoc, List.singleton_append]

/-- The values are those of their own entries. -/
theorem ofList_entries (a : AmbientValues) : ofList a.entries = a :=
  AmbientValues.ext (entries_foldl_set empty a.increasing)

end AmbientValues

/-! ## Records -/

namespace Stored

/-- An object with the same fields in some order. -/
inductive Reorders : Json → Json → Prop
  | obj {entries entries' : List (String × Json)} (hperm : entries.Perm entries') :
    Reorders (.obj entries) (.obj entries')

theorem Reorders.refl (entries : List (String × Option Json)) :
    Reorders (Json.fields entries) (Json.fields entries) := .obj (.refl _)

/-- The names in an object are those of the fields that have a value. -/
theorem names_sublist (entries : List (String × Option Json)) :
    ((entries.filterMap fun (name, value) => value.map (name, ·)).map (·.1)).Sublist
      (entries.map (·.1)) := by
  induction entries with
  | nil => exact .slnil
  | cons entry rest ih =>
    obtain ⟨name, _ | value⟩ := entry
    · exact ih.cons name
    · exact ih.cons_cons name

/-- Where no two fields share a name, those of a record are found whatever their order is. -/
theorem Reorders.record? {entries : List (String × Option Json)} {j : Json}
    (horder : Reorders (Json.fields entries) j) (hdistinct : (entries.map (·.1)).Nodup)
    (names : List String) (least : Nat) :
    record? names least j = record? names least (Json.fields entries) := by
  have hnames := hdistinct.sublist (names_sublist entries)
  cases horder with
  | obj hperm =>
    refine congrArg some (funext fun name => congrArg (Option.map _) ?_)
    refine (List.find?_eq_find?_of_perm hperm ?_).symm
    rintro e ⟨he, hname⟩ e' ⟨he', hname'⟩
    exact List.inj_on_of_nodup_map hnames he he'
      ((beq_iff_eq.mp hname).trans (beq_iff_eq.mp hname').symm)

end Stored

open Stored

/-! ## Forms that a value is read from -/

/-! ### Messages -/

/-- The object has the fields of a message, in some order. -/
def UserMessage.Written (m : UserMessage) (j : Json) : Prop := Reorders (encode m) j

theorem UserMessage.written_encode (m : UserMessage) : m.Written (encode m) := .refl _

theorem UserMessage.decode_written {m : UserMessage} {j : Json} (hwritten : m.Written j) :
    decode? j = some m := by
  have hrecord := hwritten.record? (by simp) ["level", "text", "code"] 2
  have hread : decode? j = (decode? (encode m) : Option UserMessage) := by
    show (record? _ _ j >>= _) = (record? _ _ (encode m) >>= _)
    rw [hrecord]
    rfl
  rw [hread]
  obtain ⟨level, text, code⟩ := m
  cases level <;> cases code <;> rfl

/-- The items of a list are written forms of the messages. -/
abbrev MessagesWritten (messages : List UserMessage) (items : List Json) : Prop :=
  List.Forall₂ UserMessage.Written messages items

theorem messagesWritten_encode (messages : List UserMessage) :
    MessagesWritten messages (messages.map encode) := by
  rw [MessagesWritten, List.forall₂_map_right_iff, List.forall₂_same]
  exact fun m _ => m.written_encode

theorem MessagesWritten.decode {messages : List UserMessage} {items : List Json}
    (hitems : MessagesWritten messages items) : required? (some (.arr items)) = some messages := by
  show items.mapM decode? = some messages
  induction hitems with
  | nil => rfl
  | cons hitem _ ih =>
    rw [List.mapM_cons, UserMessage.decode_written hitem, ih]
    rfl

/-! ### Validation results -/

/-- The object has the fields of a result, in some order, and so have its messages. -/
inductive ValidationResult.Written (r : ValidationResult) : Json → Prop
  | intro {items : List Json} {j : Json} (hitems : MessagesWritten r.messages items)
    (horder : Reorders (Json.fields [("messages", some (.arr items)),
      ("success", some (.bool r.success)), ("log_key", skipped r.logKey)]) j) : Written r j

theorem ValidationResult.written_encode (r : ValidationResult) : r.Written (encode r) :=
  .intro (messagesWritten_encode r.messages) (.refl _)

theorem ValidationResult.decode_written {r : ValidationResult} {j : Json} (hwritten : r.Written j) :
    decode? j = some r := by
  cases hwritten with
  | @intro items j hitems horder =>
    have hrecord := horder.record? (by simp) ["messages", "success", "log_key"] 2
    show (record? _ _ j >>= _) = _
    rw [hrecord]
    obtain ⟨messages, success, logKey⟩ := r
    cases logKey with
    | none | some =>
      show (required? (some (.arr items)) >>= _) = _
      rw [hitems.decode]
      rfl

/-! ### Sanitized errors -/

/-- The object has the fields of an error, in some order, and so have its messages.  An error without
a key says so. -/
inductive SanitizedError.Written (e : SanitizedError) : Json → Prop
  | intro {items : List Json} {j : Json} (hitems : MessagesWritten e.messages items)
    (horder : Reorders (Json.fields [("is_validation_error", some (.bool e.isValidationError)),
      ("messages", some (.arr items)), ("log_key", some (Json.optStr e.logKey))]) j) : Written e j

theorem SanitizedError.written_encode (e : SanitizedError) : e.Written (encode e) :=
  .intro (messagesWritten_encode e.messages) (.refl [("is_validation_error", some _),
    ("messages", some _), ("log_key", some _)])

theorem SanitizedError.decode_written {e : SanitizedError} {j : Json} (hwritten : e.Written j) :
    decode? j = some e := by
  cases hwritten with
  | @intro items j hitems horder =>
    have hrecord := horder.record? (by simp) ["is_validation_error", "messages", "log_key"] 3
    show (record? _ _ j >>= _) = _
    rw [hrecord]
    obtain ⟨isValidationError, messages, logKey⟩ := e
    cases logKey with
    | none | some =>
      show (required? (some (.arr items)) >>= _) = _
      rw [hitems.decode]
      rfl

/-! ### Scope data -/

/-- A record of one field, whose entries are in the order of their keys. -/
theorem AmbientValues.decode_encode (a : AmbientValues) : decode? (encode a) = some a :=
  congrArg some a.ofList_entries

/-- The object has the fields of scope data, in some order. -/
def ScopeData.Written (d : ScopeData) (j : Json) : Prop := Reorders (encode d) j

theorem ScopeData.written_encode (d : ScopeData) : d.Written (encode d) := .refl _

theorem ScopeData.decode_written {d : ScopeData} {j : Json} (hwritten : d.Written j) :
    decode? j = some d := by
  have hrecord := hwritten.record? (by simp) ["payload", "ambient_values"] 0
  have hread : decode? j = (decode? (encode d) : Option ScopeData) := by
    show (record? _ _ j >>= _) = (record? _ _ (encode d) >>= _)
    rw [hrecord]
    rfl
  rw [hread]
  obtain ⟨payload, ambient⟩ := d
  cases ambient with
  | none => rfl
  | some a =>
    have hstored : ∀ j, optional? (some j) = some (some a) → decode? (Json.fields
        [("payload", some payload), ("ambient_values", some j)]) = some (ScopeData.mk payload a) := by
      intro j hj
      show ((optional? (some j) : Option (Option AmbientValues)) >>= _) = _
      rw [hj]
      rfl
    refine hstored (encode a) ?_
    show (decode? (encode a) : Option AmbientValues).map some = some (some a)
    rw [a.decode_encode]
    rfl

/-! ## The trip -/

/-- **What is stored is read back**: tokens, kinds, ambient values, messages, validation results,
scope data and sanitized errors, all of them, are what is read from the form they are written in.
The records among them are also read from any object with the same fields in another order. -/
theorem stored_read_back :
    (∀ t : Token, decode? (encode t) = some t) ∧ (∀ k : Kind, decode? (encode k) = some k) ∧
    (∀ a : AmbientValues, decode? (encode a) = some a) ∧
    (∀ m : UserMessage, decode? (encode m) = some m ∧ ∀ j, m.Written j → decode? j = some m) ∧
    (∀ r : ValidationResult, decode? (encode r) = some r ∧ ∀ j, r.Written j → decode? j = some r) ∧
    (∀ d : ScopeData, decode? (encode d) = some d ∧ ∀ j, d.Written j → decode? j = some d) ∧
    ∀ e : SanitizedError, decode? (encode e) = some e ∧ ∀ j, e.Written j → decode? j = some e := by
  refine ⟨Token.ofText?_uuid, fun k => ?_, AmbientValues.decode_encode, fun m => ?_, fun r => ?_,
    fun d => ?_, fun e => ?_⟩
  · cases k <;> rfl
  · exact ⟨UserMessage.decode_written m.written_encode, fun _ => UserMessage.decode_written⟩
  · exact ⟨ValidationResult.decode_written r.written_encode,
      fun _ => ValidationResult.decode_written⟩
  · exact ⟨ScopeData.decode_written d.written_encode, fun _ => ScopeData.decode_written⟩
  · exact ⟨SanitizedError.decode_written e.written_encode, fun _ => SanitizedError.decode_written⟩

/-- Scope data with a payload that is null, and with nested ones, under keys of any letters. -/
example : decode? (encode (ScopeData.mk .null (some (.ofList [("язык", .str "la"),
    ("", .arr [.null, .obj [("é", .int 3)]])])))) =
      some (ScopeData.mk .null (some (.ofList [("язык", .str "la"),
        ("", .arr [.null, .obj [("é", .int 3)]])]))) := by decide +kernel

end CommandEngine
