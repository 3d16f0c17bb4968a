/-! # Data without floating-point numbers

Payloads, ambient values, results and trace entries are JSON data.  Numbers are integers: nothing
the engine stores is a fraction.  A reader may hand over the fields of an object in any order, so
an object that stands for data of the engine's own is always built by `Json.fields`, which leaves
out the fields that have no value.

Two values are compared by `same`, and `same_iff` says that this is equality; the instance
`DecidableEq Json` is built from it, since a nested type does not derive one.
-/
namespace CommandEngine

/-- A JSON value whose numbers are integers. -/
inductive Json where
  | null
  | bool (b : Bool)
  | int (n : Int)
  | str (s : String)
  | arr (items : List Json)
  | obj (entries : List (String × Json))
  deriving Inhabited, Repr

namespace Json

/-! ## Equality -/

mutual

/-- Structural comparison. -/
def same : Json → Json → Bool
  | .null, .null => true
  | .bool a, .bool b => a == b
  | .int a, .int b => a == b
  | .str a, .str b => a == b
  | .arr as, .arr bs => sameItems as bs
  | .obj as, .obj bs => sameEntries as bs
  | _, _ => false

/-- Item by item. -/
def sameItems : List Json → List Json → Bool
  | [], [] => true
  | a :: as, b :: bs => same a b && sameItems as bs
  | _, _ => false

/-- Entry by entry, keys and values. -/
def sameEntries : List (String × Json) → List (String × Json) → Bool
  | [], [] => true
  | (k, a) :: as, (l, b) :: bs => k == l && same a b && sameEntries as bs
  | _, _ => false

end

mutual

theorem same_iff : ∀ a b : Json, same a b = true ↔ a = b
  | .null, b => by cases b <;> simp [same]
  | .bool a, b => by cases b <;> simp [same]
  | .int a, b => by cases b <;> simp [same]
  | .str a, b => by cases b <;> simp [same]
  | .arr as, b => by cases b <;> simp [same, sameItems_iff as]
  | .obj as, b => by cases b <;> simp [same, sameEntries_iff as]

theorem sameItems_iff : ∀ as bs : List Json, sameItems as bs = true ↔ as = bs
  | [], bs => by cases bs <;> simp [sameItems]
  | a :: as, bs => by cases bs <;> simp [sameItems, same_iff a, sameItems_iff as]

theorem sameEntries_iff : ∀ as bs : List (String × Json), sameEntries as bs = true ↔ as = bs
  | [], bs => by cases bs <;> simp [sameEntries]
  | (k, a) :: as, [] => by simp [sameEntries]
  | (k, a) :: as, (l, b) :: bs => by
      simp [sameEntries, same_iff a b, sameEntries_iff as bs, Prod.ext_iff]

end

instance : DecidableEq Json := fun a b => decidable_of_iff _ (same_iff a b)

/-! ## Reading -/

/-- The value of a field; `none` for an absent one and for anything but an object. -/
def field? (j : Json) (name : String) : Option Json :=
  match j with
  | .obj entries => (entries.find? (·.1 == name)).map (·.2)
  | _ => none

/-- The value of a field, `null` where there is none. -/
def field (j : Json) (name : String) : Json := (j.field? name).getD .null

/-- The text a value is. -/
def str? : Json → Option String
  | .str s => some s
  | _ => none

/-- The number a value is. -/
def int? : Json → Option Int
  | .int n => some n
  | _ => none

/-- The truth value a value is. -/
def bool? : Json → Option Bool
  | .bool b => some b
  | _ => none

/-- The items of a list. -/
def items? : Json → Option (List Json)
  | .arr items => some items
  | _ => none

/-! ## Writing -/

/-- An object of the fields that have a value. -/
def fields (entries : List (String × Option Json)) : Json :=
  .obj (entries.filterMap fun (name, value) => value.map (name, ·))

/-- A list of texts. -/
def strs (texts : List String) : Json := .arr (texts.map .str)

/-- A text, or `null` for none. -/
def optStr (text : Option String) : Json := (text.map .str).getD .null

instance : Coe String Json := ⟨.str⟩
instance : Coe Bool Json := ⟨.bool⟩
instance : Coe Int Json := ⟨.int⟩
instance : Coe Nat Json := ⟨fun n => .int n⟩

end Json
end CommandEngine
