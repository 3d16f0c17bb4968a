import CommandEngine.Json

/-! # Commands, events and results

Everything that flows through the engine is an *object* of a declared type.  The engine looks at
the type alone; the number and the tag belong to the application.  When an event is emitted it is
*stamped* with the command that was executing and with the identity of the party that ran it.
Types that do not keep the stamp ignore it, and a later stamp replaces an earlier one.

A type is known by its identity.  Its name only appears in texts, and two keys with one identity
are the same type whatever their names.

What a command returns is *void* or a value together with its type, so that a reader can ask for
the type it expects.
-/
namespace CommandEngine

/-- Identity and name of a type. -/
structure TypeKey where
  id : String
  name : String
  deriving DecidableEq, Repr, Inhabited

namespace TypeKey

/-- The type without values of interest: a handler with this result returns nothing. -/
def unit : TypeKey := ⟨"unit", "()"⟩

/-- The last part of a name made of parts separated by `::`. -/
def shortName (t : TypeKey) : String := ((t.name.splitOn "::").getLast?).getD t.name

end TypeKey

/-- What an object is made of, apart from its stamp. -/
structure Body where
  type : TypeKey
  /-- The type keeps the stamp it is given. -/
  keepsStamp : Bool
  number : Int
  tag : String
  deriving DecidableEq, Repr, Inhabited

/-- A command or an event. -/
inductive Object where
  | fresh (body : Body)
  | stamped (body : Body) (source : Object) (party : String)
  deriving DecidableEq, Repr, Inhabited

namespace Object

/-- The object without its stamp. -/
def body : Object → Body
  | fresh b => b
  | stamped b _ _ => b

/-- The type of the object. -/
def type (o : Object) : TypeKey := o.body.type

/-- The command that was executing when the object was last stamped. -/
def source? : Object → Option Object
  | fresh _ => none
  | stamped _ source _ => some source

/-- The party that ran the command of the last stamp. -/
def party? : Object → Option String
  | fresh _ => none
  | stamped _ _ party => some party

/-- Stamps the object, if its type keeps stamps. -/
def stamp (o : Object) (source : Object) (party : String) : Object :=
  if o.body.keepsStamp then stamped o.body source party else o

/-- Short type name, number and tag, then the stamp. -/
def describe : Object → String
  | fresh b => b.type.shortName ++ "(" ++ toString b.number ++ "," ++ b.tag ++ ")"
  | stamped b source party =>
    b.type.shortName ++ "(" ++ toString b.number ++ "," ++ b.tag ++ ")<" ++
      source.describe ++ "@" ++ party

@[simp] theorem body_stamp (o source : Object) (party : String) :
    (o.stamp source party).body = o.body := by
  unfold stamp; split <;> rfl

@[simp] theorem type_stamp (o source : Object) (party : String) :
    (o.stamp source party).type = o.type := by simp [type]

end Object

/-- A value and the type it is read back at. -/
structure Value where
  type : TypeKey
  data : Json
  deriving DecidableEq, Inhabited

/-- What a command returns. -/
structure CommandResult where
  value : Option Value
  deriving DecidableEq, Inhabited

namespace CommandResult

/-- No value. -/
def void : CommandResult := ⟨none⟩

/-- A value of a type. -/
def of (type : TypeKey) (data : Json) : CommandResult := ⟨some ⟨type, data⟩⟩

/-- A handler's output: nothing for the type without values of interest. -/
def ofOutput (type : TypeKey) (data : Json) : CommandResult :=
  if type.id = TypeKey.unit.id then void else of type data

/-- There is no value. -/
def isVoid (r : CommandResult) : Bool := r.value.isNone

/-- The value, asked for at a type: only a value of this very type is given. -/
def at? (r : CommandResult) (type : TypeKey) : Option Json :=
  (r.value.filter (·.type.id == type.id)).map (·.data)

/-- A description that does not show the value. -/
def describe (r : CommandResult) : String :=
  if r.isVoid then "CommandResult(void)" else "CommandResult(..)"

end CommandResult
end CommandEngine
