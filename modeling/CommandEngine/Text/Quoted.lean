import CommandEngine.Text.Invisible

/-! # Quoted text

The descriptions of contexts and registries show names between double quotes.  Inside the quotes a
quote and a backslash are preceded by a backslash, four control characters have a letter of their
own, and every other invisible character is written by its number in hexadecimal digits.  All else
stands for itself, so a name in any script stays readable.
-/
namespace CommandEngine.Text

/-- Hexadecimal digits of a number, lower case, at least one. -/
def hexDigits (n : Nat) : List Char := Nat.toDigits 16 n

/-- How one character is written inside quotes. -/
def escape (c : Char) : List Char :=
  match c with
  | '\x00' => ['\\', '0']
  | '\t' => ['\\', 't']
  | '\n' => ['\\', 'n']
  | '\r' => ['\\', 'r']
  | '"' => ['\\', '"']
  | '\\' => ['\\', '\\']
  | c => if isInvisible c then ['\\', 'u', '\x7b'] ++ hexDigits c.toNat ++ ['\x7d'] else [c]

/-- A text between quotes. -/
def quoted (s : String) : String :=
  String.ofList ('"' :: s.toList.flatMap escape ++ ['"'])

/-- A yes or no. -/
def yesNo (b : Bool) : String := if b then "true" else "false"

/-- An optional value, shown by `render` when there is one. -/
def optional {α : Type} (render : α → String) : Option α → String
  | none => "None"
  | some a => "Some(" ++ render a ++ ")"

/-- Values between square brackets. -/
def bracketed (items : List String) : String := "[" ++ ", ".intercalate items ++ "]"

/-- Indents every line of a text but the first by `n` blanks. -/
def hang (n : Nat) (s : String) : String :=
  ("\n" ++ String.ofList (List.replicate n ' ')).intercalate (s.splitOn "\n")

example : quoted "q\"é\n" = "\"q\\\"é\\n\"" := by decide +kernel

end CommandEngine.Text
