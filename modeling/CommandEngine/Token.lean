/-! # Issuer tokens

Every call chain and every job carries a token, 128 bits that link the caller's report with the
log records made on the way.  The token never decides anything.  All bits zero means that there is
no token, and such a token is shown as `NONE`.

A token is written as 32 hexadecimal digits in groups of 8, 4, 4, 4 and 12.  Reading is more
liberal than writing: digits of either case, without the dashes, between braces or after
`urn:uuid:` in letters of either case.
-/
namespace CommandEngine

/-- A correlation token. -/
structure Token where
  bits : BitVec 128
  deriving DecidableEq, Inhabited

namespace Token

/-- The token of a call that has none. -/
def absent : Token := ⟨0⟩

/-- There is no token. -/
def isAbsent (t : Token) : Bool := t.bits == 0

/-- Tokens are ordered as numbers, which is the order of their digits. -/
protected def compare (a b : Token) : Ordering := Ord.compare a.bits.toNat b.bits.toNat

/-! ## Fresh tokens -/

/-- The random token drawn from a source of bits: four bits say that it is random (version 4) and
two that the layout is the usual one. -/
def random (source : BitVec 128) : Token :=
  let version : BitVec 128 := 0xf <<< 76
  let layout : BitVec 128 := 0x3 <<< 62
  ⟨(source &&& ~~~version &&& ~~~layout) ||| (0x4 <<< 76) ||| (0x2 <<< 62)⟩

/-- The version digit. -/
def version (t : Token) : Nat := (t.bits >>> 76).toNat % 16

/-! ## Digits -/

/-- The value of a hexadecimal digit of either case. -/
def hexValue? (c : Char) : Option Nat :=
  if '0' ≤ c ∧ c ≤ '9' then some (c.toNat - '0'.toNat)
  else if 'a' ≤ c ∧ c ≤ 'f' then some (c.toNat - 'a'.toNat + 10)
  else if 'A' ≤ c ∧ c ≤ 'F' then some (c.toNat - 'A'.toNat + 10)
  else none

/-- The number written by `count` digits, the highest first. -/
def digitsOf (n : Nat) : (count : Nat) → List Char
  | 0 => []
  | count + 1 => digitsOf (n / 16) count ++ [Nat.digitChar (n % 16)]

/-- The number that digits stand for; `none` when one of them is no digit. -/
def ofDigits? (cs : List Char) : Option Nat :=
  cs.foldlM (fun n c => (hexValue? c).map (16 * n + ·)) 0

/-- Puts a dash after each group but the last. -/
def group : List Nat → List Char → List Char
  | n :: m :: sizes, cs => cs.take n ++ '-' :: group (m :: sizes) (cs.drop n)
  | _, cs => cs

/-- Takes the dashes out again; `none` when they are not where `group` puts them. -/
def ungroup : List Nat → List Char → Option (List Char)
  | n :: m :: sizes, cs =>
    match cs.drop n with
    | '-' :: rest => (ungroup (m :: sizes) rest).map (cs.take n ++ ·)
    | _ => none
  | [n], cs => if cs.length = n then some cs else none
  | [], cs => if cs.isEmpty then some [] else none

/-- The sizes of the five groups. -/
def groups : List Nat := [8, 4, 4, 4, 12]

/-- The written form, also of the absent token. -/
def uuid (t : Token) : String := String.ofList (group groups (digitsOf t.bits.toNat 32))

/-- The text shown to people. -/
def text (t : Token) : String := if t.isAbsent then "NONE" else t.uuid

/-- The description of a token among other fields. -/
def describe (t : Token) : String := "CorrelationId(" ++ t.uuid ++ ")"

/-! ## Reading -/

/-- Exactly 32 digits. -/
def ofSimple? (cs : List Char) : Option Token :=
  if cs.length = 32 then (ofDigits? cs).map fun n => ⟨BitVec.ofNat 128 n⟩ else none

/-- The grouped form. -/
def ofGrouped? (cs : List Char) : Option Token := (ungroup groups cs).bind ofSimple?

/-- What stands between braces. -/
def unbrace? (cs : List Char) : Option (List Char) :=
  match cs with
  | '\x7b' :: rest => if rest.getLast? = some '\x7d' then some rest.dropLast else none
  | _ => none

/-- What follows the name of the scheme, whose letters may be of either case. -/
def unscheme? (cs : List Char) : Option (List Char) :=
  let scheme := "urn:uuid:".toList
  if (cs.take scheme.length).map Char.toLower = scheme then some (cs.drop scheme.length) else none

/-- Any of the four written forms. -/
def ofText? (s : String) : Option Token :=
  let cs := s.toList
  ofSimple? cs <|> ofGrouped? cs <|> (unbrace? cs).bind ofGrouped? <|>
    (unscheme? cs).bind ofGrouped?

end Token
end CommandEngine
