import MetaLint.Decimal.Shortest
import MetaLint.Keyed

/-!
# JSON values

Integers keep 64 bits, signed or unsigned; every other number is a binary fraction. An object lists
its members by ascending key, each key once. Objects merge key by key; any other value replaces what
was there.
-/

set_option autoImplicit false

namespace MetaLint.Json

/-- An integer from -2^63 to 2^64 - 1, or the 64 bits of a fraction. -/
inductive Number
  | int (value : Int)
  | fraction (bits : UInt64)
  deriving Repr, DecidableEq, Inhabited

inductive Value
  | null
  | bool (value : Bool)
  | number (value : Number)
  | text (value : String)
  | list (items : List Value)
  | object (members : List (String × Value))
  deriving Repr, BEq, Inhabited

abbrev Members := List (String × Value)

namespace Value

/-- An object of these members; a later one replaces an earlier one of the same key. -/
def ofMembers (members : Members) : Value :=
  .object (Keyed.ofList members)

def emptyObject : Value := .object []

def ofNat (n : Nat) : Value := .number (.int n)

def ofTexts (texts : List String) : Value := .list (texts.map .text)

def member? (key : String) : Value → Option Value
  | .object members => members.lookup key
  | _ => none

def asText? : Value → Option String
  | .text s => some s
  | _ => none

end Value

mutual

def Value.mergeOver (base : Value) : Value → Value
  | .object overlay =>
    match base with
    | .object members => .object (mergeMembers members overlay)
    | _ => .object overlay
  | overlay => overlay

def mergeMembers (members : Members) : List (String × Value) → Members
  | [] => members
  | (key, value) :: rest =>
    let merged :=
      match members.lookup key with
      | some old => Value.mergeOver old value
      | none => value
    mergeMembers (Keyed.set key merged members) rest

end

end MetaLint.Json
