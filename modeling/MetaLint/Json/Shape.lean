import MetaLint.Json.Flaw
import MetaLint.Json.Printer
import MetaLint.Text.Basic

/-!
# Taking JSON values apart

A reader of a value asks for a shape and says what it found instead. A record is read from an
object, whose members are taken in key order, or from a list of its fields in their order.
-/

set_option autoImplicit false

namespace MetaLint.Json

inductive ShapeError
  | invalidType (found expected : String)
  | invalidValue (found expected : String)
  | invalidLength (length : Nat) (expected : String)
  | missingField (name : String)
  | duplicateField (name : String)
  | unknownVariant (name : String) (known : List String)
  | embedded (e : ParseError)
  deriving Repr, DecidableEq

def ticked (s : String) : String := "`" ++ s ++ "`"

/-- The choices of a variant; two are joined by a word of their own. -/
def choices : List String → String
  | [] => "there are no variants"
  | [a] => "expected " ++ ticked a
  | [a, b] => "expected " ++ ticked a ++ " or " ++ ticked b
  | known => "expected one of " ++ ", ".intercalate (known.map ticked)

def ShapeError.message : ShapeError → String
  | .invalidType found expected => "invalid type: " ++ found ++ ", expected " ++ expected
  | .invalidValue found expected => "invalid value: " ++ found ++ ", expected " ++ expected
  | .invalidLength n expected => "invalid length " ++ toString n ++ ", expected " ++ expected
  | .missingField name => "missing field " ++ ticked name
  | .duplicateField name => "duplicate field " ++ ticked name
  | .unknownVariant name known => "unknown variant " ++ ticked name ++ ", " ++ choices known
  | .embedded e => e.message

def Number.found : Number → String
  | .int i => "integer " ++ ticked (intText i)
  | .fraction bits => "floating point " ++ ticked (fractionText bits)

namespace Value

def found : Value → String
  | .null => "null"
  | .bool b => "boolean " ++ ticked (if b then "true" else "false")
  | .number n => n.found
  | .text s => "string " ++ Text.quote s
  | .list _ => "sequence"
  | .object _ => "map"

end Value

abbrev Shaped (α : Type) := Except ShapeError α

def wrongType {α : Type} (v : Value) (expected : String) : Shaped α :=
  .error (.invalidType v.found expected)

def asBool : Value → Shaped Bool
  | .bool b => .ok b
  | v => wrongType v "a boolean"

def asText : Value → Shaped String
  | .text s => .ok s
  | v => wrongType v "a string"

def asPathText : Value → Shaped String
  | .text s => .ok s
  | v => wrongType v "path string"

def natOfNumber (bound : Nat) (expected : String) (n : Number) : Shaped Nat :=
  match n with
  | .int i =>
    if 0 ≤ i && i.toNat ≤ bound then .ok i.toNat else .error (.invalidValue n.found expected)
  | .fraction _ => .error (.invalidType n.found expected)

def asNat (bound : Nat) (expected : String) : Value → Shaped Nat
  | .number n => natOfNumber bound expected n
  | v => wrongType v expected

def asUInt32 (v : Value) : Shaped UInt32 := (asNat (UInt32.size - 1) "u32" v).map UInt32.ofNat

def asSize (v : Value) : Shaped Nat := asNat (UInt64.size - 1) "usize" v

def optional {α : Type} (read : Value → Shaped α) : Value → Shaped (Option α)
  | .null => .ok none
  | v => (read v).map some

def asList {α : Type} (read : Value → Shaped α) : Value → Shaped (List α)
  | .list items => items.mapM read
  | v => wrongType v "a sequence"

def asTexts : Value → Shaped (List String) := asList asText

def foldMembers {σ : Type} (step : σ → String → Value → Shaped σ) : σ → Members → Shaped σ
  | s, [] => .ok s
  | s, (k, v) :: rest =>
    match step s k v with
    | .ok s => foldMembers step s rest
    | .error e => .error e

def required {α : Type} (name : String) : Option α → Shaped α
  | some a => .ok a
  | none => .error (.missingField name)

/-- Takes the fields of a record from a list, in their order; what is left over is an error. A field
that has a default may be missing at the end. -/
def foldItems {σ : Type} (total : Nat) : σ → List (σ → Value → Shaped σ) → List Value → Shaped σ
  | s, _, [] => .ok s
  | _, [], _ :: _ => .error (.invalidLength total "fewer elements in array")
  | s, field :: fields, v :: rest =>
    match field s v with
    | .ok s => foldItems total s fields rest
    | .error e => .error e

end MetaLint.Json
