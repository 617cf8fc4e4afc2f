import MetaLint.Json.Printer

/-!
# Schemas for JSON values

A schema says of which type a value is and what its parts have to be. Checking stops at the first
violation: the type of the whole comes first, then its size or what must be there, and then the
parts in order.
-/

set_option autoImplicit false

namespace MetaLint.Json

mutual

inductive Schema
  | text
  | bool
  | object
  | count (least : Nat)
  | list (items : Schema)
  | record (required : List String) (fields : List (String × Schema)) (others : OtherMembers)

inductive OtherMembers
  | forbidden
  | any
  | each (s : Schema)

end

inductive Step
  | key (name : String)
  | index (n : Nat)
  deriving Repr, DecidableEq

inductive Breach
  | wrongType (value : Value) (expected : String)
  | belowMinimum (value : Number) (least : Nat)
  | missing (name : String)
  | unexpected (name : String)
  deriving Repr

structure Violation where
  path : List Step
  breach : Breach
  deriving Repr

def Breach.message : Breach → String
  | .wrongType value expected => compact value ++ " is not of type \"" ++ expected ++ "\""
  | .belowMinimum value least =>
    numberText value ++ " is less than the minimum of " ++ toString least
  | .missing name => quoted name ++ " is a required property"
  | .unexpected name =>
    "Additional properties are not allowed ('" ++ name ++ "' was unexpected)"

def Step.text : Step → String
  | .key name => "/" ++ (name.replace "~" "~0").replace "/" "~1"
  | .index n => "/" ++ toString n

def Violation.message (v : Violation) : String :=
  v.breach.message ++ " at " ++ String.join (v.path.map Step.text)

abbrev Checked := Except Violation Unit

def breach (b : Breach) : Checked := .error ⟨[], b⟩

/-- A check of a part, with the step that leads to it in front of the path. -/
def Checked.under (step : Step) : Checked → Checked
  | .error v => .error { v with path := step :: v.path }
  | .ok () => .ok ()

def Number.isBelow (least : Nat) : Number → Bool
  | .int i => i < least
  | .fraction bits => Float.ofBits bits < least.toFloat

def Number.isWhole : Number → Bool
  | .int _ => true
  | .fraction bits => (Decimal.Binary.ofBits? bits).any Decimal.Binary.isWhole

def missingKey? (members : Members) (required : List String) : Option String :=
  required.find? fun name => (members.lookup name).isNone

mutual

def Schema.check : Schema → Value → Checked
  | .text, .text _ => .ok ()
  | .text, v => breach (.wrongType v "string")
  | .bool, .bool _ => .ok ()
  | .bool, v => breach (.wrongType v "boolean")
  | .object, .object _ => .ok ()
  | .object, v => breach (.wrongType v "object")
  | .count least, .number n =>
    if !n.isWhole then breach (.wrongType (.number n) "integer")
    else if n.isBelow least then breach (.belowMinimum n least)
    else .ok ()
  | .count _, v => breach (.wrongType v "integer")
  | .list items, .list vs => Schema.checkItems items 0 vs
  | .list _, v => breach (.wrongType v "array")
  | .record required fields others, .object members =>
    match missingKey? members required with
    | some name => breach (.missing name)
    | none => Schema.checkMembers fields others members
  | .record .., v => breach (.wrongType v "object")
termination_by _ v => (sizeOf v, 0)

def Schema.checkItems (s : Schema) (n : Nat) : List Value → Checked
  | [] => .ok ()
  | v :: rest =>
    match Checked.under (.index n) (s.check v) with
    | .error e => .error e
    | .ok () => Schema.checkItems s (n + 1) rest
termination_by vs => (sizeOf vs, 0)

def Schema.checkMembers (fields : List (String × Schema)) (others : OtherMembers) :
    List (String × Value) → Checked
  | [] => .ok ()
  | (key, v) :: rest =>
    match Schema.checkMember fields others key v with
    | .error e => .error e
    | .ok () => Schema.checkMembers fields others rest
termination_by members => (sizeOf members, 0)

def Schema.checkMember (fields : List (String × Schema)) (others : OtherMembers) (key : String)
    (v : Value) : Checked :=
  match fields.lookup key, others with
  | some s, _ => Checked.under (.key key) (s.check v)
  | none, .forbidden => breach (.unexpected key)
  | none, .any => .ok ()
  | none, .each s => Checked.under (.key key) (s.check v)
termination_by (sizeOf v, 1)

end

end MetaLint.Json
