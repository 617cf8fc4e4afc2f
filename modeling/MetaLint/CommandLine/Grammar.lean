import MetaLint.Text.Basic

/-!
# Reading command lines

A grammar lists the options of a command, its one positional argument if it has any, and its
commands. An argument is an option, the value of the option before it, a command or the positional
argument; after two dashes only the last remains. The value of an option is looked at when the next
option or positional argument comes, or the line ends.
-/

set_option autoImplicit false

namespace MetaLint.CommandLine

structure HelpPage where
  about : String
  usage : String
  sections : List (String × List (String × String))
  deriving Repr, DecidableEq

inductive Refusal
  | help (page : HelpPage)
  | version
  | nothing
  | missingCommand
  | unknownCommand (name : String)
  | unknownArgument (argument : String)
  | missingValue
  | unknownChoice (value : String)
  | badValue (value : String)
  | unexpectedValue (value : String)
  | repeated
  deriving Repr, DecidableEq

abbrev Take (σ : Type) := String → σ → Except Refusal σ

inductive Action (σ : Type)
  | flag (mark : σ → Except Refusal σ)
  | value (name : String) (take : Take σ)
  | help
  | version

structure OptionSpec (σ : Type) where
  long : String
  short : Option Char := none
  meaning : String
  action : Action σ

structure Positional (σ : Type) where
  name : String
  meaning : String
  take : Take σ

structure Grammar (σ : Type) where
  usage : String
  about : String
  options : List (OptionSpec σ)
  positional : Option (Positional σ) := none
  commands : List (String × String) := []

namespace OptionSpec

variable {σ : Type}

def term (o : OptionSpec σ) : String :=
  let short := o.short.elim "    " fun c => "-" ++ String.ofList [c] ++ ", "
  let value := match o.action with
    | .value name _ => " <" ++ name ++ ">"
    | _ => ""
  short ++ "--" ++ o.long ++ value

end OptionSpec

namespace Grammar

variable {σ : Type}

def page (g : Grammar σ) : HelpPage where
  about := g.about
  usage := g.usage
  sections :=
    (if g.commands.isEmpty then [] else [("Commands", g.commands)]) ++
      (g.positional.map fun p => ("Arguments", [("[" ++ p.name ++ "]", p.meaning)])).toList ++
      [("Options", g.options.map fun o => (o.term, o.meaning))]

def hasCommand (g : Grammar σ) (name : String) : Bool := g.commands.any fun c => c.1 == name

def long? (g : Grammar σ) (name : String) : Option (OptionSpec σ) :=
  g.options.find? fun o => o.long == name

def short? (g : Grammar σ) (c : Char) : Option (OptionSpec σ) :=
  g.options.find? fun o => o.short == some c

end Grammar

/-! ## Scanning -/

/-- An option or argument whose value is not looked at yet, or not even there. -/
structure Pending (σ : Type) where
  take : Take σ
  value : Option String

structure Scan (σ : Type) where
  state : σ
  pending : Option (Pending σ) := none
  placed : Bool := false

namespace Scan

variable {σ : Type}

def isExpecting (s : Scan σ) : Bool := s.pending.elim false fun p => p.value.isNone

def settle (s : Scan σ) : Except Refusal (Scan σ) :=
  match s.pending with
  | none => .ok s
  | some ⟨_, none⟩ => .error .missingValue
  | some ⟨take, some value⟩ => do return { s with state := ← take value s.state, pending := none }

def await (s : Scan σ) (take : Take σ) (value : Option String) : Except Refusal (Scan σ) := do
  return { ← s.settle with pending := some ⟨take, value⟩ }

def apply (s : Scan σ) (f : σ → Except Refusal σ) : Except Refusal (Scan σ) := do
  let s ← s.settle
  return { s with state := ← f s.state }

def fill (s : Scan σ) (value : String) : Scan σ :=
  { s with pending := s.pending.map fun p => { p with value := some value } }

def option (g : Grammar σ) (s : Scan σ) (o : OptionSpec σ) (attached : Option String) :
    Except Refusal (Scan σ) :=
  match o.action, attached with
  | .value _ take, some value => s.apply (take value)
  | .value _ take, none => s.await take none
  | _, some value => .error (.unexpectedValue value)
  | .flag mark, none => s.apply mark
  | .help, none => do
    let _ ← s.settle
    .error (.help g.page)
  | .version, none => do
    let _ ← s.settle
    .error .version

def takeLong (g : Grammar σ) (s : Scan σ) (name : String) (attached : Option String) :
    Except Refusal (Scan σ) :=
  match g.long? name with
  | some o => s.option g o attached
  | none => .error (.unknownArgument ("--" ++ name))

/-- The value attached to a short option; an equals sign before it does not belong to it. -/
def attachedValue : List Char → Option String
  | [] => none
  | '=' :: value => some (String.ofList value)
  | value => some (String.ofList value)

/-- Short options written together; the first one that takes a value takes what is left. -/
def takeShorts (g : Grammar σ) (s : Scan σ) : List Char → Except Refusal (Scan σ)
  | [] => .ok s
  | c :: rest =>
    match g.short? c with
    | none => .error (.unknownArgument (String.ofList ['-', c]))
    | some o =>
      match o.action with
      | .value .. => s.option g o (attachedValue rest)
      | _ =>
        match s.option g o none with
        | .ok s => takeShorts g s rest
        | .error e => .error e

def stray (g : Grammar σ) (afterDashes : Bool) (argument : String) : Refusal :=
  if afterDashes && g.hasCommand argument then .unknownArgument argument
  else if g.commands.isEmpty then .unknownArgument argument
  else .unknownCommand argument

def place (g : Grammar σ) (s : Scan σ) (afterDashes : Bool) (argument : String) :
    Except Refusal (Scan σ) :=
  match g.positional, s.placed with
  | some p, false => do return { ← s.await p.take (some argument) with placed := true }
  | _, _ => .error (stray g afterDashes argument)

def takeArgument (g : Grammar σ) (s : Scan σ) (argument : String) : Except Refusal (Scan σ) :=
  match argument.toList with
  | '-' :: '-' :: text =>
    match Text.splitOnce '=' text with
    | some (name, value) => s.takeLong g (String.ofList name) (some (String.ofList value))
    | none => s.takeLong g (String.ofList text) none
  | '-' :: c :: rest => s.takeShorts g (c :: rest)
  | _ => if s.isExpecting then .ok (s.fill argument) else s.place g false argument

def readPlain (g : Grammar σ) (s : Scan σ) : List String → Except Refusal (Scan σ)
  | [] => s.settle
  | a :: rest => do readPlain g (← s.place g true a) rest

def read (g : Grammar σ) (s : Scan σ) :
    List String → Except Refusal (Scan σ × Option (String × List String))
  | [] => do return (← s.settle, none)
  | a :: rest =>
    if !s.isExpecting && g.hasCommand a then do return (← s.settle, some (a, rest))
    else if a = "--" then do return (← s.readPlain g rest, none)
    else
      match s.takeArgument g a with
      | .ok s => read g s rest
      | .error e => .error e

end Scan

def Grammar.read {σ : Type} (g : Grammar σ) (state : σ) (arguments : List String) :
    Except Refusal σ := do
  return (← Scan.read g { state } arguments).1.state

/-! ## Help pages -/

def sectionText (entries : List (String × String)) : String :=
  let width := (entries.map fun e => e.1.length).foldl max 0
  String.join (entries.map fun (term, meaning) =>
    "  " ++ Text.padRight width term ++ "  " ++ meaning ++ "\n")

def HelpPage.text (p : HelpPage) : String :=
  p.about ++ "\n\nUsage: " ++ p.usage ++ "\n" ++
    String.join (p.sections.map fun (title, entries) =>
      "\n" ++ title ++ ":\n" ++ sectionText entries)

end MetaLint.CommandLine
