import MetaLint.Tool.Basic
import MetaLint.Pattern.Footprint

/-!
# Finding task markers

A marker is found where it stands between word boundaries. At each place the first marker of the
list that fits is taken, and the search goes on behind it. Lines that hold an ignore pattern are
left out.
-/

set_option autoImplicit false

namespace MetaLint.Tool

namespace Todo

open Text Json
open Unicode (CharSet isBoundary sameFold)

def name : String := "todo"

def codes : List CodeInfo := [⟨"todo", "Task marker found"⟩]

structure Options where
  patterns : List String := []
  ignorePatterns : List String := []
  caseSensitive : Bool := false
  deriving Repr, DecidableEq, Inhabited

namespace Options

def takePatterns (o : Options) (v : Value) : Shaped Options :=
  return { o with patterns := ← asTexts v }

def takeIgnorePatterns (o : Options) (v : Value) : Shaped Options :=
  return { o with ignorePatterns := ← asTexts v }

def takeCaseSensitive (o : Options) (v : Value) : Shaped Options :=
  return { o with caseSensitive := ← asBool v }

def take (o : Options) (key : String) (v : Value) : Shaped Options :=
  match key with
  | "patterns" => o.takePatterns v
  | "ignore-patterns" => o.takeIgnorePatterns v
  | "case-sensitive" => o.takeCaseSensitive v
  | _ => .ok o

def ofValue : Value → Shaped Options
  | .object members => foldMembers take {} members
  | .list items =>
    foldItems items.length {} [takePatterns, takeIgnorePatterns, takeCaseSensitive] items
  | v => wrongType v "struct Options"

end Options

def defaultMarkers : List String := ["TODO", "FIXME", "XXX"]

/-- The markers to look for; without any the default ones. -/
def Options.markers (o : Options) : List String :=
  if o.patterns.isEmpty then defaultMarkers else o.patterns

def Options.sameChar (o : Options) (a b : Char) : Bool :=
  if o.caseSensitive then a == b else sameFold a b

/-! ## Markers in a line -/

def spelled? (same : Char → Char → Bool) : List Char → List Char → Option (List Char × List Char)
  | [], text => some ([], text)
  | _ :: _, [] => none
  | m :: marker, c :: text =>
    if same m c then (spelled? same marker text).map fun (front, rest) => (c :: front, rest)
    else none

def lastOr (before : Option Char) (front : List Char) : Option Char :=
  match front.getLast? with
  | some c => some c
  | none => before

def markerHere? (same : Char → Char → Bool) (markers : List (List Char)) (before : Option Char)
    (text : List Char) : Option (List Char) :=
  if isBoundary before text.head? then
    markers.findSome? fun marker =>
      match spelled? same marker text with
      | some (front, rest) =>
        if isBoundary (lastOr before front) rest.head? then some front else none
      | none => none
  else none

/-- The markers from here on with the number of characters before them. `skip` characters belong to
the last marker; `barred` tells that it ends here, where an empty marker does not count. -/
def markersFrom (same : Char → Char → Bool) (markers : List (List Char)) (skip : Nat)
    (barred : Bool) (position : Nat) (before : Option Char) (text : List Char) :
    List (Nat × List Char) :=
  match skip, text with
  | 0, [] =>
    match markerHere? same markers before [] with
    | some front => if front.isEmpty && barred then [] else [(position, front)]
    | none => []
  | _ + 1, [] => []
  | 0, c :: rest =>
    match markerHere? same markers before (c :: rest) with
    | some [] =>
      let more := markersFrom same markers 0 false (position + 1) (some c) rest
      if barred then more else (position, []) :: more
    | some (a :: front) =>
      (position, a :: front) ::
        markersFrom same markers front.length true (position + 1) (some c) rest
    | none => markersFrom same markers 0 false (position + 1) (some c) rest
  | skip + 1, c :: rest => markersFrom same markers skip barred (position + 1) (some c) rest

def markersIn (o : Options) (line : List Char) : List (Nat × List Char) :=
  markersFrom o.sameChar (o.markers.map String.toList) 0 false 0 none line

def Options.ignores (o : Options) (line : List Char) : Bool :=
  o.ignorePatterns.any fun p => contains p.toList line

def issueOf (p : Path) (line : Nat) (found : Nat × List Char) : Issue :=
  (((Issue.create name "todo"
      ("Found '" ++ String.ofList found.2 ++
        "' comment. Consider resolving this before committing.") p).withLine
    (lineNumber line)).withCharacter (lineNumber (found.1 + 1))).withSeverity .warning

def check (o : Options) (p : Path) (text : List Char) : List Issue :=
  (numberedLines text).flatMap fun (n, line) =>
    if o.ignores line then [] else (markersIn o line).map (issueOf p n)

/-! ## Size -/

/-- The expression that matches any marker as a word. -/
def Options.regex (o : Options) : Pattern.Regex :=
  let letter (c : Char) : Pattern.Regex :=
    .set (if o.caseSensitive then .single c else (CharSet.single c).folded)
  .seq [.look (.boundary false), .alt (o.markers.map fun m => .seq (m.toList.map letter)),
    .look (.boundary false)]

def Options.accept (o : Options) : Except Error Unit :=
  if o.regex.fits then .ok () else .error (.pattern .tooLarge)

end Todo

def todo : Tool where
  name := Todo.name
  description := "Finds TODO, FIXME and XXX markers"
  defaults :=
    { filters := textFilters,
      options := Json.Value.ofMembers
        [("patterns", .ofTexts Todo.defaultMarkers), ("ignore-patterns", .list []),
         ("case-sensitive", .bool false)] }
  codes := Todo.codes
  execute f d c :=
    let accepted : Except Error Todo.Options := do
      let o ← readOptions Todo.name {} Todo.Options.ofValue c
      o.accept
      return o
    ToolRun.ofResult <|
      match accepted with
      | .ok o => scanFiles f d c (Todo.check o)
      | .error e => (.error e, f)

end MetaLint.Tool
