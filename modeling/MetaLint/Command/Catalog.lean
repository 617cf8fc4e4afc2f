import MetaLint.Command.Check

/-!
# Commands that show what is known

The codes of the tools, the tools and reports themselves, and the default configuration.
-/

set_option autoImplicit false

namespace MetaLint

namespace Listing

def codesHeader : List String := ["tool", "code", "message"]

def extensionsHeader : List String := ["type", "name", "description"]

def ofCodes (codes : List CodeInfo) : Keyed String :=
  Keyed.ofList (codes.map fun c => (c.code, c.description))

def addTools (tools : ToolRegistry) (l : Listing) : List String → Except CommandError Listing
  | [] => .ok l
  | name :: rest =>
    match tools.get? name with
    | some t => addTools tools (Keyed.set name (ofCodes t.codes) l) rest
    | none => .error (.unknownTool name)

def ofTools (tools : ToolRegistry) (names : List String) : Except CommandError Listing :=
  addTools tools [] (if names.isEmpty then tools.names else names)

def ofExtensions (tools : ToolRegistry) (reports : ReportRegistry) : Listing :=
  Keyed.ofList
    [("tools", tools.mapValues fun _ t => t.description),
     ("reports", reports.mapValues fun _ r => r.description)]

end Listing

namespace ToolConfig

def briefValue (c : ToolConfig) : Json.Value :=
  match c.toValue with
  | .object members =>
    .object (members.filter fun m => !(m.1 == "options" && m.2 == .emptyObject))
  | v => v

end ToolConfig

namespace Config

def defaultDocument (blocks : Keyed ToolConfig) (processors : Nat := 1) : Json.Value :=
  let c := defaults blocks processors
  match c.toValue with
  | .object members =>
    .object (Keyed.set "tools" (.object (c.tools.mapValues fun _ t => t.briefValue)) members)
  | v => v

end Config

namespace Workplace

def listCodes (w : Workplace) (tools : List String) (format : ListFormat) : CommandEnd :=
  match Listing.ofTools w.tools tools with
  | .ok l => { result := .ok false, out := l.render format Listing.codesHeader, disk := w.disk }
  | .error e => { result := .error e, disk := w.disk }

def listExtensions (w : Workplace) (format : ListFormat) : CommandEnd :=
  let l := Listing.ofExtensions w.tools w.reports
  { result := .ok false, out := l.render format Listing.extensionsHeader, disk := w.disk }

def showDefaults (w : Workplace) : CommandEnd :=
  { result := .ok false,
    out := Json.pretty (Config.defaultDocument w.tools.blocks w.processors) ++ "\n",
    disk := w.disk }

end Workplace

end MetaLint
