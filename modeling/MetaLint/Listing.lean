import MetaLint.Csv
import MetaLint.Toml
import MetaLint.Yaml

/-!
# Listings

Names with descriptions, in sections, in four formats.
-/

set_option autoImplicit false

namespace MetaLint

abbrev Listing := Keyed (Keyed String)

inductive ListFormat
  | toml
  | yaml
  | json
  | csv
  deriving Repr, DecidableEq, Inhabited

namespace ListFormat

def name : ListFormat → String
  | .toml => "toml"
  | .yaml => "yaml"
  | .json => "json"
  | .csv => "csv"

def all : List ListFormat := [.toml, .yaml, .json, .csv]

def ofName? (text : String) : Option ListFormat := all.find? fun f => f.name == text

theorem ofName?_name (f : ListFormat) : ofName? f.name = some f := by cases f <;> decide

end ListFormat

namespace Listing

def toToml (l : Listing) : Toml.Document :=
  { entries := []
    sections := l.map fun (name, entries) =>
      { path := [name], isItem := false, entries := entries.map fun (n, text) => (n, .text text) } }

def toYaml (l : Listing) : Yaml.Node :=
  .map (l.mapValues fun _ entries => .map (entries.mapValues fun _ text => .text text))

def toDoc (l : Listing) : Json.Doc :=
  .object (l.mapValues fun _ entries => .object (entries.mapValues fun _ text => .text text))

def toRecords (l : Listing) : List Csv.Record :=
  l.flatMap fun (name, entries) =>
    entries.map fun (n, text) => [name, n, text].map String.toList

def headerText (header : List String) : String := ",".intercalate header ++ "\n"

def render (l : Listing) (format : ListFormat) (header : List String) : String :=
  match format with
  | .toml => String.ofList l.toToml.text
  | .yaml => l.toYaml.pretty
  | .json => l.toDoc.pretty ++ "\n"
  | .csv => headerText header ++ String.ofList (Csv.text l.toRecords)

end Listing

end MetaLint
