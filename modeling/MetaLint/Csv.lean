import MetaLint.Json.Printer

/-!
# Comma-separated values

Commas stand between the fields of a record and a line feed after each record. A field that holds a
comma, a quote or a line end stands between quotes, with every quote in it written twice.
-/

set_option autoImplicit false

namespace MetaLint.Csv

abbrev Field := List Char

abbrev Record := List Field

def isSpecial (c : Char) : Bool := c == ',' || c == '"' || c == '\n' || c == '\r'

def doubled : List Char → List Char
  | [] => []
  | c :: rest => if c = '"' then '"' :: '"' :: doubled rest else c :: doubled rest

def fieldText (f : Field) : List Char :=
  if f.any isSpecial then '"' :: doubled f ++ ['"'] else f

def fieldsText : Record → List Char
  | [] => []
  | [f] => fieldText f
  | f :: rest => fieldText f ++ ',' :: fieldsText rest

def recordText (r : Record) : List Char := fieldsText r ++ ['\n']

def text (records : List Record) : List Char := records.flatMap recordText

/-! ## Reading -/

inductive Position
  | start
  | plain
  | quoted
  | closing
  deriving Repr, DecidableEq

/-- Reads on from a position in a field; the field, the record and the records before are in
reverse. A text that ends inside quotes or between two line ends of a record is no table. -/
def readFrom (field : Field) (record : Record) (records : List Record) :
    Position → List Char → Option (List Record)
  | .start, [] => if record.isEmpty then some records.reverse else none
  | .plain, [] | .quoted, [] | .closing, [] => none
  | .start, c :: rest =>
    if c = '"' then readFrom [] record records .quoted rest
    else if c = ',' then readFrom [] ([] :: record) records .start rest
    else if c = '\n' then readFrom [] [] (([] :: record).reverse :: records) .start rest
    else readFrom [c] record records .plain rest
  | .plain, c :: rest =>
    if c = ',' then readFrom [] (field.reverse :: record) records .start rest
    else if c = '\n' then readFrom [] [] ((field.reverse :: record).reverse :: records) .start rest
    else readFrom (c :: field) record records .plain rest
  | .quoted, c :: rest =>
    if c = '"' then readFrom field record records .closing rest
    else readFrom (c :: field) record records .quoted rest
  | .closing, c :: rest =>
    if c = '"' then readFrom ('"' :: field) record records .quoted rest
    else if c = ',' then readFrom [] (field.reverse :: record) records .start rest
    else if c = '\n' then readFrom [] [] ((field.reverse :: record).reverse :: records) .start rest
    else none

def read? (text : List Char) : Option (List Record) := readFrom [] [] [] .start text

end MetaLint.Csv
