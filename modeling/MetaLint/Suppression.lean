import MetaLint.Issue.Basic
import MetaLint.Text.Basic
import MetaLint.Unicode.Letter
import MetaLint.Text.Utf8

/-!
# Suppression directives

A directive is a number sign, blanks, and the word `noqa` in any case. Alone it suppresses every
issue on its line; followed by a colon and a list of targets, only the issues it names: `a` by code,
`@tool` by tool, `tool:a` by both. The leftmost directive of a line decides, for the issues on this
line.
-/

set_option autoImplicit false

namespace MetaLint

/-- What a directive suppresses on its line. -/
inductive Suppression
  | everything
  | targets (tokens : List String)
  deriving Repr, DecidableEq

namespace Suppression

open Text

def tokenCovers (token : String) (i : Issue) : Bool :=
  match token.toList with
  | '@' :: tool => String.ofList tool == i.tool
  | cs =>
    match splitOnce ':' cs with
    | some (tool, code) => String.ofList tool == i.tool && String.ofList code == i.codeText
    | none => i.codeText != "" && token == i.codeText

def covers : Suppression → Issue → Bool
  | .everything, _ => true
  | .targets tokens, i => tokens.any (tokenCovers · i)

def isKeyword (a b c d : Char) : Bool :=
  a.toLower == 'n' && b.toLower == 'o' && c.toLower == 'q' && d.toLower == 'a'

def afterKeyword? (text : List Char) : Option (List Char) :=
  match text.dropWhile isBlank with
  | a :: b :: c :: d :: rest =>
    if isKeyword a b c d && !Unicode.isWordAt rest.head? then some rest else none
  | _ => none

def afterDirective? : List Char → Option (List Char)
  | [] => none
  | c :: rest =>
    if c = '#' then
      match afterKeyword? rest with
      | some tail => some tail
      | none => afterDirective? rest
    else afterDirective? rest

def isSeparator (c : Char) : Bool := c == ',' || isBlank c

def tokensFrom (token : List Char) : List Char → List String
  | [] => if token.isEmpty then [] else [String.ofList token.reverse]
  | c :: rest =>
    if isSeparator c then
      if token.isEmpty then tokensFrom [] rest
      else String.ofList token.reverse :: tokensFrom [] rest
    else tokensFrom (c :: token) rest

def tokens (text : List Char) : List String := tokensFrom [] text

/-- The targets a directive lists, given what follows its keyword. The list ends at the next number
sign. -/
def targetTokens : List Char → List String
  | ':' :: rest => tokens (rest.takeWhile (· != '#'))
  | _ => []

def ofTokens (tokens : List String) : Suppression :=
  if tokens.isEmpty then .everything else .targets tokens

def ofLine? (line : List Char) : Option Suppression :=
  (afterDirective? line).map fun tail => ofTokens (targetTokens tail)

theorem covers_targets (tokens : List String) (i : Issue) :
    covers (.targets tokens) i = true ↔ ∃ t ∈ tokens, tokenCovers t i = true := by
  simp [covers]

end Suppression

structure SuppressionIndex where
  entries : List (Nat × Suppression) := []
  deriving Repr, DecidableEq

namespace SuppressionIndex

open Text

def empty : SuppressionIndex := {}

def entry? (line : Nat × List Char) : Option (Nat × Suppression) :=
  (Suppression.ofLine? line.2).map (line.1, ·)

def parse (text : List Char) : SuppressionIndex := ⟨(numberedLines text).filterMap entry?⟩

def ofFile : Option Bytes → SuppressionIndex
  | some bytes => parse (decodeLossy bytes)
  | none => empty

def get? (index : SuppressionIndex) (line : Nat) : Option Suppression := index.entries.lookup line

def size (index : SuppressionIndex) : Nat := index.entries.length

def isEmpty (index : SuppressionIndex) : Bool := index.entries.isEmpty

def suppresses (index : SuppressionIndex) (i : Issue) : Bool :=
  (index.get? i.line.toNat).elim false (·.covers i)

@[simp] theorem suppresses_empty (i : Issue) : empty.suppresses i = false := rfl

end SuppressionIndex

end MetaLint
