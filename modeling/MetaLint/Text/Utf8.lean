/-!
# Bytes and text

UTF-8 with two readings: a strict one, which fails at the first byte sequence that is no character,
and a tolerant one, which puts a replacement character in place of each longest piece of a broken
sequence. What the system names is given in bytes, which need not be the bytes of a text.
-/

set_option autoImplicit false

namespace MetaLint

namespace Text

abbrev Bytes := List UInt8

def replacement : Char := Char.ofNat 0xFFFD

def isContinuation (b : UInt8) : Bool := 0x80 ≤ b && b ≤ 0xBF

def isSecond (lead b : UInt8) : Bool :=
  if lead == 0xE0 then 0xA0 ≤ b && b ≤ 0xBF
  else if lead == 0xED then 0x80 ≤ b && b ≤ 0x9F
  else if lead == 0xF0 then 0x90 ≤ b && b ≤ 0xBF
  else if lead == 0xF4 then 0x80 ≤ b && b ≤ 0x8F
  else isContinuation b

def payload (b : UInt8) : Nat := b.toNat % 64

/-- Reads the character that starts with `lead`: the character, or nothing when the sequence is
broken, and how many bytes after `lead` belong to it. -/
def readSequence (lead : UInt8) (rest : Bytes) : Option Char × Nat :=
  if lead < 0x80 then (some (Char.ofNat lead.toNat), 0)
  else if 0xC2 ≤ lead && lead ≤ 0xDF then
    match rest with
    | b :: _ =>
      if isContinuation b then (some (Char.ofNat (lead.toNat % 32 * 64 + payload b)), 1)
      else (none, 0)
    | [] => (none, 0)
  else if 0xE0 ≤ lead && lead ≤ 0xEF then
    match rest with
    | b :: c :: _ =>
      if !isSecond lead b then (none, 0)
      else if !isContinuation c then (none, 1)
      else (some (Char.ofNat ((lead.toNat % 16 * 64 + payload b) * 64 + payload c)), 2)
    | [b] => (none, if isSecond lead b then 1 else 0)
    | [] => (none, 0)
  else if 0xF0 ≤ lead && lead ≤ 0xF4 then
    match rest with
    | b :: more =>
      if !isSecond lead b then (none, 0)
      else
        match more with
        | c :: d :: _ =>
          if !isContinuation c then (none, 1)
          else if !isContinuation d then (none, 2)
          else
            (some (Char.ofNat
              (((lead.toNat % 8 * 64 + payload b) * 64 + payload c) * 64 + payload d)), 3)
        | [c] => (none, if isContinuation c then 2 else 1)
        | [] => (none, 1)
    | [] => (none, 0)
  else (none, 0)

/-- `done` holds the characters read so far in reverse. Of the bytes that are left, the first
`passed` belong to a sequence that was read. -/
def readLossy (done : List Char) (passed : Nat) : Bytes → List Char
  | [] => done.reverse
  | b :: rest =>
    match passed with
    | n + 1 => readLossy done n rest
    | 0 =>
      let (c, used) := readSequence b rest
      readLossy (c.getD replacement :: done) used rest

def decodeLossy (bytes : Bytes) : List Char := readLossy [] 0 bytes

def readStrict (done : List Char) (passed : Nat) : Bytes → Option (List Char)
  | [] => some done.reverse
  | b :: rest =>
    match passed with
    | n + 1 => readStrict done n rest
    | 0 =>
      match readSequence b rest with
      | (some c, used) => readStrict (c :: done) used rest
      | (none, _) => none

def decode? (bytes : Bytes) : Option (List Char) := readStrict [] 0 bytes

def encode (text : String) : Bytes := text.toList.flatMap String.utf8EncodeChar

end Text

@[ext]
structure OsText where
  bytes : Text.Bytes
  deriving Repr, DecidableEq, Inhabited

namespace OsText

def ofText (text : String) : OsText := ⟨Text.encode text⟩

instance : Coe String OsText := ⟨ofText⟩

instance : Append OsText := ⟨fun a b => ⟨a.bytes ++ b.bytes⟩⟩

instance : Ord OsText := ⟨fun a b => compare a.bytes b.bytes⟩

/-- The text that stands for a name where one is shown; different names can be shown alike. -/
def shown (name : OsText) : String := String.ofList (Text.decodeLossy name.bytes)

def IsText (name : OsText) : Prop := ∃ text : String, name = text

@[simp] theorem bytes_append (a b : OsText) : (a ++ b).bytes = a.bytes ++ b.bytes := rfl

end OsText

end MetaLint
