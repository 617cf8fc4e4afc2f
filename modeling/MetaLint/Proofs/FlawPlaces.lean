import MetaLint.Json.Parser
import MetaLint.Proofs.DirectiveGrammar

/-!
# Where the flaws of a text are

Reading goes on from character to character. A flaw lies no further on than a place that reading can
reach, so it is on a line of the text or right behind the last one, and its column is on that line.
Only a flaw of shape may be told by its place in another text, the one that is embedded.
-/

set_option autoImplicit false

namespace MetaLint

namespace Json

open Text (isDigit)

namespace Cursor

inductive Reaches : Cursor → Cursor → Prop
  | refl (c : Cursor) : Reaches c c
  | pass {c d : Cursor} (h : Reaches c.advance d) : Reaches c d

theorem Reaches.trans {c d e : Cursor} (h : c.Reaches d) (k : d.Reaches e) : c.Reaches e := by
  induction h with
  | refl => exact k
  | pass _ ih => exact .pass (ih k)

theorem reaches_advance (c : Cursor) : c.Reaches c.advance := .pass (.refl _)

theorem advance_cons {a : Char} (h : a ≠ '\n') (rest : List Char) (line column : Nat) :
    (⟨a :: rest, line, column⟩ : Cursor).advance = ⟨rest, line, column + a.utf8Size⟩ := by
  rw [advance]
  split
  next hrest => contradiction
  next hrest => exact absurd (List.cons.inj hrest).1 h
  next hrest =>
    obtain ⟨rfl, rfl⟩ := List.cons.inj hrest
    rfl

theorem Reaches.of_byte {a : Char} {rest : List Char} {line column : Nat} {d : Cursor}
    (ha : a ≠ '\n') (hsize : a.utf8Size = 1)
    (h : (⟨rest, line, column + 1⟩ : Cursor).Reaches d) :
    (⟨a :: rest, line, column⟩ : Cursor).Reaches d := by
  rw [← hsize, ← advance_cons ha] at h
  exact .pass h

/-- A place no further on than one that reading on leads to. -/
def Shows (c : Cursor) (line column : Nat) : Prop :=
  ∃ d, c.Reaches d ∧ d.line = line ∧ column ≤ d.column

theorem Shows.of_reaches {c d : Cursor} {line column : Nat} (h : c.Reaches d)
    (k : d.Shows line column) : c.Shows line column := by
  obtain ⟨e, he, hplace⟩ := k
  exact ⟨e, h.trans he, hplace⟩

theorem shows_self (c : Cursor) : c.Shows c.line c.column := ⟨c, .refl c, rfl, Nat.le_refl _⟩

def Proceeds {α : Type} (c : Cursor) (place : α → Cursor) : Except ParseError α → Prop
  | .ok a => c.Reaches (place a)
  | .error e => e.flaw.kind ≠ .shape → c.Shows e.line e.column

section Proceeds
variable {α β : Type} {place : α → Cursor} {c d : Cursor}

theorem Proceeds.of_reaches {r : Except ParseError α} (h : c.Reaches d)
    (k : d.Proceeds place r) : c.Proceeds place r := by
  cases r with
  | ok a => exact h.trans k
  | error e => exact fun hkind => (k hkind).of_reaches h

theorem Proceeds.cases {other : β → Cursor} {r : Except ParseError α} {s : Except ParseError β}
    (h : c.Proceeds place r) (herror : ∀ e, r = .error e → s = .error e)
    (hok : ∀ a, r = .ok a → (place a).Proceeds other s) : c.Proceeds other s := by
  cases r with
  | ok a => exact (hok a rfl).of_reaches h
  | error e =>
    rw [herror e rfl]
    exact h

theorem Proceeds.bind {other : β → Cursor} {r : Except ParseError α}
    {f : α → Except ParseError β} (h : c.Proceeds place r)
    (hf : ∀ a, (place a).Proceeds other (f a)) : c.Proceeds other (r >>= f) :=
  h.cases (fun _ he => he ▸ rfl) fun a ha => ha ▸ hf a

theorem proceeds_flawHere (c : Cursor) (place : α → Cursor) (flaw : Flaw) :
    c.Proceeds place (c.flawHere flaw) := fun _ => shows_self c

theorem proceeds_flawNext (c : Cursor) (place : α → Cursor) (flaw : Flaw) :
    c.Proceeds place (c.flawNext flaw) := by
  obtain ⟨rest, line, column⟩ := c
  cases rest with
  | nil => exact fun _ => shows_self _
  | cons a rest =>
    by_cases ha : a = '\n'
    · subst ha
      exact fun _ => ⟨_, reaches_advance _, rfl, Nat.le_refl _⟩
    · have hflaw : (⟨a :: rest, line, column⟩ : Cursor).flawNext (α := α) flaw =
          .error ⟨flaw, line, column + 1⟩ := by
        rw [flawNext]
        split
        next hrest => contradiction
        next hrest => exact absurd (List.cons.inj hrest).1 ha
        next => rfl
      rw [hflaw]
      refine fun _ => ⟨_, reaches_advance _, ?_, ?_⟩
      · rw [advance_cons ha]
      · rw [advance_cons ha]
        exact Nat.add_le_add_left a.utf8Size_pos column

end Proceeds

theorem reaches_skipFrom (line column : Nat) (text : List Char) :
    (⟨text, line, column⟩ : Cursor).Reaches (skipFrom line column text) := by
  induction text generalizing line column with
  | nil => exact .refl _
  | cons a text ih =>
    rw [skipFrom]
    split
    next ha =>
      subst ha
      exact .pass (ih (line + 1) 0)
    next ha =>
      split
      next hgap =>
        have hsize : a.utf8Size = 1 := by
          simp only [isGap, Bool.or_eq_true, beq_iff_eq] at hgap
          rcases hgap with ((rfl | rfl) | rfl) | rfl <;> rfl
        exact .of_byte ha hsize (ih line (column + 1))
      next => exact .refl _

theorem reaches_skip (c : Cursor) : c.Reaches c.skip := reaches_skipFrom c.line c.column c.rest

theorem proceeds_word (c : Cursor) (text : List Char) : c.Proceeds id (c.word text) := by
  induction text generalizing c with
  | nil => exact .refl c
  | cons w text ih =>
    rw [word]
    split
    · exact proceeds_flawHere c _ _
    · split
      · exact (ih c.advance).of_reaches (reaches_advance c)
      · exact proceeds_flawNext c _ _

end Cursor

open Cursor

theorem oneByte_of_isDigit {a : Char} (h : isDigit a = true) : a ≠ '\n' ∧ a.utf8Size = 1 := by
  simp only [isDigit, Bool.and_eq_true, decide_eq_true_eq] at h
  constructor
  · rintro rfl
    exact absurd h.1 (by decide)
  · have hle : a.val ≤ 0x7f := Nat.le_trans h.2 (by decide)
    simp [Char.utf8Size, hle]

theorem reaches_skipDigits (line column count : Nat) (text : List Char) :
    (⟨text, line, column⟩ : Cursor).Reaches (skipDigits line column count text).2 := by
  induction text generalizing column count with
  | nil => exact .refl _
  | cons a text ih =>
    rw [skipDigits]
    split
    next ha =>
      obtain ⟨hne, hsize⟩ := oneByte_of_isDigit ha
      exact .of_byte hne hsize (ih _ _)
    next => exact .refl _

theorem reaches_gather (line column significand used : Nat) (text : List Char) :
    (⟨text, line, column⟩ : Cursor).Reaches (gather line column significand used text).2.2.2 := by
  induction text generalizing column significand used with
  | nil => exact .refl _
  | cons a text ih =>
    rw [gather]
    split
    next ha =>
      obtain ⟨hne, hsize⟩ := oneByte_of_isDigit ha
      simp only
      split
      · exact .of_byte hne hsize (ih _ _ _)
      · exact .refl _
    next => exact .refl _

section Numbers
variable (c : Cursor) (positive : Bool) (significand : Nat)

theorem proceeds_fractionAt (exponent : Int) :
    c.Proceeds Prod.snd (fractionAt c positive significand exponent) := by
  rw [fractionAt]
  split
  · exact .refl c
  · exact proceeds_flawHere c _ _

theorem reaches_overflowing (n value : Nat) :
    c.Reaches (readExponent.overflowing n value c) := by
  induction n generalizing c value with
  | zero => exact .refl c
  | succ n ih =>
    rw [readExponent.overflowing]
    split
    · split
      · exact (reaches_advance c).trans (ih _ _)
      · exact reaches_advance c
    · exact .refl c

theorem proceeds_readExponent (start : Int) :
    c.Proceeds Prod.snd (readExponent c positive significand start) := by
  rw [readExponent]
  simp only
  generalize hsign : (if (nextIs c.advance (· == '-') || nextIs c.advance (· == '+')) = true
    then c.advance.advance else c.advance) = after
  have hafter : c.Reaches after := by
    rw [← hsign]
    split
    · exact (reaches_advance c).trans (reaches_advance _)
    · exact reaches_advance c
  refine .of_reaches hafter ?_
  have hdigits : after.Reaches (skipDigits after.line after.column 0 after.rest).2 :=
    reaches_skipDigits _ _ _ _
  split
  · exact proceeds_flawHere after _ _
  · split
    · exact proceeds_flawNext after _ _
    · split
      · exact (proceeds_fractionAt _ _ _ _).of_reaches hdigits
      · split
        · exact (proceeds_flawHere _ _ _).of_reaches (reaches_overflowing after _ _)
        · exact hdigits

theorem proceeds_finish (value : Nat) (exponent : Int) :
    c.Proceeds Prod.snd (readDecimals.finish positive c value exponent) := by
  rw [readDecimals.finish]
  split
  · exact proceeds_readExponent c _ _ _
  · exact proceeds_fractionAt c _ _ _

theorem proceeds_readDecimals (start : Int) :
    c.Proceeds Prod.snd (readDecimals c positive significand start) := by
  rw [readDecimals]
  refine .of_reaches (reaches_advance c) ?_
  generalize c.advance = point
  have hgather := reaches_gather point.line point.column significand 0 point.rest
  simp only
  generalize gather point.line point.column significand 0 point.rest = gathered at hgather ⊢
  obtain ⟨value, used, full, after⟩ := gathered
  refine .of_reaches hgather ?_
  simp only
  split
  · exact (proceeds_finish _ _ _ _).of_reaches (reaches_skipDigits _ _ 0 _)
  · split
    · split <;> exact proceeds_flawNext after _ _
    · exact proceeds_finish after _ _ _

theorem proceeds_readTail : c.Proceeds Prod.snd (readTail c positive significand) := by
  rw [readTail]
  split
  · exact proceeds_readDecimals c _ _ _
  · split
    · exact proceeds_readExponent c _ _ _
    · split
      · exact .refl c
      · split <;> exact .refl c

theorem proceeds_readNumber : c.Proceeds Prod.snd (readNumber c positive) := by
  rw [readNumber]
  split
  · exact proceeds_flawHere c _ _
  · split
    · refine .of_reaches (reaches_advance c) ?_
      split
      · exact proceeds_flawNext _ _ _
      · exact proceeds_readTail _ _ _
    · split
      · have hgather := reaches_gather c.line c.column 0 0 c.rest
        generalize gather c.line c.column 0 0 c.rest = gathered at hgather ⊢
        obtain ⟨value, used, full, after⟩ := gathered
        refine .of_reaches hgather ?_
        simp only
        split
        · have hmore := reaches_skipDigits after.line after.column 0 after.rest
          generalize skipDigits after.line after.column 0 after.rest = skipped at hmore ⊢
          obtain ⟨more, last⟩ := skipped
          refine .of_reaches hmore ?_
          simp only
          split
          · exact proceeds_readDecimals last _ _ _
          · split
            · exact proceeds_readExponent last _ _ _
            · exact proceeds_fractionAt last _ _ _
        · exact proceeds_readTail after _ _
      · exact proceeds_flawNext c _ _

end Numbers

/-- The place some bytes further on may be inside a character. -/
theorem shows_placeAfter (line column n : Nat) (text : List Char) :
    (⟨text, line, column⟩ : Cursor).Shows (placeAfter line column n text).1
      (placeAfter line column n text).2 := by
  induction text generalizing line column n with
  | nil => exact shows_self _
  | cons a text ih =>
    rw [placeAfter]
    split
    · exact shows_self _
    · split
      next hzero hinside =>
        have ha : a ≠ '\n' := by
          rintro rfl
          have hone : n < 1 := hinside
          omega
        refine ⟨_, reaches_advance _, ?_, ?_⟩
        · rw [advance_cons ha]
        · rw [advance_cons ha]
          exact Nat.add_le_add_left (Nat.le_of_lt hinside) column
      next =>
        refine .of_reaches (reaches_advance _) ?_
        split
        next ha =>
          subst ha
          exact ih _ _ _
        next ha =>
          rw [advance_cons ha]
          exact ih _ _ _

theorem proceeds_bad (c : Cursor) : c.Proceeds Prod.snd (readHex.bad c) := by
  have hplace := shows_placeAfter c.line c.column 4 c.rest
  rw [readHex.bad]
  simp only
  split <;> exact fun _ => hplace

theorem proceeds_readHex (c : Cursor) : c.Proceeds Prod.snd (readHex c) := by
  rw [readHex]
  split
  · split
    · exact .pass (.pass (.pass (.pass (.refl _))))
    · exact proceeds_bad c
  · exact proceeds_bad c

theorem proceeds_mark (c : Cursor) (expected : Char) :
    c.Proceeds id (readHexEscape.mark c expected) := by
  rw [readHexEscape.mark]
  split
  · exact proceeds_flawHere c _ _
  · split
    · exact reaches_advance c
    · exact proceeds_flawNext c _ _

theorem proceeds_readHexEscape (c : Cursor) : c.Proceeds Prod.snd (readHexEscape c) := by
  rw [readHexEscape]
  refine (proceeds_readHex c).bind ?_
  rintro ⟨high, first⟩
  simp only
  split
  · exact proceeds_flawHere first _ _
  · split
    · exact .refl first
    · refine (proceeds_mark first _).bind fun backslash => ?_
      refine (proceeds_mark backslash _).bind fun marked => ?_
      refine (proceeds_readHex marked).bind ?_
      rintro ⟨low, last⟩
      simp only
      split
      · exact .refl last
      · exact proceeds_flawHere last _ _

theorem proceeds_readTextFrom (fuel : Nat) (done : List Char) (c : Cursor) :
    c.Proceeds Prod.snd (readTextFrom fuel done c) := by
  induction fuel generalizing done c with
  | zero => exact proceeds_flawHere c _ _
  | succ fuel ih =>
    rw [readTextFrom]
    split
    · exact proceeds_flawHere c _ _
    · split
      · exact reaches_advance c
      · split
        · refine .of_reaches (reaches_advance c) ?_
          generalize c.advance = escape
          simp only
          split
          · exact proceeds_flawHere escape _ _
          · split
            · refine .of_reaches (reaches_advance escape) ?_
              refine (proceeds_readHexEscape _).cases (fun e he => by rw [he]) ?_
              rintro ⟨x, after⟩ hread
              rw [hread]
              exact ih _ after
            · split
              · exact (ih _ _).of_reaches (reaches_advance escape)
              · exact proceeds_flawNext escape _ _
        · split
          · exact proceeds_flawNext c _ _
          · exact (ih _ _).of_reaches (reaches_advance c)

theorem proceeds_readText (c : Cursor) : c.Proceeds Prod.snd (readText c) :=
  proceeds_readTextFrom _ _ c

theorem proceeds_readColon (c : Cursor) : c.Proceeds id (readColon c) := by
  rw [readColon]
  refine .of_reaches (reaches_skip c) ?_
  generalize c.skip = c
  split
  · exact proceeds_flawNext c _ _
  · split
    · exact reaches_advance c
    · exact proceeds_flawNext c _ _

theorem proceeds_readEnd (c : Cursor) : c.Proceeds (fun _ => c) (readEnd c) := by
  rw [readEnd]
  split
  · exact .refl c
  · exact (proceeds_flawNext _ _ _).of_reaches (reaches_skip c)

theorem proceeds_readObjectEnd (c : Cursor) : c.Proceeds id (readObjectEnd c) := by
  rw [readObjectEnd]
  refine .of_reaches (reaches_skip c) ?_
  generalize c.skip = c
  split
  · exact proceeds_flawNext c _ _
  · split
    · exact reaches_advance c
    · split <;> exact proceeds_flawNext c _ _

theorem proceeds_nextItem? (first : Bool) (c : Cursor) :
    c.Proceeds (fun next => next.getD c) (nextItem? first c) := by
  rw [nextItem?]
  have hskip := reaches_skip c
  generalize c.skip = item at hskip
  have hnext := hskip.trans ((reaches_advance item).trans (reaches_skip _))
  generalize item.advance.skip = next at hnext
  simp only
  split
  · exact (proceeds_flawNext item _ _).of_reaches hskip
  · split
    · exact .refl c
    · split
      · exact hskip
      · split
        · split
          · exact (proceeds_flawNext next _ _).of_reaches hnext
          · split
            · exact (proceeds_flawNext next _ _).of_reaches hnext
            · exact hnext
        · exact (proceeds_flawNext item _ _).of_reaches hskip

theorem proceeds_nextKey? (first : Bool) (c : Cursor) :
    c.Proceeds (fun next => next.getD c) (nextKey? first c) := by
  rw [nextKey?]
  have hskip := reaches_skip c
  generalize c.skip = key at hskip
  have hnext := hskip.trans ((reaches_advance key).trans (reaches_skip _))
  generalize key.advance.skip = next at hnext
  simp only
  split
  · exact (proceeds_flawNext key _ _).of_reaches hskip
  · split
    · exact .refl c
    · split
      · split
        · exact hskip.trans (reaches_advance key)
        · exact (proceeds_flawNext key _ _).of_reaches hskip
      · split
        · split
          · exact (proceeds_flawNext next _ _).of_reaches hnext
          · split
            · exact hnext.trans (reaches_advance next)
            · split <;> exact (proceeds_flawNext next _ _).of_reaches hnext
        · exact (proceeds_flawNext key _ _).of_reaches hskip

theorem proceeds_shapeFlaw {α : Type} (c : Cursor) (place : α → Cursor) (e : ShapeError) :
    c.Proceeds place (shapeFlaw c e) := proceeds_flawHere c place _

theorem proceeds_readWrong {α : Type} (expected : String) (c : Cursor) (place : α → Cursor) :
    c.Proceeds place (readWrong expected c) := by
  have hword : ∀ (text : List Char) (v : Value), c.Proceeds place
      (c.advance.word text >>= fun c => shapeFlaw c (.invalidType v.found expected)) := by
    intro text v
    refine .of_reaches (reaches_advance c) ?_
    exact (proceeds_word _ _).bind fun after => proceeds_shapeFlaw after place _
  rw [readWrong]
  simp only
  split
  · exact proceeds_flawNext c _ _
  · split
    · exact hword _ _
    split
    · exact hword _ _
    split
    · exact hword _ _
    split
    · refine .of_reaches (reaches_advance c) ?_
      exact (proceeds_readNumber _ _).bind fun read => proceeds_shapeFlaw read.2 place _
    split
    · exact (proceeds_readNumber c _).bind fun read => proceeds_shapeFlaw read.2 place _
    split
    · refine .of_reaches (reaches_advance c) ?_
      exact (proceeds_readText _).bind fun read => proceeds_shapeFlaw read.2 place _
    split
    · exact proceeds_shapeFlaw c place _
    split
    · exact proceeds_shapeFlaw c place _
    · exact proceeds_flawNext c _ _

theorem proceeds_readString (expected : String) (c : Cursor) :
    c.Proceeds Prod.snd (readString expected c) := by
  rw [readString]
  refine .of_reaches (reaches_skip c) ?_
  generalize c.skip = c
  split
  · exact (proceeds_readText _).of_reaches (reaches_advance c)
  · exact proceeds_readWrong expected c _

structure ReadersProceed (fuel : Nat) : Prop where
  value : ∀ depth (c : Cursor), c.Proceeds Prod.snd (readValue fuel depth c)
  items : ∀ depth first done (c : Cursor), c.Proceeds Prod.snd (readItems fuel depth first done c)
  members : ∀ depth first done (c : Cursor),
    c.Proceeds Prod.snd (readMembers fuel depth first done c)
  embedded : ∀ c : Cursor, c.Proceeds Prod.snd (readEmbedded fuel c)

section Readers
variable {fuel : Nat} (h : ReadersProceed fuel)
include h

theorem ReadersProceed.readValue (depth : Nat) (c : Cursor) :
    c.Proceeds Prod.snd (readValue (fuel + 1) depth c) := by
  rw [Json.readValue]
  refine .of_reaches (reaches_skip c) ?_
  generalize c.skip = c
  have hword : ∀ (text : List Char) (v : Value), c.Proceeds Prod.snd
      (c.advance.word text >>= fun c => .ok (v, c)) := by
    intro text v
    refine .of_reaches (reaches_advance c) ?_
    exact (proceeds_word _ _).bind fun after => .refl after
  simp only
  split
  · exact proceeds_flawNext c _ _
  · split
    · exact hword _ _
    split
    · exact hword _ _
    split
    · exact hword _ _
    split
    · refine .of_reaches (reaches_advance c) ?_
      exact (proceeds_readNumber _ _).bind fun read => .refl read.2
    split
    · exact (proceeds_readNumber c _).bind fun read => .refl read.2
    split
    · refine .of_reaches (reaches_advance c) ?_
      exact (proceeds_readText _).bind fun read => .refl read.2
    split
    · split
      · exact proceeds_flawNext c _ _
      · exact (h.items _ _ _ _).of_reaches (reaches_advance c)
    split
    · split
      · exact proceeds_flawNext c _ _
      · exact (h.members _ _ _ _).of_reaches (reaches_advance c)
    · exact proceeds_flawNext c _ _

theorem ReadersProceed.readItems (depth : Nat) (first : Bool) (done : List Value) (c : Cursor) :
    c.Proceeds Prod.snd (readItems (fuel + 1) depth first done c) := by
  rw [Json.readItems]
  refine (proceeds_nextItem? first c).cases (fun e he => by rw [he]) ?_
  rintro (_ | item) hnext
  · rw [hnext]
    exact (reaches_skip c).trans (reaches_advance _)
  · rw [hnext]
    refine (h.value depth item).cases (fun e he => by simp only [he]) ?_
    rintro ⟨v, after⟩ hread
    simp only [hread]
    exact h.items _ _ _ after

theorem ReadersProceed.readMembers (depth : Nat) (first : Bool) (done : Members) (c : Cursor) :
    c.Proceeds Prod.snd (readMembers (fuel + 1) depth first done c) := by
  rw [Json.readMembers]
  refine (proceeds_nextKey? first c).cases (fun e he => by rw [he]) ?_
  rintro (_ | key) hnext
  · rw [hnext]
    exact (reaches_skip c).trans (reaches_advance _)
  · rw [hnext]
    refine (proceeds_readText key).cases (fun e he => by simp only [he]) ?_
    rintro ⟨name, colon⟩ hkey
    simp only [hkey]
    refine (proceeds_readColon colon).cases (fun e he => by simp only [he]) ?_
    rintro value hcolon
    simp only [hcolon]
    split
    · exact h.embedded value
    · refine (h.value depth value).cases (fun e he => by simp only [he]) ?_
      rintro ⟨v, after⟩ hread
      simp only [hread]
      exact h.members _ _ _ after

omit h in
/-- A flaw of the embedded text becomes one of shape. -/
theorem proceeds_readEmbedded (c : Cursor) :
    c.Proceeds Prod.snd (readEmbedded (fuel + 1) c) := by
  have hshape : ∀ (c : Cursor) (text : String) (line column : Nat),
      c.Proceeds Prod.snd (.error ⟨.shape text, line, column⟩ : Read Value) :=
    fun _ _ _ _ hkind => absurd rfl hkind
  rw [Json.readEmbedded]
  refine (proceeds_readString _ c).cases (fun e he => by rw [he]) ?_
  rintro ⟨text, after⟩ hread
  rw [hread]
  simp only
  split
  · exact hshape after _ _ _
  · split
    · exact hshape after _ _ _
    · refine (proceeds_readObjectEnd after).cases (fun e he => by rw [he]; rfl) ?_
      rintro last hend
      rw [hend]
      exact .refl last

end Readers

theorem readersProceed (fuel : Nat) : ReadersProceed fuel := by
  induction fuel with
  | zero =>
    exact ⟨fun _ c => proceeds_flawHere c _ _, fun _ _ _ c => proceeds_flawHere c _ _,
      fun _ _ _ c => proceeds_flawHere c _ _, fun c => proceeds_flawHere c _ _⟩
  | succ fuel ih => exact ⟨ih.readValue, ih.readItems, ih.readMembers, proceeds_readEmbedded⟩

theorem shows_of_parse {text : List Char} {e : ParseError} (h : parse text = .error e)
    (hkind : e.flaw.kind ≠ .shape) : (⟨text, 1, 0⟩ : Cursor).Shows e.line e.column := by
  rw [parse] at h
  have hread := (readersProceed (stepsFor ⟨text, 1, 0⟩)).value depthBound ⟨text, 1, 0⟩
  cases hv : readValue (stepsFor ⟨text, 1, 0⟩) depthBound ⟨text, 1, 0⟩ with
  | error flaw =>
    rw [hv] at h hread
    obtain rfl : flaw = e := Except.error.inj h
    exact hread hkind
  | ok read =>
    obtain ⟨v, last⟩ := read
    rw [hv] at h hread
    have hlast := (proceeds_readEnd last).of_reaches hread
    cases hend : readEnd last with
    | error flaw =>
      rw [hend] at hlast
      have h : (readEnd last >>= fun _ => .ok v) = .error e := h
      rw [hend] at h
      obtain rfl : flaw = e := Except.error.inj h
      exact hlast hkind
    | ok _ =>
      have h : (readEnd last >>= fun _ => .ok v) = .error e := h
      rw [hend] at h
      contradiction

end Json

namespace Text

def byteLength : List Char → Nat
  | [] => 0
  | a :: text => a.utf8Size + byteLength text

theorem byteLength_cons (a : Char) (text : List Char) :
    byteLength (a :: text) = a.utf8Size + byteLength text := rfl

theorem byteLength_append (text rest : List Char) :
    byteLength (text ++ rest) = byteLength text + byteLength rest := by
  induction text with
  | nil => exact (Nat.zero_add _).symm
  | cons a text ih => rw [List.cons_append, byteLength_cons, ih, byteLength_cons, Nat.add_assoc]

theorem byteLength_reverse (text : List Char) : byteLength text.reverse = byteLength text := by
  induction text with
  | nil => rfl
  | cons a text ih =>
    have hone : byteLength [a] = a.utf8Size := rfl
    rw [List.reverse_cons, byteLength_append, ih, hone, byteLength_cons, Nat.add_comm]

theorem byteLength_endedLine (line : List Char) :
    byteLength line ≤ 1 + byteLength (endedLine line) := by
  rw [endedLine.eq_def]
  split
  next line =>
    have hsize : '\r'.utf8Size = 1 := rfl
    exact Nat.le_of_eq (by rw [byteLength_cons, byteLength_reverse, hsize])
  next => rw [byteLength_reverse]; omega

theorem exists_firstLine {line : List Char} (h : line ≠ []) (text : List Char) :
    ∃ first, (linesFrom line text)[0]? = some first ∧ byteLength line ≤ 1 + byteLength first := by
  induction text generalizing line with
  | nil =>
    refine ⟨line.reverse, by simp [linesFrom, h], ?_⟩
    rw [byteLength_reverse]
    omega
  | cons a text ih =>
    rw [linesFrom]
    split
    · exact ⟨endedLine line, rfl, byteLength_endedLine line⟩
    · obtain ⟨first, hfirst, hsize⟩ := ih (List.cons_ne_nil a line)
      rw [byteLength_cons] at hsize
      exact ⟨first, hfirst, by omega⟩

end Text

namespace Json.Cursor

open Text

/-- A place is on one of the lines that are still to come, of which `line` is already read. -/
structure Within (c d : Cursor) (line : List Char) : Prop where
  first : c.line ≤ d.line
  last : d.line ≤ c.line + c.rest.count '\n'
  column : 0 < d.column → ∃ own,
    (linesFrom line c.rest)[d.line - c.line]? = some own ∧ d.column ≤ 1 + byteLength own

theorem Reaches.within {c d : Cursor} (h : c.Reaches d) {line : List Char}
    (hc : c.column = byteLength line) : c.Within d line := by
  induction h generalizing line with
  | refl c =>
    refine ⟨Nat.le_refl _, Nat.le_add_right _ _, fun hpos => ?_⟩
    have hne : line ≠ [] := by
      rintro rfl
      rw [hc] at hpos
      exact absurd hpos (by decide)
    rw [Nat.sub_self, hc]
    exact exists_firstLine hne c.rest
  | @pass c d h ih =>
    obtain ⟨rest, number, column⟩ := c
    cases rest with
    | nil => exact ih hc
    | cons a rest =>
      by_cases ha : a = '\n'
      · subst ha
        have hzero : (⟨rest, number + 1, 0⟩ : Cursor).column = byteLength [] := rfl
        obtain ⟨hfirst, hlast, hcolumn⟩ := ih hzero
        simp only [advance] at hfirst hlast hcolumn
        refine ⟨?_, ?_, fun hpos => ?_⟩
        · show number ≤ d.line
          omega
        · show d.line ≤ number + ('\n' :: rest).count '\n'
          rw [List.count_cons_self]
          omega
        · obtain ⟨own, hown, hle⟩ := hcolumn hpos
          refine ⟨own, ?_, hle⟩
          have hnext : d.line - number = d.line - (number + 1) + 1 := by omega
          show (linesFrom line ('\n' :: rest))[d.line - number]? = some own
          rw [hnext, linesFrom, if_pos rfl, List.getElem?_cons_succ]
          exact hown
      · rw [advance_cons ha] at ih
        have hline : column + a.utf8Size = byteLength (a :: line) := by
          rw [byteLength_cons, ← hc, Nat.add_comm]
        obtain ⟨hfirst, hlast, hcolumn⟩ := ih hline
        refine ⟨hfirst, ?_, fun hpos => ?_⟩
        · show d.line ≤ number + (a :: rest).count '\n'
          rwa [List.count_cons_of_ne (by simpa using ha)]
        · show ∃ own, (linesFrom line (a :: rest))[d.line - number]? = some own ∧ _
          rw [linesFrom, if_neg ha]
          exact hcolumn hpos

end Json.Cursor

namespace Json

/-- A flaw is on a line of the text, or behind its last line feed, and its column is on that line
or right behind it, bytes counted. -/
structure ParseError.Within (e : ParseError) (text : List Char) : Prop where
  first : 1 ≤ e.line
  last : e.line ≤ 1 + text.count '\n'
  column : 0 < e.column →
    ∃ own, Text.lineAt? text e.line = some own ∧ e.column ≤ 1 + Text.byteLength own

theorem within_of_parse {text : List Char} {e : ParseError} (h : parse text = .error e)
    (hkind : e.flaw.kind ≠ .shape) : e.Within text := by
  obtain ⟨d, hreaches, hline, hcolumn⟩ := shows_of_parse h hkind
  have hzero : (⟨text, 1, 0⟩ : Cursor).column = Text.byteLength [] := rfl
  obtain ⟨hfirst, hlast, hown⟩ := hreaches.within hzero
  simp only [hline] at hfirst hlast hown
  refine ⟨hfirst, hlast, fun hpos => ?_⟩
  obtain ⟨own, hget, hsize⟩ := hown (by omega)
  refine ⟨own, ?_, by omega⟩
  obtain ⟨n, hn⟩ : ∃ n, e.line = n + 1 := ⟨e.line - 1, by omega⟩
  rw [hn] at hget ⊢
  exact hget

end Json

end MetaLint
