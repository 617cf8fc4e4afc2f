import MetaLint.Config.Document
import MetaLint.Proofs.ValueForm

/-!
# Values of documents

What is read from a commented document is well formed: an object gets its members in order when it
ends, and a number that does not fit becomes a fraction or a text.
-/

set_option autoImplicit false

namespace MetaLint

def Yields {ε γ α : Type} (P : α → Prop) (r : Except ε (α × γ)) : Prop :=
  ∀ a c, r = .ok (a, c) → P a

section Yields
variable {ε γ α : Type} {P : α → Prop}

theorem yields_ok {a : α} (h : P a) (c : γ) : Yields P (.ok (a, c) : Except ε (α × γ)) := by
  intro b d he
  obtain ⟨rfl, -⟩ := Prod.mk.inj (Except.ok.inj he)
  exact h

theorem yields_error (e : ε) : Yields P (.error e : Except ε (α × γ)) := nofun

end Yields

namespace Json

open Value (InForm InRange)

section Flaws
variable {α : Type} {P : α → Prop} (c : Cursor) (flaw : Flaw)

theorem yields_flawHere : Yields P (c.flawHere flaw : Read α) := yields_error _

theorem yields_flawNext : Yields P (c.flawNext flaw : Read α) := by
  rw [Cursor.flawNext]
  split <;> exact yields_error _

end Flaws

/-! ## Numbers -/

def Number.Fits (n : Number) : Prop := InForm (.number n)

section Numbers
variable (c : Cursor) (positive : Bool) (significand : Nat)

theorem fits_fraction? {exponent : Int} {n : Number}
    (h : fraction? positive significand exponent = some n) : n.Fits := by
  rw [fraction?] at h
  simp only at h
  repeat' split at h
  all_goals first | contradiction | (obtain rfl := Option.some.inj h; trivial)

theorem yields_fractionAt (exponent : Int) :
    Yields Number.Fits (fractionAt c positive significand exponent) := by
  rw [fractionAt]
  split
  next h => exact yields_ok (fits_fraction? positive significand h) c
  next => exact yields_flawHere c _

theorem yields_readExponent (start : Int) :
    Yields Number.Fits (readExponent c positive significand start) := by
  rw [readExponent]
  simp only
  generalize (if (nextIs c.advance (· == '-') || nextIs c.advance (· == '+')) = true
    then c.advance.advance else c.advance) = after
  split
  · exact yields_flawHere _ _
  · split
    · exact yields_flawNext _ _
    · split
      · exact yields_fractionAt _ _ _ _
      · split
        · exact yields_flawHere _ _
        · exact yields_ok True.intro _

theorem yields_finish (value : Nat) (exponent : Int) :
    Yields Number.Fits (readDecimals.finish positive c value exponent) := by
  rw [readDecimals.finish]
  split
  · exact yields_readExponent _ _ _ _
  · exact yields_fractionAt _ _ _ _

theorem yields_readDecimals (start : Int) :
    Yields Number.Fits (readDecimals c positive significand start) := by
  rw [readDecimals]
  simp only
  split
  · exact yields_finish _ _ _ _
  · split
    · split <;> exact yields_flawNext _ _
    · exact yields_finish _ _ _ _

theorem yields_readTail (h : significand < UInt64.size) :
    Yields Number.Fits (readTail c positive significand) := by
  rw [UInt64.size] at h
  rw [readTail]
  split
  · exact yields_readDecimals _ _ _ _
  · split
    · exact yields_readExponent _ _ _ _
    · split
      · apply yields_ok
        show InRange significand
        constructor <;> omega
      · split
        · exact yields_ok True.intro _
        next hlarge =>
          apply yields_ok
          show InRange (-(significand : Int))
          simp only [Bool.or_eq_true, decide_eq_true_eq, not_or, Nat.not_lt] at hlarge
          have hsmall : significand ≤ 0x8000000000000000 := hlarge.2
          constructor <;> omega

theorem gather_lt (cs : List Char) (line column used : Nat) (h : significand < UInt64.size) :
    (gather line column significand used cs).1 < UInt64.size := by
  induction cs generalizing line column significand used with
  | nil => exact h
  | cons a rest ih =>
    rw [gather]
    split
    · simp only
      split
      next hnext => exact ih _ _ _ _ hnext
      next => exact h
    · exact h

theorem yields_readNumber : Yields Number.Fits (readNumber c positive) := by
  rw [readNumber]
  split
  · exact yields_flawHere _ _
  next a rest hrest =>
    split
    · split
      · exact yields_flawNext _ _
      · exact yields_readTail _ _ _ (by decide)
    · split
      · have hlt := gather_lt 0 c.rest c.line c.column 0 (by decide)
        simp only
        split
        · split
          · exact yields_readDecimals _ _ _ _
          · split
            · exact yields_readExponent _ _ _ _
            · exact yields_fractionAt _ _ _ _
        · exact yields_readTail _ _ _ hlt
      · exact yields_flawNext _ _

end Numbers

theorem fits_parseNumber? {text : List Char} {n : Number} (h : parseNumber? text = some n) :
    n.Fits := by
  rw [parseNumber?] at h
  split at h
  next n' c hread =>
    split at h
    · obtain rfl := Option.some.inj h
      split at hread
      · exact yields_readNumber _ _ _ _ hread
      · exact yields_readNumber _ _ _ _ hread
    · contradiction
  next => contradiction

end Json

namespace Jsonc

open Json (Value Members)
open Json.Value (InRange WellFormed)

theorem fits_hexNumber? {spelling : List Char} {n : Json.Number}
    (h : hexNumber? spelling = some n) : n.Fits := by
  rw [hexNumber?] at h
  split at h
  next x digits _ =>
    split at h
    · dsimp only at h
      obtain ⟨hsmall, hn⟩ := Option.ite_none_right_eq_some.mp h
      obtain rfl := Option.some.inj hn
      have hsmall : Text.numberOf 16 digits < 0x8000000000000000 := hsmall
      have hplus : InRange (Text.numberOf 16 digits) := by constructor <;> omega
      have hminus : InRange (-(Text.numberOf 16 digits : Int)) := by constructor <;> omega
      show InRange (if _ then _ else _)
      split
      · exact hminus
      · exact hplus
    · contradiction
  next => contradiction

theorem wellFormed_numberValue (spelling : String) : (numberValue spelling).WellFormed := by
  rw [numberValue]
  split
  next n h =>
    rw [WellFormed, Value.everywhere_number]
    split at h
    · exact fits_hexNumber? h
    · exact Json.fits_parseNumber? h
  next =>
    exact Value.wellFormed_text spelling

theorem yields_refuse {α γ : Type} {P : α → Prop} (c : Cursor) (flaw : Flaw) :
    Yields P (c.refuse flaw : Except ParseError (α × γ)) := yields_error _

structure YieldsWellFormed (fuel : Nat) : Prop where
  value : ∀ token start c, Yields WellFormed (readValue fuel token start c)
  items : ∀ opened done s, (∀ v ∈ done, v.WellFormed) →
    Yields WellFormed (readItems fuel opened done s)
  members : ∀ opened done s, (∀ m ∈ done, m.2.WellFormed) →
    Yields WellFormed (readMembers fuel opened done s)
  member : ∀ c, Yields WellFormed (readMember fuel c)

section Step
variable {fuel : Nat} (h : YieldsWellFormed fuel)
include h

theorem yields_readValue (token : Token) (start c : Cursor) :
    Yields WellFormed (readValue (fuel + 1) token start c) := by
  cases token with
  | openBrace =>
    rw [readValue]
    split
    · exact h.members _ _ _ (by simp)
    · exact yields_error _
  | openBracket =>
    rw [readValue]
    split
    · exact h.items _ _ _ (by simp)
    · exact yields_error _
  | text s =>
    rw [readValue]
    exact yields_ok (Value.wellFormed_text s) c
  | number spelling =>
    rw [readValue]
    exact yields_ok (wellFormed_numberValue spelling) c
  | bool b =>
    rw [readValue]
    exact yields_ok (Value.wellFormed_bool b) c
  | null =>
    rw [readValue]
    exact yields_ok (Value.everywhere_null.mpr trivial) c
  | closeBrace => rw [readValue]; exact yields_refuse _ _
  | closeBracket => rw [readValue]; exact yields_refuse _ _
  | colon => rw [readValue]; exact yields_refuse _ _
  | comma => rw [readValue]; exact yields_refuse _ _
  | word s => rw [readValue]; exact yields_refuse _ _

theorem yields_readItems (opened : Cursor) {done : List Value} (s : Scanned)
    (hdone : ∀ v ∈ done, v.WellFormed) :
    Yields WellFormed (readItems (fuel + 1) opened done s) := by
  rw [readItems]
  split
  · exact yields_refuse _ _
  · apply yields_ok
    exact Value.everywhere_list.mpr ⟨trivial, fun v hv => hdone v (List.mem_reverse.mp hv)⟩
  next token _ _ =>
    split
    · exact yields_error _
    next v c hv =>
      split
      · exact h.items _ _ _ (List.forall_mem_cons.mpr ⟨h.value _ _ _ _ _ hv, hdone⟩)
      · exact yields_error _

theorem yields_readMembers (opened : Cursor) {done : Members} (s : Scanned)
    (hdone : ∀ m ∈ done, m.2.WellFormed) :
    Yields WellFormed (readMembers (fuel + 1) opened done s) := by
  rw [readMembers]
  split
  case h_1 => exact yields_refuse _ _
  case h_2 =>
    exact yields_ok (Value.wellFormed_ofMembers fun m hm => hdone m (List.mem_reverse.mp hm)) _
  case h_6 => exact yields_refuse _ _
  -- A key is a text, a word or a number; a member and the rest follow it in each case.
  all_goals
    split
    · exact yields_error _
    next v c hv =>
      split
      · exact h.members _ _ _ (List.forall_mem_cons.mpr ⟨h.member _ _ _ hv, hdone⟩)
      · exact yields_error _

theorem yields_readMember (c : Cursor) : Yields WellFormed (readMember (fuel + 1) c) := by
  rw [readMember]
  split
  · exact yields_error _
  · split
    · split
      · exact yields_error _
      · split
        · exact yields_refuse _ _
        · exact h.value _ _ _
    · exact yields_refuse _ _

end Step

theorem yieldsWellFormed (fuel : Nat) : YieldsWellFormed fuel := by
  induction fuel with
  | zero =>
    refine ⟨?_, ?_, ?_, ?_⟩
    · intro token start c
      rw [readValue]
      exact yields_refuse _ _
    · intro opened done s _
      rw [readItems]
      exact yields_refuse _ _
    · intro opened done s _
      rw [readMembers]
      exact yields_refuse _ _
    · intro c
      rw [readMember]
      exact yields_refuse _ _
  | succ fuel ih =>
    exact ⟨yields_readValue ih, fun opened done s => yields_readItems ih opened s,
      fun opened done s => yields_readMembers ih opened s, yields_readMember ih⟩

/-- The value of a document is well formed. -/
theorem wellFormed_parse {text : List Char} {v : Value} (h : parse text = .ok (some v)) :
    v.WellFormed := by
  rw [parse] at h
  cases hs : scan { rest := text } with
  | error e => simp [hs, bind, Except.bind] at h
  | ok s =>
    cases ht : s.token with
    | none => simp [hs, ht, bind, Except.bind, pure, Except.pure] at h
    | some token =>
      cases hv : readValue (2 * text.length + 2) token s.start s.after with
      | error e => simp [hs, ht, hv, bind, Except.bind] at h
      | ok read =>
        obtain ⟨w, c⟩ := read
        cases hend : scan c with
        | error e => simp [hs, ht, hv, hend, bind, Except.bind] at h
        | ok last =>
          cases hlast : last.token with
          | some more =>
            simp [hs, ht, hv, hend, hlast, bind, Except.bind, Cursor.refuse] at h
          | none =>
            simp only [hs, ht, hv, hend, hlast, bind, Except.bind, pure, Except.pure,
              Except.ok.injEq, Option.some.injEq] at h
            rw [← h]
            exact (yieldsWellFormed _).value _ _ _ _ _ hv

end Jsonc

theorem Config.wellFormed_documentValue {text : String} {v : Json.Value}
    (h : Config.documentValue text = .ok v) : v.WellFormed := by
  rw [Config.documentValue] at h
  split at h
  next v? hparse =>
    obtain rfl := Except.ok.inj h
    cases v? with
    | some w => exact Jsonc.wellFormed_parse hparse
    | none =>
      rw [Option.getD_none]
      exact Json.Value.everywhere_object.mpr ⟨List.Pairwise.nil, by simp⟩
  next => contradiction

end MetaLint
