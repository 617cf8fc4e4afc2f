import Mathlib.Data.Nat.Digits.Lemmas
import MetaLint.Jsonc.Parser
import MetaLint.Proofs.ValueForm

/-!
# Tokens of printed values

A scanner of commented JSON passes the blanks of a layout and finds the token that was printed: a
bracket, a quoted text whose escapes it takes back, the digits of an integer or a word.
-/

set_option autoImplicit false

namespace MetaLint.Jsonc

open Json (Value)
open Text (isBlank isDigit isHexDigit digitValue)

section Cursor
variable (c : Cursor) (p : Char → Bool)

@[simp] theorem rest_advance : c.advance.rest = c.rest.tail := by
  rw [Cursor.advance]
  split
  next h => simp [h]
  next a rest h => split <;> simp [h]

@[simp] theorem rest_advanceBy (n : Nat) : (c.advanceBy n).rest = c.rest.drop n := by
  induction n generalizing c with
  | zero => rfl
  | succ n ih => rw [Cursor.advanceBy, ih, rest_advance, List.drop_tail]

theorem drop_length_takeWhile (cs : List Char) :
    cs.drop (cs.takeWhile p).length = cs.dropWhile p := by
  induction cs with
  | nil => rfl
  | cons a cs ih => by_cases h : p a <;> simp [h, ih]

@[simp] theorem rest_passWhile : (c.passWhile p).rest = c.rest.dropWhile p := by
  rw [Cursor.passWhile, rest_advanceBy, drop_length_takeWhile]

theorem nextIs_eq : c.nextIs p = c.rest.head?.elim false p := rfl

end Cursor

def Begins (a : Char) : Prop := isBlank a = false ∧ a ≠ '/'

structure Gap (gap : List Char) (rest : List Char) : Prop where
  blank : ∀ a ∈ gap, isBlank a = true
  begins : ∀ a ∈ rest.head?, Begins a

section Gap
variable {c : Cursor} {gap rest cs : List Char} {a : Char} {t : Token}

theorem passGaps_gap (hg : Gap gap rest) (hc : c.rest = gap ++ rest) (fuel : Nat) :
    ∃ d, passGaps (fuel + 1) c = .ok d ∧ d.rest = rest := by
  have hrest : (c.passWhile isBlank).rest = rest := by
    rw [rest_passWhile, hc, List.dropWhile_append_of_pos hg.blank]
    cases rest with
    | nil => rfl
    | cons a rest => exact List.dropWhile_cons_of_neg (by simp [(hg.begins a rfl).1])
  have hcomment : ∀ b, ['/', b].isPrefixOf (c.passWhile isBlank).rest = false := by
    intro b
    rw [hrest]
    cases rest with
    | nil => rfl
    | cons a rest =>
      have hne : ('/' == a) = false := beq_eq_false_iff_ne.mpr (hg.begins a rfl).2.symm
      rw [List.isPrefixOf, hne, Bool.false_and]
  refine ⟨c.passWhile isBlank, ?_, hrest⟩
  rw [passGaps]
  simp only [hcomment, Bool.false_eq_true, if_false]

/-- Scanning finds a token and leaves what is behind it. -/
def Scans (c : Cursor) (t : Token) (rest : List Char) : Prop :=
  ∃ s, scan c = .ok s ∧ s.token = some t ∧ s.after.rest = rest

theorem scans_of_readToken (hg : Gap gap (a :: cs)) (hc : c.rest = gap ++ a :: cs)
    (h : ∀ d : Cursor, d.rest = a :: cs → ∃ e, readToken d a = .ok (t, e) ∧ e.rest = rest) :
    Scans c t rest := by
  obtain ⟨d, hd, hrest⟩ := passGaps_gap hg hc c.rest.length
  obtain ⟨e, he, hafter⟩ := h d hrest
  refine ⟨⟨some t, d, e⟩, ?_, rfl, hafter⟩
  rw [scan, hd]
  simp only [bind, Except.bind, hrest, he]
  rfl

theorem scan_end (h : ∀ a ∈ c.rest, isBlank a = true) : ∃ s, scan c = .ok s ∧ s.token = none := by
  have hg : Gap c.rest [] := ⟨h, by simp⟩
  obtain ⟨d, hd, hrest⟩ := passGaps_gap hg (List.append_nil _).symm c.rest.length
  refine ⟨⟨none, d, d⟩, ?_, rfl⟩
  rw [scan, hd]
  simp only [bind, Except.bind, hrest]
  rfl

theorem begins_punctuation (h : punctuation? a = some t) : Begins a := by
  have hall : ∀ b ∈ ['\x7b', '\x7d', '[', ']', ':', ','], Begins b := by
    simp only [List.forall_mem_cons, Begins]
    exact ⟨by decide, by decide, by decide, by decide, by decide, by decide, by simp⟩
  obtain ⟨before, after, hlist, -⟩ := List.lookup_eq_some_iff.mp h
  apply hall
  have hchars := congrArg (List.map Prod.fst) hlist
  simp only [List.map_cons, List.map_nil, List.map_append] at hchars
  rw [hchars]
  simp

theorem scans_punctuation (hp : punctuation? a = some t) (hg : ∀ b ∈ gap, isBlank b = true)
    (hc : c.rest = gap ++ a :: rest) : Scans c t rest := by
  refine scans_of_readToken ⟨hg, by simpa using begins_punctuation hp⟩ hc fun d hd => ?_
  refine ⟨d.advance, ?_, by simp [hd]⟩
  rw [readToken, hp]

end Gap

section Texts
variable {c : Cursor} {cs rest : List Char} {x e : Char} (opened : Cursor) (fuel : Nat)
  (done : List Char)

theorem readTextFrom_plain (hc : c.rest = '\\' :: e :: cs) (hu : e ≠ 'u') (hq : e ≠ '\'')
    (he : Json.plainEscape? e = some x) :
    ∃ d, readTextFrom opened '"' (fuel + 1) done c = readTextFrom opened '"' fuel (x :: done) d ∧
      d.rest = cs := by
  refine ⟨c.advance.advance, ?_, by simp [hc]⟩
  rw [readTextFrom]
  simp [hc, hu, hq, he]

theorem hexDigits_of_lt {n : Nat} (h : n < 32) :
    (['0', '0', Json.hexDigit (n / 16), Json.hexDigit n].all isHexDigit) = true ∧
      Text.numberOf 16 ['0', '0', Json.hexDigit (n / 16), Json.hexDigit n] = n := by
  revert h
  revert n
  decide

theorem readTextFrom_hex (hx : x.toNat < 32)
    (hc : c.rest =
      ['\\', 'u', '0', '0', Json.hexDigit (x.toNat / 16), Json.hexDigit x.toNat] ++ cs) :
    ∃ d, readTextFrom opened '"' (fuel + 1) done c = readTextFrom opened '"' fuel (x :: done) d ∧
      d.rest = cs := by
  obtain ⟨hall, hn⟩ := hexDigits_of_lt hx
  have hdigits : hexDigits? c.advance.advance =
      some ['0', '0', Json.hexDigit (x.toNat / 16), Json.hexDigit x.toNat] := by
    simp [hexDigits?, hc, hall]
  have hhigh : Json.isHighSurrogate x.toNat = false := by
    rw [Json.isHighSurrogate, Bool.and_eq_false_iff]
    exact .inl (decide_eq_false (by omega))
  have hlow : Json.isLowSurrogate x.toNat = false := by
    rw [Json.isLowSurrogate, Bool.and_eq_false_iff]
    exact .inl (decide_eq_false (by omega))
  refine ⟨c.advance.advance.advanceBy 4, ?_, by simp [hc]⟩
  rw [readTextFrom]
  simp [hc, readHexEscape, hdigits, hn, hhigh, hlow]

theorem readTextFrom_raw (hq : x ≠ '"') (he : x ≠ '\\') (hc : c.rest = x :: cs) :
    ∃ d, readTextFrom opened '"' (fuel + 1) done c = readTextFrom opened '"' fuel (x :: done) d ∧
      d.rest = cs := by
  refine ⟨c.advance, ?_, by simp [hc]⟩
  rw [readTextFrom]
  simp [hc, hq, he]

theorem readTextFrom_escapeChar (hc : c.rest = Json.escapeChar x ++ cs) :
    ∃ d, readTextFrom opened '"' (fuel + 1) done c = readTextFrom opened '"' fuel (x :: done) d ∧
      d.rest = cs := by
  rw [Json.escapeChar] at hc
  split at hc
  · subst x; exact readTextFrom_plain opened fuel done hc (by decide) (by decide) rfl
  split at hc
  · subst x; exact readTextFrom_plain opened fuel done hc (by decide) (by decide) rfl
  split at hc
  · subst x; exact readTextFrom_plain opened fuel done hc (by decide) (by decide) rfl
  split at hc
  · subst x; exact readTextFrom_plain opened fuel done hc (by decide) (by decide) rfl
  split at hc
  · subst x; exact readTextFrom_plain opened fuel done hc (by decide) (by decide) rfl
  split at hc
  next h =>
    have hx : x = Char.ofNat 8 := by rw [← h, Char.ofNat_toNat]
    exact readTextFrom_plain opened fuel done hc (by decide) (by decide) (by rw [hx]; rfl)
  split at hc
  next h =>
    have hx : x = Char.ofNat 12 := by rw [← h, Char.ofNat_toNat]
    exact readTextFrom_plain opened fuel done hc (by decide) (by decide) (by rw [hx]; rfl)
  split at hc
  next h => exact readTextFrom_hex opened fuel done h hc
  next hq he _ _ _ _ _ _ => exact readTextFrom_raw opened fuel done hq he hc

theorem length_le_escaped (s : List Char) : s.length ≤ (s.flatMap Json.escapeChar).length := by
  induction s with
  | nil => simp
  | cons x s ih =>
    have hx : 0 < (Json.escapeChar x).length := by
      rw [Json.escapeChar]
      repeat' split
      all_goals simp
    rw [List.flatMap_cons, List.length_append, List.length_cons]
    omega

theorem readTextFrom_escaped {s : List Char}
    (hc : c.rest = s.flatMap Json.escapeChar ++ '"' :: rest) (hf : s.length < fuel) :
    ∃ d, readTextFrom opened '"' fuel done c = .ok (String.ofList (done.reverse ++ s), d) ∧
      d.rest = rest := by
  induction s generalizing fuel done c with
  | nil =>
    obtain ⟨fuel, rfl⟩ := Nat.exists_eq_succ_of_ne_zero (Nat.ne_of_gt hf)
    refine ⟨c.advance, ?_, by simp [hc]⟩
    rw [readTextFrom]
    simp [hc]
  | cons x s ih =>
    obtain ⟨fuel, rfl⟩ := Nat.exists_eq_succ_of_ne_zero (Nat.ne_zero_of_lt hf)
    rw [List.flatMap_cons, List.append_assoc] at hc
    obtain ⟨d, hd, hrest⟩ := readTextFrom_escapeChar opened fuel done hc
    obtain ⟨e, he, hafter⟩ := ih fuel (x :: done) hrest (Nat.lt_of_succ_lt_succ hf)
    refine ⟨e, ?_, hafter⟩
    rw [hd, he]
    simp

theorem scans_quoted {gap : List Char} {s : String} (hg : ∀ a ∈ gap, isBlank a = true)
    (hc : c.rest = gap ++ (Json.quoted s).toList ++ rest) : Scans c (.text s) rest := by
  have hc : c.rest = gap ++ '"' :: (s.toList.flatMap Json.escapeChar ++ '"' :: rest) := by
    rw [hc]
    simp [Json.quoted]
  refine scans_of_readToken ⟨hg, by simp [Begins]; decide⟩ hc fun d hd => ?_
  have hrest : d.advance.rest = s.toList.flatMap Json.escapeChar ++ '"' :: rest := by simp [hd]
  have hfuel : s.toList.length < d.rest.length := by
    have hle := length_le_escaped s.toList
    rw [hd, List.length_cons, List.length_append]
    omega
  obtain ⟨e, he, hafter⟩ := readTextFrom_escaped d d.rest.length [] hrest hfuel
  refine ⟨e, ?_, hafter⟩
  rw [readToken]
  simp [show punctuation? '"' = none from rfl, he, Except.map]

end Texts

/-- What follows a number or a word in a layout: the end, a comma or a new line. -/
def Stops (rest : List Char) : Prop := ∀ a ∈ rest.head?, a = ',' ∨ a = '\n'

theorem Stops.nextIs {c : Cursor} {p : Char → Bool} (h : Stops c.rest) (hc : p ',' = false)
    (hn : p '\n' = false) : c.nextIs p = false := by
  rw [nextIs_eq]
  cases hr : c.rest with
  | nil => rfl
  | cons a rest =>
    rw [hr] at h
    rcases h a rfl with rfl | rfl
    · exact hc
    · exact hn

section Numbers
variable {c d : Cursor} {n : Nat} {rest : List Char}

theorem isDigit_of_mem {a : Char} (h : a ∈ Nat.toDigits 10 n) : isDigit a = true := by
  have hd : a.isDigit = true := Nat.isDigit_of_mem_toDigits (by decide) (by decide) h
  simpa [isDigit, Char.isDigit, Char.le_def] using hd

theorem head_toDigits (h : 0 < n) : ∃ a ds, Nat.toDigits 10 n = a :: ds ∧ a ≠ '0' := by
  induction n using Nat.strongRecOn with
  | ind n ih =>
    rw [Nat.toDigits_eq_if (by decide)]
    split
    next hlt =>
      refine ⟨_, _, rfl, ?_⟩
      interval_cases n <;> decide
    next hge =>
      obtain ⟨a, ds, hds, ha⟩ := ih (n / 10) (by omega) (by omega)
      exact ⟨a, ds ++ [_], by rw [hds]; rfl, ha⟩

theorem passDecimals_stops (h : Stops c.rest) : passDecimals c = .ok c := by
  rw [passDecimals, h.nextIs (by decide) (by decide)]
  rfl

theorem passExponent_stops (h : Stops c.rest) : passExponent c = .ok c := by
  rw [passExponent, h.nextIs (by decide) (by decide)]
  rfl

theorem dropWhile_digits (h : Stops rest) :
    (Nat.toDigits 10 n ++ rest).dropWhile isDigit = rest := by
  rw [List.dropWhile_append_of_pos fun a ha => isDigit_of_mem ha]
  cases rest with
  | nil => rfl
  | cons a rest =>
    apply List.dropWhile_cons_of_neg
    rcases h a rfl with rfl | rfl <;> decide

theorem passNumber_digits (hd : d = if c.nextIs isSign then c.advance else c)
    (hr : d.rest = Nat.toDigits 10 n ++ rest) (hs : Stops rest) :
    ∃ e, passNumber c = .ok e ∧ e.rest = rest := by
  rw [passNumber]
  simp only [← hd]
  rcases Nat.eq_zero_or_pos n with rfl | hn
  · have hafter : d.advance.rest = rest := by simp [hr]
    rw [← hafter] at hs
    refine ⟨d.advance, ?_, hafter⟩
    have hzero : d.nextIs (· == '0') = true := by simp [nextIs_eq, hr]
    simp only [hzero, if_true, hs.nextIs (p := fun a => a == 'x' || a == 'X') rfl rfl,
      Bool.false_eq_true, if_false, passDecimals_stops hs]
    exact passExponent_stops hs
  · obtain ⟨a, ds, hds, ha⟩ := head_toDigits hn
    have hafter : (d.passWhile isDigit).rest = rest := by
      rw [rest_passWhile, hr, dropWhile_digits hs]
    have hdigit : isDigit a = true := isDigit_of_mem (n := n) (by simp [hds])
    rw [← hafter] at hs
    refine ⟨d.passWhile isDigit, ?_, hafter⟩
    have hzero : d.nextIs (· == '0') = false := by simp [nextIs_eq, hr, hds, ha]
    have hnext : d.nextIs isDigit = true := by simp [nextIs_eq, hr, hds, hdigit]
    simp only [hzero, hnext, if_true, Bool.false_eq_true, if_false, passDecimals_stops hs]
    exact passExponent_stops hs

def signText (i : Int) : List Char := if i < 0 then ['-'] else []

theorem toList_intText (i : Int) :
    (Json.intText i).toList = signText i ++ Nat.toDigits 10 i.natAbs := by
  rw [Json.intText, signText]
  split
  next h => simp [Json.digitsText, show (-i).toNat = i.natAbs by omega]
  next h => simp [Json.digitsText, show i.toNat = i.natAbs by omega]

theorem exists_number_eq (i : Int) :
    ∃ a cs, (Json.intText i).toList = a :: cs ∧ (isSign a || isDigit a) = true := by
  rw [toList_intText, signText]
  split
  · exact ⟨'-', _, rfl, rfl⟩
  · obtain ⟨a, ds, hds⟩ := List.exists_cons_of_ne_nil
      (Nat.toDigits_ne_nil (n := i.natAbs) (b := 10))
    refine ⟨a, ds, by rw [hds]; rfl, ?_⟩
    rw [isDigit_of_mem (n := i.natAbs) (by simp [hds]), Bool.or_true]

theorem begins_number {a : Char} (h : (isSign a || isDigit a) = true) :
    Begins a ∧ punctuation? a = none ∧ a ≠ '"' ∧ a ≠ '\'' := by
  have hcodes : ∀ n < 58, (isSign (Char.ofNat n) || isDigit (Char.ofNat n)) = true →
      (isBlank (Char.ofNat n) = false ∧ Char.ofNat n ≠ '/') ∧
        punctuation? (Char.ofNat n) = none ∧ Char.ofNat n ≠ '"' ∧ Char.ofNat n ≠ '\'' := by
    decide
  have hcode : a.toNat < 58 := by
    simp only [isSign, isDigit, Bool.or_eq_true, beq_iff_eq, Bool.and_eq_true,
      decide_eq_true_eq] at h
    rcases h with (rfl | rfl) | ⟨-, h⟩
    · decide
    · decide
    · exact Nat.lt_succ_of_le h
  have ha := hcodes a.toNat hcode
  rw [Char.ofNat_toNat] at ha
  exact ha h

theorem isSign_of_isDigit {a : Char} (h : isDigit a = true) : isSign a = false := by
  rw [isSign, Bool.or_eq_false_iff, beq_eq_false_iff_ne, beq_eq_false_iff_ne]
  constructor <;>
  · rintro rfl
    revert h
    decide

theorem rest_of_signText {i : Int}
    (h : c.rest = signText i ++ Nat.toDigits 10 n ++ rest) :
    (if c.nextIs isSign then c.advance else c).rest = Nat.toDigits 10 n ++ rest := by
  rw [signText] at h
  split at h
  · have hsign : c.nextIs isSign = true := by simp [nextIs_eq, h, isSign]
    rw [if_pos hsign, rest_advance, h]
    rfl
  · obtain ⟨a, ds, hds⟩ := List.exists_cons_of_ne_nil (Nat.toDigits_ne_nil (n := n) (b := 10))
    have hdigit : isDigit a = true := isDigit_of_mem (n := n) (by simp [hds])
    have hsign : c.nextIs isSign = false := by
      simp [nextIs_eq, h, hds, isSign_of_isDigit hdigit]
    rw [if_neg (by simp [hsign]), h]
    rfl

theorem scans_int {gap : List Char} (i : Int) (hg : ∀ a ∈ gap, isBlank a = true) (hs : Stops rest)
    (hc : c.rest = gap ++ (Json.intText i).toList ++ rest) :
    Scans c (.number (Json.intText i)) rest := by
  obtain ⟨a, cs, hcs, ha⟩ := exists_number_eq i
  obtain ⟨hbegins, hpunctuation, hquote, happly⟩ := begins_number ha
  rw [hcs, List.append_assoc] at hc
  refine scans_of_readToken ⟨hg, by simpa using hbegins⟩ hc fun d hd => ?_
  have hrest : d.rest = signText i ++ Nat.toDigits 10 i.natAbs ++ rest := by
    rw [hd, ← toList_intText, hcs]
    rfl
  obtain ⟨e, he, hafter⟩ := passNumber_digits rfl (rest_of_signText hrest) hs
  refine ⟨e, ?_, hafter⟩
  have hbetween : between d e = (Json.intText i).toList := by
    rw [between, hafter, hrest, ← toList_intText]
    simp
  rw [readToken, hpunctuation]
  simp [hquote, happly, hbegins.2, ha, he, Except.map, hbetween]

end Numbers

section Values
variable {c : Json.Cursor} {n : Nat}

theorem rest_json_advance (c : Json.Cursor) : c.advance.rest = c.rest.tail := by
  rw [Json.Cursor.advance.eq_def]
  split
  next h => simp [h]
  next h => simp [h]
  next h => simp [h]

theorem le_ofDigitChars (ds : List Char) (m : Nat) : m ≤ Nat.ofDigitChars 10 ds m := by
  induction ds generalizing m with
  | nil => exact Nat.le_refl m
  | cons a ds ih =>
    rw [Nat.ofDigitChars_cons]
    have hle := ih (10 * m + (a.toNat - '0'.toNat))
    omega

theorem gather_digits {ds : List Char} (hd : ∀ a ∈ ds, isDigit a = true)
    (line column significand used : Nat)
    (hlt : Nat.ofDigitChars 10 ds significand < UInt64.size) :
    ∃ count d, Json.gather line column significand used ds =
      (Nat.ofDigitChars 10 ds significand, count, false, d) ∧ d.rest = [] := by
  induction ds generalizing line column significand used with
  | nil => exact ⟨_, _, rfl, rfl⟩
  | cons a ds ih =>
    obtain ⟨ha, hds⟩ := List.forall_mem_cons.mp hd
    rw [Nat.ofDigitChars_cons, Nat.mul_comm] at hlt ⊢
    have hnext : significand * 10 + digitValue a < UInt64.size :=
      Nat.lt_of_le_of_lt (le_ofDigitChars ds _) hlt
    rw [Json.gather]
    simp only [ha, if_true, hnext]
    exact ih hds _ _ _ _ hlt

theorem readNumber_digits (hc : c.rest = Nat.toDigits 10 n) (hn : n < UInt64.size)
    (positive : Bool) :
    ∃ d, Json.readNumber c positive = Json.readTail d positive n ∧ d.rest = [] := by
  rw [Json.readNumber]
  rcases Nat.eq_zero_or_pos n with rfl | hpos
  · have hrest : c.advance.rest = [] := by rw [rest_json_advance, hc]; rfl
    refine ⟨c.advance, ?_, hrest⟩
    simp [hc, Json.nextIs, hrest]
  · obtain ⟨a, ds, hds, ha⟩ := head_toDigits hpos
    have hall : ∀ b ∈ c.rest, isDigit b = true := fun b hb => isDigit_of_mem (n := n) (hc ▸ hb)
    have hvalue : Nat.ofDigitChars 10 c.rest 0 = n := by
      rw [hc, Nat.ofDigitChars_ten_toDigits]
    obtain ⟨count, d, hgather, hrest⟩ := gather_digits hall c.line c.column 0 0 (by rwa [hvalue])
    refine ⟨d, ?_, hrest⟩
    rw [hvalue] at hgather
    split
    next h => simp [hc, hds] at h
    next b rest h =>
      obtain ⟨rfl, -⟩ : a = b ∧ ds = rest := by simpa [hc, hds] using h
      have hdigit : isDigit a = true := hall a (by simp [h])
      simp only [ha, hdigit, hgather, if_true, if_false, Bool.false_eq_true]

theorem readTail_end {d : Json.Cursor} (hd : d.rest = []) :
    Json.readTail d true n = .ok (.int n, d) := by
  simp [Json.readTail, Json.nextIs, hd]

theorem readTail_end_minus {d : Json.Cursor} (hd : d.rest = []) (hpos : 0 < n)
    (hn : n ≤ 0x8000000000000000) :
    Json.readTail d false n = .ok (.int (-(n : Int)), d) := by
  have hlarge : ¬ Nat.pow 2 63 < n := Nat.not_lt.mpr hn
  simp [Json.readTail, Json.nextIs, hd, Nat.ne_of_gt hpos, hlarge]

theorem parseNumber?_intText {i : Int} (h : Value.InRange i) :
    Json.parseNumber? (Json.intText i).toList = some (.int i) := by
  obtain ⟨hlow, hhigh⟩ := h
  have hsize : i.natAbs < UInt64.size := by
    rw [UInt64.size]
    omega
  rw [Json.parseNumber?, toList_intText]
  rcases lt_or_ge i 0 with hneg | hpos
  · obtain ⟨d, hd, hrest⟩ := readNumber_digits
      (c := Json.Cursor.advance ⟨'-' :: Nat.toDigits 10 i.natAbs, 1, 0⟩) rfl hsize false
    have hminus : -(i.natAbs : Int) = i := by omega
    rw [readTail_end_minus hrest (by omega) (by omega), hminus] at hd
    simp [signText, hneg, Json.nextIs, hd, hrest]
  · obtain ⟨d, hd, hrest⟩ := readNumber_digits
      (c := ⟨Nat.toDigits 10 i.natAbs, 1, 0⟩) rfl hsize true
    have hplus : (i.natAbs : Int) = i := by omega
    rw [readTail_end hrest, hplus] at hd
    obtain ⟨a, ds, hds⟩ := List.exists_cons_of_ne_nil
      (Nat.toDigits_ne_nil (n := i.natAbs) (b := 10))
    have hdigit : isDigit a = true := isDigit_of_mem (n := i.natAbs) (by simp [hds])
    have hminus : a ≠ '-' := by
      rintro rfl
      contradiction
    rw [hds] at hd ⊢
    simp [signText, Int.not_lt.mpr hpos, Json.nextIs, hd, hrest, hminus]

theorem mem_intText {i : Int} {a : Char} (h : a ∈ (Json.intText i).toList) :
    a ≠ 'x' ∧ a ≠ 'X' ∧ a ≠ '+' := by
  rw [toList_intText, List.mem_append, signText] at h
  have ha : a = '-' ∨ isDigit a = true := by
    refine h.imp (fun h => ?_) isDigit_of_mem
    split at h
    · exact List.mem_singleton.mp h
    · contradiction
  rcases ha with rfl | ha
  · decide
  · refine ⟨?_, ?_, ?_⟩ <;>
    · rintro rfl
      contradiction

theorem numberValue_intText {i : Int} (h : Value.InRange i) :
    numberValue (Json.intText i) = .number (.int i) := by
  have hhex : isHexSpelling (Json.intText i).toList = false := by
    rw [isHexSpelling, List.any_eq_false]
    intro a ha
    have hne := mem_intText ha
    simp [hne.1, hne.2.1]
  have hplus : (Json.intText i).toList.head? ≠ some '+' := fun ha =>
    (mem_intText (List.mem_of_head? ha)).2.2 rfl
  rw [numberValue]
  simp [hhex, hplus, parseNumber?_intText h]

end Values

section Words
variable {c : Cursor} {gap rest : List Char}

theorem passKeyword?_stops (keyword : String) (hc : c.rest = keyword.toList ++ rest)
    (hs : Stops rest) : ∃ d, passKeyword? keyword c = some d ∧ d.rest = rest := by
  have hrest : (c.advanceBy keyword.toList.length).rest = rest := by simp [hc]
  refine ⟨_, ?_, hrest⟩
  rw [← hrest] at hs
  simp [passKeyword?, hc, hs.nextIs (p := Unicode.isLetterOrDigit) (by decide) (by decide)]

theorem passKeyword?_of_ne (keyword : String) {a b : Char} {cs ds : List Char}
    (hc : c.rest = a :: cs) (hk : keyword.toList = b :: ds) (hne : b ≠ a) :
    passKeyword? keyword c = none := by
  simp [passKeyword?, hc, hk, hne]

theorem scans_true (hg : ∀ a ∈ gap, isBlank a = true) (hs : Stops rest)
    (hc : c.rest = gap ++ "true".toList ++ rest) : Scans c (.bool true) rest := by
  rw [List.append_assoc] at hc
  refine scans_of_readToken (a := 't') ⟨hg, by simp [Begins]; decide⟩ hc fun d hd => ?_
  obtain ⟨e, he, hafter⟩ := passKeyword?_stops "true" hd hs
  refine ⟨e, ?_, hafter⟩
  rw [readToken]
  simp only [he]
  rfl

theorem scans_false (hg : ∀ a ∈ gap, isBlank a = true) (hs : Stops rest)
    (hc : c.rest = gap ++ "false".toList ++ rest) : Scans c (.bool false) rest := by
  rw [List.append_assoc] at hc
  refine scans_of_readToken (a := 'f') ⟨hg, by simp [Begins]; decide⟩ hc fun d hd => ?_
  obtain ⟨e, he, hafter⟩ := passKeyword?_stops "false" hd hs
  refine ⟨e, ?_, hafter⟩
  rw [readToken]
  simp only [he, passKeyword?_of_ne "true" hd rfl (by decide)]
  rfl

theorem scans_null (hg : ∀ a ∈ gap, isBlank a = true) (hs : Stops rest)
    (hc : c.rest = gap ++ "null".toList ++ rest) : Scans c .null rest := by
  rw [List.append_assoc] at hc
  refine scans_of_readToken (a := 'n') ⟨hg, by simp [Begins]; decide⟩ hc fun d hd => ?_
  obtain ⟨e, he, hafter⟩ := passKeyword?_stops "null" hd hs
  refine ⟨e, ?_, hafter⟩
  rw [readToken]
  simp only [he, passKeyword?_of_ne "true" hd rfl (by decide),
    passKeyword?_of_ne "false" hd rfl (by decide)]
  rfl

end Words

end MetaLint.Jsonc
