import Mathlib
import MetaLint.Proofs.DirectiveGrammar
import MetaLint.Proofs.OrderedMatch

/-!
# The pattern of directives

Directives are those lines in which a pattern matches, and the group of the match is the list of
targets. The scanner finds this match: blanks before the keyword are passed as a whole, for none of
them is a letter, and the list is the longest there is.
-/

set_option autoImplicit false

namespace MetaLint.Suppression

open Text
open Pattern (Regex Stage)
open Unicode (CharSet)

/-- The pattern of directives. Its group holds the targets. -/
def directivePattern : String := "(?i)#\\s*noqa\\b(?::\\s*(?P<codes>[^#]*))?"

def letter (l : Char) : Regex := .set [(l.toNat - 32, l.toNat - 32), (l.toNat, l.toNat)]

def blanks : Regex := .star (.set Unicode.Trait.whiteSpace)

def notSign : CharSet := (CharSet.single '#').complement

def listRegex : Regex :=
  .seq [.set (.single ':'), blanks, .captured (.star (.set notSign))]

def keywordParts : List Regex :=
  [letter 'n', letter 'o', letter 'q', letter 'a', .look (.boundary false), .optional listRegex]

def directiveRegex : Regex := .seq (.empty :: .set (.single '#') :: blanks :: keywordParts)

theorem regexOf_directivePattern : Pattern.regexOf directivePattern = .ok directiveRegex := by
  cbv

theorem holds_letter {l : Char} (h : 97 ≤ l.toNat ∧ l.toNat ≤ 122) (c : Char) :
    CharSet.holds [(l.toNat - 32, l.toNat - 32), (l.toNat, l.toNat)] c = (c.toLower == l) := by
  rw [Bool.eq_iff_iff, beq_iff_eq, toLower_eq_iff h, CharSet.holds_iff]
  simp
  omega

theorem holds_whiteSpace : Unicode.Trait.whiteSpace.holds = isBlank := by
  funext c
  rw [Bool.eq_iff_iff, CharSet.holds_iff]
  simp [Unicode.Trait.whiteSpace, isBlank]
  omega

theorem holds_notSign : notSign.holds = (· != '#') := by
  funext c
  have hsign : c = '#' ↔ c.toNat = 35 := Char.toNat_inj.symm
  have hvalid : c.toNat < 0xD800 ∨ (0xDFFF < c.toNat ∧ c.toNat < 0x110000) := c.valid
  rw [Bool.eq_iff_iff, bne_iff_ne, CharSet.holds_iff, ne_eq, hsign]
  have hset : notSign = [(0, 34), (36, 0x10FFFF)] := by decide
  simp [hset]
  omega

def list? : List Char → Option (List Char)
  | ':' :: rest => some ((rest.dropWhile isBlank).takeWhile (· != '#'))
  | _ => none

theorem list?_of_ne {c : Char} {rest : List Char} (h : c ≠ ':') : list? (c :: rest) = none := by
  rw [list?.eq_def]
  split
  next he => exact absurd (List.cons.inj he).1 h
  next => rfl

theorem waysSeq_letter {l : Char} (h : 97 ≤ l.toNat ∧ l.toNat ≤ 122) {rs : List Regex}
    {before : Option Char} {groups : List (List Char)} {c : Char} {rest : List Char} :
    Regex.waysSeq (letter l :: rs) ⟨before, c :: rest, groups⟩ =
      if c.toLower == l then Regex.waysSeq rs ⟨some c, rest, groups⟩ else [] := by
  rw [Regex.waysSeq, letter, Regex.ways, Pattern.passSet_cons, holds_letter h]
  split <;> simp

theorem groups_list (before : Option Char) (text : List Char) (groups : List (List Char)) :
    ((Regex.ways listRegex ⟨before, text, groups⟩).head?).map Stage.groups =
      (list? text).map (· :: groups) := by
  cases text with
  | nil => rfl
  | cons c rest =>
    have hcolon : Regex.ways listRegex ⟨before, c :: rest, groups⟩ =
        if (CharSet.single ':').holds c then
          Regex.waysSeq [blanks, .captured (.star (.set notSign))] ⟨some c, rest, groups⟩
        else [] := by
      rw [listRegex, Regex.ways, Regex.waysSeq, Regex.ways, Pattern.passSet_cons]
      split <;> simp
    rw [hcolon]
    by_cases hc : c = ':'
    · subst hc
      -- Both runs are greedy, and nothing behind them can fail, so that they are passed as a whole.
      obtain ⟨before, others, hstops⟩ :=
        Pattern.stops_eq Unicode.Trait.whiteSpace groups (some ':') rest
      obtain ⟨last, more, hlist⟩ := Pattern.ways_captured_star notSign groups before
        (rest.dropWhile Unicode.Trait.whiteSpace.holds)
      rw [if_pos (by simp), Regex.waysSeq, blanks, Pattern.ways_star, hstops, List.flatMap_cons,
        Regex.waysSeq, hlist, holds_whiteSpace, holds_notSign]
      rfl
    · rw [if_neg (by simpa using hc), list?_of_ne hc]
      rfl

theorem isWord_of_toLower {c : Char} (h : c.toLower = 'a') : Unicode.isWord c = true := by
  rw [toLower_eq_iff (by decide)] at h
  rcases h with h | h
  · rw [show c = 'A' from Char.toNat_inj.mp h]
    decide
  · rw [show c = 'a' from Char.toNat_inj.mp h]
    decide

theorem groups_behind {c : Char} (h : c.toLower = 'a') (text : List Char)
    (groups : List (List Char)) :
    ((Regex.waysSeq [.look (.boundary false), .optional listRegex]
      ⟨some c, text, groups⟩).head?).map Stage.groups =
      if Unicode.isWordAt text.head? then none else some ((list? text).toList ++ groups) := by
  have hlook : Pattern.Look.holds (.boundary false) (some c) text.head? =
      !Unicode.isWordAt text.head? := by
    show (Unicode.isWord c != Unicode.isWordAt text.head?) = !Unicode.isWordAt text.head?
    rw [isWord_of_toLower h, Bool.true_bne]
  rw [Regex.waysSeq, Regex.ways, Stage.look, hlook]
  cases Unicode.isWordAt text.head? with
  | true => rfl
  | false =>
    -- The list is preferred to passing nothing.
    have hlist := groups_list (some c) text groups
    have hoptional : Regex.waysSeq [.optional listRegex] ⟨some c, text, groups⟩ =
        Regex.ways listRegex ⟨some c, text, groups⟩ ++ [⟨some c, text, groups⟩] := by
      rw [Regex.waysSeq, Pattern.ways_optional]
      simp [Regex.waysSeq]
    show ((Regex.waysSeq [.optional listRegex] ⟨some c, text, groups⟩ ++ []).head?).map _ = _
    rw [List.append_nil, hoptional, List.head?_append, Option.map_or, hlist]
    cases list? text <;> rfl

def afterWord? : List Char → Option (List Char)
  | a :: b :: c :: d :: rest =>
    if isKeyword a b c d && !Unicode.isWordAt rest.head? then some rest else none
  | _ => none

theorem afterKeyword?_eq (text : List Char) :
    afterKeyword? text = afterWord? (text.dropWhile isBlank) := rfl

theorem groups_keyword (before : Option Char) (text : List Char) (groups : List (List Char)) :
    ((Regex.waysSeq keywordParts ⟨before, text, groups⟩).head?).map Stage.groups =
      (afterWord? text).map fun after => (list? after).toList ++ groups := by
  rw [keywordParts]
  rcases text with _ | ⟨a, _ | ⟨b, _ | ⟨c, _ | ⟨d, rest⟩⟩⟩⟩
  · rfl
  · rw [waysSeq_letter (by decide)]
    split <;> rfl
  · rw [waysSeq_letter (by decide), waysSeq_letter (by decide)]
    split
    · split <;> rfl
    · rfl
  · rw [waysSeq_letter (by decide), waysSeq_letter (by decide), waysSeq_letter (by decide)]
    split
    · split
      · split <;> rfl
      · rfl
    · rfl
  · rw [waysSeq_letter (by decide), waysSeq_letter (by decide), waysSeq_letter (by decide),
      waysSeq_letter (by decide), afterWord?, isKeyword]
    by_cases ha : a.toLower = 'n' <;> by_cases hb : b.toLower = 'o' <;>
      by_cases hc : c.toLower = 'q' <;> by_cases hd : d.toLower = 'a' <;>
      simp [ha, hb, hc, hd]
    rw [groups_behind hd]
    cases Unicode.isWordAt rest.head? <;> rfl

theorem groups_sign (text : List Char) :
    ((Regex.waysSeq (blanks :: keywordParts) ⟨some '#', text, []⟩).head?).map Stage.groups =
      (afterKeyword? text).map fun after => (list? after).toList := by
  -- No way goes on from a blank that was left, so the preferred one has passed them all.
  have hstart : ∀ b c rest, Unicode.Trait.whiteSpace.holds c = true →
      Regex.waysSeq keywordParts ⟨b, c :: rest, []⟩ = [] := by
    intro b c rest hc
    have hn : ¬ c.toLower = 'n' := by
      intro he
      rw [holds_whiteSpace, isBlank_of_toLower he (by decide)] at hc
      contradiction
    rw [keywordParts, waysSeq_letter (by decide), if_neg (by simpa using hn)]
  obtain ⟨last, he⟩ := Pattern.flatMap_stops Unicode.Trait.whiteSpace [] (some '#') text hstart
  rw [Regex.waysSeq, blanks, Pattern.ways_star, he, holds_whiteSpace, groups_keyword,
    afterKeyword?_eq]
  simp only [List.append_nil]

theorem groups_firstMatch (before : Option Char) (line : List Char) :
    (directiveRegex.firstMatch? before line).map Stage.groups =
      (afterDirective? line).map fun after => (list? after).toList := by
  induction line generalizing before with
  | nil => rfl
  | cons c rest ih =>
    have hsign : directiveRegex.ways ⟨before, c :: rest, []⟩ =
        if c = '#' then Regex.waysSeq (blanks :: keywordParts) ⟨some c, rest, []⟩ else [] := by
      rw [directiveRegex, Regex.ways, Regex.waysSeq, Regex.ways, List.flatMap_singleton,
        Regex.waysSeq, Regex.ways, Pattern.passSet_cons]
      by_cases hc : c = '#' <;> simp [hc]
    rw [Regex.firstMatch?, afterDirective?, hsign, Option.map_or, ih]
    by_cases hc : c = '#'
    · subst hc
      rw [if_pos rfl, if_pos rfl, groups_sign]
      cases afterKeyword? rest <;> rfl
    · rw [if_neg hc, if_neg hc]
      rfl

theorem tokens_dropWhile (text : List Char) :
    tokens ((text.dropWhile isBlank).takeWhile (· != '#')) =
      tokens (text.takeWhile (· != '#')) := by
  induction text with
  | nil => rfl
  | cons c text ih =>
    cases hc : isBlank c with
    | false => rw [List.dropWhile_cons_of_neg (by simp [hc])]
    | true =>
      have hsign : (c != '#') = true := by
        rw [bne_iff_ne]
        rintro rfl
        contradiction
      have hseparator : isSeparator c = true := by simp [isSeparator, hc]
      rw [List.dropWhile_cons_of_pos hc, ih, List.takeWhile_cons_of_pos (p := (· != '#')) hsign,
        tokens, tokens, tokensFrom, if_pos hseparator]
      rfl

theorem targetTokens_eq (after : List Char) :
    targetTokens after = (list? after).elim [] tokens := by
  cases after with
  | nil => rfl
  | cons c rest =>
    by_cases hc : c = ':'
    · subst hc
      exact (tokens_dropWhile rest).symm
    · rw [list?_of_ne hc, targetTokens.eq_def]
      split
      next he => exact absurd (List.cons.inj he).1 hc
      next => rfl

def separatorPattern : String := "[,\\s]+"

def separators : CharSet := CharSet.ofList [.single ',', Unicode.Trait.whiteSpace]

def separatorRegex : Regex := .plus (.set separators)

theorem regexOf_separatorPattern : Pattern.regexOf separatorPattern = .ok separatorRegex := by
  cbv

theorem holds_separators : separators.holds = isSeparator := by
  funext c
  have hset : separators = [(0x9, 0xD), (0x20, 0x20), (0x2C, 0x2C), (0x85, 0x85), (0xA0, 0xA0),
      (0x1680, 0x1680), (0x2000, 0x200A), (0x2028, 0x2029), (0x202F, 0x202F), (0x205F, 0x205F),
      (0x3000, 0x3000)] := by
    cbv
  have hcomma : c = ',' ↔ c.toNat = 0x2C := Char.toNat_inj.symm
  rw [Bool.eq_iff_iff, CharSet.holds_iff, hset]
  simp [isSeparator, isBlank, hcomma]
  omega

theorem tokensFrom_dropWhile (text : List Char) :
    tokensFrom [] (text.dropWhile isSeparator) = tokensFrom [] text := by
  induction text with
  | nil => rfl
  | cons c text ih =>
    cases hc : isSeparator c with
    | false => rw [List.dropWhile_cons_of_neg (by simp [hc])]
    | true =>
      rw [List.dropWhile_cons_of_pos hc, ih, tokensFrom, if_pos hc]
      rfl

theorem tokensFrom_eq {fuel : Nat} {text : List Char} (h : text.length ≤ fuel)
    (before : Option Char) (token : List Char) : tokensFrom token text =
      ((separatorRegex.splitFrom fuel before token text).filter fun piece => !piece.isEmpty).map
        String.ofList := by
  have hend : ∀ token, tokensFrom token [] =
      ([token.reverse].filter fun piece => !piece.isEmpty).map String.ofList := by
    intro token
    cases token <;> simp [tokensFrom]
  induction fuel generalizing before token text with
  | zero =>
    obtain rfl := List.length_eq_zero_iff.mp (Nat.le_zero.mp h)
    exact hend token
  | succ fuel ih =>
    cases text with
    | nil => exact hend token
    | cons c rest =>
      have hfuel : rest.length ≤ fuel := Nat.le_of_succ_le_succ h
      obtain ⟨last, hmatch⟩ := Pattern.head?_ways_plus separators [] before rest c
      rw [holds_separators, ← separatorRegex] at hmatch
      rw [Regex.splitFrom, hmatch, tokensFrom]
      cases hc : isSeparator c with
      | true =>
        have hless := Nat.le_trans (List.dropWhile_sublist isSeparator).length_le hfuel
        rw [if_pos rfl, ← tokensFrom_dropWhile, ih hless last []]
        cases token <;> simp
      | false =>
        rw [if_neg (by simp), if_neg (by simp)]
        exact ih hfuel (some c) (c :: token)

theorem tokens_eq_split (text : List Char) : tokens text =
    ((separatorRegex.split text).filter fun piece => !piece.isEmpty).map String.ofList :=
  tokensFrom_eq (Nat.le_refl _) none []

def ofMatch (separator : Regex) (m : Stage) : Suppression :=
  ofTokens (((m.groups.head?.elim [] separator.split).filter fun piece => !piece.isEmpty).map
    String.ofList)

/-- Scanning a line finds the match of the pattern. -/
theorem ofLine?_eq_firstMatch (line : List Char) :
    ofLine? line = (directiveRegex.firstMatch? none line).map (ofMatch separatorRegex) := by
  have hread : ofMatch separatorRegex =
      (fun groups => ofTokens (groups.head?.elim [] tokens)) ∘ Stage.groups := by
    funext m
    rw [ofMatch, Function.comp_apply]
    cases m.groups.head? with
    | none => rfl
    | some list => rw [Option.elim_some, Option.elim_some, tokens_eq_split]
  have htargets : ∀ after, (list? after).toList.head? = list? after := by
    intro after
    cases list? after <;> rfl
  rw [hread, ← Option.map_map, groups_firstMatch, Option.map_map, ofLine?]
  congr 1
  funext after
  rw [targetTokens_eq, Function.comp_apply, htargets]

end MetaLint.Suppression

namespace MetaLint.SuppressionIndex

open Text
open Suppression

/-- The index has the directives of the lines of a text, and no others. -/
structure Indexes (text : List Char) (index : SuppressionIndex) : Prop where
  /-- The two patterns decide every line, each line on its own. -/
  matched : ∃ pattern separator, Pattern.regexOf directivePattern = .ok pattern ∧
    Pattern.regexOf separatorPattern = .ok separator ∧ ∀ n, index.get? n =
      (lineAt? text n).bind fun line => (pattern.firstMatch? none line).map (ofMatch separator)
  marked : ∀ n, (index.get? n).isSome = true ↔
    ∃ line, lineAt? text n = some line ∧ ∃ before after, Marked line before after
  decided : ∀ n s, index.get? n = some s ↔ ∃ line, lineAt? text n = some line ∧ Directive line s

/-- Reading a text finds the directives of the grammar, each on its own line. -/
theorem indexes_parse (text : List Char) : Indexes text (parse text) where
  matched := by
    refine ⟨directiveRegex, separatorRegex, regexOf_directivePattern, regexOf_separatorPattern, ?_⟩
    intro n
    simp only [get?_parse, ← ofLine?_eq_firstMatch]
  marked n := by
    rw [get?_parse, Option.isSome_bind]
    cases lineAt? text n with
    | none => simp
    | some line => simp [isSome_ofLine?]
  decided n s := by
    rw [get?_parse, Option.bind_eq_some_iff]
    simp only [ofLine?_eq_some]

end MetaLint.SuppressionIndex
