import MetaLint.Suppression

/-!
# The grammar of directives

What a directive is can be said without a scanner: which texts carry a mark, which mark of a line
counts, and into which pieces a list of targets falls. A line has exactly the directive of this
grammar, and an index has those of the lines.
-/

set_option autoImplicit false

namespace MetaLint

open Text

def Text.lineAt? (text : List Char) : Nat → Option (List Char)
  | 0 => none
  | n + 1 => (lines text)[n]?

namespace SuppressionIndex

theorem lookup_of_lt {n first : Nat} (h : n < first) (all : List (List Char)) :
    ((numberedFrom first all).filterMap entry?).lookup n = none := by
  induction all generalizing first with
  | nil => rfl
  | cons line all ih =>
    have hrest := ih (Nat.lt_succ_of_lt h)
    have hne : (n == first) = false := by simp; omega
    rw [numberedFrom, List.filterMap_cons, entry?]
    cases Suppression.ofLine? line with
    | none => exact hrest
    | some s => rw [Option.map_some, List.lookup_cons, hne]; exact hrest

theorem lookup_entries (first k : Nat) (all : List (List Char)) :
    ((numberedFrom first all).filterMap entry?).lookup (first + k) =
      all[k]?.bind Suppression.ofLine? := by
  induction all generalizing first k with
  | nil => rfl
  | cons line all ih =>
    rw [numberedFrom, List.filterMap_cons, entry?]
    cases k with
    | zero =>
      have hlater := lookup_of_lt (Nat.lt_succ_self first) all
      cases hline : Suppression.ofLine? line with
      | none => simpa [hline] using hlater
      | some s => simp [hline]
    | succ k =>
      have hrest := ih (first + 1) k
      rw [Nat.add_right_comm] at hrest
      have hne : (first + (k + 1) == first) = false := by simp
      rw [List.getElem?_cons_succ, ← hrest]
      cases Suppression.ofLine? line with
      | none => rfl
      | some s => rw [Option.map_some, List.lookup_cons, hne]; rfl

theorem get?_parse (text : List Char) (n : Nat) :
    (parse text).get? n = (lineAt? text n).bind Suppression.ofLine? := by
  rw [get?, parse, numberedLines]
  cases n with
  | zero => exact lookup_of_lt Nat.zero_lt_one _
  | succ n =>
    rw [Nat.add_comm, lookup_entries, Nat.add_comm]
    rfl

end SuppressionIndex

namespace Suppression

/-- Blanks, the keyword in any case, and then no word character. -/
structure Keyword (text after : List Char) : Prop where
  shape : ∃ blanks word, text = blanks ++ (word ++ after) ∧ (∀ c ∈ blanks, isBlank c = true) ∧
    word.map Char.toLower = "noqa".toList
  alone : ∀ c, after.head? = some c → Unicode.isWord c = false

/-- A number sign behind `before` with the keyword, and `after` behind that. -/
def Marked (line before after : List Char) : Prop :=
  ∃ text, line = before ++ '#' :: text ∧ Keyword text after

structure Leftmost (line before after : List Char) : Prop where
  marked : Marked line before after
  first : ∀ others rest, Marked line others rest → before.length ≤ others.length

theorem toNat_toLower (c : Char) :
    c.toLower.toNat = if 65 ≤ c.toNat ∧ c.toNat ≤ 90 then c.toNat + 32 else c.toNat := by
  delta Char.toLower
  split
  next h =>
    have hrange : 65 ≤ c.toNat ∧ c.toNat ≤ 90 := h
    have hsum : (c.val + ('a'.val - 'A'.val)).toNat = (c.toNat + 32) % 4294967296 := rfl
    rw [if_pos hrange]
    exact hsum.trans (Nat.mod_eq_of_lt (by omega))
  next h =>
    have hrange : ¬ (65 ≤ c.toNat ∧ c.toNat ≤ 90) := h
    rw [if_neg hrange]

theorem toLower_eq_iff {l : Char} (h : 97 ≤ l.toNat ∧ l.toNat ≤ 122) {c : Char} :
    c.toLower = l ↔ c.toNat = l.toNat - 32 ∨ c.toNat = l.toNat := by
  rw [← Char.toNat_inj, toNat_toLower]
  split <;> omega

theorem isBlank_of_toLower {c l : Char} (h : c.toLower = l) (hl : isBlank l = false) :
    isBlank c = false := by
  by_cases hupper : 65 ≤ c.toNat ∧ c.toNat ≤ 90
  · simp [isBlank]
    omega
  · have hsame : c.toLower = c := Char.toNat_inj.mp (by rw [toNat_toLower, if_neg hupper])
    rw [← hsame, h, hl]

theorem isWordAt_eq_false {c? : Option Char} :
    Unicode.isWordAt c? = false ↔ ∀ c, c? = some c → Unicode.isWord c = false := by
  cases c? <;> simp [Unicode.isWordAt]

theorem afterKeyword?_eq_some {text after : List Char} :
    afterKeyword? text = some after ↔ Keyword text after := by
  constructor
  · intro h
    rw [afterKeyword?] at h
    split at h
    next a b c d rest hdrop =>
      split at h
      next hkey =>
        obtain rfl := Option.some.inj h
        simp only [Bool.and_eq_true, Bool.not_eq_true', isKeyword, beq_iff_eq] at hkey
        obtain ⟨⟨⟨⟨ha, hb⟩, hc⟩, hd⟩, hword⟩ := hkey
        refine ⟨⟨text.takeWhile isBlank, [a, b, c, d], ?_, ?_, ?_⟩, isWordAt_eq_false.mp hword⟩
        · rw [List.cons_append, List.cons_append, List.cons_append, List.cons_append,
            List.nil_append, ← hdrop, List.takeWhile_append_dropWhile]
        · exact List.all_eq_true.mp List.all_takeWhile
        · simp [ha, hb, hc, hd]
      next => contradiction
    next => contradiction
  · rintro ⟨⟨blanks, word, rfl, hblanks, hword⟩, halone⟩
    have hletters : word.map Char.toLower = ['n', 'o', 'q', 'a'] := hword
    simp only [List.map_eq_cons_iff, List.map_eq_nil_iff] at hletters
    obtain ⟨a, _, rfl, ha, b, _, rfl, hb, c, _, rfl, hc, d, _, rfl, hd, rfl⟩ := hletters
    have hfirst : isBlank a = false := isBlank_of_toLower ha (by decide)
    have hdrop : (blanks ++ ([a, b, c, d] ++ after)).dropWhile isBlank = [a, b, c, d] ++ after := by
      rw [List.dropWhile_append_of_pos hblanks]
      simp [hfirst]
    rw [afterKeyword?, hdrop]
    simp [isKeyword, ha, hb, hc, hd, isWordAt_eq_false.mpr halone]

theorem marked_cons {c : Char} {line before after : List Char} :
    Marked (c :: line) before after ↔ (before = [] ∧ c = '#' ∧ Keyword line after) ∨
      ∃ others, before = c :: others ∧ Marked line others after := by
  constructor
  · rintro ⟨text, hline, hkey⟩
    cases before with
    | nil =>
      obtain ⟨rfl, rfl⟩ := List.cons.inj hline
      exact Or.inl ⟨rfl, rfl, hkey⟩
    | cons first others =>
      obtain ⟨rfl, rfl⟩ := List.cons.inj hline
      exact Or.inr ⟨others, rfl, text, rfl, hkey⟩
  · rintro (⟨rfl, rfl, hkey⟩ | ⟨others, rfl, text, rfl, hkey⟩)
    · exact ⟨line, rfl, hkey⟩
    · exact ⟨text, rfl, hkey⟩

theorem not_marked_nil (before after : List Char) : ¬ Marked [] before after := by
  rintro ⟨text, hline, -⟩
  simp at hline

theorem leftmost_cons {c : Char} {line : List Char} (h : c = '#' → afterKeyword? line = none)
    {before after : List Char} : Leftmost (c :: line) before after ↔
      ∃ others, before = c :: others ∧ Leftmost line others after := by
  have hmarked : ∀ b a, Marked (c :: line) b a ↔
      ∃ others, b = c :: others ∧ Marked line others a := by
    intro b a
    rw [marked_cons]
    constructor
    · rintro (⟨-, rfl, hkey⟩ | hrest)
      · rw [← afterKeyword?_eq_some, h rfl] at hkey
        contradiction
      · exact hrest
    · exact Or.inr
  constructor
  · rintro ⟨hm, hfirst⟩
    obtain ⟨others, rfl, hrest⟩ := (hmarked _ _).mp hm
    refine ⟨others, rfl, hrest, ?_⟩
    intro b a hb
    exact Nat.le_of_succ_le_succ (hfirst (c :: b) a ((hmarked _ _).mpr ⟨b, rfl, hb⟩))
  · rintro ⟨others, rfl, hm, hfirst⟩
    refine ⟨(hmarked _ _).mpr ⟨others, rfl, hm⟩, ?_⟩
    intro b a hb
    obtain ⟨later, rfl, hlater⟩ := (hmarked _ _).mp hb
    exact Nat.succ_le_succ (hfirst later a hlater)

theorem leftmost_here {line after : List Char} (h : Keyword line after) {before other : List Char} :
    Leftmost ('#' :: line) before other ↔ before = [] ∧ Keyword line other := by
  constructor
  · rintro ⟨hm, hfirst⟩
    obtain rfl : before = [] :=
      List.length_eq_zero_iff.mp (Nat.le_zero.mp (hfirst [] after ⟨line, rfl, h⟩))
    rcases marked_cons.mp hm with ⟨-, -, hkey⟩ | ⟨others, hnil, -⟩
    · exact ⟨rfl, hkey⟩
    · contradiction
  · rintro ⟨rfl, hkey⟩
    exact ⟨⟨line, rfl, hkey⟩, fun _ _ _ => Nat.zero_le _⟩

theorem afterDirective?_eq_some {line after : List Char} :
    afterDirective? line = some after ↔ ∃ before, Leftmost line before after := by
  induction line with
  | nil =>
    constructor
    · intro h
      contradiction
    · rintro ⟨before, hm, -⟩
      exact absurd hm (not_marked_nil _ _)
  | cons c line ih =>
    have hskip : (c = '#' → afterKeyword? line = none) →
        ((∃ before, Leftmost (c :: line) before after) ↔ ∃ before, Leftmost line before after) := by
      intro h
      simp only [leftmost_cons h]
      exact ⟨fun ⟨_, others, _, ho⟩ => ⟨others, ho⟩, fun ⟨others, ho⟩ => ⟨_, others, rfl, ho⟩⟩
    rw [afterDirective?]
    by_cases hc : c = '#'
    · subst hc
      rw [if_pos rfl]
      cases hkey : afterKeyword? line with
      | none => exact ih.trans (hskip fun _ => hkey).symm
      | some tail =>
        simp only [leftmost_here (afterKeyword?_eq_some.mp hkey), ← afterKeyword?_eq_some, hkey]
        simp
    · rw [if_neg hc]
      exact ih.trans (hskip fun he => absurd he hc).symm

theorem exists_leftmost {line before after : List Char} (h : Marked line before after) :
    ∃ first rest, Leftmost line first rest := by
  induction line generalizing before with
  | nil => exact absurd h (not_marked_nil _ _)
  | cons c line ih =>
    by_cases hhere : c = '#' → afterKeyword? line = none
    · rcases marked_cons.mp h with ⟨-, hc, hkey⟩ | ⟨others, -, hrest⟩
      · rw [← afterKeyword?_eq_some, hhere hc] at hkey
        contradiction
      · obtain ⟨first, rest, hf⟩ := ih hrest
        exact ⟨c :: first, rest, (leftmost_cons hhere).mpr ⟨first, rfl, hf⟩⟩
    · obtain ⟨rfl, hsome⟩ := Classical.not_imp.mp hhere
      obtain ⟨tail, htail⟩ := Option.ne_none_iff_exists'.mp hsome
      have hkey := afterKeyword?_eq_some.mp htail
      exact ⟨[], tail, (leftmost_here hkey).mpr ⟨rfl, hkey⟩⟩

inductive Pieces : List Char → List (List Char) → Prop
  | nil : Pieces [] []
  | skip {c : Char} {text : List Char} {pieces : List (List Char)} (hc : isSeparator c = true)
      (hrest : Pieces text pieces) : Pieces (c :: text) pieces
  | last {piece : List Char} (hne : piece ≠ []) (hp : ∀ c ∈ piece, isSeparator c = false) :
      Pieces piece [piece]
  | next {piece text : List Char} {c : Char} {pieces : List (List Char)} (hne : piece ≠ [])
      (hp : ∀ c ∈ piece, isSeparator c = false) (hc : isSeparator c = true)
      (hrest : Pieces text pieces) : Pieces (piece ++ c :: text) (piece :: pieces)

theorem tokensFrom_append {piece : List Char} (hp : ∀ c ∈ piece, isSeparator c = false)
    (token text : List Char) :
    tokensFrom token (piece ++ text) = tokensFrom (piece.reverse ++ token) text := by
  induction piece generalizing token with
  | nil => rfl
  | cons c piece ih =>
    obtain ⟨hc, hrest⟩ := List.forall_mem_cons.mp hp
    rw [List.cons_append, tokensFrom, if_neg (by simp [hc]), ih hrest]
    simp

theorem Pieces.tokens_eq {text : List Char} {pieces : List (List Char)} (h : Pieces text pieces) :
    tokens text = pieces.map String.ofList := by
  rw [tokens]
  induction h with
  | nil => rfl
  | skip hc _ ih => simpa [tokensFrom, hc] using ih
  | @last piece hne hp =>
    have happend := tokensFrom_append hp [] []
    rw [List.append_nil, List.append_nil] at happend
    simp [happend, tokensFrom, hne]
  | next hne hp hc _ ih => simp [tokensFrom_append hp, tokensFrom, hc, hne, ih]

theorem exists_pieces_behind (text : List Char) {token : List Char}
    (ht : ∀ c ∈ token, isSeparator c = false) :
    ∃ pieces, Pieces (token.reverse ++ text) pieces := by
  induction text generalizing token with
  | nil =>
    by_cases hne : token = []
    · exact ⟨[], by simpa [hne] using Pieces.nil⟩
    · exact ⟨[token.reverse], by simpa using Pieces.last (by simpa using hne) (by simpa using ht)⟩
  | cons c text ih =>
    cases hc : isSeparator c with
    | true =>
      obtain ⟨pieces, hp⟩ : ∃ pieces, Pieces text pieces := by
        simpa using ih (List.forall_mem_nil _)
      by_cases hne : token = []
      · exact ⟨pieces, by simpa [hne] using Pieces.skip hc hp⟩
      · exact ⟨token.reverse :: pieces, Pieces.next (by simpa using hne) (by simpa using ht) hc hp⟩
    | false =>
      obtain ⟨pieces, hp⟩ := ih (List.forall_mem_cons.mpr ⟨hc, ht⟩)
      exact ⟨pieces, by simpa using hp⟩

theorem exists_pieces (text : List Char) : ∃ pieces, Pieces text pieces :=
  exists_pieces_behind text (List.forall_mem_nil _)

theorem Pieces.eq_nil_iff {text : List Char} {pieces : List (List Char)} (h : Pieces text pieces) :
    pieces = [] ↔ ∀ c ∈ text, isSeparator c = true := by
  induction h with
  | nil => simp
  | skip hc _ ih => simp [hc, ih]
  | @last piece hne hp =>
    obtain ⟨c, hc⟩ := List.exists_mem_of_ne_nil piece hne
    exact ⟨by simp, fun hall => absurd (hall c hc) (by simp [hp c hc])⟩
  | @next piece text c pieces hne hp _ _ _ =>
    obtain ⟨first, hfirst⟩ := List.exists_mem_of_ne_nil piece hne
    refine ⟨by simp, fun hall => absurd (hall first (List.mem_append_left _ hfirst)) ?_⟩
    simp [hp first hfirst]

/-- The list behind a keyword: what follows a colon, up to a number sign or the end. -/
def Listed (after text : List Char) : Prop :=
  ∃ rest, after = ':' :: (text ++ rest) ∧ '#' ∉ text ∧ ∀ c, rest.head? = some c → c = '#'

theorem listed_iff {after text : List Char} : Listed after text ↔
    ∃ list, after = ':' :: list ∧ text = list.takeWhile (· != '#') := by
  constructor
  · rintro ⟨rest, rfl, hn, hrest⟩
    refine ⟨text ++ rest, rfl, ?_⟩
    have hstop : rest.takeWhile (· != '#') = [] := by
      cases rest with
      | nil => rfl
      | cons c rest => simp [hrest c rfl]
    rw [List.takeWhile_append_of_pos, hstop, List.append_nil]
    intro c hc
    simpa using fun he : c = '#' => hn (he ▸ hc)
  · rintro ⟨list, rfl, rfl⟩
    refine ⟨list.dropWhile (· != '#'), by rw [List.takeWhile_append_dropWhile], ?_, ?_⟩
    · intro hm
      simpa using List.all_eq_true.mp List.all_takeWhile _ hm
    · intro c hc
      have hp := List.head?_dropWhile_not (· != '#') list
      rw [hc] at hp
      simpa using hp

theorem targetTokens_of_listed {after text : List Char} (h : Listed after text) :
    targetTokens after = tokens text := by
  obtain ⟨list, rfl, rfl⟩ := listed_iff.mp h
  rfl

theorem exists_listed {after : List Char} (h : targetTokens after ≠ []) :
    ∃ text, Listed after text := by
  rw [targetTokens.eq_def] at h
  split at h
  next list => exact ⟨_, listed_iff.mpr ⟨list, rfl, rfl⟩⟩
  next => contradiction

theorem tokens_eq_nil_iff {text : List Char} :
    tokens text = [] ↔ ∀ c ∈ text, isSeparator c = true := by
  obtain ⟨pieces, hp⟩ := exists_pieces text
  rw [hp.tokens_eq, List.map_eq_nil_iff, hp.eq_nil_iff]

theorem targetTokens_eq_nil_iff {after : List Char} : targetTokens after = [] ↔
    ∀ text, Listed after text → ∀ c ∈ text, isSeparator c = true := by
  constructor
  · intro h text hl
    rw [targetTokens_of_listed hl] at h
    exact tokens_eq_nil_iff.mp h
  · intro h
    by_cases hnone : targetTokens after = []
    · exact hnone
    · obtain ⟨text, hl⟩ := exists_listed hnone
      rw [targetTokens_of_listed hl]
      exact tokens_eq_nil_iff.mpr (h text hl)

/-- What the leftmost mark of a line says. -/
inductive Directive (line : List Char) : Suppression → Prop
  | targets {before after text : List Char} {pieces : List (List Char)} {c : Char}
      (hm : Leftmost line before after) (hl : Listed after text) (hc : c ∈ text)
      (hs : isSeparator c = false) (hp : Pieces text pieces) :
      Directive line (.targets (pieces.map String.ofList))
  | everything {before after : List Char} (hm : Leftmost line before after)
      (hl : ∀ text, Listed after text → ∀ c ∈ text, isSeparator c = true) :
      Directive line .everything

theorem ofLine?_eq_some {line : List Char} {s : Suppression} :
    ofLine? line = some s ↔ Directive line s := by
  rw [ofLine?, Option.map_eq_some_iff]
  constructor
  · rintro ⟨after, hafter, rfl⟩
    obtain ⟨before, hm⟩ := afterDirective?_eq_some.mp hafter
    by_cases hnone : targetTokens after = []
    · rw [hnone]
      exact .everything hm (targetTokens_eq_nil_iff.mp hnone)
    · obtain ⟨text, hl⟩ := exists_listed hnone
      rw [targetTokens_of_listed hl] at hnone ⊢
      obtain ⟨c, hc, hs⟩ : ∃ c ∈ text, isSeparator c = false := by
        simpa [tokens_eq_nil_iff] using hnone
      obtain ⟨pieces, hp⟩ := exists_pieces text
      rw [ofTokens, if_neg (by simpa using hnone), hp.tokens_eq]
      exact .targets hm hl hc hs hp
  · intro h
    cases h with
    | @targets before after text pieces c hm hl hc hs hp =>
      refine ⟨_, afterDirective?_eq_some.mpr ⟨_, hm⟩, ?_⟩
      have hnone : tokens text ≠ [] := by
        intro hnil
        rw [tokens_eq_nil_iff.mp hnil c hc] at hs
        contradiction
      rw [targetTokens_of_listed hl, ofTokens, if_neg (by simpa using hnone), hp.tokens_eq]
    | everything hm hl =>
      refine ⟨_, afterDirective?_eq_some.mpr ⟨_, hm⟩, ?_⟩
      rw [targetTokens_eq_nil_iff.mpr hl]
      rfl

theorem isSome_ofLine? {line : List Char} :
    (ofLine? line).isSome = true ↔ ∃ before after, Marked line before after := by
  rw [ofLine?, Option.isSome_map, Option.isSome_iff_exists]
  constructor
  · rintro ⟨after, hafter⟩
    obtain ⟨before, hm⟩ := afterDirective?_eq_some.mp hafter
    exact ⟨before, after, hm.marked⟩
  · rintro ⟨before, after, hm⟩
    obtain ⟨first, rest, hfirst⟩ := exists_leftmost hm
    exact ⟨rest, afterDirective?_eq_some.mpr ⟨first, hfirst⟩⟩

end Suppression

end MetaLint
