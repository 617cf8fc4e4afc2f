import MetaLint.Pattern

/-!
# Ordered matches

An expression matches at a place in several ways, and prefers some of them: earlier options to later
ones, and more rounds of a greedy repetition to fewer. The match in a text is the preferred way at
the leftmost place that has any, which need not be the longest one.
-/

set_option autoImplicit false

namespace MetaLint.Pattern

open Unicode (CharSet)

def regexOf (text : String) : Except Flaw Regex := do
  let part ← parse text.toList
  let (regex, _) ← part.meaning {}
  return regex

/-- How far a match has come: the character before, the text that is left, and the texts of the
groups it has passed, the last one first. -/
structure Stage where
  before : Option Char
  rest : List Char
  groups : List (List Char)
  deriving Repr, DecidableEq

namespace Stage

def passSet (s : CharSet) (w : Stage) : List Stage :=
  match w.rest with
  | c :: rest => if s.holds c then [{ w with before := some c, rest }] else []
  | [] => []

def passText (w : Stage) : List Char → List Stage
  | [] => [w]
  | c :: cs => (w.passSet (.single c)).flatMap fun v => v.passText cs

def look (l : Look) (w : Stage) : List Stage := if l.holds w.before w.rest.head? then [w] else []

def remember (start w : Stage) : Stage :=
  { w with groups := start.rest.take (start.rest.length - w.rest.length) :: w.groups }

def exactly (round : Stage → List Stage) : Nat → Stage → List Stage
  | 0, w => [w]
  | n + 1, w => (round w).flatMap (exactly round n)

/-- Up to `n` further rounds, of which one that passes nothing is the last. -/
def further (round : Stage → List Stage) (greedy : Bool) : Nat → Stage → List Stage
  | 0, w => [w]
  | n + 1, w =>
    let more := (round w).flatMap fun v =>
      if v.rest.length < w.rest.length then further round greedy n v else [v]
    if greedy then more ++ [w] else w :: more

end Stage

mutual

/-- The ways in which an expression matches, the preferred ones first. -/
def Regex.ways : Regex → Stage → List Stage
  | .empty, w => [w]
  | .text cs, w => w.passText cs
  | .set s, w => w.passSet s
  | .look l, w => w.look l
  | .times r least most greedy, w =>
    (Stage.exactly r.ways least w).flatMap fun v =>
      Stage.further r.ways greedy (most.elim v.rest.length (· - least)) v
  | .captured r, w => (r.ways w).map w.remember
  | .seq rs, w => Regex.waysSeq rs w
  | .alt rs, w => Regex.waysAlt rs w

def Regex.waysSeq : List Regex → Stage → List Stage
  | [], w => [w]
  | r :: rs, w => (r.ways w).flatMap (Regex.waysSeq rs)

def Regex.waysAlt : List Regex → Stage → List Stage
  | [], _ => []
  | r :: rs, w => r.ways w ++ Regex.waysAlt rs w

end

def Regex.firstMatch? (r : Regex) (before : Option Char) : List Char → Option Stage
  | [] => (r.ways ⟨before, [], []⟩).head?
  | c :: rest => (r.ways ⟨before, c :: rest, []⟩).head?.or (r.firstMatch? (some c) rest)

/-- The pieces of a text between matches, none of which may be empty; `piece` holds the current one
in reverse, and the text is no longer than `fuel`. -/
def Regex.splitFrom (r : Regex) : Nat → Option Char → List Char → List Char → List (List Char)
  | 0, _, piece, _ => [piece.reverse]
  | _ + 1, _, piece, [] => [piece.reverse]
  | fuel + 1, before, piece, c :: rest =>
    match (r.ways ⟨before, c :: rest, []⟩).head? with
    | some m => piece.reverse :: r.splitFrom fuel m.before [] m.rest
    | none => r.splitFrom fuel (some c) (c :: piece) rest

def Regex.split (r : Regex) (text : List Char) : List (List Char) :=
  r.splitFrom text.length none [] text

/-! ## Runs of characters -/

def stops (s : CharSet) (groups : List (List Char)) (before : Option Char) : List Char → List Stage
  | [] => [⟨before, [], groups⟩]
  | c :: rest =>
    (if s.holds c then stops s groups (some c) rest else []) ++ [⟨before, c :: rest, groups⟩]

section Run
variable (s : CharSet) (groups : List (List Char)) (before : Option Char) (text : List Char)

theorem passSet_cons (c : Char) : Stage.passSet s ⟨before, c :: text, groups⟩ =
    if s.holds c then [⟨some c, text, groups⟩] else [] := rfl

theorem further_passSet (n : Nat) (h : text.length ≤ n) :
    Stage.further (Stage.passSet s) true n ⟨before, text, groups⟩ = stops s groups before text := by
  induction text generalizing n before with
  | nil => cases n <;> rfl
  | cons c rest ih =>
    cases n with
    | zero => contradiction
    | succ n =>
      have hrest := ih (some c) n (Nat.le_of_succ_le_succ h)
      rw [Stage.further, stops, passSet_cons]
      by_cases hc : s.holds c = true
      · simp [hc, hrest]
      · simp [hc]

theorem ways_star : (Regex.star (.set s)).ways ⟨before, text, groups⟩ =
    stops s groups before text := by
  rw [Regex.star, Regex.ways, Stage.exactly, List.flatMap_singleton]
  exact further_passSet s groups before text _ (Nat.le_refl _)

theorem stops_eq : ∃ last others,
    stops s groups before text = ⟨last, text.dropWhile s.holds, groups⟩ :: others := by
  induction text generalizing before with
  | nil => exact ⟨before, [], rfl⟩
  | cons c rest ih =>
    rw [stops]
    by_cases hc : s.holds c = true
    · obtain ⟨last, others, he⟩ := ih (some c)
      exact ⟨last, _, by rw [if_pos hc, he, List.dropWhile_cons_of_pos hc]; rfl⟩
    · exact ⟨before, [], by rw [if_neg hc, List.dropWhile_cons_of_neg hc]; rfl⟩

theorem flatMap_stops {next : Stage → List Stage}
    (h : ∀ b c rest, s.holds c = true → next ⟨b, c :: rest, groups⟩ = []) :
    ∃ last, (stops s groups before text).flatMap next =
      next ⟨last, text.dropWhile s.holds, groups⟩ := by
  induction text generalizing before with
  | nil => exact ⟨before, by simp [stops]⟩
  | cons c rest ih =>
    rw [stops, List.flatMap_append, List.flatMap_singleton]
    by_cases hc : s.holds c = true
    · obtain ⟨last, he⟩ := ih (some c)
      exact ⟨last, by rw [if_pos hc, he, h before c rest hc, List.append_nil,
        List.dropWhile_cons_of_pos hc]⟩
    · exact ⟨before, by rw [if_neg hc, List.dropWhile_cons_of_neg hc]; rfl⟩

theorem ways_captured_star : ∃ last others,
    (Regex.captured (.star (.set s))).ways ⟨before, text, groups⟩ =
      ⟨last, text.dropWhile s.holds, text.takeWhile s.holds :: groups⟩ :: others := by
  obtain ⟨last, others, he⟩ := stops_eq s groups before text
  have hlength : text.length - (text.dropWhile s.holds).length =
      (text.takeWhile s.holds).length := by
    have hsplit := congrArg List.length (List.takeWhile_append_dropWhile (p := s.holds) (l := text))
    rw [List.length_append] at hsplit
    omega
  have hpassed : text.take (text.takeWhile s.holds).length = text.takeWhile s.holds :=
    (List.prefix_iff_eq_take.mp (List.takeWhile_prefix s.holds)).symm
  refine ⟨last, others.map (Stage.remember ⟨before, text, groups⟩), ?_⟩
  rw [Regex.ways, ways_star, he, List.map_cons, Stage.remember]
  simp only [hlength, hpassed]

theorem head?_ways_plus (c : Char) : ∃ last,
    ((Regex.plus (.set s)).ways ⟨before, c :: text, groups⟩).head? =
      if s.holds c then some ⟨last, text.dropWhile s.holds, groups⟩ else none := by
  obtain ⟨last, others, he⟩ := stops_eq s groups (some c) text
  refine ⟨last, ?_⟩
  have hways : (Regex.plus (.set s)).ways ⟨before, c :: text, groups⟩ =
      (Stage.passSet s ⟨before, c :: text, groups⟩).flatMap fun v =>
        Stage.further (Stage.passSet s) true v.rest.length v := by
    have hone : ∀ w, Stage.exactly (Stage.passSet s) 1 w = Stage.passSet s w := by
      simp [Stage.exactly]
    rw [Regex.plus, Regex.ways]
    exact congrArg (List.flatMap _) (hone _)
  rw [hways, passSet_cons]
  by_cases hc : s.holds c = true
  · rw [if_pos hc, if_pos hc, List.flatMap_singleton]
    show (Stage.further (Stage.passSet s) true text.length ⟨some c, text, groups⟩).head? = _
    rw [further_passSet s groups (some c) text _ (Nat.le_refl _), he]
    rfl
  · rw [if_neg hc, if_neg hc]
    rfl

end Run

theorem ways_optional (r : Regex) (w : Stage) : (Regex.optional r).ways w = r.ways w ++ [w] := by
  simp [Regex.optional, Regex.ways, Stage.exactly, Stage.further]

end MetaLint.Pattern
