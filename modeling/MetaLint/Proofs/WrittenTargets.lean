import MetaLint.Proofs.DirectiveGrammar

/-!
# Directives mean what is written

A list of targets that is written behind the keyword is read as these targets, whatever stands
before the directive on its line, and a target that was written names just the issues that its form
speaks of. No other line has a part in it.
-/

set_option autoImplicit false

namespace MetaLint

open Text

/-- What a directive may list: a code, a whole tool, or a code of one tool. -/
inductive Target
  | code (code : String)
  | tool (tool : String)
  | both (tool code : String)
  deriving Repr, DecidableEq

namespace Target

def text : Target → String
  | .code c => c
  | .tool t => "@" ++ t
  | .both t c => t ++ ":" ++ c

def Names : Target → Issue → Prop
  | .code c, i => i.code = some c
  | .tool t, i => i.tool = t
  | .both t c, i => i.tool = t ∧ i.code = some c

/-- A name without anything that ends a target or a list. -/
structure IsWord (name : String) : Prop where
  filled : name ≠ ""
  whole : ∀ c ∈ name.toList, isBlank c = false ∧ c ≠ ',' ∧ c ≠ '#'

/-- A name that is not taken for a tool, or for a tool and a code. -/
structure IsBare (name : String) : Prop extends IsWord name where
  colonless : ':' ∉ name.toList
  unmarked : name.toList.head? ≠ some '@'

def Proper : Target → Prop
  | .code c => IsBare c
  | .tool t => IsWord t
  | .both t c => IsBare t ∧ IsWord c

def directive (targets : List Target) : String := "# noqa: " ++ ", ".intercalate (targets.map text)

end Target

theorem Text.splitOnce_eq_none {c : Char} {text : List Char} (h : c ∉ text) :
    splitOnce c text = none := by
  induction text with
  | nil => rfl
  | cons a text ih =>
    obtain ⟨hne, hrest⟩ := not_or.mp (mt List.mem_cons.mpr h)
    rw [splitOnce, if_neg (Ne.symm hne), ih hrest]
    rfl

theorem Issue.codeText_eq_iff {i : Issue} {c : String} (h : c ≠ "") :
    i.codeText = c ↔ i.code = some c := by
  rw [codeText]
  cases i.code with
  | none => simp [Ne.symm h]
  | some d => simp

namespace Suppression

theorem tokenCovers_marked (tool : String) (i : Issue) :
    tokenCovers ("@" ++ tool) i = (tool == i.tool) := by
  have hlist : ("@" ++ tool).toList = '@' :: tool.toList := by simp
  rw [tokenCovers, hlist]
  simp

theorem tokenCovers_unmarked {token : String} (h : token.toList.head? ≠ some '@') (i : Issue) :
    tokenCovers token i = match splitOnce ':' token.toList with
      | some (tool, code) => String.ofList tool == i.tool && String.ofList code == i.codeText
      | none => i.codeText != "" && token == i.codeText := by
  rw [tokenCovers]
  split
  next tool hlist => simp [hlist] at h
  next => rfl

theorem tokenCovers_text {t : Target} (h : t.Proper) (i : Issue) :
    tokenCovers t.text i = true ↔ t.Names i := by
  cases t with
  | code c =>
    have hc : Target.IsBare c := h
    rw [Target.text, tokenCovers_unmarked hc.unmarked, splitOnce_eq_none hc.colonless]
    show (i.codeText != "" && c == i.codeText) = true ↔ i.code = some c
    rw [← Issue.codeText_eq_iff hc.filled, Bool.and_eq_true, bne_iff_ne, beq_iff_eq]
    constructor
    · exact fun hboth => hboth.2.symm
    · rintro rfl
      exact ⟨hc.filled, rfl⟩
  | tool t =>
    rw [Target.text, tokenCovers_marked, beq_iff_eq]
    exact eq_comm
  | both t c =>
    obtain ⟨ht, hc⟩ : Target.IsBare t ∧ Target.IsWord c := h
    have hlist : (t ++ ":" ++ c).toList = t.toList ++ ':' :: c.toList := by simp
    have hhead : (t ++ ":" ++ c).toList.head? = t.toList.head? := by
      have hfilled : t.toList ≠ [] := by simpa using ht.filled
      rw [hlist, List.head?_append, List.head?_eq_some_head hfilled]
      rfl
    rw [Target.text, tokenCovers_unmarked (hhead ▸ ht.unmarked), hlist,
      splitOnce_append ht.colonless]
    show (String.ofList t.toList == i.tool && String.ofList c.toList == i.codeText) = true ↔
      i.tool = t ∧ i.code = some c
    rw [String.ofList_toList, String.ofList_toList, Bool.and_eq_true, beq_iff_eq, beq_iff_eq,
      ← Issue.codeText_eq_iff hc.filled]
    exact and_congr eq_comm eq_comm

theorem Target.IsWord.isSeparator_eq_false {name : String} (h : Target.IsWord name) :
    ∀ c ∈ name.toList, isSeparator c = false := by
  intro c hc
  obtain ⟨hblank, hcomma, -⟩ := h.whole c hc
  simp [isSeparator, hblank, hcomma]

theorem whole_text {t : Target} (h : t.Proper) : t.text.toList ≠ [] ∧
    (∀ c ∈ t.text.toList, isSeparator c = false) ∧ '#' ∉ t.text.toList := by
  have hword : ∀ {name : String}, Target.IsWord name → name.toList ≠ [] ∧
      (∀ c ∈ name.toList, isSeparator c = false) ∧ '#' ∉ name.toList := by
    intro name hn
    exact ⟨by simpa using hn.filled, Target.IsWord.isSeparator_eq_false hn,
      fun hm => (hn.whole _ hm).2.2 rfl⟩
  cases t with
  | code c => exact hword (show Target.IsBare c from h).toIsWord
  | tool t =>
    obtain ⟨-, hp, hs⟩ := hword (show Target.IsWord t from h)
    have hlist : ("@" ++ t).toList = '@' :: t.toList := by simp
    rw [Target.text, hlist]
    refine ⟨by simp, List.forall_mem_cons.mpr ⟨by decide, hp⟩, by simp [hs]⟩
  | both t c =>
    obtain ⟨ht, hc⟩ : Target.IsBare t ∧ Target.IsWord c := h
    obtain ⟨-, hpt, hst⟩ := hword ht.toIsWord
    obtain ⟨-, hpc, hsc⟩ := hword hc
    have hlist : (t ++ ":" ++ c).toList = t.toList ++ ':' :: c.toList := by simp
    rw [Target.text, hlist]
    refine ⟨by simp, fun a ha => ?_, by simp [hst, hsc]⟩
    rcases List.mem_append.mp ha with ha | ha
    · exact hpt a ha
    · exact List.forall_mem_cons.mpr ⟨by decide, hpc⟩ a ha

theorem pieces_intercalate {pieces : List (List Char)}
    (h : ∀ p ∈ pieces, p ≠ [] ∧ ∀ c ∈ p, isSeparator c = false) :
    Pieces (List.intercalate [',', ' '] pieces) pieces := by
  induction pieces with
  | nil => exact .nil
  | cons p pieces ih =>
    obtain ⟨⟨hne, hp⟩, hrest⟩ := List.forall_mem_cons.mp h
    cases pieces with
    | nil => simpa [List.intercalate] using Pieces.last hne hp
    | cons q pieces =>
      have hskip := Pieces.skip (c := ' ') (by decide) (ih hrest)
      simpa [List.intercalate] using Pieces.next (c := ',') hne hp (by decide) hskip

theorem not_mem_intercalate {c : Char} {separator : List Char} {pieces : List (List Char)}
    (hs : c ∉ separator) (hp : ∀ p ∈ pieces, c ∉ p) : c ∉ List.intercalate separator pieces := by
  induction pieces with
  | nil => simp [List.intercalate]
  | cons p pieces ih =>
    obtain ⟨hfirst, hrest⟩ := List.forall_mem_cons.mp hp
    cases pieces with
    | nil => simpa [List.intercalate] using hfirst
    | cons q pieces =>
      have hlist : List.intercalate separator (p :: q :: pieces) =
          p ++ (separator ++ List.intercalate separator (q :: pieces)) := by
        simp [List.intercalate]
      simp [hlist, hfirst, hs, ih hrest]

/-- A mark that begins before a number sign is complete there. -/
theorem Marked.of_append {p rest before after : List Char}
    (h : Marked (p ++ '#' :: rest) before after) (hlt : before.length < p.length) :
    ∃ own, Marked p before own := by
  obtain ⟨text, hline, ⟨blanks, word, rfl, hblanks, hword⟩, halone⟩ := h
  obtain ⟨tail, rfl⟩ : ∃ tail, p = before ++ '#' :: tail := by
    rcases List.append_eq_append_iff.mp hline with ⟨more, rfl, -⟩ | ⟨more, rfl, hmore⟩
    · exact absurd hlt (by simp)
    · cases more with
      | nil => simp at hlt
      | cons c more =>
        obtain ⟨rfl, -⟩ := List.cons.inj hmore
        exact ⟨more, rfl⟩
  rw [List.append_assoc, List.append_cancel_left_eq, List.cons_append, List.cons.injEq,
    ← List.append_assoc] at hline
  have hsign : '#' ∉ blanks ++ word := by
    intro hm
    rcases List.mem_append.mp hm with hm | hm
    · exact absurd (hblanks _ hm) (by decide)
    · have hletter := List.mem_map_of_mem (f := Char.toLower) hm
      rw [hword] at hletter
      exact absurd hletter (by decide)
  rcases List.append_eq_append_iff.mp hline.2 with ⟨more, hkey, hrest⟩ | ⟨more, rfl, hafter⟩
  · -- The keyword would have to reach past the number sign, of which it has none.
    cases more with
    | nil =>
      rw [List.append_nil] at hkey
      exact ⟨[], tail, rfl, ⟨blanks, word, by simp [← hkey], hblanks, hword⟩, by simp⟩
    | cons c more =>
      obtain ⟨rfl, -⟩ := List.cons.inj hrest
      exact absurd (hkey ▸ List.mem_append_right _ List.mem_cons_self) hsign
  · refine ⟨more, _, rfl, ⟨blanks, word, by simp, hblanks, hword⟩, fun c hc => halone c ?_⟩
    rw [hafter, List.head?_append, hc]
    rfl

theorem leftmost_append {p : List Char} (hp : ∀ before after, ¬ Marked p before after)
    {text after : List Char} (h : Keyword text after) :
    Leftmost (p ++ '#' :: text) p after where
  marked := ⟨text, rfl, h⟩
  first others rest hm := by
    refine Nat.le_of_not_lt fun hlt => ?_
    obtain ⟨own, hown⟩ := hm.of_append hlt
    exact hp _ _ hown

theorem ofLine?_directive {p : List Char} (hp : ∀ before after, ¬ Marked p before after)
    {targets : List Target} (hne : targets ≠ []) (ht : ∀ t ∈ targets, t.Proper) :
    ofLine? (p ++ (Target.directive targets).toList) =
      some (.targets (targets.map Target.text)) := by
  let pieces := targets.map fun t => t.text.toList
  let list := List.intercalate [',', ' '] pieces
  have hwhole : ∀ piece ∈ pieces, piece ≠ [] ∧ (∀ c ∈ piece, isSeparator c = false) ∧
      '#' ∉ piece := by
    intro piece hpiece
    obtain ⟨t, hmem, rfl⟩ := List.mem_map.mp hpiece
    exact whole_text (ht t hmem)
  have hpieces : Pieces list pieces :=
    pieces_intercalate fun piece hm => ⟨(hwhole piece hm).1, (hwhole piece hm).2.1⟩
  have hsign : '#' ∉ list := not_mem_intercalate (by decide) fun piece hm => (hwhole piece hm).2.2
  obtain ⟨c, hc, hs⟩ : ∃ c ∈ list, isSeparator c = false := by
    have hsome : pieces ≠ [] := by simpa [pieces] using hne
    rw [ne_eq, hpieces.eq_nil_iff] at hsome
    simpa using hsome
  have htext : (Target.directive targets).toList =
      '#' :: ' ' :: ("noqa".toList ++ ':' :: ' ' :: list) := by
    simp [Target.directive, list, pieces, Function.comp_def]
  have hkey : Keyword (' ' :: ("noqa".toList ++ ':' :: ' ' :: list)) (':' :: ' ' :: list) :=
    ⟨⟨[' '], "noqa".toList, rfl, List.all_eq_true.mp (by decide), by decide⟩, fun c hc => by
      rw [← Option.some.inj hc]
      decide⟩
  have hlisted : Listed (':' :: ' ' :: list) (' ' :: list) :=
    ⟨[], by simp, by simp [hsign], by simp⟩
  have hread := Directive.targets (leftmost_append hp hkey) hlisted
    (List.mem_cons_of_mem _ hc) hs (.skip (by decide) hpieces)
  have hback : pieces.map String.ofList = targets.map Target.text := by
    simp [pieces, Function.comp_def]
  rw [htext, ← hback]
  exact ofLine?_eq_some.mpr hread

end Suppression

/-- Where a directive is written that lists targets, it suppresses the issues on its line that one
of them names. Whatever else is written on the line, issues on other lines are as they were. -/
theorem SuppressionIndex.suppresses_written (text : List Char) (n : Nat) (p : List Char)
    (hp : ∀ before after, ¬ Suppression.Marked p before after) (targets : List Target)
    (hne : targets ≠ []) (ht : ∀ t ∈ targets, t.Proper)
    (hline : lineAt? text n = some (p ++ (Target.directive targets).toList)) :
    (∀ i : Issue, i.line.toNat = n →
      ((parse text).suppresses i = true ↔ ∃ t ∈ targets, t.Names i)) ∧
    ∀ other, (∀ m, m ≠ n → lineAt? other m = lineAt? text m) →
      ∀ i : Issue, i.line.toNat ≠ n → (parse other).suppresses i = (parse text).suppresses i := by
  constructor
  · rintro i rfl
    have hget : (parse text).get? i.line.toNat = some (.targets (targets.map Target.text)) := by
      rw [get?_parse, hline]
      exact Suppression.ofLine?_directive hp hne ht
    rw [suppresses, hget, Option.elim_some, Suppression.covers_targets]
    constructor
    · rintro ⟨token, hm, hcovers⟩
      obtain ⟨t, hmem, rfl⟩ := List.mem_map.mp hm
      exact ⟨t, hmem, (Suppression.tokenCovers_text (ht t hmem) i).mp hcovers⟩
    · rintro ⟨t, hmem, hnames⟩
      exact ⟨t.text, List.mem_map_of_mem hmem,
        (Suppression.tokenCovers_text (ht t hmem) i).mpr hnames⟩
  · intro other hother i hi
    rw [suppresses, suppresses, get?_parse, get?_parse, hother _ hi]

namespace Target

def mixed : List Target := [.code "E1", .tool "a:b", .both "lint" "x:@1"]

def mixedText : List Char := "import os\nx = 1  # nothing  # noqa: E1, @a:b, lint:x:@1\n".toList

/-- What stands before the directive has a number sign of its own. -/
theorem suppresses_written_mixed :
    (∀ before after, ¬ Suppression.Marked "x = 1  # nothing  ".toList before after) ∧
    mixed ≠ [] ∧ (∀ t ∈ mixed, t.Proper) ∧
    lineAt? mixedText 2 = some ("x = 1  # nothing  ".toList ++ (directive mixed).toList) ∧
    ∀ i : Issue, i.line.toNat = 2 →
      ((SuppressionIndex.parse mixedText).suppresses i = true ↔ ∃ t ∈ mixed, t.Names i) := by
  have hmarked : ∀ before after, ¬ Suppression.Marked "x = 1  # nothing  ".toList before after := by
    intro before after hm
    have hsome := Suppression.isSome_ofLine?.mpr ⟨before, after, hm⟩
    exact absurd hsome (by decide)
  have hword : ∀ name : String, name ≠ "" →
      (name.toList.all fun c => !isBlank c && c != ',' && c != '#') = true → IsWord name := by
    intro name hne hall
    refine ⟨hne, fun c hc => ?_⟩
    simpa [and_assoc] using List.all_eq_true.mp hall c hc
  have hproper : ∀ t ∈ mixed, t.Proper := by
    simp only [mixed, List.forall_mem_cons]
    exact ⟨⟨hword "E1" (by decide) (by decide), by decide, by decide⟩,
      hword "a:b" (by decide) (by decide),
      ⟨⟨hword "lint" (by decide) (by decide), by decide, by decide⟩,
        hword "x:@1" (by decide) (by decide)⟩, by simp⟩
  have hline : lineAt? mixedText 2 =
    some ("x = 1  # nothing  ".toList ++ (directive mixed).toList) := by decide
  exact ⟨hmarked, by decide, hproper, hline,
    (SuppressionIndex.suppresses_written mixedText 2 _ hmarked mixed (by decide) hproper hline).1⟩

end Target

end MetaLint
