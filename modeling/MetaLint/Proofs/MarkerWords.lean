import MetaLint.Proofs.MarkerSearch
import MetaLint.Proofs.WordCase

/-!
# Markers that are words

When all markers are words, the search tells of the words of a text that spell a marker, and of
nothing else: a word is a run of word characters that no word character continues on either side.
-/

set_option autoImplicit false

namespace MetaLint.Tool.Todo

open Text
open Unicode (isBoundary isWord isWordAt fold)

/-- A text that consists of word characters. -/
structure Wordlike (text : List Char) : Prop where
  filled : text ≠ []
  word : ∀ c ∈ text, isWord c = true

/-- A word of a line, with what lies before and behind it. -/
structure WordOf (line before word after : List Char) : Prop where
  split : line = before ++ (word ++ after)
  wordlike : Wordlike word
  starts : ∀ c, before.getLast? = some c → isWord c = false
  ends : ∀ c, after.head? = some c → isWord c = false

/-- A word in a text: the line it is on, the number of characters before it on this line, and how it
is written. -/
structure Place where
  line : Nat
  before : Nat
  word : List Char

/-- The word spells a marker, on a line without an ignore pattern. -/
structure Place.Marked (o : Options) (text : List Char) (w : Place) : Prop where
  shown : ∃ line before after, lineAt? text w.line = some line ∧ o.Heeds line ∧
    WordOf line before w.word after ∧ before.length = w.before
  spells : o.Spells w.word

def Place.Precedes (v w : Place) : Prop := v.line < w.line ∨ v.line = w.line ∧ v.before < w.before

/-- The issue about a word. -/
structure Quotes (p : Path) (w : Place) (i : Issue) : Prop where
  tool : i.tool = name
  code : i.code = some "todo"
  message : i.message =
    "Found '" ++ String.ofList w.word ++ "' comment. Consider resolving this before committing."
  file : i.filename = p
  line : i.line.toNat = w.line
  column : i.character.map UInt32.toNat = some (w.before + 1)
  severity : i.severity = .warning

section Words
variable {o : Options} {line before word after : List Char}

theorem Options.SameText.map_isWord {a b : List Char} (h : o.SameText a b) :
    a.map isWord = b.map isWord := by
  rw [SameText] at h
  split at h
  · rw [h]
  · have hfold : ∀ text : List Char, text.map isWord = (text.map fold).map isWord := by
      intro text
      rw [List.map_map]
      exact List.map_congr_left fun c _ => (Unicode.isWord_fold c).symm
    rw [hfold a, hfold b, h]

theorem Options.SameText.wordlike {a b : List Char} (h : o.SameText a b) (ha : Wordlike a) :
    Wordlike b := by
  have hmap := h.map_isWord
  constructor
  · rintro rfl
    exact ha.filled (List.map_eq_nil_iff.mp hmap)
  · have hall : ∀ w ∈ a.map isWord, w = true := List.forall_mem_map.mpr ha.word
    rw [hmap] at hall
    exact List.forall_mem_map.mp hall

theorem Wordlike.isWordAt_head? (h : Wordlike word) (after : List Char) :
    isWordAt (word ++ after).head? = true := by
  obtain ⟨c, rest, rfl⟩ := List.exists_cons_of_ne_nil h.filled
  exact h.word c List.mem_cons_self

theorem Wordlike.isWordAt_getLast? (h : Wordlike word) (before : List Char) :
    isWordAt (before ++ word).getLast? = true := by
  rw [List.getLast?_append_of_ne_nil _ h.filled, List.getLast?_eq_some_getLast h.filled]
  exact h.word _ (List.getLast_mem h.filled)

theorem standing_iff_of_wordlike (h : Wordlike word) : Standing o line before word after ↔
    WordOf line before word after ∧ o.Spells word := by
  have hstarts : isBoundary before.getLast? (word ++ after).head? = true ↔
      ∀ c, before.getLast? = some c → isWord c = false := by
    rw [isBoundary, h.isWordAt_head?, Bool.bne_true, Bool.not_eq_true',
      Suppression.isWordAt_eq_false]
  have hends : isBoundary (before ++ word).getLast? after.head? = true ↔
      ∀ c, after.head? = some c → isWord c = false := by
    rw [isBoundary, h.isWordAt_getLast?, Bool.true_bne, Bool.not_eq_true',
      Suppression.isWordAt_eq_false]
  constructor
  · intro hs
    exact ⟨⟨hs.split, h, hstarts.mp hs.starts, hends.mp hs.ends⟩, hs.spells⟩
  · rintro ⟨hw, hspells⟩
    exact ⟨hw.split, hspells, hstarts.mpr hw.starts, hends.mpr hw.ends⟩

theorem WordOf.takeWhile_eq (h : WordOf line before word after) :
    (word ++ after).takeWhile isWord = word := by
  have hafter : after.takeWhile isWord = [] := by
    cases after with
    | nil => rfl
    | cons c after => rw [List.takeWhile_cons_of_neg (by simp [h.ends c rfl])]
  rw [List.takeWhile_append_of_pos h.wordlike.word, hafter, List.append_nil]

theorem WordOf.unique {other rest : List Char} (h : WordOf line before word after)
    (h' : WordOf line before other rest) : word = other := by
  have hsame : word ++ after = other ++ rest :=
    List.append_cancel_left (h.split.symm.trans h'.split)
  rw [← h.takeWhile_eq, hsame, h'.takeWhile_eq]

end Words

def Options.Wordy (o : Options) : Prop := ∀ m ∈ o.patterns, Wordlike m.toList

section Search
variable {o : Options} {line : List Char}

theorem Options.Wordy.markers (ho : o.Wordy) : ∀ m ∈ o.markers, Wordlike m.toList := by
  have hdefault : ∀ m ∈ defaultMarkers, m.toList ≠ [] ∧ m.toList.all isWord = true := by decide
  exact forall_mem_markers ho fun m hm =>
    ⟨(hdefault m hm).1, List.all_eq_true.mp (hdefault m hm).2⟩

theorem Options.Wordy.spells (ho : o.Wordy) {run : List Char} (h : o.Spells run) :
    Wordlike run := by
  obtain ⟨m, hm, hsame⟩ := h
  exact hsame.wordlike (ho.markers m hm)

theorem markerHere?_iff_wordOf (ho : o.Wordy) {before text word : List Char} :
    o.markerHere? before.getLast? text = some word ↔
      (∃ after, WordOf (before ++ text) before word after) ∧ o.Spells word := by
  constructor
  · intro h
    obtain ⟨after, hs⟩ := Standing.of_markerHere? h
    obtain ⟨hw, hspells⟩ := (standing_iff_of_wordlike (ho.spells hs.spells)).mp hs
    exact ⟨⟨after, hw⟩, hspells⟩
  · rintro ⟨⟨after, hw⟩, hspells⟩
    have hs := (standing_iff_of_wordlike hw.wordlike).mpr ⟨hw, hspells⟩
    cases hhere : o.markerHere? before.getLast? text with
    | none => exact absurd hs (markerHere?_eq_none.mp hhere word after)
    | some other =>
      obtain ⟨rest, hs'⟩ := Standing.of_markerHere? hhere
      obtain ⟨hw', -⟩ := (standing_iff_of_wordlike (ho.spells hs'.spells)).mp hs'
      rw [hw.unique hw']

theorem isWordAt_of_markerHere? (ho : o.Wordy) {before : Option Char} {text word : List Char}
    (h : o.markerHere? before text = some word) : isWordAt before = false := by
  rw [← getLast?_toList before] at h
  obtain ⟨⟨after, hw⟩, -⟩ := (markerHere?_iff_wordOf ho).mp h
  rw [Suppression.isWordAt_eq_false, ← getLast?_toList before]
  exact hw.starts

theorem Options.Wordy.apart (ho : o.Wordy) :
    Apart o.sameChar (o.markers.map String.toList) := by
  constructor
  · intro before text h
    have hhere : o.markerHere? before.toList.getLast? text = some [] := by
      rw [getLast?_toList]
      exact h
    exact (ho.spells ((markerHere?_iff_wordOf ho).mp hhere).2).filled rfl
  · intro before c rest a front h position m htaken
    obtain ⟨inside, behind, rfl, hposition, hm⟩ := htaken
    by_contra hshort
    have hhere : o.markerHere? before.toList.getLast? (c :: (inside ++ behind)) =
        some (a :: front) := by
      rw [getLast?_toList]
      exact h
    obtain ⟨⟨after, hw⟩, -⟩ := (markerHere?_iff_wordOf ho).mp hhere
    have hsplit := List.append_cancel_left hw.split
    obtain ⟨rfl, hrest⟩ := List.cons.inj hsplit
    have hin : inside <+: front :=
      List.prefix_of_prefix_length_le ⟨behind, hrest⟩ (List.prefix_append _ _) (by omega)
    have hword : isWordAt (lastOr (some c) inside) = true := by
      have hlastIn := List.getLast_mem (List.cons_ne_nil c inside)
      rw [← @lastOr_cons none, lastOr_none,
        List.getLast?_eq_some_getLast (List.cons_ne_nil c inside)]
      exact hw.wordlike.word _ (List.cons_subset_cons c hin.subset hlastIn)
    rw [isWordAt_of_markerHere? ho hm] at hword
    contradiction

theorem takenAt_iff_wordOf (ho : o.Wordy) {m : Nat × List Char} :
    TakenAt o.sameChar (o.markers.map String.toList) 0 none line m ↔
      ∃ before after, WordOf line before m.2 after ∧ before.length = m.1 ∧ o.Spells m.2 := by
  constructor
  · rintro ⟨front, rest, rfl, hposition, h⟩
    rw [lastOr_none] at h
    obtain ⟨⟨after, hw⟩, hspells⟩ := (markerHere?_iff_wordOf ho).mp h
    exact ⟨front, after, hw, by omega, hspells⟩
  · rintro ⟨before, after, hw, hposition, hspells⟩
    obtain rfl := hw.split
    have h := (markerHere?_iff_wordOf ho).mpr ⟨⟨after, hw⟩, hspells⟩
    rw [← lastOr_none] at h
    exact ⟨before, m.2 ++ after, rfl, by omega, h⟩

theorem mem_markersIn_iff (ho : o.Wordy) {m : Nat × List Char} : m ∈ markersIn o line ↔
    ∃ before after, WordOf line before m.2 after ∧ before.length = m.1 ∧ o.Spells m.2 := by
  rw [markersIn, mem_markersFrom_iff ho.apart TakenAt.le_position, takenAt_iff_wordOf ho]

end Search

section Text
variable {o : Options} {text : List Char}

def markedOn (o : Options) (l : Nat × List Char) : List Place :=
  if o.ignores l.2 then [] else (markersIn o l.2).map fun m => ⟨l.1, m.1, m.2⟩

theorem check_eq_map (o : Options) (p : Path) (text : List Char) : check o p text =
    ((numberedLines text).flatMap (markedOn o)).map fun w =>
      issueOf p w.line (w.before, w.word) := by
  rw [check, List.map_flatMap]
  refine List.flatMap_congr fun l _ => ?_
  obtain ⟨n, line⟩ := l
  show (if o.ignores line = true then [] else _) =
    List.map _ (if o.ignores line = true then [] else _)
  split
  · rfl
  · rw [List.map_map]
    rfl

theorem mem_markedOn {l : Nat × List Char} {w : Place} : w ∈ markedOn o l ↔
    l.1 = w.line ∧ o.Heeds l.2 ∧ (w.before, w.word) ∈ markersIn o l.2 := by
  rw [markedOn]
  split
  next hignored =>
    have hheeds : ¬ o.Heeds l.2 := by
      rw [← Options.ignores_eq_false, hignored]
      exact Bool.noConfusion
    simp [hheeds]
  next hheeded =>
    have hheeds : o.Heeds l.2 := Options.ignores_eq_false.mp (eq_false_of_ne_true hheeded)
    constructor
    · intro h
      obtain ⟨m, hm, rfl⟩ := List.mem_map.mp h
      exact ⟨rfl, hheeds, hm⟩
    · rintro ⟨hline, -, hm⟩
      exact List.mem_map.mpr ⟨_, hm, by rw [hline]⟩

theorem marked_iff (ho : o.Wordy) {w : Place} : w.Marked o text ↔
    w ∈ (numberedLines text).flatMap (markedOn o) := by
  rw [mem_scan_iff]
  constructor
  · rintro ⟨⟨line, before, after, hline, hheeds, hw, hbefore⟩, hspells⟩
    exact ⟨w.line, line, hline, mem_markedOn.mpr
      ⟨rfl, hheeds, (mem_markersIn_iff ho).mpr ⟨before, after, hw, hbefore, hspells⟩⟩⟩
  · rintro ⟨n, line, hline, h⟩
    obtain ⟨rfl, hheeds, hm⟩ := mem_markedOn.mp h
    obtain ⟨before, after, hw, hbefore, hspells⟩ := (mem_markersIn_iff ho).mp hm
    exact ⟨⟨line, before, after, hline, hheeds, hw, hbefore⟩, hspells⟩

theorem ordered_markedOn (o : Options) (l : Nat × List Char) :
    (markedOn o l).Pairwise Place.Precedes := by
  rw [markedOn]
  split
  · exact List.Pairwise.nil
  · exact List.pairwise_map.mpr (ascending_markersFrom.imp fun h => .inr ⟨rfl, h⟩)

theorem ordered_marked : ((numberedLines text).flatMap (markedOn o)).Pairwise Place.Precedes := by
  refine pairwise_scan (ordered_markedOn o) fun l k hlk v hv w hw => ?_
  rw [Place.Precedes, ← (mem_markedOn.mp hv).1, ← (mem_markedOn.mp hw).1]
  exact .inl hlk

theorem quotes_issueOf (hs : Short text) {w : Place} (h : w.Marked o text) (p : Path) :
    Quotes p w (issueOf p w.line (w.before, w.word)) := by
  obtain ⟨line, before, after, hline, -, hw, hbefore⟩ := h.shown
  have hlength := length_le_of_lineAt? hline
  rw [hw.split, List.length_append] at hlength
  refine ⟨rfl, rfl, rfl, rfl, toNat_ofNat_of_short hs (bounds_of_lineAt? hline).2, ?_, rfl⟩
  exact toNat_column_of_short hs (Nat.succ_pos _) (by omega)

/-- The tool tells of the marked words of a text and of nothing else, of each once and in their
order. -/
theorem check_quotes_marked (ho : o.Wordy) (hs : Short text) (p : Path) :
    ∃ found, List.Forall₂ (Quotes p) found (check o p text) ∧ found.Pairwise Place.Precedes ∧
      ∀ w, w ∈ found ↔ w.Marked o text := by
  refine ⟨_, ?_, ordered_marked, fun w => (marked_iff ho).symm⟩
  rw [check_eq_map, List.forall₂_map_right_iff, List.forall₂_same]
  exact fun w hw => quotes_issueOf hs ((marked_iff ho).mpr hw) p

end Text

def nestedMarkers : Options := { patterns := ["TO", "todo"], ignorePatterns := ["skip"] }

def nestedText : List Char := "# Todo: TODOS to\nskip TODO\n\tto_do,tO".toList

theorem check_quotes_marked_nested : nestedMarkers.Wordy ∧ Short nestedText ∧
    (∃ found, List.Forall₂ (Quotes ⟨"a.py"⟩) found (check nestedMarkers ⟨"a.py"⟩ nestedText) ∧
      found.Pairwise Place.Precedes ∧ ∀ w, w ∈ found ↔ w.Marked nestedMarkers nestedText) ∧
    (check nestedMarkers ⟨"a.py"⟩ nestedText).map (fun i => (i.line, i.character)) =
      [(1, some 3), (1, some 15), (3, some 8)] := by
  have hmarkers : ∀ m ∈ nestedMarkers.patterns,
      m.toList ≠ [] ∧ m.toList.all isWord = true := by decide
  have hwordy : nestedMarkers.Wordy := fun m hm =>
    ⟨(hmarkers m hm).1, List.all_eq_true.mp (hmarkers m hm).2⟩
  have hshort : nestedText.length < 2147483648 := by decide
  exact ⟨hwordy, hshort, check_quotes_marked hwordy hshort ⟨"a.py"⟩, by decide⟩

end MetaLint.Tool.Todo
