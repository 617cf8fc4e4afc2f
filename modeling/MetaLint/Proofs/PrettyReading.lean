import MetaLint.Config.Document
import MetaLint.Proofs.Scanning

/-!
# Reading what was laid out

A value that is laid out on lines is read back: its integers, texts and words as they are written,
and its lists and objects line by line.
-/

set_option autoImplicit false

namespace MetaLint.Jsonc

open Json (Value Members Doc)
open Text (isBlank)

/-- The text is read as the value wherever it stands behind blanks, and what follows it is left. The
fuel that this takes is bounded by the text from here on. -/
def Writes (cs : List Char) (v : Value) : Prop :=
  ∀ (gap rest : List Char) (c : Cursor), (∀ a ∈ gap, isBlank a = true) → Stops rest →
    c.rest = gap ++ cs ++ rest →
    ∃ s t, scan c = .ok s ∧ s.token = some t ∧ t ≠ .closeBracket ∧
      ∀ fuel, 2 * c.rest.length ≤ fuel →
        ∃ d, readValue fuel t s.start s.after = .ok (v, d) ∧ d.rest = rest

def WritesMember (cs : List Char) (m : String × Value) : Prop :=
  ∃ ds, cs = (Json.quoted m.1).toList ++ ':' :: ' ' :: ds ∧ Writes ds m.2

section Tokens
variable {cs : List Char} {v : Value} {t : Token}

theorem writes_of_scans (ht : t ≠ .closeBracket) (hne : cs ≠ [])
    (hread : ∀ fuel start c, readValue (fuel + 1) t start c = .ok (v, c))
    (h : ∀ (gap rest : List Char) (c : Cursor), (∀ a ∈ gap, isBlank a = true) → Stops rest →
      c.rest = gap ++ cs ++ rest → Scans c t rest) : Writes cs v := by
  intro gap rest c hg hs hc
  obtain ⟨s, hscan, htoken, hafter⟩ := h gap rest c hg hs hc
  refine ⟨s, t, hscan, htoken, ht, fun fuel hfuel => ⟨s.after, ?_, hafter⟩⟩
  obtain ⟨a, rest', hcons⟩ := List.exists_cons_of_ne_nil hne
  have hpos : fuel ≠ 0 := by
    rw [hc, hcons] at hfuel
    simp at hfuel
    omega
  obtain ⟨fuel, rfl⟩ := Nat.exists_eq_succ_of_ne_zero hpos
  exact hread fuel s.start s.after

theorem writes_null : Writes "null".toList .null :=
  writes_of_scans (by decide) (by decide) (fun _ _ _ => by rw [readValue])
    fun _ _ _ => scans_null

theorem writes_bool (b : Bool) : Writes (if b then "true" else "false").toList (.bool b) := by
  cases b with
  | true =>
    exact writes_of_scans (by decide) (by decide) (fun _ _ _ => by rw [readValue])
      fun _ _ _ => scans_true
  | false =>
    exact writes_of_scans (by decide) (by decide) (fun _ _ _ => by rw [readValue])
      fun _ _ _ => scans_false

theorem writes_text (s : String) : Writes (Json.quoted s).toList (.text s) :=
  writes_of_scans (by simp) (by simp [Json.quoted]) (fun _ _ _ => by rw [readValue])
    fun _ _ _ hg _ hc => scans_quoted hg hc

theorem writes_int {i : Int} (h : Value.InRange i) :
    Writes (Json.intText i).toList (.number (.int i)) := by
  obtain ⟨a, cs, hcs, -⟩ := exists_number_eq i
  refine writes_of_scans (by simp) (by simp [hcs]) (fun _ _ _ => ?_)
    fun _ _ _ => scans_int i
  rw [readValue, numberValue_intText h]

end Tokens

def lineTail (inner after : List Char) : List (List Char) → List Char
  | [] => after
  | l :: ls => ',' :: '\n' :: (inner ++ l ++ lineTail inner after ls)

section Lines
variable {inner outer gap rest cs : List Char} {ls : List (List Char)} {c : Cursor}

theorem stops_lineTail : Stops (lineTail inner ('\n' :: rest) ls) := by
  cases ls <;> simp [Stops, lineTail]

theorem scanComma_comma (h : Scans c .comma rest) :
    ∃ d, scanComma c = scan d ∧ d.rest = rest := by
  obtain ⟨s, hs, ht, hrest⟩ := h
  refine ⟨s.after, ?_, hrest⟩
  rw [scanComma, hs]
  simp [bind, Except.bind, ht]

theorem scanComma_of_ne {t : Token} (h : Scans c t rest) (hne : t ≠ .comma) :
    ∃ s, scanComma c = .ok s ∧ s.token = some t ∧ s.after.rest = rest := by
  obtain ⟨s, hs, ht, hrest⟩ := h
  refine ⟨s, ?_, ht, hrest⟩
  rw [scanComma, hs]
  simp [bind, Except.bind, ht, hne]
  rfl

theorem scans_comma (hc : c.rest = ',' :: rest) : Scans c .comma rest :=
  scans_punctuation rfl (List.forall_mem_nil _) hc

theorem blank_newline (hi : ∀ a ∈ inner, isBlank a = true) :
    ∀ a ∈ '\n' :: inner, isBlank a = true :=
  List.forall_mem_cons.mpr ⟨by decide, hi⟩

structure Enclosure (α : Type) where
  opening : Char
  closing : Char
  opener : Token
  closer : Token
  value : List α → Value
  read : Nat → Cursor → List α → Scanned → Except ParseError (Value × Cursor)
  opens : punctuation? opening = some opener
  closes : punctuation? closing = some closer
  opener_ne : opener ≠ .closeBracket
  closer_ne : closer ≠ .comma
  start : ∀ {c s}, scan c = .ok s → ∀ fuel opened,
    readValue (fuel + 1) opener opened c = read fuel opened [] s
  finish : ∀ {s}, s.token = some closer → ∀ fuel opened done,
    read (fuel + 1) opened done s = .ok (value done.reverse, s.after)

def items : Enclosure Value where
  opening := '['
  closing := ']'
  opener := .openBracket
  closer := .closeBracket
  value := .list
  read := readItems
  opens := rfl
  closes := rfl
  opener_ne := by decide
  closer_ne := by decide
  start h fuel opened := by rw [readValue]; simp only [h]
  finish h fuel opened done := by rw [readItems, h]

def members : Enclosure (String × Value) where
  opening := '\x7b'
  closing := '\x7d'
  opener := .openBrace
  closer := .closeBrace
  value := Value.ofMembers
  read := readMembers
  opens := rfl
  closes := rfl
  opener_ne := by decide
  closer_ne := by decide
  start h fuel opened := by rw [readValue]; simp only [h]
  finish h fuel opened done := by rw [readMembers, h]

namespace Enclosure

def Holds {α : Type} (e : Enclosure α) (cs : List Char) (a : α) : Prop :=
  ∀ (gap rest : List Char) (c : Cursor), (∀ b ∈ gap, isBlank b = true) → Stops rest →
    c.rest = gap ++ cs ++ rest →
    ∃ s, scan c = .ok s ∧ ∀ fuel, 2 * c.rest.length ≤ fuel →
      ∃ d, d.rest = rest ∧ ∀ s', scanComma d = .ok s' → ∀ opened done,
        e.read (fuel + 1) opened done s = e.read fuel opened (a :: done) s'

theorem holds_items {v : Value} (h : Writes cs v) : items.Holds cs v := by
  intro gap rest c hg hs hc
  obtain ⟨s, t, hscan, ht, hne, hread⟩ := h gap rest c hg hs hc
  refine ⟨s, hscan, fun fuel hfuel => ?_⟩
  obtain ⟨d, hv, hd⟩ := hread fuel hfuel
  refine ⟨d, hd, fun s' hs' opened done => ?_⟩
  show readItems (fuel + 1) opened done s = readItems fuel opened (v :: done) s'
  rw [readItems, ht]
  cases t with
  | closeBracket => exact (hne rfl).elim
  | _ => simp only [hv, hs']

theorem holds_members {m : String × Value} (h : WritesMember cs m) : members.Holds cs m := by
  intro gap rest c hg hs hc
  obtain ⟨ds, rfl, hv⟩ := h
  have hkey : c.rest = gap ++ (Json.quoted m.1).toList ++ (':' :: ' ' :: (ds ++ rest)) := by
    simp [hc]
  have hlength := congrArg List.length hkey
  simp only [List.length_append, List.length_cons] at hlength
  obtain ⟨s, hscan, ht, hrest⟩ := scans_quoted hg hkey
  refine ⟨s, hscan, fun fuel hfuel => ?_⟩
  obtain ⟨fuel, rfl⟩ := Nat.exists_eq_add_of_le' (show 1 ≤ fuel by omega)
  have hcolon : Scans s.after .colon (' ' :: (ds ++ rest)) :=
    scans_punctuation rfl (List.forall_mem_nil _) hrest
  obtain ⟨u, hu, hut, hurest⟩ := hcolon
  obtain ⟨w, t, hw, hwt, -, hread⟩ := hv [' '] rest u.after (by simp; decide) hs (by simp [hurest])
  have hshorter := congrArg List.length hurest
  simp only [List.length_append, List.length_cons] at hshorter
  obtain ⟨d, hd, hafter⟩ := hread fuel (by omega)
  have hmember : readMember (fuel + 1) s.after = .ok (m.2, d) := by
    rw [readMember, hu]
    simp only [hut, if_true, hw, hwt, hd]
  refine ⟨d, hafter, fun s' hs' opened done => ?_⟩
  show readMembers (fuel + 2) opened done s = readMembers (fuel + 1) opened (m :: done) s'
  rw [readMembers, ht]
  simp only [hmember, hs']

variable {α : Type} {a : α} {as : List α} (e : Enclosure α)

theorem read_lines (hi : ∀ b ∈ inner, isBlank b = true) (ho : ∀ b ∈ outer, isBlank b = true)
    (h : e.Holds cs a) (hs : List.Forall₂ e.Holds ls as) (hg : ∀ b ∈ gap, isBlank b = true)
    (hc : c.rest = gap ++ cs ++ lineTail inner ('\n' :: (outer ++ e.closing :: rest)) ls) :
    ∃ s, scan c = .ok s ∧ ∀ fuel opened done, 2 * c.rest.length < fuel →
      ∃ d, e.read fuel opened done s = .ok (e.value (done.reverse ++ a :: as), d) ∧
        d.rest = rest := by
  induction hs generalizing cs a gap c with
  | nil =>
    obtain ⟨s, hscan, hread⟩ := h gap _ c hg stops_lineTail hc
    refine ⟨s, hscan, fun fuel opened done hfuel => ?_⟩
    have hlength := congrArg List.length hc
    simp only [lineTail, List.length_append, List.length_cons] at hlength
    obtain ⟨fuel, rfl⟩ := Nat.exists_eq_add_of_le' (show 2 ≤ fuel by omega)
    obtain ⟨d, hd, hstep⟩ := hread (fuel + 1) (by omega)
    have hclosing : Scans d e.closer rest := scans_punctuation e.closes (blank_newline ho) hd
    obtain ⟨s', hs', ht', hrest⟩ := scanComma_of_ne hclosing e.closer_ne
    refine ⟨s'.after, ?_, hrest⟩
    rw [hstep s' hs', e.finish ht', List.reverse_cons]
  | cons hl hls ih =>
    obtain ⟨s, hscan, hread⟩ := h gap _ c hg stops_lineTail hc
    refine ⟨s, hscan, fun fuel opened done hfuel => ?_⟩
    have hlength := congrArg List.length hc
    simp only [lineTail, List.length_append, List.length_cons] at hlength
    obtain ⟨fuel, rfl⟩ := Nat.exists_eq_add_of_le' (show 1 ≤ fuel by omega)
    obtain ⟨d, hd, hstep⟩ := hread fuel (by omega)
    obtain ⟨b, hb, hbrest⟩ := scanComma_comma (scans_comma hd)
    obtain ⟨s', hs', hrestread⟩ := ih hl (blank_newline hi) hbrest
    have hshorter := congrArg List.length hbrest
    simp only [List.length_append, List.length_cons] at hshorter
    obtain ⟨f, hf, hrest⟩ := hrestread fuel opened (a :: done) (by omega)
    refine ⟨f, ?_, hrest⟩
    rw [hstep s' (hb.trans hs'), hf]
    simp

end Enclosure

end Lines

section Layout
variable {level : Nat} {opening closing : String} {rest : List Char}

def indentText (level : Nat) : List Char := List.replicate (2 * level) ' '

theorem blank_indentText (level : Nat) : ∀ a ∈ indentText level, isBlank a = true := by
  intro a ha
  rw [List.eq_of_mem_replicate ha]
  decide

theorem toList_lines (level : Nat) (rest : List Char) (l : String) (ls : List String) :
    (",\n".intercalate ((l :: ls).map (Doc.indent level ++ ·))).toList ++ rest =
      indentText level ++ l.toList ++ lineTail (indentText level) rest (ls.map String.toList) := by
  induction ls generalizing l with
  | nil => simp [Doc.indent, indentText, lineTail]
  | cons l' ls ih =>
    have htail := ih l'
    rw [List.map_cons, List.map_cons, String.intercalate_cons_cons, String.toList_append,
      String.toList_append, List.append_assoc, List.append_assoc, ← List.map_cons, htail]
    simp [Doc.indent, indentText, lineTail]

theorem toList_bracketed (l : String) (ls : List String) :
    (Doc.bracketed opening closing level (l :: ls)).toList ++ rest =
      opening.toList ++ '\n' :: (indentText (level + 1) ++ l.toList ++
        lineTail (indentText (level + 1))
          ('\n' :: (indentText level ++ (closing.toList ++ rest))) (ls.map String.toList)) := by
  rw [Doc.bracketed, if_neg (by simp)]
  simp only [String.toList_append, List.append_assoc]
  rw [toList_lines]
  simp [Doc.indent, indentText]

/-- Lines between brackets write what stands between them. -/
theorem writes_bracketed {α : Type} {e : Enclosure α} {lines : List String} {as : List α}
    (ho : opening.toList = [e.opening]) (hcl : closing.toList = [e.closing])
    (h : List.Forall₂ e.Holds (lines.map String.toList) as) :
    Writes (Doc.bracketed opening closing level lines).toList (e.value as) := by
  intro gap rest c hg hs hc
  rw [List.append_assoc] at hc
  cases lines with
  | nil =>
    obtain rfl := List.forall₂_nil_left_iff.mp h
    have hopening : c.rest = gap ++ e.opening :: e.closing :: rest := by
      simpa [Doc.bracketed, ho, hcl] using hc
    obtain ⟨s, hscan, ht, hrest⟩ := scans_punctuation e.opens hg hopening
    have hclosing : Scans s.after e.closer rest :=
      scans_punctuation e.closes (List.forall_mem_nil _) hrest
    obtain ⟨s', hs', ht', hrest'⟩ := hclosing
    refine ⟨s, _, hscan, ht, e.opener_ne, fun fuel hfuel => ⟨s'.after, ?_, hrest'⟩⟩
    rw [hopening, List.length_append, List.length_cons] at hfuel
    obtain ⟨fuel, rfl⟩ := Nat.exists_eq_add_of_le' (show 2 ≤ fuel by omega)
    rw [e.start hs', e.finish ht', List.reverse_nil]
  | cons l ls =>
    rw [List.map_cons] at h
    obtain ⟨a, as, ha, has, rfl⟩ := List.forall₂_cons_left_iff.mp h
    have hopening : c.rest = gap ++ e.opening :: ('\n' :: indentText (level + 1) ++ l.toList ++
        lineTail (indentText (level + 1)) ('\n' :: (indentText level ++ e.closing :: rest))
          (ls.map String.toList)) := by
      rw [hc, toList_bracketed, ho, hcl]
      simp
    obtain ⟨s, hscan, ht, hrest⟩ := scans_punctuation e.opens hg hopening
    obtain ⟨s', hs', hread⟩ := e.read_lines (blank_indentText _) (blank_indentText _) ha has
      (blank_newline (blank_indentText _)) hrest
    refine ⟨s, _, hscan, ht, e.opener_ne, fun fuel hfuel => ?_⟩
    rw [hopening, List.length_append, List.length_cons, ← hrest] at hfuel
    obtain ⟨fuel, rfl⟩ := Nat.exists_eq_add_of_le' (show 1 ≤ fuel by omega)
    obtain ⟨d, hd, hafter⟩ := hread fuel s.start [] (by omega)
    refine ⟨d, ?_, hafter⟩
    rw [e.start hs', hd, List.reverse_nil, List.nil_append]

end Layout

def Shows (d : Doc) (v : Value) : Prop := ∀ level, Writes (d.prettyAt level).toList v

section Shows
variable {d : Doc} {v : Value}

theorem shows_leaf {text : String} (h : Writes text.toList v) : Shows (.leaf text) v := by
  intro level
  rwa [Doc.prettyAt]

theorem shows_text (s : String) : Shows (Doc.text s) (.text s) := shows_leaf (writes_text s)

theorem prettyItems_eq_map (level : Nat) (ds : List Doc) :
    Doc.prettyItems level ds = ds.map (Doc.prettyAt level) := by
  induction ds with
  | nil => rw [Doc.prettyItems]; rfl
  | cons d ds ih => rw [Doc.prettyItems, ih]; rfl

theorem shows_list {ds : List Doc} {vs : List Value} (h : List.Forall₂ Shows ds vs) :
    Shows (.list ds) (.list vs) := by
  intro level
  rw [Doc.prettyAt, prettyItems_eq_map]
  apply writes_bracketed (e := items) rfl rfl
  rw [List.map_map, List.forall₂_map_left_iff]
  exact h.imp fun _ _ hv => Enclosure.holds_items (hv _)

theorem prettyMembers_eq_map (level : Nat) (ds : List (String × Doc)) :
    Doc.prettyMembers level ds =
      ds.map fun m => Json.quoted m.1 ++ ": " ++ m.2.prettyAt level := by
  induction ds with
  | nil => rw [Doc.prettyMembers]; rfl
  | cons m ds ih => obtain ⟨k, d⟩ := m; rw [Doc.prettyMembers, ih]; rfl

def ShowsMember (d : String × Doc) (m : String × Value) : Prop := d.1 = m.1 ∧ Shows d.2 m.2

theorem shows_object {ds : List (String × Doc)} {ms : Members}
    (h : List.Forall₂ ShowsMember ds ms) : Shows (.object ds) (Value.ofMembers ms) := by
  intro level
  rw [Doc.prettyAt, prettyMembers_eq_map]
  apply writes_bracketed (e := members) rfl rfl
  rw [List.map_map, List.forall₂_map_left_iff]
  refine h.imp fun d m hm => Enclosure.holds_members
    ⟨(d.2.prettyAt (level + 1)).toList, ?_, hm.2 _⟩
  simp [hm.1]

theorem ofItems_eq_map (vs : List Value) : Doc.ofItems vs = vs.map Doc.ofValue := by
  induction vs with
  | nil => rw [Doc.ofItems]; rfl
  | cons v vs ih => rw [Doc.ofItems, ih]; rfl

theorem ofMembers_eq_map (ms : Members) :
    Doc.ofMembers ms = ms.map fun m => (m.1, Doc.ofValue m.2) := by
  induction ms with
  | nil => rw [Doc.ofMembers]; rfl
  | cons m ms ih => obtain ⟨k, v⟩ := m; rw [Doc.ofMembers, ih]; rfl

theorem forall₂_map_self {α β : Type} {R : β → α → Prop} {f : α → β} {as : List α}
    (h : ∀ a ∈ as, R (f a) a) : List.Forall₂ R (as.map f) as := by
  rw [List.forall₂_map_left_iff]
  exact List.forall₂_same.mpr h

theorem forall₂_map_map {α β γ : Type} {R : β → γ → Prop} {f : α → β} {g : α → γ} {as : List α}
    (h : ∀ a ∈ as, R (f a) (g a)) : List.Forall₂ R (as.map f) (as.map g) := by
  rw [List.forall₂_map_right_iff]
  exact forall₂_map_self h

/-- A value without fractions is read as it is from its own document. -/
theorem shows_ofValue (hw : v.WellFormed) (hwhole : v.Whole) : Shows (Doc.ofValue v) v := by
  induction v using Value.byParts with
  | null => rw [Doc.ofValue]; exact shows_leaf writes_null
  | bool b => rw [Doc.ofValue]; exact shows_leaf (writes_bool b)
  | number n =>
    cases n with
    | int i => rw [Doc.ofValue]; exact shows_leaf (writes_int hw.here)
    | fraction bits => exact hwhole.here.elim
  | text s => rw [Doc.ofValue]; exact shows_leaf (writes_text s)
  | list items ih =>
    rw [Doc.ofValue, ofItems_eq_map]
    apply shows_list
    exact forall₂_map_self fun v hv => ih v hv ((Value.everywhere_list.mp hw).2 v hv)
      ((Value.everywhere_list.mp hwhole).2 v hv)
  | object members ih =>
    have hmembers : Value.object members = Value.ofMembers members := by
      rw [Value.ofMembers, Keyed.ofList_of_ascending hw.ascending]
    rw [Doc.ofValue, ofMembers_eq_map, hmembers]
    apply shows_object
    exact forall₂_map_self fun m hm => ⟨rfl, ih m hm ((Value.everywhere_object.mp hw).2 m hm)
      ((Value.everywhere_object.mp hwhole).2 m hm)⟩

theorem shows_texts (ss : List String) : Shows (Doc.texts ss) (.ofTexts ss) := by
  apply shows_list
  exact forall₂_map_map fun s _ => shows_text s

theorem shows_nat {n : Nat} (h : n < UInt64.size) : Shows (Doc.nat n) (.ofNat n) := by
  have htext : Json.intText n = Json.digitsText n := by
    rw [Json.intText, if_neg (by omega), Int.toNat_natCast]
  apply shows_leaf
  rw [← htext]
  exact writes_int (Value.wellFormed_ofNat h).here

theorem shows_number (n : UInt32) : Shows (.nat n.toNat) (.ofNat n.toNat) :=
  shows_nat (by have h := n.toNat_lt; rw [UInt64.size]; omega)

theorem parse_prettyAt (h : Shows d v) (level : Nat) (gap ending : String)
    (hg : ∀ a ∈ gap.toList, isBlank a = true) (hs : Stops ending.toList)
    (he : ∀ a ∈ ending.toList, isBlank a = true) :
    parse (gap ++ d.prettyAt level ++ ending).toList = .ok (some v) := by
  rw [String.toList_append, String.toList_append]
  obtain ⟨s, t, hscan, ht, -, hread⟩ := h level gap.toList ending.toList
    ⟨gap.toList ++ (d.prettyAt level).toList ++ ending.toList, 1, 1⟩ hg hs rfl
  obtain ⟨c, hv, hrest⟩ := hread
    (2 * (gap.toList ++ (d.prettyAt level).toList ++ ending.toList).length + 2)
    (Nat.le_add_right _ 2)
  obtain ⟨s', hs', ht'⟩ := scan_end (c := c) (by rwa [hrest])
  rw [parse]
  simp only [hscan, bind, Except.bind, ht, hv, hs', ht']
  rfl

end Shows

end MetaLint.Jsonc

namespace MetaLint.Config

open Json Jsonc

variable {d : Doc} {v : Value}

theorem documentValue_pretty (h : Shows d v) : documentValue d.pretty = .ok v := by
  have hparse := parse_prettyAt h 0 "" "" (by simp) (by simp [Stops]) (by simp)
  rw [String.empty_append, String.append_empty, ← Doc.pretty] at hparse
  rw [documentValue, hparse]
  rfl

theorem documentValue_line (h : Shows d v) : documentValue (d.pretty ++ "\n") = .ok v := by
  have hparse := parse_prettyAt h 0 "" "\n" (by simp) (by simp [Stops]) (by simp; decide)
  rw [String.empty_append, ← Doc.pretty] at hparse
  rw [documentValue, hparse]
  rfl

theorem documentValue_indented (h : Shows d v) (level : Nat) :
    documentValue (Doc.indent level ++ d.prettyAt level) = .ok v := by
  have hparse := parse_prettyAt h level (Doc.indent level) "" (fun a ha => blank_indentText level a
    (by simpa [Doc.indent, indentText] using ha)) (by simp [Stops]) (by simp)
  rw [String.append_empty] at hparse
  rw [documentValue, hparse]
  rfl

end MetaLint.Config
