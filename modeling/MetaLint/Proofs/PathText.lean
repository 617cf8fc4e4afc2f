import Mathlib.Data.List.Infix
import MetaLint.Path
import MetaLint.Proofs.TextBytes

/-!
# Paths and their texts

A path is absolute when it starts with a separator. Behind its first component it has names and
steps upwards only, so joined components can be told apart. What is shown of a path from a base is
the text of a name, and the name leads to the components of the path; two paths whose names are
texts are therefore shown alike only if they have the same components.
-/

set_option autoImplicit false

namespace MetaLint.Path

theorem piecesFrom_eq (piece bytes : Text.Bytes) : piecesFrom piece bytes =
    (List.splitOnPPrepend (· == separator) bytes piece).map OsText.mk := by
  induction bytes generalizing piece with
  | nil => rfl
  | cons b rest ih =>
    rw [piecesFrom, List.splitOnPPrepend_cons_eq_if]
    by_cases hb : b = separator
    · rw [if_pos hb, if_pos (by simp [hb]), List.map_cons, ih []]
      rfl
    · rw [if_neg hb, if_neg (by simp [hb]), ih]

theorem pieces_eq (raw : OsText) : pieces raw = (raw.bytes.splitOn separator).map OsText.mk :=
  piecesFrom_eq [] raw.bytes

theorem separated_pieces (raw : OsText) : separated (pieces raw) = raw := by
  ext1
  rw [separated, pieces_eq, List.map_map]
  exact (congrArg _ (List.map_id _)).trans (List.intercalate_splitOn separator)

theorem pieces_separated {names : List OsText} (hne : names ≠ [])
    (h : ∀ n ∈ names, separator ∉ n.bytes) : pieces (separated names) = names := by
  have hall : ∀ bytes ∈ names.map OsText.bytes, separator ∉ bytes := by
    intro bytes hbytes
    obtain ⟨n, hn, rfl⟩ := List.mem_map.mp hbytes
    exact h n hn
  rw [pieces_eq, separated, List.splitOn_intercalate separator hall (by simpa using hne),
    List.map_map]
  exact List.map_id names

theorem not_mem_of_mem_piecesFrom {piece bytes : Text.Bytes} (h : separator ∉ piece) :
    ∀ n ∈ piecesFrom piece bytes, separator ∉ n.bytes := by
  induction bytes generalizing piece with
  | nil => simpa [piecesFrom] using h
  | cons b rest ih =>
    intro n hn
    rw [piecesFrom] at hn
    by_cases hb : b = separator
    · rw [if_pos hb] at hn
      rcases List.mem_cons.mp hn with rfl | hn
      · simpa using h
      · exact ih List.not_mem_nil n hn
    · rw [if_neg hb] at hn
      exact ih (by simp [h, Ne.symm hb]) n hn

theorem not_mem_of_mem_pieces {raw n : OsText} (h : n ∈ pieces raw) : separator ∉ n.bytes :=
  not_mem_of_mem_piecesFrom List.not_mem_nil n h

theorem separator_mem_iff (name : OsText) : separator ∈ name.bytes ↔ '/' ∈ name.shown.toList := by
  rw [OsText.toList_shown]
  constructor
  · intro h
    obtain ⟨front, rest, he⟩ := List.append_of_mem h
    rw [he, Text.decodeLossy_append_ascii (by decide)]
    exact List.mem_append_right _ List.mem_cons_self
  · intro h
    exact Text.mem_of_mem_decodeLossy h (by decide)

@[simp] theorem bytes_slash : (("/" : String) : OsText).bytes = [separator] := rfl

theorem separated_cons_cons (a b : OsText) (rest : List OsText) :
    separated (a :: b :: rest) = a ++ ("/" : OsText) ++ separated (b :: rest) := by
  ext1
  exact List.intercalate_cons_cons

theorem shown_separated (names : List OsText) :
    (separated names).shown = "/".intercalate (names.map OsText.shown) := by
  induction names with
  | nil => rfl
  | cons a rest ih =>
    cases rest with
    | nil => simp [separated]
    | cons b rest =>
      have hbytes : (separated (a :: b :: rest)).bytes =
          a.bytes ++ separator :: (separated (b :: rest)).bytes := by
        rw [separated_cons_cons, OsText.bytes_append, OsText.bytes_append, List.append_assoc]
        rfl
      apply String.toList_inj.mp
      rw [OsText.toList_shown, hbytes, Text.decodeLossy_append_ascii (by decide),
        ← OsText.toList_shown, ← OsText.toList_shown, ih]
      simp [String.intercalate_cons_cons, separator]

theorem separated_ofText (texts : List String) :
    separated (texts.map OsText.ofText) = ("/".intercalate texts : String) := by
  induction texts with
  | nil => rfl
  | cons a rest ih =>
    cases rest with
    | nil => simp [separated]
    | cons b rest =>
      rw [List.map_cons, List.map_cons, separated_cons_cons, ← List.map_cons, ih,
        String.intercalate_cons_cons]
      ext1
      simp [OsText.bytes_ofText, Text.encode_append]

theorem isText_separated {names : List OsText} (h : ∀ n ∈ names, n.IsText) :
    (separated names).IsText := by
  have hnames : (names.map OsText.shown).map OsText.ofText = names := by
    rw [List.map_map]
    exact (List.map_congr_left fun n hn => (h n hn).ofText_shown).trans (List.map_id names)
  rw [← hnames, separated_ofText]
  exact OsText.isText_ofText _

theorem isText_of_mem_pieces {raw n : OsText} (h : raw.IsText) (hn : n ∈ pieces raw) :
    n.IsText := by
  have hown : pieces raw = (pieces raw).map fun n => (n.shown : OsText) := by
    have hne : pieces raw ≠ [] := by simp [pieces_eq]
    have htexts : separated ((pieces raw).map fun n => (n.shown : OsText)) = raw := by
      have hall := separated_ofText ((pieces raw).map OsText.shown)
      rw [← shown_separated, separated_pieces, h.ofText_shown, List.map_map] at hall
      exact hall
    conv_lhs => rw [← htexts]
    apply pieces_separated (by simpa using hne)
    intro m hm
    obtain ⟨n, hn, rfl⟩ := List.mem_map.mp hm
    rw [separator_mem_iff, OsText.shown_ofText, ← separator_mem_iff]
    exact not_mem_of_mem_pieces hn
  rw [hown] at hn
  obtain ⟨m, -, rfl⟩ := List.mem_map.mp hn
  exact OsText.isText_ofText _

/-- What can be the name of a file. -/
structure IsName (raw : OsText) : Prop where
  filled : raw ≠ ("" : OsText)
  notHere : raw ≠ ("." : OsText)
  notUp : raw ≠ (".." : OsText)
  single : separator ∉ raw.bytes

instance (raw : OsText) : Decidable (IsName raw) :=
  decidable_of_iff (raw ≠ ("" : OsText) ∧ raw ≠ ("." : OsText) ∧ raw ≠ (".." : OsText) ∧
    separator ∉ raw.bytes)
    ⟨fun ⟨hf, hh, hu, hs⟩ => ⟨hf, hh, hu, hs⟩, fun h => ⟨h.filled, h.notHere, h.notUp, h.single⟩⟩

def Component.Inner : Component → Prop
  | .up => True
  | .name raw => IsName raw
  | _ => False

def IsAbsolute (p : Path) : Prop := p.components.head? = some .root

theorem inner_ofPiece {piece : OsText} {c : Component} (hs : separator ∉ piece.bytes)
    (h : Component.ofPiece? piece = some c) : c.Inner ∧ c.raw = piece := by
  rw [Component.ofPiece?] at h
  split at h
  next => contradiction
  next hhere =>
    split at h
    next hup => rw [← Option.some.inj h, hup]; exact ⟨trivial, rfl⟩
    next hup =>
      simp only [Bool.or_eq_true, decide_eq_true_eq, not_or] at hhere
      rw [← Option.some.inj h]
      exact ⟨⟨hhere.1, hhere.2, hup, hs⟩, rfl⟩

theorem inner_of_mem_pieces {raw : OsText} {c : Component}
    (hc : c ∈ (pieces raw).filterMap Component.ofPiece?) : c.Inner ∧ c.raw ∈ pieces raw := by
  obtain ⟨piece, hm, he⟩ := List.mem_filterMap.mp hc
  obtain ⟨hinner, hraw⟩ := inner_ofPiece (not_mem_of_mem_pieces hm) he
  exact ⟨hinner, hraw ▸ hm⟩

theorem startsAtRoot_iff (raw : OsText) :
    startsAtRoot raw = true ↔ ∃ rest, raw.bytes = separator :: rest := by
  rw [startsAtRoot, beq_iff_eq, List.head?_eq_some_iff]

theorem pieces_of_separator {raw : OsText} {rest : Text.Bytes} (h : raw.bytes = separator :: rest) :
    pieces raw = ("" : OsText) :: piecesFrom [] rest := by
  rw [pieces, h, piecesFrom, if_pos rfl]
  rfl

theorem piecesFrom_ne_nil (piece bytes : Text.Bytes) : piecesFrom piece bytes ≠ [] := by
  simp [piecesFrom_eq]

theorem components_of_startsAtRoot {p : Path} (h : startsAtRoot p.raw = true) :
    p.components = .root :: (pieces p.raw).filterMap Component.ofPiece? := by
  obtain ⟨rest, hrest⟩ := (startsAtRoot_iff p.raw).mp h
  rw [components, pieces_of_separator hrest]
  cases hp : piecesFrom [] rest with
  | nil => exact absurd hp (piecesFrom_ne_nil [] rest)
  | cons first more => simp [Component.ofPiece?]

theorem isAbsolute_iff (p : Path) : p.IsAbsolute ↔ startsAtRoot p.raw = true := by
  constructor
  · intro h
    rw [IsAbsolute, components] at h
    cases hp : pieces p.raw with
    | nil => simp [hp] at h
    | cons first rest =>
      rw [hp] at h
      by_cases hfirst : first = ("" : OsText)
      · cases rest with
        | nil => simp [hfirst] at h
        | cons second rest =>
          have hraw := separated_pieces p.raw
          rw [hp, separated_cons_cons, hfirst] at hraw
          rw [← hraw]
          rfl
      · by_cases hdot : first = ("." : OsText)
        · simp [hdot] at h
        · by_cases hup : first = (".." : OsText)
          · simp [hup, Component.ofPiece?] at h
          · simp [hfirst, hdot, hup, Component.ofPiece?] at h
  · intro h
    rw [IsAbsolute, components_of_startsAtRoot h, List.head?_cons]

theorem IsAbsolute.components_eq {p : Path} (h : p.IsAbsolute) :
    p.components = .root :: (pieces p.raw).filterMap Component.ofPiece? :=
  components_of_startsAtRoot ((isAbsolute_iff p).mp h)

theorem IsAbsolute.exists_inner {p : Path} (h : p.IsAbsolute) :
    ∃ cs, p.components = .root :: cs ∧ ∀ c ∈ cs, c.Inner :=
  ⟨_, h.components_eq, fun _ hc => (inner_of_mem_pieces hc).1⟩

theorem Component.Inner.raw_ne {c : Component} (h : c.Inner) :
    c.raw ≠ ("" : OsText) ∧ separator ∉ c.raw.bytes := by
  cases c with
  | root => exact h.elim
  | here => exact h.elim
  | up => decide
  | name raw => exact ⟨h.filled, h.single⟩

theorem Component.Inner.ofPiece?_raw {c : Component} (h : c.Inner) :
    Component.ofPiece? c.raw = some c := by
  cases c with
  | root => exact h.elim
  | here => exact h.elim
  | up => rfl
  | name raw => simp [Component.raw, Component.ofPiece?, h.filled, h.notHere, h.notUp]

theorem mem_components {p : Path} {c : Component} (h : c ∈ p.components) :
    c = .root ∨ c = .here ∨ c.Inner ∧ c.raw ∈ pieces p.raw := by
  have hpiece : ∀ n ∈ pieces p.raw, Component.ofPiece? n = some c →
      c.Inner ∧ c.raw ∈ pieces p.raw := by
    intro n hn he
    exact inner_of_mem_pieces (List.mem_filterMap.mpr ⟨n, hn, he⟩)
  rw [components] at h
  cases hp : pieces p.raw with
  | nil => simp [hp] at h
  | cons first rest =>
    rw [hp] at h hpiece
    rcases List.mem_append.mp h with hstart | hrest
    · split at hstart
      · split at hstart
        · contradiction
        · exact .inl (List.mem_singleton.mp hstart)
      · split at hstart
        · exact .inr (.inl (List.mem_singleton.mp hstart))
        · exact .inr (.inr (hpiece first List.mem_cons_self (Option.mem_toList.mp hstart)))
    · obtain ⟨n, hn, he⟩ := List.mem_filterMap.mp hrest
      exact .inr (.inr (hpiece n (List.mem_cons_of_mem first hn) he))

theorem isText_of_mem_components {p : Path} {c : Component} (h : p.raw.IsText)
    (hc : c ∈ p.components) : c.raw.IsText := by
  rcases mem_components hc with rfl | rfl | ⟨-, hpiece⟩
  · exact OsText.isText_ofText "/"
  · exact OsText.isText_ofText "."
  · exact isText_of_mem_pieces h hpiece

def below (cs : List Component) : OsText :=
  if cs = [] then "." else separated (cs.map Component.raw)

section Below
variable {cs : List Component}

theorem filterMap_ofPiece?_raw (h : ∀ c ∈ cs, c.Inner) :
    (cs.map Component.raw).filterMap Component.ofPiece? = cs := by
  have hraw : ∀ c ∈ cs, (Component.ofPiece? ∘ Component.raw) c = some c :=
    fun c hc => (h c hc).ofPiece?_raw
  rw [List.filterMap_map, List.filterMap_congr hraw, List.filterMap_some]

theorem pieces_below (hne : cs ≠ []) (h : ∀ c ∈ cs, c.Inner) :
    pieces (below cs) = cs.map Component.raw := by
  rw [below, if_neg hne]
  apply pieces_separated (by simpa using hne)
  intro n hn
  obtain ⟨c, hc, rfl⟩ := List.mem_map.mp hn
  exact (h c hc).raw_ne.2

theorem filterMap_pieces_below (h : ∀ c ∈ cs, c.Inner) :
    (pieces (below cs)).filterMap Component.ofPiece? = cs := by
  by_cases hne : cs = []
  · rw [hne]
    rfl
  · rw [pieces_below hne h, filterMap_ofPiece?_raw h]

theorem startsAtRoot_below (h : ∀ c ∈ cs, c.Inner) : startsAtRoot (below cs) = false := by
  cases cs with
  | nil => rfl
  | cons c cs =>
    have hc := (h c List.mem_cons_self).raw_ne
    rw [Bool.eq_false_iff, ne_eq, startsAtRoot_iff]
    rintro ⟨rest, hrest⟩
    have hpieces := pieces_of_separator hrest
    rw [pieces_below (List.cons_ne_nil c cs) h] at hpieces
    exact hc.1 (List.cons.inj hpieces).1

theorem below_root (h : ∀ c ∈ cs, c.Inner) : startsAtRoot (below (.root :: cs)) = true ∧
    (pieces (below (.root :: cs))).filterMap Component.ofPiece? = cs := by
  cases cs with
  | nil => exact ⟨rfl, rfl⟩
  | cons c cs =>
    have hname : below (.root :: c :: cs) =
        ⟨separator :: separator :: (below (c :: cs)).bytes⟩ := by
      rw [below, if_neg (List.cons_ne_nil _ _), below, if_neg (List.cons_ne_nil _ _), List.map_cons,
        List.map_cons, separated_cons_cons]
      rfl
    have hpieces : pieces (below (.root :: c :: cs)) =
        ("" : OsText) :: ("" : OsText) :: pieces (below (c :: cs)) := by
      rw [hname]
      rfl
    constructor
    · rw [hname]
      rfl
    · rw [hpieces, pieces_below (List.cons_ne_nil c cs) h]
      exact filterMap_ofPiece?_raw h

theorem shown_below (hne : cs ≠ []) : (below cs).shown = joinComponents cs := by
  rw [below, if_neg hne, shown_separated, joinComponents, List.map_map]
  rfl

end Below

def nameFrom (p base : Path) : OsText := (p.stripBase? base).elim p.raw below

section Names
variable {p base : Path}

theorem relativeTo_eq (p base : Path) : p.relativeTo base = (p.nameFrom base).shown := by
  rw [relativeTo, nameFrom]
  split
  next h => rw [h]; rfl
  next h => rw [h]; exact (OsText.shown_ofText ".").symm
  next cs hne h =>
    rw [h]
    exact (shown_below hne).symm

theorem nameFrom_of_below {cs : List Component} (h : p.components = base.components ++ cs) :
    p.nameFrom base = below cs := by
  rw [nameFrom, stripBase?, List.isPrefixOf?_eq_some_iff_append_eq.mpr h.symm, Option.elim_some]

theorem nameFrom_of_elsewhere (h : ¬ ∃ cs, p.components = base.components ++ cs) :
    p.nameFrom base = p.raw := by
  have hnone : p.stripBase? base = none := by
    rw [Option.eq_none_iff_forall_ne_some]
    intro cs hcs
    exact h ⟨cs, (List.isPrefixOf?_eq_some_iff_append_eq.mp hcs).symm⟩
  rw [nameFrom, hnone, Option.elim_none]

theorem isText_nameFrom (h : p.raw.IsText) : (p.nameFrom base).IsText := by
  by_cases hbelow : ∃ cs, p.components = base.components ++ cs
  · obtain ⟨cs, hcs⟩ := hbelow
    rw [nameFrom_of_below hcs, below]
    split
    · exact OsText.isText_ofText "."
    · apply isText_separated
      intro n hn
      obtain ⟨c, hc, rfl⟩ := List.mem_map.mp hn
      exact isText_of_mem_components h (hcs ▸ List.mem_append_right _ hc)
  · rwa [nameFrom_of_elsewhere hbelow]

/-- The name that is shown of an absolute path leads to the path, from the root or from the base. -/
theorem IsAbsolute.components_nameFrom (hp : p.IsAbsolute) (base : Path) : p.components =
    (if startsAtRoot (p.nameFrom base) then [.root] else base.components) ++
      (pieces (p.nameFrom base)).filterMap Component.ofPiece? := by
  obtain ⟨ps, hps, hinner⟩ := hp.exists_inner
  by_cases hbelow : ∃ cs, p.components = base.components ++ cs
  · obtain ⟨cs, hcs⟩ := hbelow
    rw [nameFrom_of_below hcs]
    cases hb : base.components with
    | nil =>
      obtain rfl : cs = .root :: ps := by rw [← hps, hcs, hb, List.nil_append]
      obtain ⟨hroot, hpieces⟩ := below_root hinner
      rw [if_pos hroot, hpieces, hps, List.singleton_append]
    | cons b bs =>
      rw [hps, hb, List.cons_append, List.cons.injEq] at hcs
      obtain ⟨rfl, rfl⟩ := hcs
      have hlater : ∀ c ∈ cs, c.Inner := fun c hc => hinner c (List.mem_append_right bs hc)
      rw [startsAtRoot_below hlater, filterMap_pieces_below hlater, hps]
      rfl
  · rw [nameFrom_of_elsewhere hbelow, if_pos ((isAbsolute_iff p).mp hp), hp.components_eq,
      List.singleton_append]

theorem IsAbsolute.same_of_relativeTo {q : Path} (hp : p.IsAbsolute) (hq : q.IsAbsolute)
    (hpt : p.raw.IsText) (hqt : q.raw.IsText) (h : p.relativeTo base = q.relativeTo base) :
    p.same q = true := by
  rw [relativeTo_eq, relativeTo_eq] at h
  have hname := (isText_nameFrom hpt).eq_of_shown (isText_nameFrom hqt) h
  rw [same_iff, hp.components_nameFrom base, hname, ← hq.components_nameFrom base]

end Names

section Alike
variable {a b : OsText}

end Alike

section Characters
variable {p base : Path} {c : Char}

theorem mem_toList_intercalate {separator : String} {texts : List String}
    (h : c ∈ (separator.intercalate texts).toList) :
    c ∈ separator.toList ∨ ∃ t ∈ texts, c ∈ t.toList := by
  induction texts with
  | nil => simp at h
  | cons t texts ih =>
    cases texts with
    | nil => exact .inr ⟨t, List.mem_cons_self, by simpa using h⟩
    | cons u texts =>
      rw [String.intercalate_cons_cons, String.toList_append, String.toList_append,
        List.mem_append, List.mem_append] at h
      rcases h with (ht | hsep) | hrest
      · exact .inr ⟨t, List.mem_cons_self, ht⟩
      · exact .inl hsep
      · exact (ih hrest).imp_right fun ⟨v, hv, hc⟩ => ⟨v, List.mem_cons_of_mem t hv, hc⟩

theorem mem_of_mem_intercalate {separator : String} {texts : List String} {t : String}
    (ht : t ∈ texts) (hc : c ∈ t.toList) : c ∈ (separator.intercalate texts).toList := by
  induction texts with
  | nil => contradiction
  | cons u texts ih =>
    cases texts with
    | nil =>
      obtain rfl := List.mem_singleton.mp ht
      simpa using hc
    | cons v texts =>
      rw [String.intercalate_cons_cons, String.toList_append, String.toList_append]
      rcases List.mem_cons.mp ht with rfl | ht
      · exact List.mem_append_left _ (List.mem_append_left _ hc)
      · exact List.mem_append_right _ (ih ht)

theorem mem_of_mem_components {x : Component} (hx : x ∈ p.components) (hc : c ∈ x.text.toList) :
    c ∈ p.text.toList ∨ c = '/' ∨ c = '.' := by
  rcases mem_components hx with rfl | rfl | ⟨-, hpiece⟩
  · exact .inr (.inl (by simpa [Component.text, Component.raw] using hc))
  · exact .inr (.inr (by simpa [Component.text, Component.raw] using hc))
  · rw [text, ← separated_pieces p.raw, shown_separated]
    exact .inl (mem_of_mem_intercalate (List.mem_map_of_mem hpiece) hc)

theorem mem_of_mem_relativeTo (hc : c ∈ (p.relativeTo base).toList) :
    c ∈ p.text.toList ∨ c = '/' ∨ c = '.' := by
  rw [relativeTo_eq] at hc
  by_cases hbelow : ∃ cs, p.components = base.components ++ cs
  · obtain ⟨cs, hcs⟩ := hbelow
    rw [nameFrom_of_below hcs] at hc
    by_cases hne : cs = []
    · rw [hne, below, if_pos rfl, OsText.shown_ofText] at hc
      exact .inr (.inr (by simpa using hc))
    · rw [shown_below hne, joinComponents] at hc
      rcases mem_toList_intercalate hc with hseparator | ⟨t, ht, hct⟩
      · exact .inr (.inl (by simpa using hseparator))
      · obtain ⟨x, hx, rfl⟩ := List.mem_map.mp ht
        exact mem_of_mem_components (hcs ▸ List.mem_append_right _ hx) hct
  · rw [nameFrom_of_elsewhere hbelow] at hc
    exact .inl hc

end Characters

end MetaLint.Path
