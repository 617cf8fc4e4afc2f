import Mathlib.Data.List.Forall2
import MetaLint.Csv

/-!
# Reading tables back

A reader takes one field after another, each up to the comma or the line end behind it. Fields that
were written with quotes where they need them are read as they were; a field without quotes is read
as itself exactly when it does not start with a quote and holds neither a comma nor a line feed.
-/

set_option autoImplicit false

namespace MetaLint.Csv

def EndsField (sep : Char) : Prop := sep = ',' ∨ sep = '\n'

theorem EndsField.ne_quote {sep : Char} (h : EndsField sep) : sep ≠ '"' := by
  rcases h with rfl | rfl <;> decide

def readOn (f : Field) (record : Record) (records : List Record) (sep : Char) (rest : List Char) :
    Option (List Record) :=
  if sep = ',' then readFrom [] (f :: record) records .start rest
  else readFrom [] [] ((f :: record).reverse :: records) .start rest

/-- A field that stands for itself. -/
structure Bare (f : Field) : Prop where
  unquoted : f.head? ≠ some '"'
  unbroken : ∀ c ∈ f, ¬ EndsField c

theorem bare_of_ordinary {f : Field} (h : f.any isSpecial = false) : Bare f := by
  have hall : ∀ c ∈ f, isSpecial c = false := by simpa using h
  constructor
  · intro hquote
    have hmem := hall _ (List.mem_of_mem_head? hquote)
    contradiction
  · intro c hc hend
    have hmem := hall c hc
    rcases hend with rfl | rfl <;> contradiction

section Fields
variable {field f : Field} {record : Record} {records : List Record} {sep c : Char}
  {rest : List Char}

theorem readFrom_plain_end (h : EndsField sep) :
    readFrom field record records .plain (sep :: rest) =
      readOn field.reverse record records sep rest := by
  rcases h with rfl | rfl <;> simp [readFrom, readOn]

theorem readFrom_closing_end (h : EndsField sep) :
    readFrom field record records .closing (sep :: rest) =
      readOn field.reverse record records sep rest := by
  rcases h with rfl | rfl <;> simp [readFrom, readOn]

theorem readFrom_start_end (h : EndsField sep) :
    readFrom field record records .start (sep :: rest) = readOn [] record records sep rest := by
  rcases h with rfl | rfl <;> simp [readFrom, readOn]

theorem readFrom_start_cons (hq : c ≠ '"') (hc : ¬ EndsField c) :
    readFrom field record records .start (c :: rest) =
      readFrom [c] record records .plain rest := by
  obtain ⟨hcomma, hline⟩ := not_or.mp hc
  simp [readFrom, hq, hcomma, hline]

theorem readFrom_plain_cons (hc : ¬ EndsField c) :
    readFrom field record records .plain (c :: rest) =
      readFrom (c :: field) record records .plain rest := by
  obtain ⟨hcomma, hline⟩ := not_or.mp hc
  simp [readFrom, hcomma, hline]

theorem readFrom_plain (hf : ∀ c ∈ f, ¬ EndsField c) (hs : EndsField sep) :
    readFrom field record records .plain (f ++ sep :: rest) =
      readOn (field.reverse ++ f) record records sep rest := by
  induction f generalizing field with
  | nil => rw [List.nil_append, readFrom_plain_end hs, List.append_nil]
  | cons c f ih =>
    obtain ⟨hc, hf⟩ := List.forall_mem_cons.mp hf
    rw [List.cons_append, readFrom_plain_cons hc, ih hf, List.reverse_cons, List.append_assoc,
      List.singleton_append]

theorem readFrom_bare (hf : Bare f) (hs : EndsField sep) :
    readFrom field record records .start (f ++ sep :: rest) =
      readOn f record records sep rest := by
  cases f with
  | nil => exact readFrom_start_end hs
  | cons c f =>
    have hq : c ≠ '"' := fun h => hf.unquoted (by rw [h]; rfl)
    obtain ⟨hc, hrest⟩ := List.forall_mem_cons.mp hf.unbroken
    rw [List.cons_append, readFrom_start_cons hq hc, readFrom_plain hrest hs]
    rfl

theorem readFrom_doubled :
    readFrom field record records .quoted (doubled f ++ '"' :: rest) =
      readFrom (f.reverse ++ field) record records .closing rest := by
  induction f generalizing field with
  | nil => simp [doubled, readFrom]
  | cons c f ih =>
    rw [doubled]
    split
    next h => simp [readFrom, ih, h]
    next h => simp [readFrom, ih, h]

/-- A written field is read as it was, whatever it holds. -/
theorem readFrom_fieldText (f : Field) (hs : EndsField sep) :
    readFrom field record records .start (fieldText f ++ sep :: rest) =
      readOn f record records sep rest := by
  rw [fieldText]
  split
  next =>
    have htext : '"' :: doubled f ++ ['"'] ++ sep :: rest =
        '"' :: (doubled f ++ '"' :: sep :: rest) := by simp
    rw [htext, readFrom, if_pos rfl, readFrom_doubled, readFrom_closing_end hs]
    simp
  next h => exact readFrom_bare (bare_of_ordinary (Bool.eq_false_iff.mpr h)) hs

end Fields

/-- Wherever a field is due, `text` is read as `f`. -/
def ReadsAs (text : List Char) (f : Field) : Prop :=
  ∀ record records sep rest, EndsField sep →
    readFrom [] record records .start (text ++ sep :: rest) = readOn f record records sep rest

theorem readsAs_bare {f : Field} (h : Bare f) : ReadsAs f f :=
  fun _ _ _ _ hs => readFrom_bare h hs

theorem readsAs_fieldText (f : Field) : ReadsAs (fieldText f) f :=
  fun _ _ _ _ hs => readFrom_fieldText f hs

theorem fieldsText_eq (r : Record) : fieldsText r = [','].intercalate (r.map fieldText) := by
  induction r with
  | nil => rfl
  | cons f r ih =>
    cases r with
    | nil => rw [fieldsText, List.map_singleton, List.intercalate_singleton]
    | cons g r =>
      have htail : fieldsText (f :: g :: r) = fieldText f ++ [','] ++ fieldsText (g :: r) := by
        simp [fieldsText]
      rw [htail, ih]
      simp only [List.map_cons, List.intercalate_cons_cons]

section Records
variable {record r : Record} {records : List Record} {rest : List Char}

theorem readFrom_joined {texts : List (List Char)} (h : List.Forall₂ ReadsAs texts r)
    (hr : r ≠ []) :
    readFrom [] record records .start ([','].intercalate texts ++ '\n' :: rest) =
      readFrom [] [] ((record.reverse ++ r) :: records) .start rest := by
  induction h generalizing record with
  | nil => contradiction
  | @cons text f texts r hf hrest ih =>
    cases hrest with
    | nil =>
      rw [List.intercalate_singleton, hf record records '\n' rest (.inr rfl), readOn,
        if_neg (by decide), List.reverse_cons]
    | cons hnext hlater =>
      rw [List.intercalate_cons_cons, List.append_assoc, List.append_assoc, List.singleton_append,
        hf record records ',' _ (.inl rfl), readOn, if_pos rfl, ih (List.cons_ne_nil _ _),
        List.reverse_cons, List.append_assoc, List.singleton_append]

theorem readFrom_fieldsText (hr : r ≠ []) :
    readFrom [] record records .start (fieldsText r ++ '\n' :: rest) =
      readFrom [] [] ((record.reverse ++ r) :: records) .start rest := by
  rw [fieldsText_eq]
  apply readFrom_joined _ hr
  rw [List.forall₂_map_left_iff]
  exact List.forall₂_same.mpr fun f _ => readsAs_fieldText f

theorem readFrom_text {rows : List Record} (h : ∀ r ∈ rows, r ≠ []) :
    readFrom [] [] records .start (text rows) = some (records.reverse ++ rows) := by
  induction rows generalizing records with
  | nil => simp [text, readFrom]
  | cons r rows ih =>
    obtain ⟨hr, hrows⟩ := List.forall_mem_cons.mp h
    have htext : text (r :: rows) = fieldsText r ++ '\n' :: text rows := by
      simp [text, recordText]
    rw [htext, readFrom_fieldsText hr, List.reverse_nil, List.nil_append, ih hrows,
      List.reverse_cons, List.append_assoc, List.singleton_append]

theorem read?_text {rows : List Record} (h : ∀ r ∈ rows, r ≠ []) :
    read? (text rows) = some rows := readFrom_text h

end Records

section Inversion
variable {field f : Field} {record : Record} {records rs : List Record} {sep : Char}
  {input rest : List Char}

/-- The records that were read go on with those before them and with the fields of the current one,
which come first in reverse. -/
def Extends (record : Record) (records rs : List Record) : Prop :=
  ∃ more, rs = records.reverse ++ more ∧
    (record ≠ [] → ∃ r later, more = (record.reverse ++ r) :: later)

def Took (f : Field) (record : Record) (records rs : List Record) : Prop :=
  ∃ r later, rs = records.reverse ++ (record.reverse ++ f :: r) :: later

theorem Took.extends (h : Took f record records rs) : Extends record records rs := by
  obtain ⟨r, later, rfl⟩ := h
  exact ⟨_, rfl, fun _ => ⟨f :: r, later, rfl⟩⟩

theorem took_of_comma (h : Extends (f :: record) records rs) : Took f record records rs := by
  obtain ⟨more, rfl, hmore⟩ := h
  obtain ⟨r, later, rfl⟩ := hmore (List.cons_ne_nil _ _)
  exact ⟨r, later, by simp⟩

theorem took_of_line (h : Extends [] ((f :: record).reverse :: records) rs) :
    Took f record records rs := by
  obtain ⟨more, rfl, -⟩ := h
  exact ⟨[], more, by simp⟩

theorem extends_readFrom {pos : Position}
    (h : readFrom field record records pos input = some rs) : Extends record records rs := by
  fun_induction readFrom field record records pos input
  case case1 hempty =>
    obtain rfl := Option.some.inj h
    exact ⟨[], by simp, fun hne => absurd (List.isEmpty_iff.mp hempty) hne⟩
  case case2 | case3 | case4 | case5 | case18 => contradiction
  case case6 ih | case9 ih | case12 ih | case13 ih | case14 ih | case15 ih => exact ih h
  case case7 ih | case10 ih | case16 ih => exact (took_of_comma (ih h)).extends
  case case8 ih | case11 ih | case17 ih => exact (took_of_line (ih h)).extends

theorem took_of_readOn (h : readOn f record records sep rest = some rs) :
    Took f record records rs := by
  rw [readOn] at h
  split at h
  · exact took_of_comma (extends_readFrom h)
  · exact took_of_line (extends_readFrom h)

theorem Took.unique {g : Field} (hf : Took f record records rs) (hg : Took g record records rs) :
    f = g := by
  obtain ⟨r, later, rfl⟩ := hf
  obtain ⟨s, after, he⟩ := hg
  have hrecord := (List.cons.inj (List.append_cancel_left he)).1
  exact (List.cons.inj (List.append_cancel_left hrecord)).1

theorem took_of_plain (h : readFrom field record records .plain input = some rs) :
    ∃ f sep rest, input = f ++ sep :: rest ∧ (∀ c ∈ f, ¬ EndsField c) ∧
      Took (field.reverse ++ f) record records rs := by
  induction input generalizing field with
  | nil => contradiction
  | cons c input ih =>
    by_cases hc : EndsField c
    · rw [readFrom_plain_end hc] at h
      exact ⟨[], c, input, rfl, by simp, by simpa using took_of_readOn h⟩
    · rw [readFrom_plain_cons hc] at h
      obtain ⟨f, sep, rest, rfl, hf, ht⟩ := ih h
      exact ⟨c :: f, sep, rest, rfl, List.forall_mem_cons.mpr ⟨hc, hf⟩, by simpa using ht⟩

theorem took_of_quoted (h : readFrom field record records .quoted input = some rs) :
    ∃ f rest, input = doubled f ++ '"' :: rest ∧ Took (field.reverse ++ f) record records rs := by
  induction hn : input.length using Nat.strongRecOn generalizing field input with
  | ind n ih =>
    cases input with
    | nil => contradiction
    | cons c input =>
      by_cases hq : c = '"'
      · rw [readFrom, if_pos hq] at h
        cases input with
        | nil => contradiction
        | cons next input =>
          by_cases hnext : next = '"'
          · rw [readFrom, if_pos hnext] at h
            obtain ⟨f, rest, rfl, ht⟩ := ih input.length (by simp at hn; omega) h rfl
            exact ⟨'"' :: f, rest, by simp [doubled, hq, hnext], by simpa using ht⟩
          · by_cases hend : EndsField next
            · rw [readFrom_closing_end hend] at h
              exact ⟨[], next :: input, by simp [doubled, hq], by simpa using took_of_readOn h⟩
            · obtain ⟨hcomma, hline⟩ := not_or.mp hend
              simp [readFrom, hnext, hcomma, hline] at h
      · rw [readFrom, if_neg hq] at h
        obtain ⟨f, rest, rfl, ht⟩ := ih input.length (by simp at hn; omega) h rfl
        exact ⟨c :: f, rest, by simp [doubled, hq], by simpa using ht⟩

theorem ne_quotes_append_doubled (hs : sep ≠ '"') (f : Field) (n : Nat) (more : List Char) :
    f ++ sep :: rest ≠ '"' :: (List.replicate n '"' ++ (doubled f ++ more)) := by
  induction f generalizing n with
  | nil => exact fun h => hs (List.cons.inj h).1
  | cons c f ih =>
    intro h
    obtain ⟨rfl, htail⟩ := List.cons.inj h
    apply ih (n + 1)
    have hquotes : List.replicate n '"' ++ '"' :: '"' :: (doubled f ++ more) =
        '"' :: (List.replicate (n + 1) '"' ++ (doubled f ++ more)) := by
      rw [List.append_cons, ← List.replicate_succ', List.replicate_succ, List.cons_append,
        List.append_cons, ← List.replicate_succ', List.replicate_succ]
    rw [← hquotes]
    simpa [doubled] using htail

theorem bare_of_took (h : readFrom [] record records .start (f ++ sep :: rest) = some rs)
    (hs : EndsField sep) (ht : Took f record records rs) : Bare f := by
  cases f with
  | nil => exact ⟨by simp, by simp⟩
  | cons c f =>
    rw [List.cons_append] at h
    by_cases hq : c = '"'
    · rw [readFrom, if_pos hq] at h
      obtain ⟨g, more, hinput, hg⟩ := took_of_quoted h
      obtain rfl : c :: f = g := ht.unique hg
      rw [doubled, if_pos hq] at hinput
      exact absurd hinput (ne_quotes_append_doubled hs.ne_quote f 1 _)
    · by_cases hc : EndsField c
      · rw [readFrom_start_end hc] at h
        have hnil := ht.unique (took_of_readOn h)
        contradiction
      · rw [readFrom_start_cons hq hc] at h
        obtain ⟨g, other, more, -, hg, hplain⟩ := took_of_plain h
        obtain rfl : f = g := (List.cons.inj (ht.unique hplain)).2
        exact ⟨by simpa using hq, List.forall_mem_cons.mpr ⟨hc, hg⟩⟩

theorem bare_of_read {names : Record} {later : List Record} (record : Record)
    (records : List Record)
    (h : readFrom [] record records .start ([','].intercalate names ++ '\n' :: rest) =
      some (records.reverse ++ (record.reverse ++ names) :: later)) : ∀ f ∈ names, Bare f := by
  induction names generalizing record with
  | nil => simp
  | cons f names ih =>
    have ht : Took f record records (records.reverse ++ (record.reverse ++ f :: names) :: later) :=
      ⟨names, later, rfl⟩
    cases names with
    | nil =>
      rw [List.intercalate_singleton] at h
      simpa using bare_of_took h (.inr rfl) ht
    | cons g names =>
      rw [List.intercalate_cons_cons, List.append_assoc, List.append_assoc,
        List.singleton_append] at h
      have hf := bare_of_took h (.inl rfl) ht
      rw [readFrom_bare hf (.inl rfl), readOn, if_pos rfl] at h
      exact List.forall_mem_cons.mpr ⟨hf, ih (f :: record) (by simpa using h)⟩

end Inversion

theorem read?_header_iff {names : Record} (hn : names ≠ []) {rows : List Record}
    (hr : ∀ r ∈ rows, r ≠ []) :
    read? ([','].intercalate names ++ '\n' :: text rows) = some (names :: rows) ↔
      ∀ f ∈ names, Bare f := by
  constructor
  · intro h
    exact bare_of_read [] [] h
  · intro h
    have hreads : List.Forall₂ ReadsAs names names :=
      List.forall₂_same.mpr fun f hf => readsAs_bare (h f hf)
    rw [read?, readFrom_joined hreads hn, readFrom_text hr]
    rfl

end MetaLint.Csv
