import MetaLint.Proofs.FileNames
import MetaLint.Proofs.ReadingInTurns
import MetaLint.Proofs.ToolFindings

/-!
# What the built-in tools report

A built-in tool refuses its configuration, or it gives an account of the files that were selected:
first what it found, file by file, and then which files it could not read. The files may be read in
any order.
-/

set_option autoImplicit false

namespace MetaLint

open Tool

/-- A finder that was made for a project, whatever files have been read with it since. -/
def Finder.Made (f : Finder) : Prop :=
  ∃ d project config made, Disk.WellNamed d ∧ Finder.create d project config = .ok made ∧
    f = { made with contents := f.contents }

theorem Finder.Made.apart {f : Finder} (h : f.Made) : Path.Apart f.allFiles := by
  obtain ⟨d, project, config, made, hd, hmade, hf⟩ := h
  have hfiles : f.allFiles = made.allFiles := by
    rw [hf]
    rfl
  rw [hfiles]
  exact fun p hp q hq hsame => eq_of_same hd hmade hp hq hsame

theorem Finder.files_eq_ok {f : Finder} {filters : List String} {files : List Path} :
    f.files filters = .ok files ↔ ∃ patterns, compilePatterns filters = .ok patterns ∧
      files = f.allFiles.filter fun p => Pattern.selects patterns (f.relative p) := by
  rw [Finder.files]
  cases compilePatterns filters <;> simp [bind, Except.bind, pure, Except.pure, eq_comm]

theorem Finder.files_eq_error {f : Finder} {filters : List String} {e : Error} :
    f.files filters = .error e ↔ compilePatterns filters = .error e := by
  rw [Finder.files]
  cases compilePatterns filters <;> simp [bind, Except.bind, pure, Except.pure]

inductive Builtin
  | jsonLint
  | secrets
  | todo
  | whitespace
  deriving Repr, DecidableEq

namespace Builtin

def tool : Builtin → Tool
  | jsonLint => .jsonLint
  | secrets => .secrets
  | todo => .todo
  | whitespace => .whitespace

theorem mem_registry_iff {entry : String × Tool} :
    entry ∈ ToolRegistry.builtin ↔ ∃ b : Builtin, entry = (b.tool.name, b.tool) := by
  have hregistry : ToolRegistry.builtin = [jsonLint, secrets, todo, whitespace].map
      fun b => (b.tool.name, b.tool) := by rfl
  have hall : ∀ b : Builtin, b ∈ [jsonLint, secrets, todo, whitespace] := by
    intro b
    cases b <;> decide
  rw [hregistry, List.mem_map]
  constructor
  · rintro ⟨b, -, hb⟩
    exact ⟨b, hb.symm⟩
  · rintro ⟨b, rfl⟩
    exact ⟨b, hall b, rfl⟩

def scan (b : Builtin) (c : ToolConfig) : Except Error (Path → List Char → List Issue) :=
  match b with
  | jsonLint => .ok JsonLint.check
  | secrets => .ok Secrets.check
  | todo => do
    let o ← readOptions Todo.name {} Todo.Options.ofValue c
    Todo.Options.accept o
    return Todo.check o
  | whitespace => do
    let o ← readOptions Whitespace.name {} Whitespace.Options.ofValue c
    return Whitespace.check o

theorem scan_todo (c : ToolConfig) : scan todo c =
    (readOptions Todo.name {} Todo.Options.ofValue c).bind fun o =>
      if o.regex.fits then .ok (Todo.check o) else .error (.pattern .tooLarge) := by
  rw [scan]
  cases readOptions Todo.name {} Todo.Options.ofValue c with
  | error e => rfl
  | ok o =>
    show (Todo.Options.accept o >>= fun _ => .ok (Todo.check o)) = _
    rw [Todo.Options.accept]
    cases hfits : o.regex.fits <;> simp [Except.bind, bind, hfits]

theorem scan_whitespace (c : ToolConfig) : scan whitespace c =
    (readOptions Whitespace.name {} Whitespace.Options.ofValue c).map Whitespace.check := by
  rw [scan]
  cases readOptions Whitespace.name {} Whitespace.Options.ofValue c <;> rfl

theorem execute_eq (b : Builtin) (f : Finder) (d : Disk) (c : ToolConfig) :
    b.tool.execute f d c = ToolRun.ofResult (match b.scan c with
      | .ok scan => scanFiles f d c scan
      | .error e => (.error e, f)) := by
  cases b with
  | jsonLint => rfl
  | secrets => rfl
  | todo =>
    rw [scan_todo, tool, Tool.todo]
    dsimp only
    cases readOptions Todo.name {} Todo.Options.ofValue c with
    | error e => rfl
    | ok o =>
      simp only [Todo.Options.accept, bind, Except.bind]
      cases o.regex.fits <;> rfl
  | whitespace =>
    rw [scan_whitespace, tool, Tool.whitespace]
    dsimp only
    cases readOptions Whitespace.name {} Whitespace.Options.ofValue c <;> rfl

/-- What can be wrong with the configuration of a tool. -/
inductive Refuses (c : ToolConfig) : Builtin → Error → Prop
  | filters (b : Builtin) {e : Error} (h : compilePatterns c.filters = .error e) : Refuses c b e
  | markers {o : Todo.Options} (ho : readOptions Todo.name {} Todo.Options.ofValue c = .ok o)
      (h : o.regex.fits = false) : Refuses c todo (.pattern .tooLarge)
  | todoOptions {e : Json.ShapeError} (hne : c.options ≠ .null)
      (h : Todo.Options.ofValue c.options = .error e) :
      Refuses c todo (.config (.badOptions Todo.name e))
  | whitespaceOptions {e : Json.ShapeError} (hne : c.options ≠ .null)
      (h : Whitespace.Options.ofValue c.options = .error e) :
      Refuses c whitespace (.config (.badOptions Whitespace.name e))

section Refuses
variable {b : Builtin} {c : ToolConfig} {e : Error} {own : Path → List Char → List Issue}

theorem readOptions_eq_error {α : Type} {name : String} {default : α}
    {read : Json.Value → Json.Shaped α} :
    readOptions name default read c = .error e ↔
      ∃ flaw, c.options ≠ .null ∧ read c.options = .error flaw ∧
        e = .config (.badOptions name flaw) := by
  rw [readOptions]
  split
  next hnull => simp [hnull]
  next hne =>
    cases hread : read c.options with
    | ok o => simp [Error.lift]
    | error flaw =>
      simp only [Error.lift, Except.error.injEq]
      constructor
      · rintro rfl
        exact ⟨flaw, hne, rfl, rfl⟩
      · rintro ⟨own, -, rfl, rfl⟩
        rfl

theorem scan_todo_eq_ok : scan todo c = .ok own ↔
    ∃ o, readOptions Todo.name {} Todo.Options.ofValue c = .ok o ∧ o.regex.fits = true ∧
      Todo.check o = own := by
  rw [scan_todo]
  cases readOptions Todo.name {} Todo.Options.ofValue c with
  | error flaw => simp [Except.bind]
  | ok o => cases hfits : o.regex.fits <;> simp [Except.bind, hfits]

theorem scan_todo_eq_error : scan todo c = .error e ↔
    readOptions Todo.name {} Todo.Options.ofValue c = .error e ∨
      ∃ o, readOptions Todo.name {} Todo.Options.ofValue c = .ok o ∧ o.regex.fits = false ∧
        .pattern .tooLarge = e := by
  rw [scan_todo]
  cases readOptions Todo.name {} Todo.Options.ofValue c with
  | error flaw => simp [Except.bind]
  | ok o => cases hfits : o.regex.fits <;> simp [Except.bind, hfits]

theorem scan_whitespace_eq_ok : scan whitespace c = .ok own ↔
    ∃ o, readOptions Whitespace.name {} Whitespace.Options.ofValue c = .ok o ∧
      Whitespace.check o = own := by
  rw [scan_whitespace]
  cases readOptions Whitespace.name {} Whitespace.Options.ofValue c <;> simp [Except.map]

theorem scan_whitespace_eq_error : scan whitespace c = .error e ↔
    readOptions Whitespace.name {} Whitespace.Options.ofValue c = .error e := by
  rw [scan_whitespace]
  cases readOptions Whitespace.name {} Whitespace.Options.ofValue c <;> simp [Except.map]

theorem refuses_of_scan (h : b.scan c = .error e) : Refuses c b e := by
  cases b with
  | jsonLint => contradiction
  | secrets => contradiction
  | todo =>
    rcases scan_todo_eq_error.mp h with hread | ⟨o, ho, hfits, rfl⟩
    · obtain ⟨flaw, hne, hflaw, rfl⟩ := readOptions_eq_error.mp hread
      exact .todoOptions hne hflaw
    · exact .markers ho hfits
  | whitespace =>
    obtain ⟨flaw, hne, hflaw, rfl⟩ := readOptions_eq_error.mp (scan_whitespace_eq_error.mp h)
    exact .whitespaceOptions hne hflaw

theorem not_refuses {patterns : List Pattern} (hs : b.scan c = .ok own)
    (hp : compilePatterns c.filters = .ok patterns) : ¬ Refuses c b e := by
  intro h
  cases h with
  | filters _ h => exact nomatch h.symm.trans hp
  | markers ho h =>
    have hscan := scan_todo_eq_error.mpr (.inr ⟨_, ho, h, rfl⟩)
    exact nomatch hscan.symm.trans hs
  | todoOptions hne h =>
    have hscan := scan_todo_eq_error.mpr (.inl (readOptions_eq_error.mpr ⟨_, hne, h, rfl⟩))
    exact nomatch hscan.symm.trans hs
  | whitespaceOptions hne h =>
    have hscan := scan_whitespace_eq_error.mpr (readOptions_eq_error.mpr ⟨_, hne, h, rfl⟩)
    exact nomatch hscan.symm.trans hs

end Refuses

section Account
variable (c : ToolConfig) (own : Path → List Char → List Issue)
  (told : Path → Except Disk.Fault (List Char))

/-- What a tool found in a file, disabled codes left out. -/
def foundIn (p : Path) : List Issue :=
  match told p with
  | .ok text => c.retainEnabled (own p text)
  | .error _ => []

def unreadIssue? (p : Path) : Option Issue :=
  match told p with
  | .ok _ => none
  | .error fault => some (readFailure fault p)

/-- The issue about a file that could not be read. A file that is missing or locked is told from one
that cannot be read for another reason. -/
structure AboutUnread (p : Path) (i : Issue) : Prop where
  tool : i.tool = suiteName
  file : i.filename = p
  code : ∃ fault, told p = .error fault ∧
    i.code = some (if fault = .notFound ∨ fault = .denied then "access" else "unexpected")

def reported (read : List (Path × Except Disk.Fault (List Char))) : List Issue :=
  c.retainEnabled (scanned own read) ++ unread read

/-- First what was found, file by file, and then one issue for each file that could not be read. -/
structure IsAccount (t : Tool) (files : List Path) (issues : List Issue) : Prop where
  grouped : issues = files.flatMap (foundIn c own told) ++ files.filterMap (unreadIssue? told)
  found : ∀ p ∈ files, ∀ i ∈ foundIn c own told p, ∃ text, told p = .ok text ∧
    Finding t p text i ∧ i.codeText ∉ c.disabled
  unread : List.Forall₂ (AboutUnread told) (files.filter fun p => !(told p).isOk)
    (files.filterMap (unreadIssue? told))

theorem reported_map (files : List Path) : reported c own (files.map fun p => (p, told p)) =
    files.flatMap (foundIn c own told) ++ files.filterMap (unreadIssue? told) := by
  rw [reported, scanned, unread, List.flatMap_map, List.filterMap_map, ToolConfig.retainEnabled,
    List.filter_flatMap]
  congr 1
  congr 2
  funext p
  rw [foundIn]
  cases told p <;> rfl

theorem aboutUnread_readFailure {p : Path} {fault : Disk.Fault} (h : told p = .error fault) :
    AboutUnread told p (readFailure fault p) := by
  refine ⟨?_, ?_, fault, h, ?_⟩ <;> cases fault <;> rfl

theorem forall₂_unread (files : List Path) :
    List.Forall₂ (AboutUnread told) (files.filter fun p => !(told p).isOk)
      (files.filterMap (unreadIssue? told)) := by
  induction files with
  | nil => exact .nil
  | cons p files ih =>
    cases hp : told p with
    | ok text => simpa [hp, unreadIssue?, Except.isOk, Except.toBool] using ih
    | error fault =>
      have hcons := List.Forall₂.cons (aboutUnread_readFailure told hp) ih
      simpa [hp, unreadIssue?, Except.isOk, Except.toBool] using hcons

end Account

/-- A flaw of shape is on a line of its text. -/
def ShapeInside (text : List Char) : Prop :=
  ∀ e, Json.parse text = .error e → e.flaw.kind = .shape → e.line ≤ 1 + text.count '\n'

def lineSize : Builtin → List Char → Nat
  | jsonLint => Text.byteLength
  | _ => List.length

section Scan
variable {b : Builtin} {c : ToolConfig} {own : Path → List Char → List Issue} {p : Path}
  {text : List Char} {i : Issue}

theorem foundAt_of_scan (hscan : b.scan c = .ok own) (hi : i ∈ own p text) :
    (∃ n, FoundAt b.tool b.lineSize p text n i) ∨
      b = jsonLint ∧ ∃ e, Json.parse text = .error e ∧ e.flaw.kind = .shape ∧
        i = JsonLint.issueOf p e := by
  cases b with
  | jsonLint =>
    obtain rfl := Except.ok.inj hscan
    obtain ⟨e, he, rfl⟩ := JsonLint.exists_of_mem_check hi
    by_cases hkind : e.flaw.kind = .shape
    · exact .inr ⟨rfl, e, he, hkind, rfl⟩
    · exact .inl ⟨e.line, JsonLint.foundAt_issueOf (Json.within_of_parse he hkind)⟩
  | secrets =>
    obtain rfl := Except.ok.inj hscan
    exact .inl (Secrets.foundAt_of_mem_check hi)
  | todo =>
    obtain ⟨o, -, -, rfl⟩ := scan_todo_eq_ok.mp hscan
    exact .inl (Todo.foundAt_of_mem_check hi)
  | whitespace =>
    obtain ⟨o, -, rfl⟩ := scan_whitespace_eq_ok.mp hscan
    exact .inl (Whitespace.foundAt_of_mem_check hi)

theorem finding_of_scan (hscan : b.scan c = .ok own) (hshort : Short text)
    (hshape : b = jsonLint → ShapeInside text) (hi : i ∈ own p text) :
    Finding b.tool p text i := by
  rcases foundAt_of_scan hscan hi with ⟨n, hn⟩ | ⟨rfl, e, he, hkind, rfl⟩
  · exact hn.finding hshort
  · exact JsonLint.finding_issueOf hshort (hshape rfl e he hkind)

theorem finding_of_mem_foundIn {told : Path → Except Disk.Fault (List Char)}
    (hscan : b.scan c = .ok own) (hshort : ∀ text, told p = .ok text → Short text)
    (hshape : b = jsonLint → ∀ text, told p = .ok text → ShapeInside text)
    (hi : i ∈ foundIn c own told p) :
    ∃ text, told p = .ok text ∧ Finding b.tool p text i ∧ i.codeText ∉ c.disabled := by
  rw [foundIn] at hi
  split at hi
  next text htold =>
    obtain ⟨hown, henabled⟩ := List.mem_filter.mp hi
    refine ⟨text, htold, ?_, by simpa using henabled⟩
    exact finding_of_scan hscan (hshort text htold) (fun hb => hshape hb text htold) hown
  next => contradiction

end Scan

/-- A tool of the built-in registry fails just when something is wrong with its configuration.
Otherwise it gives an account of the selected files in their order. Readers in any order come to
their end, and then to the same account. -/
theorem accounts_execute (b : Builtin) {f : Finder} (hf : f.Made) (d : Disk) (c : ToolConfig)
    (hshort : ∀ p ∈ f.allFiles, ∀ text, f.told d p = .ok text → Short text)
    (hshape : b = jsonLint →
      ∀ p ∈ f.allFiles, ∀ text, f.told d p = .ok text → ShapeInside text) :
    (∀ entry, entry ∈ ToolRegistry.builtin ↔ ∃ b : Builtin, entry = (b.tool.name, b.tool)) ∧
    ((∃ e, Refuses c b e ∧ (b.tool.execute f d c).result = .error (.error e)) ∨
    (∀ e, ¬ Refuses c b e) ∧ ∃ own files issues, b.scan c = .ok own ∧
      f.files c.filters = .ok files ∧ (b.tool.execute f d c).result = .ok issues ∧
      IsAccount c own (f.told d) b.tool files issues ∧
      ∀ turns, ((∀ n < files.length, 3 ≤ turns.count n) →
          ((SharedFinder.scanning f d files).takeTurns turns).Finished) ∧
        (((SharedFinder.scanning f d files).takeTurns turns).Finished →
          reported c own ((SharedFinder.scanning f d files).takeTurns turns).outcomes =
            issues)) := by
  refine ⟨fun _ => mem_registry_iff, ?_⟩
  rw [execute_eq]
  cases hscan : b.scan c with
  | error e => exact .inl ⟨e, refuses_of_scan hscan, rfl⟩
  | ok own =>
    cases hfiles : f.files c.filters with
    | error e =>
      refine .inl ⟨e, .filters b (Finder.files_eq_error.mp hfiles), ?_⟩
      simp [scanFiles, hfiles, ToolRun.ofResult]
    | ok files =>
      obtain ⟨patterns, hpatterns, hselected⟩ := Finder.files_eq_ok.mp hfiles
      have hmem : ∀ p ∈ files, p ∈ f.allFiles := by
        intro p hp
        rw [hselected] at hp
        exact List.mem_of_mem_filter hp
      have hread : (readAll f d files).1 = files.map fun p => (p, f.told d p) :=
        Finder.readAll_eq hf.apart hmem
      have hissues := reported_map c own (f.told d) files
      refine .inr ⟨fun e => not_refuses hscan hpatterns, own, files, _, rfl, rfl, ?_,
        ⟨rfl, fun p hp i hi => ?_, forall₂_unread _ _⟩,
        fun turns => ⟨SharedFinder.finished_scanning, fun hdone => ?_⟩⟩
      · rw [← hissues, ← hread]
        simp [scanFiles, hfiles, ToolRun.ofResult, reported]
      · exact finding_of_mem_foundIn hscan (hshort p (hmem p hp))
          (fun hb => hshape hb p (hmem p hp)) hi
      · rw [SharedFinder.outcomes_scanning hf.apart hmem turns hdone, hissues]

def malformedText : List Char := "[1,\n x]".toList

def lintedFinder : Finder :=
  { Finder.ofFindings ["p"] (Finder.findings [] Finder.sourceDisk ["p"] (.dir Finder.sources)) with
    contents := [(⟨"/p/src/a.py"⟩, malformedText)] }

theorem made_lintedFinder : lintedFinder.Made :=
  ⟨Finder.sourceDisk, ⟨"/p"⟩, {}, _, Finder.wellNamed_sourceDisk,
    Finder.create_eq rfl rfl Finder.trace_sourceDisk rfl rfl, rfl⟩

theorem eq_of_told_lintedFinder {p : Path} {text : List Char}
    (h : lintedFinder.told {} p = .ok text) : text = malformedText := by
  cases hc : lintedFinder.cached? p with
  | some own =>
    rw [Finder.told_of_cached hc] at h
    obtain ⟨entry, hentry, hown⟩ := Option.map_eq_some_iff.mp hc
    have hmem : entry ∈ lintedFinder.contents := List.mem_of_find?_eq_some hentry
    rw [List.mem_singleton.mp hmem] at hown
    rw [← Except.ok.inj h, ← hown]
  | none =>
    have hread : ∀ bytes, ({} : Disk).read p ≠ .ok bytes := by
      intro bytes hbytes
      rw [Disk.read] at hbytes
      cases hl : ({} : Disk).locate p with
      | error fault => simp [hl, bind, Except.bind] at hbytes
      | ok location =>
        cases location <;>
          simp [hl, bind, Except.bind, Node.get?_cons, Node.child?, Node.entries] at hbytes
    rw [Finder.told_of_lacking hc, Disk.load] at h
    cases hr : ({} : Disk).read p with
    | error fault => simp [hr, Except.map] at h
    | ok bytes => exact absurd hr (hread bytes)

theorem accounts_execute_linted : lintedFinder.Made ∧
    (∀ p ∈ lintedFinder.allFiles, ∀ text, lintedFinder.told {} p = .ok text → Short text) ∧
    (∀ p ∈ lintedFinder.allFiles, ∀ text, lintedFinder.told {} p = .ok text → ShapeInside text) ∧
    ∃ own files issues, jsonLint.scan {} = .ok own ∧ lintedFinder.files [] = .ok files ∧
      (jsonLint.tool.execute lintedFinder {} {}).result = .ok issues ∧
      IsAccount {} own (lintedFinder.told {}) jsonLint.tool files issues := by
  have hshort : ∀ p ∈ lintedFinder.allFiles, ∀ text, lintedFinder.told {} p = .ok text →
      Short text := by
    intro p _ text h
    have hlength : malformedText.length < 2147483648 := by decide
    rw [eq_of_told_lintedFinder h]
    exact hlength
  have hcheck : (JsonLint.check ⟨"a.json"⟩ malformedText).map Issue.codeText = ["syntax"] := by
    decide +kernel
  have hshape : ∀ p ∈ lintedFinder.allFiles, ∀ text, lintedFinder.told {} p = .ok text →
      ShapeInside text := by
    intro p _ text h e he hkind
    rw [eq_of_told_lintedFinder h] at he
    have hcode : (JsonLint.issueOf ⟨"a.json"⟩ e).codeText = "data" := by
      simp [JsonLint.issueOf, hkind, JsonLint.codeOf, Issue.withLine, Issue.withCharacter,
        Issue.create, Issue.codeText]
    rw [JsonLint.check, he, List.map_singleton, hcode] at hcheck
    exact absurd hcheck (by decide)
  refine ⟨made_lintedFinder, hshort, hshape, ?_⟩
  rcases (accounts_execute jsonLint made_lintedFinder {} {} hshort (fun _ => hshape)).2 with
    ⟨e, hrefuses, -⟩ | ⟨-, own, files, issues, hown, hfiles, hresult, haccount, -⟩
  · cases hrefuses with
    | filters _ h =>
      have hnone : compilePatterns ({} : ToolConfig).filters = .ok [] := rfl
      rw [hnone] at h
      cases h
  · exact ⟨own, files, issues, hown, hfiles, hresult, haccount⟩

end Builtin

end MetaLint
