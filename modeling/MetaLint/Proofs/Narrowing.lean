import Mathlib.Data.List.Flatten
import MetaLint.Proofs.Growing
import MetaLint.Proofs.ProjectFiles

/-!
# What ignore rules keep out

Ignore rules only take something out of what a walk finds: that which they ignore, and all that lies
in a directory which they ignore. So a finder that respects them lists some of the files that it
lists without them, in the same order, whatever the rules say and wherever they stand. A rule that
keeps what another one ignores does not bring back what is excluded.
-/

set_option autoImplicit false

namespace MetaLint

/-- Nothing on the way down these names is shut: none of the directories on it, and not its end,
which may be a directory too. -/
def WayOpen (shut : Location → Bool → Bool) (names : Location) (isDir : Bool) : Prop :=
  ∀ dir, dir <+: names → dir ≠ [] → shut dir (isDir || decide (dir ≠ names)) = false

section Way
variable {shut : Location → Bool → Bool} {names : Location} {isDir : Bool}

instance : Decidable (WayOpen shut names isDir) :=
  decidable_of_iff
    (∀ dir ∈ names.inits, dir ≠ [] → shut dir (isDir || decide (dir ≠ names)) = false)
    (by simp only [WayOpen, List.mem_inits])

theorem wayOpen_nil : WayOpen shut [] isDir :=
  fun _ hdir hne => absurd (List.prefix_nil.mp hdir) hne

theorem wayOpen_concat {name : OsText} : WayOpen shut (names ++ [name]) isDir ↔
    WayOpen shut names true ∧ shut (names ++ [name]) isDir = false := by
  constructor
  · intro h
    refine ⟨fun dir hdir hne => ?_, by simpa using h (names ++ [name]) (List.prefix_refl _)⟩
    have hproper : dir ≠ names ++ [name] := by
      rintro rfl
      exact absurd hdir.length_le (by simp)
    simpa [hproper] using h dir (hdir.trans (List.prefix_append _ _)) hne
  · rintro ⟨hbefore, hlast⟩ dir hdir hne
    rcases List.prefix_concat_iff.mp hdir with rfl | hdir
    · simpa using hlast
    · have hproper : dir ≠ names ++ [name] := by
        rintro rfl
        exact absurd hdir.length_le (by simp)
      simpa [hproper] using hbefore dir hdir hne

theorem not_wayOpen_within {name : OsText} {rest : Location}
    (h : shut (names ++ [name]) true = true) (hne : rest ≠ []) :
    ¬WayOpen shut (names ++ name :: rest) isDir := by
  intro hopen
  have hproper : names ++ [name] ≠ names ++ name :: rest := by simpa using hne.symm
  have hfirst := hopen (names ++ [name]) (by simp) (by simp)
  simp [hproper, h] at hfirst

end Way

theorem IgnoreLevel.above_concat (d : Disk) (location : Location) (name : OsText) :
    above d (location ++ [name]) = read d location :: above d location := by
  have htake : ∀ n ∈ List.range location.length,
      read d ((location ++ [name]).take n) = read d (location.take n) := by
    intro n hn
    rw [List.take_append_of_le_length (List.mem_range.mp hn).le]
  rw [above, List.length_append, List.length_singleton, List.range_succ, List.map_append,
    List.reverse_append, List.map_congr_left htake]
  simp [above]

def ignoredBelow (d : Disk) (project : Location) (names : Location) (isDir : Bool) : Bool :=
  isIgnored (IgnoreLevel.above d (project ++ names)) (project ++ names) isDir

def Found.isDir : Found → Bool
  | dir _ => true
  | file _ => false

def Found.Spared (d : Disk) (project : Location) (f : Found) : Prop :=
  WayOpen (ignoredBelow d project) f.names f.isDir

instance (d : Disk) (project : Location) : DecidablePred (Found.Spared d project) :=
  fun f => inferInstanceAs (Decidable (WayOpen (ignoredBelow d project) f.names f.isDir))

theorem Found.spared_file_iff {d : Disk} {project : Location} {names : Location} :
    Spared d project (.file names) ↔ WayOpen (ignoredBelow d project) names false := Iff.rfl

theorem Found.spared_dir_iff {d : Disk} {project : Location} {names : Location} :
    Spared d project (.dir names) ↔ WayOpen (ignoredBelow d project) names true := Iff.rfl

def WalkSettings.respecting (s : WalkSettings) (b : Bool) : WalkSettings :=
  { s with respectGitignore := b }

section Walk
variable {s : WalkSettings} {d : Disk} {project : Location} {here : Location} {f : Found}

theorem prunes_respecting (b : Bool) (names : Location) (isDir : Bool) :
    (s.respecting b).prunes names isDir = s.prunes names isDir := rfl

def walkEntryWithin (s : WalkSettings) (d : Disk) (project : Location) (here : Location)
    (e : OsText × Node) : List Found :=
  if ignoredBelow d project (here ++ [e.1]) e.2.isDir || s.prunes (here ++ [e.1]) e.2.isDir then []
  else
    match e.2 with
    | .file _ | .locked => [.file (here ++ [e.1])]
    | .link _ => []
    | .dir es => .dir (here ++ [e.1]) :: walkNode (s.respecting true) d project (here ++ [e.1])
        (IgnoreLevel.above d (project ++ (here ++ [e.1]))) (.dir es)

theorem walkNode_respecting_dir (es : List (OsText × Node)) :
    walkNode (s.respecting true) d project here (IgnoreLevel.above d (project ++ here)) (.dir es) =
      es.flatMap (walkEntryWithin s d project here) := by
  have hlevels : ∀ name, levelsBelow (s.respecting true) d (project ++ here)
      (IgnoreLevel.above d (project ++ here)) =
        IgnoreLevel.above d (project ++ (here ++ [name])) := by
    intro name
    rw [← List.append_assoc, IgnoreLevel.above_concat]
    rfl
  rw [walkNode]
  induction es with
  | nil => rw [walkEntries]; rfl
  | cons e es ih =>
    obtain ⟨name, node⟩ := e
    rw [walkEntries.eq_def, List.flatMap_cons, ← ih, hlevels name]
    cases node <;> rfl

theorem walkEntryWithin_eq_filter {e : OsText × Node}
    (h : WayOpen (ignoredBelow d project) here true)
    (hbelow : WayOpen (ignoredBelow d project) (here ++ [e.1]) true →
      walkNode (s.respecting true) d project (here ++ [e.1])
          (IgnoreLevel.above d (project ++ (here ++ [e.1]))) e.2 =
        (walkNode (s.respecting false) d project (here ++ [e.1]) [] e.2).filter
          (Found.Spared d project)) :
    walkEntryWithin s d project here e =
      (walkEntry (s.respecting false) d project here e).filter (Found.Spared d project) := by
  obtain ⟨name, node⟩ := e
  have hspared : ∀ isDir, WayOpen (ignoredBelow d project) (here ++ [name]) isDir ↔
      ignoredBelow d project (here ++ [name]) isDir = false :=
    fun isDir => wayOpen_concat.trans (and_iff_right h)
  rw [walkEntryWithin, walkEntry, prunes_respecting]
  cases hp : s.prunes (here ++ [name]) node.isDir with
  | true => simp
  | false =>
    cases node with
    | file content =>
      cases hi : ignoredBelow d project (here ++ [name]) false <;>
        simp [Node.isDir, Found.spared_file_iff, hspared, hi]
    | locked =>
      cases hi : ignoredBelow d project (here ++ [name]) false <;>
        simp [Node.isDir, Found.spared_file_iff, hspared, hi]
    | link target => simp
    | dir own =>
      cases hi : ignoredBelow d project (here ++ [name]) true with
      | false =>
        have hopen : WayOpen (ignoredBelow d project) (here ++ [name]) true := (hspared true).mpr hi
        simp [Node.isDir, Found.spared_dir_iff, hspared, hi, hbelow hopen]
      | true =>
        have hnone : ∀ f ∈ walkNode (s.respecting false) d project (here ++ [name]) []
            (.dir own), ¬f.Spared d project := by
          intro f hf
          obtain ⟨next, rest, hnames⟩ := (finds_of_mem_walkNode rfl hf).extends
          rw [Found.Spared, hnames, List.append_assoc]
          exact not_wayOpen_within hi (by simp)
        simpa [Node.isDir, Found.spared_dir_iff, hspared, hi] using hnone

/-- With ignore rules a walk finds what is spared of that which it finds without them. -/
theorem walkNode_eq_filter {node : Node} (h : WayOpen (ignoredBelow d project) here true) :
    walkNode (s.respecting true) d project here (IgnoreLevel.above d (project ++ here)) node =
      (walkNode (s.respecting false) d project here [] node).filter (Found.Spared d project) := by
  induction node using Node.byEntries generalizing here with
  | file content => simp [walkNode]
  | locked => simp [walkNode]
  | link target => simp [walkNode]
  | dir es ih =>
    rw [walkNode_respecting_dir, walkNode_dir rfl, List.filter_flatMap]
    apply List.flatMap_congr
    intro e he
    exact walkEntryWithin_eq_filter h (ih e he)

theorem Finds.wayOpen {node : Node} (hf : Finds s here node f) (h : WayOpen s.prunes here true) :
    WayOpen s.prunes f.names f.isDir := by
  induction hf with
  | file he _ hkept => exact wayOpen_concat.mpr ⟨h, hkept⟩
  | dir he hkept => exact wayOpen_concat.mpr ⟨h, hkept⟩
  | within he hkept _ ih => exact ih (wayOpen_concat.mpr ⟨h, hkept⟩)

end Walk

section Arranged
variable {found other : List Found}

theorem sortedDirs_sublist (h : found.Sublist other) :
    (sortedDirs found).Sublist (sortedDirs other) :=
  Sorting.mergeSort_sublist ((h.filterMap _).cons_cons [])

theorem namesIn_sublist (h : found.Sublist other) (dir : Location) :
    (namesIn found dir).Sublist (namesIn other dir) :=
  ((Sorting.mergeSort_sublist (h.filterMap _)).filter _).filterMap _

end Arranged

/-- The settings with ignore rules respected or not. -/
def Config.respecting (c : Config) (b : Bool) : Config := { c with respectGitignore := b }

namespace Finder

section Files
variable {location : Location} {found other : List Found} {p : Path}

theorem allFiles_ofFindings : (ofFindings location found).allFiles =
    (sortedDirs found).flatMap fun dir =>
      (namesIn found dir).map fun f => below (Disk.pathOf location) (dir ++ [f]) := by
  rw [allFiles, ofFindings, arrange_eq, List.map_map, List.flatMap_map]
  simp [below]

theorem allFiles_sublist (h : found.Sublist other) :
    (ofFindings location found).allFiles.Sublist (ofFindings location other).allFiles := by
  rw [allFiles_ofFindings, allFiles_ofFindings]
  apply ((sortedDirs_sublist h).flatMap _).trans
  exact .flatMap_right _ fun dir _ => (namesIn_sublist h dir).map _

theorem mem_allFiles : p ∈ (ofFindings location found).allFiles ↔
    ∃ dir name, (dir = [] ∨ .dir dir ∈ found) ∧ .file (dir ++ [name]) ∈ found ∧
      p = below (Disk.pathOf location) (dir ++ [name]) := by
  simp only [allFiles_ofFindings, List.mem_flatMap, List.mem_map, mem_sortedDirs, mem_namesIn]
  constructor
  · rintro ⟨dir, hdir, name, hname, rfl⟩
    exact ⟨dir, name, hdir, hname, rfl⟩
  · rintro ⟨dir, name, hdir, hname, rfl⟩
    exact ⟨dir, hdir, name, hname, rfl⟩

end Files

/-- The files of the project at `location` with ignore rules, among those without them. -/
structure Narrowed (s : WalkSettings) (d : Disk) (location : Location) (kept all : List Path) :
    Prop where
  sublist : kept.Sublist all
  standing : ∀ p ∈ kept, ∃ names, p = below (Disk.pathOf location) names ∧
    WayOpen s.prunes names false ∧ WayOpen (ignoredBelow d location) names false
  removed : ∀ p ∈ all, p ∉ kept → ∃ names, p = below (Disk.pathOf location) names ∧
    ¬WayOpen (ignoredBelow d location) names false

section Narrowed
variable {s : WalkSettings} {d : Disk} {location : Location} {kept all : List Path}

theorem Narrowed.filter (h : Narrowed s d location kept all) (q : Path → Bool) :
    Narrowed s d location (kept.filter q) (all.filter q) where
  sublist := h.sublist.filter q
  standing p hp := h.standing p (List.mem_of_mem_filter hp)
  removed p hp hno := by
    obtain ⟨hall, hq⟩ := List.mem_filter.mp hp
    exact h.removed p hall fun hk => hno (List.mem_filter.mpr ⟨hk, hq⟩)

theorem narrowed_allFiles (es : List (OsText × Node)) : Narrowed s d location
    (ofFindings location (walkNode (s.respecting true) d location []
      (IgnoreLevel.above d location) (.dir es))).allFiles
    (ofFindings location (walkNode (s.respecting false) d location [] [] (.dir es))).allFiles := by
  have hwalk : walkNode (s.respecting true) d location [] (IgnoreLevel.above d (location ++ []))
      (.dir es) = (walkNode (s.respecting false) d location [] [] (.dir es)).filter
        (Found.Spared d location) := walkNode_eq_filter wayOpen_nil
  rw [List.append_nil] at hwalk
  rw [hwalk]
  refine ⟨allFiles_sublist List.filter_sublist, ?_, ?_⟩
  · intro p hp
    obtain ⟨dir, name, -, hf, rfl⟩ := mem_allFiles.mp hp
    obtain ⟨hfound, hspared⟩ := List.mem_filter.mp hf
    exact ⟨_, rfl, (finds_of_mem_walkNode rfl hfound).wayOpen wayOpen_nil,
      of_decide_eq_true hspared⟩
  · intro p hp hno
    obtain ⟨dir, name, hdir, hf, rfl⟩ := mem_allFiles.mp hp
    refine ⟨_, rfl, fun hopen => hno (mem_allFiles.mpr ⟨dir, name, ?_, ?_, rfl⟩)⟩
    · refine hdir.imp_right fun hd => List.mem_filter.mpr ⟨hd, decide_eq_true ?_⟩
      exact (wayOpen_concat.mp hopen).1
    · exact List.mem_filter.mpr ⟨hf, decide_eq_true hopen⟩

end Narrowed

/-- The files of a project that are selected. -/
def listFiles (d : Disk) (project : Path) (c : Config) (filters : List String) :
    Except Error (List Path) := do
  (← create d project c).files filters

/-- How a list of files with ignore rules compares to one without them: either both are refused, or
one is narrowed to the other. -/
inductive Narrows (d : Disk) (project : Path) (c : Config) :
    Except Error (List Path) → Except Error (List Path) → Prop
  | refused (e : Error) : Narrows d project c (.error e) (.error e)
  | narrowed {excludes : List Pattern} {location : Location} {kept all : List Path}
      (he : compilePatterns c.exclude = .ok excludes) (hl : d.trace project = .ok location)
      (h : Narrowed { excludes } d location kept all) : Narrows d project c (.ok kept) (.ok all)

section Narrows
variable {d : Disk} {project : Path} {c : Config} {excludes : List Pattern} {location : Location}

theorem narrows_files {f g : Finder} (he : compilePatterns c.exclude = .ok excludes)
    (hl : d.trace project = .ok location) (hp : f.project = g.project)
    (h : Narrowed { excludes } d location f.allFiles g.allFiles) (filters : List String) :
    Narrows d project c (f.files filters) (g.files filters) := by
  rw [files, files]
  cases compilePatterns filters with
  | error e => exact .refused e
  | ok patterns =>
    have hrelative : ∀ p, f.relative p = g.relative p := fun p => by rw [relative, relative, hp]
    simp only [hrelative]
    exact .narrowed he hl (h.filter _)

theorem create_respecting {es : List (OsText × Node)}
    (he : compilePatterns c.exclude = .ok excludes) (hl : d.trace project = .ok location)
    (hn : d.root.get? location = some (.dir es)) :
    create d project (c.respecting true) =
      .ok (ofFindings location (walkNode (WalkSettings.respecting { excludes } true) d location []
        (IgnoreLevel.above d location) (.dir es))) := by
  have he' : compilePatterns (c.respecting true).exclude = .ok excludes := he
  simp only [create, hl, he', Error.lift, bind, Except.bind, hn]
  rfl

theorem create_of_not_dir (he : compilePatterns c.exclude = .ok excludes)
    (hl : d.trace project = .ok location)
    (hn : ∀ es, d.root.get? location ≠ some (.dir es)) :
    create d project c = .ok { project := Disk.pathOf location, found :=
      [(Disk.pathOf location.dropLast, [Disk.pathOf location]), (Disk.pathOf location, [])] } := by
  simp only [create, hl, he, Error.lift, bind, Except.bind]
  rfl

theorem listFiles_eq {f : Finder} (h : create d project c = .ok f) (filters : List String) :
    listFiles d project c filters = f.files filters := by
  rw [listFiles, h]
  rfl

theorem listFiles_refused {e : Error} (h : d.trace project = .ok location)
    (he : compilePatterns c.exclude = .error e) (filters : List String) :
    listFiles d project c filters = .error e := by
  simp only [listFiles, create, h, he, Error.lift, bind, Except.bind]

theorem listFiles_astray {fault : Disk.Fault} (h : d.trace project = .error fault)
    (filters : List String) : listFiles d project c filters = .error (.io fault) := by
  simp only [listFiles, create, h, Error.lift, bind, Except.bind]

end Narrows

/-- Whatever rules stand in a tree, and whatever is excluded and selected: with ignore rules a
finder lists the files that it lists without them, in the same order, except for those that the
rules ignore. -/
theorem narrows_listFiles (d : Disk) (project : Path) (c : Config) (filters : List String) :
    Narrows d project c (listFiles d project (c.respecting true) filters)
      (listFiles d project (c.respecting false) filters) := by
  cases hl : d.trace project with
  | error fault =>
    rw [listFiles_astray hl, listFiles_astray hl]
    exact .refused _
  | ok location =>
    cases he : compilePatterns c.exclude with
    | error e =>
      have he' : ∀ b, compilePatterns (c.respecting b).exclude = .error e := fun _ => he
      rw [listFiles_refused hl (he' true), listFiles_refused hl (he' false)]
      exact .refused _
    | ok excludes =>
      have he' : ∀ b, compilePatterns (c.respecting b).exclude = .ok excludes := fun _ => he
      by_cases hdir : ∃ es, d.root.get? location = some (.dir es)
      · obtain ⟨es, hn⟩ := hdir
        rw [listFiles_eq (create_respecting he hl hn),
          listFiles_eq (create_eq rfl (he' false) hl hn rfl)]
        refine narrows_files he hl ?_ (narrowed_allFiles es) filters
        rfl
      · rw [not_exists] at hdir
        rw [listFiles_eq (create_of_not_dir (he' true) hl hdir),
          listFiles_eq (create_of_not_dir (he' false) hl hdir)]
        refine narrows_files he hl rfl ⟨List.Sublist.refl _, ?_, ?_⟩ filters
        · intro p hp
          obtain rfl : p = Disk.pathOf location := by simpa [allFiles] using hp
          exact ⟨[], rfl, wayOpen_nil, wayOpen_nil⟩
        · exact fun p hp hno => absurd hp hno

end Finder

end MetaLint
