import MetaLint.Finder.Walk
import MetaLint.Proofs.Directory
import MetaLint.Proofs.Lookup
import MetaLint.Proofs.PathText

/-!
# What a walk finds

With ignore rules out of play, an entry is found when it is not passed by itself and lies in
directories that are entered. The same is found, each once, whatever the order of the entries.
-/

set_option autoImplicit false

namespace MetaLint

namespace Node

variable {n m : Node} {l : Location} {name : OsText}

@[elab_as_elim]
theorem byEntries {P : Node → Prop} (file : ∀ content, P (.file content))
    (locked : P .locked) (link : ∀ target, P (.link target))
    (dir : ∀ es, (∀ e ∈ es, P e.2) → P (.dir es)) : ∀ n, P n
  | .file content => file content
  | .locked => locked
  | .link target => link target
  | .dir es => dir es fun e _ => byEntries file locked link dir e.2
termination_by n => sizeOf n
decreasing_by
  have hpair : sizeOf e.2 < sizeOf e := by
    cases e
    simp only [Prod.mk.sizeOf_spec]
    omega
  have hlist := List.sizeOf_lt_of_mem ‹e ∈ es›
  simp
  omega

/-- In every directory the names are different ones, and such that files can have them. -/
structure WellNamed (n : Node) : Prop where
  distinct : ∀ l es, n.get? l = some (.dir es) → (es.map Prod.fst).Nodup
  proper : ∀ l es, n.get? l = some (.dir es) → ∀ e ∈ es, Path.IsName e.1

theorem WellNamed.child {es : List (OsText × Node)} (h : WellNamed (.dir es)) {child : Node}
    (hc : (name, child) ∈ es) : child.WellNamed := by
  have hlookup : es.lookup name = some child :=
    (Keyed.lookup_eq_some_iff (h.distinct [] es (get?_nil _))).mpr hc
  have hget : ∀ l, (Node.dir es).get? (name :: l) = child.get? l := by
    intro l
    simp [get?_cons, child?, entries, hlookup]
  exact ⟨fun l own hown => h.distinct (name :: l) own ((hget l).trans hown),
    fun l own hown => h.proper (name :: l) own ((hget l).trans hown)⟩

theorem WellNamed.get? (h : n.WellNamed) {node : Node} (hn : n.get? l = some node) :
    node.WellNamed := by
  have hget : ∀ rest, n.get? (l ++ rest) = node.get? rest := by
    intro rest
    simp [get?_append, hn]
  exact ⟨fun rest es he => h.distinct (l ++ rest) es ((hget rest).trans he),
    fun rest es he => h.proper (l ++ rest) es ((hget rest).trans he)⟩

theorem WellNamed.named (h : n.WellNamed) {node : Node} (hn : n.get? l = some node) :
    ∀ name ∈ l, Path.IsName name := by
  induction l generalizing n with
  | nil => simp
  | cons first rest ih =>
    rw [get?_cons] at hn
    obtain ⟨child, hc, hrest⟩ := Option.bind_eq_some_iff.mp hn
    cases n with
    | file content => simp [child?, entries] at hc
    | locked => simp [child?, entries] at hc
    | link target => simp [child?, entries] at hc
    | dir es =>
      have hmem : (first, child) ∈ es := Keyed.mem_of_lookup hc
      exact List.forall_mem_cons.mpr
        ⟨h.proper [] es (get?_nil _) _ hmem, ih (h.child hmem) hrest⟩

theorem WellNamed.get?_cons_iff {es : List (OsText × Node)} (h : WellNamed (.dir es))
    {rest : Location} {node : Node} : (Node.dir es).get? (name :: rest) = some node ↔
      ∃ child, (name, child) ∈ es ∧ child.get? rest = some node := by
  rw [get?_cons, Option.bind_eq_some_iff]
  simp only [child?, entries, Keyed.lookup_eq_some_iff (h.distinct [] es (get?_nil _))]

theorem wellNamed_of_not_dir (h : n.isDir = false) : n.WellNamed where
  distinct l es he := by rw [← (get?_of_not_dir h he).2] at h; contradiction
  proper l es he := by rw [← (get?_of_not_dir h he).2] at h; contradiction

theorem wellNamed_dir {es : List (OsText × Node)} (hd : (es.map Prod.fst).Nodup)
    (hp : ∀ e ∈ es, Path.IsName e.1) (hw : ∀ e ∈ es, e.2.WellNamed) :
    (Node.dir es).WellNamed := by
  have hcases : ∀ {l own}, (Node.dir es).get? l = some (.dir own) →
      own = es ∨ ∃ e ∈ es, ∃ rest, e.2.get? rest = some (.dir own) := by
    intro l own h
    cases l with
    | nil =>
      rw [get?_nil] at h
      exact .inl (Node.dir.inj (Option.some.inj h)).symm
    | cons name rest =>
      rw [get?_cons] at h
      obtain ⟨child, hc, hrest⟩ := Option.bind_eq_some_iff.mp h
      exact .inr ⟨_, Keyed.mem_of_lookup hc, rest, hrest⟩
  constructor
  · intro l own h
    rcases hcases h with rfl | ⟨e, he, rest, hrest⟩
    · exact hd
    · exact (hw e he).distinct rest own hrest
  · intro l own h
    rcases hcases h with rfl | ⟨e, he, rest, hrest⟩
    · exact hp
    · exact (hw e he).proper rest own hrest

theorem isDir_of_get?_append {n node : Node} {dir : Location} {name : OsText}
    (h : n.get? (dir ++ [name]) = some node) : ∃ es, n = .dir es := by
  cases n with
  | dir es => exact ⟨es, rfl⟩
  | file content => exact absurd (get?_of_not_dir rfl h).1 (by simp)
  | locked => exact absurd (get?_of_not_dir rfl h).1 (by simp)
  | link target => exact absurd (get?_of_not_dir rfl h).1 (by simp)

def bare : Node → Node
  | .dir _ => .dir []
  | n => n

def Alike (n m : Node) : Prop := ∀ l, (n.get? l).map bare = (m.get? l).map bare

theorem isFile_bare (n : Node) : n.bare.isFile = n.isFile := by
  cases n <;> rfl

theorem bare_eq_file {content : Text.Bytes} : n.bare = .file content ↔ n = .file content := by
  cases n <;> simp [bare]

theorem bare_eq_link {target : OsText} : n.bare = .link target ↔ n = .link target := by
  cases n <;> simp [bare]

theorem bare_eq_dir : n.bare = .dir [] ↔ ∃ es, n = .dir es := by
  cases n <;> simp [bare]

theorem Alike.symm (h : n.Alike m) : m.Alike n := fun l => (h l).symm

end Node

def Found.names : Found → Location
  | dir names => names
  | file names => names

/-- What a walk without ignore rules comes to below a node that stands at `here`. -/
inductive Finds (s : WalkSettings) : Location → Node → Found → Prop
  | file {here : Location} {es : List (OsText × Node)} {name : OsText} {own : Node}
      (he : (name, own) ∈ es) (hfile : own.isFile = true)
      (hkept : s.prunes (here ++ [name]) false = false) :
      Finds s here (.dir es) (.file (here ++ [name]))
  | dir {here : Location} {es own : List (OsText × Node)} {name : OsText}
      (he : (name, .dir own) ∈ es) (hkept : s.prunes (here ++ [name]) true = false) :
      Finds s here (.dir es) (.dir (here ++ [name]))
  | within {here : Location} {es own : List (OsText × Node)} {name : OsText} {f : Found}
      (he : (name, .dir own) ∈ es) (hkept : s.prunes (here ++ [name]) true = false)
      (hf : Finds s (here ++ [name]) (.dir own) f) : Finds s here (.dir es) f

section Walk
variable {s : WalkSettings} {d : Disk} {project : Location} {here : Location} {f : Found}

theorem Finds.extends {node : Node} (h : Finds s here node f) :
    ∃ name rest, f.names = here ++ name :: rest := by
  induction h with
  | @file here es name own he hfile hkept => exact ⟨name, [], rfl⟩
  | @dir here es own name he hkept => exact ⟨name, [], rfl⟩
  | @within here es own name f he hkept hf ih =>
    obtain ⟨next, rest, hnames⟩ := ih
    exact ⟨name, next :: rest, by simp [hnames]⟩

theorem levelsBelow_nil (hs : s.respectGitignore = false) (location : Location) :
    levelsBelow s d location [] = [] := by
  rw [levelsBelow, hs]
  rfl

def walkEntry (s : WalkSettings) (d : Disk) (project : Location) (here : Location)
    (e : OsText × Node) : List Found :=
  if s.prunes (here ++ [e.1]) e.2.isDir then []
  else
    match e.2 with
    | .file _ | .locked => [.file (here ++ [e.1])]
    | .link _ => []
    | .dir es => .dir (here ++ [e.1]) :: walkNode s d project (here ++ [e.1]) [] (.dir es)

theorem walkEntries_cons (e : OsText × Node) (es : List (OsText × Node)) :
    walkEntries s d project here [] (e :: es) =
      walkEntry s d project here e ++ walkEntries s d project here [] es := by
  obtain ⟨name, node⟩ := e
  rw [walkEntries.eq_def]
  cases node <;> rfl

theorem walkEntries_eq_flatMap (es : List (OsText × Node)) :
    walkEntries s d project here [] es = es.flatMap (walkEntry s d project here) := by
  induction es with
  | nil => rw [walkEntries]; rfl
  | cons e es ih => rw [walkEntries_cons, ih, List.flatMap_cons]

theorem walkNode_dir (hs : s.respectGitignore = false) (es : List (OsText × Node)) :
    walkNode s d project here [] (.dir es) = es.flatMap (walkEntry s d project here) := by
  rw [walkNode, levelsBelow_nil hs, walkEntries_eq_flatMap]

theorem finds_of_mem_walkNode (hs : s.respectGitignore = false) {node : Node}
    (h : f ∈ walkNode s d project here [] node) : Finds s here node f := by
  induction node using Node.byEntries generalizing here with
  | file content => simp [walkNode] at h
  | locked => simp [walkNode] at h
  | link target => simp [walkNode] at h
  | dir es ih =>
    rw [walkNode_dir hs] at h
    obtain ⟨⟨name, node⟩, he, hf⟩ := List.mem_flatMap.mp h
    rw [walkEntry] at hf
    split at hf
    · contradiction
    next hkept =>
      rw [Bool.not_eq_true] at hkept
      cases node with
      | file content =>
        rw [List.mem_singleton.mp hf]
        exact .file he rfl hkept
      | locked =>
        rw [List.mem_singleton.mp hf]
        exact .file he rfl hkept
      | link target => contradiction
      | dir own =>
        rcases List.mem_cons.mp hf with rfl | hf
        · exact .dir he hkept
        · exact .within he hkept (ih _ he hf)

theorem mem_walkNode (hs : s.respectGitignore = false) {node : Node} :
    f ∈ walkNode s d project here [] node ↔ Finds s here node f := by
  refine ⟨finds_of_mem_walkNode hs, fun h => ?_⟩
  induction h with
  | @file here es name own he hfile hkept =>
    rw [walkNode_dir hs]
    refine List.mem_flatMap.mpr ⟨_, he, ?_⟩
    cases own with
    | file content => simp [walkEntry, Node.isDir, hkept]
    | locked => simp [walkEntry, Node.isDir, hkept]
    | link target => contradiction
    | dir own => contradiction
  | dir he hkept =>
    rw [walkNode_dir hs]
    exact List.mem_flatMap.mpr ⟨_, he, by simp [walkEntry, Node.isDir, hkept]⟩
  | within he hkept hf ih =>
    rw [walkNode_dir hs]
    exact List.mem_flatMap.mpr ⟨_, he, by simp [walkEntry, Node.isDir, hkept, ih]⟩

theorem extends_of_mem_walkEntry (hs : s.respectGitignore = false) {e : OsText × Node}
    (h : f ∈ walkEntry s d project here e) : ∃ rest, f.names = here ++ e.1 :: rest := by
  obtain ⟨name, node⟩ := e
  rw [walkEntry] at h
  split at h
  · contradiction
  · cases node with
    | file content => exact ⟨[], by rw [List.mem_singleton.mp h]; rfl⟩
    | locked => exact ⟨[], by rw [List.mem_singleton.mp h]; rfl⟩
    | link target => contradiction
    | dir own =>
      rcases List.mem_cons.mp h with rfl | h
      · exact ⟨[], rfl⟩
      · obtain ⟨next, rest, hnames⟩ := (finds_of_mem_walkNode hs h).extends
        exact ⟨next :: rest, by simp [hnames]⟩

theorem nodup_walkNode (hs : s.respectGitignore = false) {node : Node} (h : node.WellNamed) :
    (walkNode s d project here [] node).Nodup := by
  induction node using Node.byEntries generalizing here with
  | file content => simp [walkNode]
  | locked => simp [walkNode]
  | link target => simp [walkNode]
  | dir es ih =>
    rw [walkNode_dir hs]
    apply List.pairwise_flatMap.mpr
    constructor
    · rintro ⟨name, node⟩ he
      rw [walkEntry]
      split
      · exact List.nodup_nil
      · cases node with
        | file content => exact List.pairwise_singleton _ _
        | locked => exact List.pairwise_singleton _ _
        | link target => exact List.nodup_nil
        | dir own =>
          refine List.nodup_cons.mpr ⟨?_, ih _ he (h.child he)⟩
          intro hf
          obtain ⟨next, rest, hnames⟩ := (finds_of_mem_walkNode hs hf).extends
          simp [Found.names] at hnames
    · have hdistinct := List.pairwise_map.mp (h.distinct [] es (Node.get?_nil _))
      apply hdistinct.imp
      rintro e e' hne f hf _ hf' rfl
      obtain ⟨rest, hnames⟩ := extends_of_mem_walkEntry hs hf
      obtain ⟨rest', hnames'⟩ := extends_of_mem_walkEntry hs hf'
      rw [hnames', List.append_cancel_left_eq] at hnames
      exact hne (List.cons.inj hnames).1.symm

def Clear (s : WalkSettings) (here rest : Location) : Prop :=
  ∀ dir, dir <+: rest → dir ≠ [] → s.prunes (here ++ dir) true = false

theorem clear_nil : Clear s here [] := fun _ hdir hne => absurd (List.prefix_nil.mp hdir) hne

theorem clear_cons {name : OsText} {rest : Location} : Clear s here (name :: rest) ↔
    s.prunes (here ++ [name]) true = false ∧ Clear s (here ++ [name]) rest := by
  constructor
  · intro h
    refine ⟨h [name] (by simp) (by simp), fun dir hdir _ => ?_⟩
    rw [List.append_assoc]
    exact h (name :: dir) (by simpa using hdir) (by simp)
  · rintro ⟨hfirst, hrest⟩ dir hdir hne
    obtain ⟨next, below, rfl⟩ := List.exists_cons_of_ne_nil hne
    obtain ⟨rfl, hbelow⟩ := List.cons_prefix_cons.mp hdir
    by_cases hnil : below = []
    · rw [hnil]
      exact hfirst
    · have hdeep := hrest below hbelow hnil
      rwa [List.append_assoc] at hdeep

theorem finds_file_iff {node : Node} (hw : node.WellNamed) {names : Location} :
    Finds s here node (.file names) ↔ ∃ dir name own, names = here ++ (dir ++ [name]) ∧
      node.get? (dir ++ [name]) = some own ∧ own.isFile = true ∧ Clear s here dir ∧
        s.prunes names false = false := by
  constructor
  · intro h
    generalize hf : Found.file names = f at h
    induction h with
    | @file here es name own he hfile hkept =>
      obtain rfl := Found.file.inj hf
      exact ⟨[], name, own, rfl, hw.get?_cons_iff.mpr ⟨_, he, Node.get?_nil _⟩, hfile, clear_nil,
        hkept⟩
    | dir => contradiction
    | @within here es own first f he hkept _ ih =>
      obtain ⟨dir, name, node, hnames, hget, hfile, hclear, hlast⟩ := ih (hw.child he) hf
      exact ⟨first :: dir, name, node, by simp [hnames],
        hw.get?_cons_iff.mpr ⟨_, he, hget⟩, hfile, clear_cons.mpr ⟨hkept, hclear⟩, hlast⟩
  · rintro ⟨dir, name, own, rfl, hget, hfile, hclear, hlast⟩
    induction dir generalizing here node with
    | nil =>
      obtain ⟨es, rfl⟩ := Node.isDir_of_get?_append hget
      obtain ⟨child, he, hchild⟩ := hw.get?_cons_iff.mp hget
      obtain rfl : child = own := by simpa using hchild
      exact .file he hfile hlast
    | cons first dir ih =>
      obtain ⟨es, rfl⟩ := Node.isDir_of_get?_append hget
      obtain ⟨child, he, hchild⟩ := hw.get?_cons_iff.mp hget
      obtain ⟨hkept, hclear⟩ := clear_cons.mp hclear
      obtain ⟨own, rfl⟩ := Node.isDir_of_get?_append hchild
      rw [List.cons_append, List.append_cons here] at hlast ⊢
      exact .within he hkept (ih (hw.child he) hchild hclear hlast)

theorem finds_dir_iff {node : Node} (hw : node.WellNamed) {names : Location} :
    Finds s here node (.dir names) ↔ ∃ rest es, rest ≠ [] ∧ names = here ++ rest ∧
      node.get? rest = some (.dir es) ∧ Clear s here rest := by
  constructor
  · intro h
    generalize hf : Found.dir names = f at h
    induction h with
    | file => contradiction
    | @dir here es own name he hkept =>
      obtain rfl := Found.dir.inj hf
      exact ⟨[name], own, by simp, rfl, hw.get?_cons_iff.mpr ⟨_, he, Node.get?_nil _⟩,
        clear_cons.mpr ⟨hkept, clear_nil⟩⟩
    | @within here es own first f he hkept _ ih =>
      obtain ⟨rest, below, -, hnames, hget, hclear⟩ := ih (hw.child he) hf
      exact ⟨first :: rest, below, by simp, by simp [hnames],
        hw.get?_cons_iff.mpr ⟨_, he, hget⟩, clear_cons.mpr ⟨hkept, hclear⟩⟩
  · rintro ⟨rest, below, hne, rfl, hget, hclear⟩
    induction rest generalizing here node with
    | nil => exact absurd rfl hne
    | cons first rest ih =>
      cases node with
      | file content => simp [Node.get?_cons, Node.child?, Node.entries] at hget
      | locked => simp [Node.get?_cons, Node.child?, Node.entries] at hget
      | link target => simp [Node.get?_cons, Node.child?, Node.entries] at hget
      | dir es =>
        obtain ⟨child, he, hchild⟩ := hw.get?_cons_iff.mp hget
        obtain ⟨hkept, hclear⟩ := clear_cons.mp hclear
        obtain ⟨own, rfl⟩ := Node.isDir_of_get? hchild
        by_cases hnil : rest = []
        · rw [hnil]
          exact .dir he hkept
        · rw [List.append_cons]
          exact .within he hkept (ih (hw.child he) hnil hchild hclear)

end Walk

/-- Names of directories that hold what other programs keep for themselves. -/
def NeverEntered (name : String) : Prop :=
  name ∈ [".hg", ".git", ".svn", "CVS", ".bzr", "__pycache__", ".tox"] ∨
    ".egg-info".toList <:+ name.toList

theorem isAlwaysExcluded_iff (name : String) :
    isAlwaysExcluded name = true ↔ NeverEntered name := by
  rw [isAlwaysExcluded, Bool.or_eq_true, NeverEntered]
  apply or_congr
  · rw [List.contains_iff_mem]
    rfl
  · rw [Text.stripTail, Option.isSome_map, Option.isSome_iff_exists, ← List.reverse_prefix]
    simp only [List.isPrefixOf?_eq_some_iff_append_eq]
    rfl

section Listed
variable (patterns : List Pattern) (node : Node) (names : Location)

/-- No pattern matches the names as they are shown from the project. -/
def Passed : Prop := ∀ p ∈ patterns, p.isMatch ("/".intercalate (names.map OsText.shown)) = false

/-- A directory below the project that is looked into. -/
structure Entered : Prop where
  name : ∀ name, names.getLast? = some name → ¬ NeverEntered name.shown
  passed : Passed patterns names

/-- A regular file that is listed, the project being `node`. -/
structure Listed : Prop where
  isFile : ∃ own, node.get? names = some own ∧ own.isFile = true
  passed : Passed patterns names
  entered : ∀ dir, dir <+: names → dir ≠ [] → dir ≠ names → Entered patterns dir

/-- A directory that is listed, the project being `node`. -/
structure Visited : Prop where
  isDir : ∃ es, node.get? names = some (.dir es)
  entered : ∀ dir, dir <+: names → dir ≠ [] → Entered patterns dir

end Listed

section Settings
variable {s : WalkSettings} {patterns : List Pattern} {names : Location}

theorem prunes_file_iff (hs : s.excludes = patterns) :
    s.prunes names false = false ↔ Passed patterns names := by
  simp [WalkSettings.prunes, Passed, hs]

theorem prunes_dir_iff (hs : s.excludes = patterns) :
    s.prunes names true = false ↔ Entered patterns names := by
  rw [WalkSettings.prunes, Bool.true_and, Bool.or_eq_false_iff, hs]
  have hname : names.getLast?.elim false (fun name => isAlwaysExcluded name.shown) = false ↔
      ∀ name, names.getLast? = some name → ¬ NeverEntered name.shown := by
    cases names.getLast? with
    | none => simp
    | some last => simp [← isAlwaysExcluded_iff]
  have hpassed : patterns.any (·.isMatch ("/".intercalate (names.map OsText.shown))) = false ↔
      Passed patterns names := by simp [Passed]
  rw [hname, hpassed]
  exact ⟨fun ⟨hn, hp⟩ => ⟨hn, hp⟩, fun h => ⟨h.name, h.passed⟩⟩

theorem clear_iff (hs : s.excludes = patterns) : Clear s [] names ↔
    ∀ dir, dir <+: names → dir ≠ [] → Entered patterns dir := by
  simp only [Clear, List.nil_append, prunes_dir_iff hs]

variable {node : Node}

theorem finds_file_iff_listed (hs : s.excludes = patterns) (hw : node.WellNamed)
    (hdir : node.isDir = true) : Finds s [] node (.file names) ↔ Listed patterns node names := by
  rw [finds_file_iff hw, prunes_file_iff hs]
  constructor
  · rintro ⟨dir, name, own, rfl, hget, hfile, hclear, hpassed⟩
    refine ⟨⟨own, hget, hfile⟩, hpassed, fun q hq hne hproper => ?_⟩
    rcases List.prefix_concat_iff.mp hq with rfl | hq
    · exact absurd rfl hproper
    · exact (clear_iff hs).mp hclear q hq hne
  · rintro ⟨⟨own, hget, hfile⟩, hpassed, hentered⟩
    rcases List.eq_nil_or_concat' names with rfl | ⟨dir, name, rfl⟩
    · obtain rfl : node = own := by simpa using hget
      cases node <;> simp [Node.isDir, Node.isFile] at hdir hfile
    · refine ⟨dir, name, own, rfl, hget, hfile, (clear_iff hs).mpr fun q hq hne => ?_, hpassed⟩
      apply hentered q (hq.trans (List.prefix_append _ _)) hne
      rintro rfl
      exact absurd hq.length_le (by simp)

theorem finds_dir_iff_visited (hs : s.excludes = patterns) (hw : node.WellNamed) :
    Finds s [] node (.dir names) ↔ names ≠ [] ∧ Visited patterns node names := by
  rw [finds_dir_iff hw]
  constructor
  · rintro ⟨rest, es, hne, rfl, hget, hclear⟩
    exact ⟨hne, ⟨es, hget⟩, (clear_iff hs).mp hclear⟩
  · rintro ⟨hne, ⟨es, hget⟩, hentered⟩
    exact ⟨names, es, hne, rfl, hget, (clear_iff hs).mpr hentered⟩

end Settings

section Alike
variable {patterns : List Pattern} {m n : Node} {names : Location}

theorem Listed.of_alike (h : m.Alike n) (hl : Listed patterns m names) :
    Listed patterns n names := by
  obtain ⟨⟨own, hget, hfile⟩, hpassed, hentered⟩ := hl
  have hbare := h names
  rw [hget] at hbare
  obtain ⟨node, hnode, hb⟩ := Option.map_eq_some_iff.mp hbare.symm
  refine ⟨⟨node, hnode, ?_⟩, hpassed, hentered⟩
  rw [← Node.isFile_bare, hb, Node.isFile_bare, hfile]

theorem Visited.of_alike (h : m.Alike n) (hv : Visited patterns m names) :
    Visited patterns n names := by
  obtain ⟨⟨es, hget⟩, hentered⟩ := hv
  have hbare := h names
  rw [hget] at hbare
  obtain ⟨node, hnode, hb⟩ := Option.map_eq_some_iff.mp hbare.symm
  obtain ⟨own, rfl⟩ := Node.bare_eq_dir.mp hb
  exact ⟨⟨own, hnode⟩, hentered⟩

end Alike

end MetaLint
