import Mathlib.Data.List.Basic
import MetaLint.Proofs.Location
import MetaLint.Proofs.Sorting
import MetaLint.Proofs.Walking

/-!
# The lists of a finder

The lists of a finder are determined by the tree of its project: they hold each file and each
directory that is listed once, in ascending order.
-/

set_option autoImplicit false

namespace MetaLint

open Sorting
open Std (TransCmp LawfulEqCmp ReflCmp)

theorem compareLex_append_left {α : Type} {cmp : α → α → Ordering} [ReflCmp cmp] (l a b : List α) :
    List.compareLex cmp (l ++ a) (l ++ b) = List.compareLex cmp a b := by
  induction l with
  | nil => rfl
  | cons x l ih =>
    have hself : cmp x x = .eq := ReflCmp.compare_self
    rw [List.cons_append, List.cons_append, List.compareLex_cons_cons, hself]
    exact ih

theorem compareLex_map_name (a b : Location) :
    List.compareLex Path.Component.cmp (a.map .name) (b.map .name) = compareNames a b := by
  induction a generalizing b with
  | nil => cases b <;> rfl
  | cons x a ih =>
    cases b with
    | nil => rfl
    | cons y b =>
      rw [List.map_cons, List.map_cons, compareNames, List.compareLex_cons_cons,
        List.compareLex_cons_cons, ih]
      rfl

namespace Disk

variable {l : Location} {name : OsText}

theorem filterMap_ofPiece?_names (h : ∀ n ∈ l, Path.IsName n) :
    l.filterMap Path.Component.ofPiece? = l.map Path.Component.name := by
  rw [← List.filterMap_eq_map]
  apply List.filterMap_congr
  intro n hn
  have hname := h n hn
  simp [Path.Component.ofPiece?, hname.filled, hname.notHere, hname.notUp]

theorem components_pathOf (h : ∀ n ∈ l, Path.IsName n) :
    (pathOf l).components = .root :: l.map .name := by
  rw [Path.components_of_startsAtRoot (startsAtRoot_pathOf l)]
  by_cases hne : l = []
  · subst hne
    rfl
  · have hsingle : ∀ n ∈ ("" : OsText) :: l, Path.separator ∉ n.bytes :=
      List.forall_mem_cons.mpr ⟨by decide, fun n hn => (h n hn).single⟩
    rw [raw_pathOf hne, Path.pieces_separated (by simp) hsingle, ← filterMap_ofPiece?_names h]
    rfl

theorem separated_concat (hne : l ≠ []) (name : OsText) :
    Path.separated (l ++ [name]) = Path.separated l ++ ("/" : OsText) ++ name := by
  induction l with
  | nil => contradiction
  | cons first rest ih =>
    cases rest with
    | nil =>
      ext1
      simp [Path.separated]
    | cons second rest =>
      rw [List.cons_append, List.cons_append, Path.separated_cons_cons,
        Path.separated_cons_cons, ← List.cons_append, ih (List.cons_ne_nil _ _)]
      ext1
      simp

theorem endsOpen_pathOf (hl : ∀ n ∈ l, Path.IsName n) (hne : l ≠ []) :
    (pathOf l).endsOpen = false := by
  obtain ⟨up, last, rfl⟩ := (List.eq_nil_or_concat' l).resolve_left hne
  have hlast := hl last (by simp)
  have hfilled : last.bytes ≠ [] := fun h => hlast.filled (OsText.ext h)
  have hraw : ∃ before : Text.Bytes, (pathOf (up ++ [last])).raw.bytes = before ++ last.bytes := by
    by_cases hup : up = []
    · exact ⟨[Path.separator], by rw [hup]; simp [pathOf, Path.separated]⟩
    · refine ⟨(("/" : OsText) ++ Path.separated up ++ ("/" : OsText)).bytes, ?_⟩
      simp [pathOf, separated_concat hup]
  obtain ⟨before, hbefore⟩ := hraw
  rw [Path.endsOpen, hbefore, List.getLast?_append_of_ne_nil _ hfilled, beq_eq_false_iff_ne]
  exact fun h => hlast.single (List.mem_of_getLast? h)

theorem join_pathOf (hl : ∀ n ∈ l, Path.IsName n) (hn : Path.IsName name) :
    (pathOf l).join name = pathOf (l ++ [name]) := by
  have hstart : Path.startsAtRoot name = false := by
    rw [Path.startsAtRoot, beq_eq_false_iff_ne]
    exact fun h => hn.single (List.mem_of_head? h)
  rw [Path.join, hstart, if_neg Bool.false_ne_true]
  by_cases hne : l = []
  · subst hne
    have hopen : ((pathOf []).raw.bytes.isEmpty || (pathOf []).endsOpen) = true := rfl
    rw [hopen, if_pos rfl]
    apply congrArg Path.mk
    ext1
    simp [pathOf, Path.separated]
  · have hclosed : ((pathOf l).raw.bytes.isEmpty || (pathOf l).endsOpen) = false := by
      rw [endsOpen_pathOf hl hne, Bool.or_false]
      rfl
    rw [hclosed, if_neg Bool.false_ne_true]
    apply congrArg Path.mk
    ext1
    simp [pathOf, separated_concat hne]

theorem below_pathOf {names : Location} (hl : ∀ n ∈ l, Path.IsName n)
    (hn : ∀ n ∈ names, Path.IsName n) : Finder.below (pathOf l) names = pathOf (l ++ names) := by
  induction names generalizing l with
  | nil => rw [List.append_nil]; rfl
  | cons name names ih =>
    obtain ⟨hname, hnames⟩ := List.forall_mem_cons.mp hn
    have hlong : ∀ n ∈ l ++ [name], Path.IsName n := by
      intro n hm
      rcases List.mem_append.mp hm with hm | hm
      · exact hl n hm
      · rw [List.mem_singleton.mp hm]
        exact hname
    rw [List.append_cons, ← ih hlong hnames, ← join_pathOf hl hname]
    rfl

end Disk

def Path.cmpFiles (p q : Path) : Ordering :=
  (List.compareLex Component.cmp p.components.dropLast q.components.dropLast).then
    (compare (p.fileName?.getD ("" : OsText)) (q.fileName?.getD ("" : OsText)))

instance : ReflCmp Path.cmpFiles where
  compare_self := by simp [Path.cmpFiles, ReflCmp.compare_self]

namespace Disk

variable {l : Location}

theorem cmp_pathOf {a b : Location} (ha : ∀ n ∈ l ++ a, Path.IsName n)
    (hb : ∀ n ∈ l ++ b, Path.IsName n) :
    (pathOf (l ++ a)).cmp (pathOf (l ++ b)) = compareNames a b := by
  rw [Path.cmp, components_pathOf ha, components_pathOf hb, List.map_append, List.map_append,
    ← List.cons_append, ← List.cons_append, compareLex_append_left, compareLex_map_name]

theorem cmpFiles_pathOf {a b : Location} {f g : OsText}
    (ha : ∀ n ∈ l ++ (a ++ [f]), Path.IsName n) (hb : ∀ n ∈ l ++ (b ++ [g]), Path.IsName n) :
    (pathOf (l ++ (a ++ [f]))).cmpFiles (pathOf (l ++ (b ++ [g]))) =
      (compareNames a b).then (compare f g) := by
  have hcomponents : ∀ {c : Location} {h : OsText}, (∀ n ∈ l ++ (c ++ [h]), Path.IsName n) →
      (pathOf (l ++ (c ++ [h]))).components =
        (.root :: l.map .name ++ c.map .name) ++ [.name h] := by
    intro c h hc
    simp [components_pathOf hc]
  rw [Path.cmpFiles, Path.fileName?, Path.fileName?, hcomponents ha, hcomponents hb,
    List.dropLast_concat, List.dropLast_concat, List.getLast?_concat, List.getLast?_concat,
    compareLex_append_left, compareLex_map_name]
  rfl

end Disk

instance : TransCmp compareNames := inferInstanceAs (TransCmp (List.compareLex compare))

instance : LawfulEqCmp compareNames := inferInstanceAs (LawfulEqCmp (List.compareLex compare))

/-- Different names that files can have, and with each file the directory that it lies in. -/
structure Coherent (found : List Found) : Prop where
  nodup : found.Nodup
  named : ∀ f ∈ found, ∀ name ∈ f.names, Path.IsName name
  filled : ∀ f ∈ found, f.names ≠ []
  parent : ∀ dir name, .file (dir ++ [name]) ∈ found → dir = [] ∨ .dir dir ∈ found

namespace Found

variable {found other : List Found} {names : Location}

theorem mem_dirs : names ∈ dirs found ↔ .dir names ∈ found := by
  rw [dirs, List.mem_filterMap]
  constructor
  · rintro ⟨f, hf, hnames⟩
    cases f with
    | dir own => rwa [← Option.some.inj hnames]
    | file own => contradiction
  · exact fun h => ⟨_, h, rfl⟩

theorem mem_files : names ∈ files found ↔ .file names ∈ found := by
  rw [files, List.mem_filterMap]
  constructor
  · rintro ⟨f, hf, hnames⟩
    cases f with
    | dir own => contradiction
    | file own => rwa [← Option.some.inj hnames]
  · exact fun h => ⟨_, h, rfl⟩

theorem nodup_dirs (h : found.Nodup) : (dirs found).Nodup := by
  apply h.filterMap
  intro f g names hf hg
  cases f <;> cases g <;> simp_all

theorem nodup_files (h : found.Nodup) : (files found).Nodup := by
  apply h.filterMap
  intro f g names hf hg
  cases f <;> cases g <;> simp_all

end Found

theorem arrange_perm {found other : List Found} (h : found.Perm other) :
    arrange found = arrange other := by
  have hdirs : ([] :: Found.dirs found).Perm ([] :: Found.dirs other) := (h.filterMap _).cons _
  have hfiles : (Found.files found).Perm (Found.files other) := h.filterMap _
  rw [arrange, arrange, mergeSort_congr hdirs, mergeSort_congr hfiles]

def sortedDirs (found : List Found) : List Location :=
  ([] :: Found.dirs found).mergeSort fun a b => (compareNames a b).isLE

def namesIn (found : List Found) (dir : Location) : List OsText :=
  (((Found.files found).mergeSort fun a b => (compareNames a b).isLE).filter
    fun f => f.dropLast == dir).filterMap List.getLast?

theorem arrange_eq (found : List Found) :
    arrange found = (sortedDirs found).map fun dir => (dir, namesIn found dir) := rfl

theorem mem_sortedDirs {found : List Found} {dir : Location} :
    dir ∈ sortedDirs found ↔ dir = [] ∨ .dir dir ∈ found := by
  rw [sortedDirs, List.mem_mergeSort, List.mem_cons, Found.mem_dirs]

theorem mem_namesIn {found : List Found} {dir : Location} {name : OsText} :
    name ∈ namesIn found dir ↔ .file (dir ++ [name]) ∈ found := by
  rw [namesIn, List.mem_filterMap, ← Found.mem_files]
  constructor
  · rintro ⟨names, hnames, hlast⟩
    obtain ⟨hm, hdir⟩ := List.mem_filter.mp hnames
    rw [List.mem_mergeSort] at hm
    obtain rfl : names.dropLast = dir := eq_of_beq hdir
    rwa [List.dropLast_append_getLast? name hlast]
  · intro hm
    exact ⟨dir ++ [name], List.mem_filter.mpr ⟨List.mem_mergeSort.mpr hm, by simp⟩, by simp⟩

section Coherent
variable {found : List Found} (h : Coherent found)
include h

theorem Coherent.ascending_sortedDirs :
    (sortedDirs found).Pairwise fun a b => compareNames a b = .lt := by
  apply ascending_mergeSort
  refine List.nodup_cons.mpr ⟨fun hm => ?_, Found.nodup_dirs h.nodup⟩
  exact h.filled _ (Found.mem_dirs.mp hm) rfl

theorem Coherent.ascending_namesIn (dir : Location) :
    (namesIn found dir).Pairwise fun f g => compare f g = .lt := by
  rw [namesIn, List.pairwise_filterMap]
  apply ((ascending_mergeSort (Found.nodup_files h.nodup)).filter _).imp_of_mem
  intro a b ha hb hlt f hf g hg
  obtain rfl : a.dropLast = dir := eq_of_beq (List.mem_filter.mp ha).2
  have hdir : b.dropLast = a.dropLast := eq_of_beq (List.mem_filter.mp hb).2
  rw [← List.dropLast_append_getLast? f hf, ← List.dropLast_append_getLast? g hg, hdir,
    compareNames, compareLex_append_left, List.compareLex_cons_cons] at hlt
  cases hc : compare f g with
  | lt => rfl
  | eq => simp only [hc, List.compareLex_nil_nil] at hlt; contradiction
  | gt => simp only [hc] at hlt; contradiction

theorem Coherent.mem_paths {l : Location} {p : Path} : (p ∈ (sortedDirs found).flatMap fun dir =>
      (namesIn found dir).map fun f => Disk.pathOf (l ++ (dir ++ [f]))) ↔
    ∃ names, .file names ∈ found ∧ p = Disk.pathOf (l ++ names) := by
  rw [List.mem_flatMap]
  constructor
  · rintro ⟨dir, hd, hp⟩
    obtain ⟨f, hf, rfl⟩ := List.mem_map.mp hp
    exact ⟨dir ++ [f], mem_namesIn.mp hf, rfl⟩
  · rintro ⟨names, hm, rfl⟩
    obtain ⟨dir, f, rfl⟩ := (List.eq_nil_or_concat' names).resolve_left (h.filled _ hm)
    exact ⟨dir, mem_sortedDirs.mpr (h.parent dir f hm),
      List.mem_map.mpr ⟨f, mem_namesIn.mpr hm, rfl⟩⟩

variable {l : Location} (hl : ∀ n ∈ l, Path.IsName n)
include hl

theorem Coherent.named_dir {dir : Location} (hd : dir ∈ sortedDirs found) :
    ∀ n ∈ l ++ dir, Path.IsName n := by
  intro n hn
  rcases List.mem_append.mp hn with hn | hn
  · exact hl n hn
  · rcases mem_sortedDirs.mp hd with rfl | hd
    · contradiction
    · exact h.named _ hd n hn

theorem Coherent.named_file {dir : Location} {name : OsText} (hf : name ∈ namesIn found dir) :
    ∀ n ∈ l ++ (dir ++ [name]), Path.IsName n := by
  intro n hn
  rcases List.mem_append.mp hn with hn | hn
  · exact hl n hn
  · exact h.named _ (mem_namesIn.mp hf) n hn

theorem Coherent.paths_eq :
    ((arrange found).map fun (dir, files) => (Finder.below (Disk.pathOf l) dir,
      files.map fun f => (Finder.below (Disk.pathOf l) dir).join f)) =
    (sortedDirs found).map fun dir => (Disk.pathOf (l ++ dir),
      (namesIn found dir).map fun f => Disk.pathOf (l ++ (dir ++ [f]))) := by
  rw [arrange_eq, List.map_map]
  apply List.map_congr_left
  intro dir hd
  have hdir := h.named_dir hl hd
  have hbelow : Finder.below (Disk.pathOf l) dir = Disk.pathOf (l ++ dir) :=
    Disk.below_pathOf hl fun n hn => hdir n (List.mem_append_right _ hn)
  simp only [Function.comp_apply, hbelow]
  congr 1
  apply List.map_congr_left
  intro f hf
  have hfile := h.named_file hl hf
  rw [Disk.join_pathOf hdir (hfile f (by simp)), List.append_assoc]

theorem Coherent.ascending_paths : ((sortedDirs found).flatMap fun dir =>
      (namesIn found dir).map fun f => Disk.pathOf (l ++ (dir ++ [f]))).Pairwise
    fun p q => p.cmpFiles q = .lt := by
  rw [List.pairwise_flatMap]
  constructor
  · intro dir hd
    rw [List.pairwise_map]
    apply (h.ascending_namesIn dir).imp_of_mem
    intro f g hf hg hlt
    have hself : compareNames dir dir = .eq := ReflCmp.compare_self
    rw [Disk.cmpFiles_pathOf (h.named_file hl hf) (h.named_file hl hg), hself, hlt]
    rfl
  · apply h.ascending_sortedDirs.imp_of_mem
    intro a b ha hb hlt p hp q hq
    obtain ⟨f, hf, rfl⟩ := List.mem_map.mp hp
    obtain ⟨g, hg, rfl⟩ := List.mem_map.mp hq
    rw [Disk.cmpFiles_pathOf (h.named_file hl hf) (h.named_file hl hg), hlt]
    rfl

theorem Coherent.ascending_dirs : ((sortedDirs found).map fun dir =>
    Disk.pathOf (l ++ dir)).Pairwise fun p q => p.cmp q = .lt := by
  rw [List.pairwise_map]
  apply h.ascending_sortedDirs.imp_of_mem
  intro a b ha hb hlt
  rw [Disk.cmp_pathOf (h.named_dir hl ha) (h.named_dir hl hb), hlt]

end Coherent

namespace Disk

/-- Names are different ones in every directory, and such that files can have them. -/
structure WellNamed (d : Disk) : Prop where
  root : d.root.WellNamed
  cwd : ∀ n ∈ d.cwd, Path.IsName n

/-- The same tree and working directory, except for the order in which directories list their
entries. -/
structure Alike (d e : Disk) : Prop where
  root : d.root.Alike e.root
  cwd : d.cwd = e.cwd

end Disk

namespace Node

variable {m n : Node} {l : Location} {es : List (OsText × Node)}

theorem Alike.get?_dir (h : m.Alike n) (hm : m.get? l = some (.dir es)) :
    ∃ own, n.get? l = some (.dir own) ∧
      ∀ name, (es.lookup name).map bare = (own.lookup name).map bare := by
  have hl := h l
  rw [hm] at hl
  obtain ⟨node, hn, hb⟩ := Option.map_eq_some_iff.mp hl.symm
  obtain ⟨own, rfl⟩ := bare_eq_dir.mp hb
  refine ⟨own, hn, fun name => ?_⟩
  have hname := h (l ++ [name])
  simpa [get?_append, hm, hn, get?_cons, child?, entries] using hname

end Node

namespace Disk

theorem Leads.of_alike {m n : Node} (h : m.Alike n) {fuel : Nat} {l : Location} {todo : List Step}
    {place : Place} (hm : Leads m fuel l todo place) : Leads n fuel l todo place := by
  induction hm with
  | done fuel l => exact .done fuel l
  | here hdir _ ih =>
    obtain ⟨own, hown, -⟩ := h.get?_dir hdir
    exact .here hown ih
  | up hdir _ ih =>
    obtain ⟨own, hown, -⟩ := h.get?_dir hdir
    exact .up hown ih
  | @free fuel l es name hdir hn hnone =>
    obtain ⟨own, hown, hlookup⟩ := h.get?_dir hdir
    have hname := hlookup name
    rw [hnone] at hname
    exact .free hown hn (Option.map_eq_none_iff.mp hname.symm)
  | @enter fuel l es name child rest place hdir hn hsome hlink _ ih =>
    obtain ⟨own, hown, hlookup⟩ := h.get?_dir hdir
    have hname := hlookup name
    rw [hsome] at hname
    obtain ⟨node, hnode, hb⟩ := Option.map_eq_some_iff.mp hname.symm
    refine .enter hown hn hnode (fun target ht => ?_) ih
    rw [ht] at hb
    exact hlink target (Node.bare_eq_link.mp hb.symm)
  | @link fuel l es name target rest place hdir hn hsome _ ih =>
    obtain ⟨own, hown, hlookup⟩ := h.get?_dir hdir
    have hname := hlookup name
    rw [hsome] at hname
    obtain ⟨node, hnode, hb⟩ := Option.map_eq_some_iff.mp hname.symm
    rw [Node.bare_eq_link.mp hb] at hnode
    exact .link hown hn hnode ih

theorem trace_of_alike {d e : Disk} (h : d.Alike e) {p : Path} {l : Location}
    (hd : d.trace p = .ok l) : e.trace p = .ok l := by
  have hplace := placeOf_of_trace hd
  have hleads := (leads_of_follow hplace).of_alike h.root
  rw [h.cwd] at hleads
  have hother : e.placeOf p true (steps p.raw) = .ok (.node l) := follow_of_leads hleads
  rw [trace, hplace] at hd
  rw [trace, hother]
  exact hd

end Disk

namespace Finder

variable {patterns : List Pattern} {d : Disk} {location : Location} {node : Node}

def findings (patterns : List Pattern) (d : Disk) (location : Location) (node : Node) :
    List Found :=
  walkNode { excludes := patterns } d location [] [] node

theorem mem_findings_file (hw : node.WellNamed) (hdir : node.isDir = true) {names : Location} :
    .file names ∈ findings patterns d location node ↔ Listed patterns node names :=
  (mem_walkNode rfl).trans (finds_file_iff_listed rfl hw hdir)

theorem mem_findings_dir (hw : node.WellNamed) {names : Location} :
    .dir names ∈ findings patterns d location node ↔
      names ≠ [] ∧ Visited patterns node names :=
  (mem_walkNode rfl).trans (finds_dir_iff_visited rfl hw)

theorem coherent_findings (hw : node.WellNamed) (hdir : node.isDir = true) :
    Coherent (findings patterns d location node) where
  nodup := nodup_walkNode rfl hw
  named := by
    intro f hf
    cases f with
    | file names =>
      obtain ⟨own, hget, -⟩ := ((mem_findings_file hw hdir).mp hf).isFile
      exact hw.named hget
    | dir names =>
      obtain ⟨es, hget⟩ := ((mem_findings_dir hw).mp hf).2.isDir
      exact hw.named hget
  filled := by
    intro f hf
    obtain ⟨name, rest, hnames⟩ := ((mem_walkNode rfl).mp hf).extends
    simp [hnames]
  parent := by
    intro dir name hf
    have hlisted := (mem_findings_file hw hdir).mp hf
    obtain ⟨own, hget, -⟩ := hlisted.isFile
    by_cases hnil : dir = []
    · exact .inl hnil
    · refine .inr ((mem_findings_dir hw).mpr ⟨hnil, ?_, fun q hq hne => ?_⟩)
      · rw [Node.get?_append] at hget
        obtain ⟨parent, hparent, hchild⟩ := Option.bind_eq_some_iff.mp hget
        have hbelow : parent.get? ([] ++ [name]) = some own := hchild
        obtain ⟨es, rfl⟩ := Node.isDir_of_get?_append hbelow
        exact ⟨es, hparent⟩
      · apply hlisted.entered q (hq.trans (List.prefix_append _ _)) hne
        rintro rfl
        exact absurd hq.length_le (by simp)

theorem perm_findings {e : Disk} {other : Node} (hw : node.WellNamed) (ho : other.WellNamed)
    (hdir : node.isDir = true) (h : node.Alike other) :
    (findings patterns d location node).Perm (findings patterns e location other) := by
  have hdir' : other.isDir = true := by
    have hroot := h []
    cases node <;> cases other <;> simp_all [Node.isDir, Node.bare]
  apply (List.perm_ext_iff_of_nodup (coherent_findings hw hdir).nodup
    (coherent_findings ho hdir').nodup).mpr
  intro f
  cases f with
  | file names =>
    rw [mem_findings_file hw hdir, mem_findings_file ho hdir']
    exact ⟨Listed.of_alike h, Listed.of_alike h.symm⟩
  | dir names =>
    rw [mem_findings_dir hw, mem_findings_dir ho]
    exact and_congr_right fun _ => ⟨Visited.of_alike h, Visited.of_alike h.symm⟩

def ofFindings (location : Location) (found : List Found) : Finder where
  project := Disk.pathOf location
  found := (arrange found).map fun (dir, files) => (below (Disk.pathOf location) dir,
    files.map fun f => (below (Disk.pathOf location) dir).join f)

theorem create_eq {c : Config} {project : Path} (hc : c.respectGitignore = false)
    (hp : compilePatterns c.exclude = .ok patterns) (hl : d.trace project = .ok location)
    (hn : d.root.get? location = some node) (hdir : node.isDir = true) :
    create d project c = .ok (ofFindings location (findings patterns d location node)) := by
  cases node with
  | file content => contradiction
  | locked => contradiction
  | link target => contradiction
  | dir es =>
    simp only [create, hl, hp, hc, Error.lift, bind, Except.bind, hn]
    rfl

theorem files_nil (f : Finder) : f.files [] = .ok f.allFiles := by
  have hall : f.allFiles.filter (fun p => Pattern.selects [] (f.relative p)) = f.allFiles :=
    List.filter_eq_self.mpr fun _ _ => rfl
  exact congrArg Except.ok hall

theorem directories_nil (f : Finder) : f.directories [] [] = .ok (f.found.map Prod.fst) := by
  have hall : f.found.filter (fun e => Pattern.selects [] (f.relative e.1) &&
      (([] : List String).isEmpty || holds [] e.2)) = f.found :=
    List.filter_eq_self.mpr fun _ _ => rfl
  exact congrArg (fun found => Except.ok (found.map Prod.fst)) hall

/-- The lists of the files and directories of the project at `location`, which is `node`. -/
structure Lists (patterns : List Pattern) (location : Location) (node : Node)
    (files dirs : List Path) : Prop where
  mem_files : ∀ p, p ∈ files ↔
    ∃ names, Listed patterns node names ∧ p = Disk.pathOf (location ++ names)
  mem_dirs : ∀ p, p ∈ dirs ↔
    ∃ names, Visited patterns node names ∧ p = Disk.pathOf (location ++ names)
  files_once : files.Nodup
  dirs_once : dirs.Nodup
  files_ascending : files.Pairwise fun p q => p.cmpFiles q = .lt
  dirs_ascending : dirs.Pairwise fun p q => p.cmp q = .lt

theorem lists_ofFindings (hl : ∀ n ∈ location, Path.IsName n) (hw : node.WellNamed)
    (hdir : node.isDir = true) : Lists patterns location node
      (ofFindings location (findings patterns d location node)).allFiles
      ((ofFindings location (findings patterns d location node)).found.map Prod.fst) := by
  have h : Coherent (findings patterns d location node) := coherent_findings hw hdir
  have hfiles : (ofFindings location (findings patterns d location node)).allFiles =
      (sortedDirs (findings patterns d location node)).flatMap fun dir =>
        (namesIn (findings patterns d location node) dir).map fun f =>
          Disk.pathOf (location ++ (dir ++ [f])) := by
    rw [allFiles, ofFindings, h.paths_eq hl, List.flatMap_map]
  have hdirs : (ofFindings location (findings patterns d location node)).found.map Prod.fst =
      (sortedDirs (findings patterns d location node)).map fun dir =>
        Disk.pathOf (location ++ dir) := by
    rw [ofFindings, h.paths_eq hl, List.map_map]
    rfl
  rw [hfiles, hdirs]
  have hlists := h.ascending_paths hl
  have hlists' := h.ascending_dirs hl
  refine ⟨fun p => ?_, fun p => ?_, nodup_of_ascending hlists, nodup_of_ascending hlists',
    hlists, hlists'⟩
  · simp only [h.mem_paths, mem_findings_file hw hdir]
  · obtain ⟨es, rfl⟩ : ∃ es, node = .dir es := by cases node <;> simp_all [Node.isDir]
    have hroot : Visited patterns (.dir es) [] :=
      ⟨⟨es, Node.get?_nil _⟩, fun q hq hne => absurd (List.prefix_nil.mp hq) hne⟩
    simp only [List.mem_map, mem_sortedDirs, mem_findings_dir hw]
    constructor
    · rintro ⟨names, rfl | ⟨-, hv⟩, rfl⟩
      · exact ⟨[], hroot, rfl⟩
      · exact ⟨names, hv, rfl⟩
    · rintro ⟨names, hv, rfl⟩
      refine ⟨names, ?_, rfl⟩
      by_cases hnil : names = []
      · exact .inl hnil
      · exact .inr ⟨hnil, hv⟩

/-- A finder lists each file and each directory that no exclude expression and no name keeps out,
once and in ascending order, whatever the order in which directories list their entries. -/
theorem lists_create {d : Disk} (hd : d.WellNamed) {project : Path} {c : Config}
    (hc : c.respectGitignore = false) {patterns : List Pattern}
    (hp : compilePatterns c.exclude = .ok patterns) {location : Location}
    (hl : d.trace project = .ok location) {node : Node}
    (hn : d.root.get? location = some node) (hdir : node.isDir = true) :
    ∃ f files dirs, create d project c = .ok f ∧ f.files [] = .ok files ∧
      f.directories [] [] = .ok dirs ∧ Lists patterns location node files dirs ∧
      ∀ e : Disk, e.WellNamed → d.Alike e → create e project c = .ok f := by
  have hnamed : ∀ n ∈ location, Path.IsName n := Disk.named_of_trace hd.cwd hl
  have hw : node.WellNamed := hd.root.get? hn
  refine ⟨_, _, _, create_eq hc hp hl hn hdir, files_nil _, directories_nil _,
    lists_ofFindings hnamed hw hdir, fun e he halike => ?_⟩
  obtain ⟨es, rfl⟩ : ∃ es, node = .dir es := by cases node <;> simp_all [Node.isDir]
  obtain ⟨own, hown, -⟩ := halike.root.get?_dir hn
  have hbelow : (Node.dir es).Alike (.dir own) := by
    intro l
    have hl := halike.root (location ++ l)
    simpa [Node.get?_append, hn, hown] using hl
  rw [create_eq hc hp (Disk.trace_of_alike halike hl) hown rfl, ofFindings, ofFindings,
    arrange_perm (perm_findings hw (he.root.get? hown) rfl hbelow)]

def sources : List (OsText × Node) :=
  [("z.py", .file []), ("CVS", .file []), (".git", .dir [("config", .file [])]),
   ("alias", .link "z.py"), ("src", .dir [("b.py", .file []), ("a.py", .file [])])]

def sourceDisk : Disk where
  root := .dir [("p", .dir sources)]

theorem wellNamed_sourceDisk : sourceDisk.WellNamed := by
  have hfiles : ∀ names : Location, names.Nodup → (∀ n ∈ names, Path.IsName n) →
      (Node.dir (names.map fun n => (n, .file []))).WellNamed := by
    intro names hd hp
    apply Node.wellNamed_dir
    · simpa [Function.comp_def] using hd
    · simpa using hp
    · simpa using fun _ _ => Node.wellNamed_of_not_dir rfl
  have hgit := hfiles ["config"] (by decide) (by decide)
  have hsrc := hfiles ["b.py", "a.py"] (by decide) (by decide)
  have hproject : (Node.dir sources).WellNamed := by
    apply Node.wellNamed_dir (by decide) (by decide)
    have hfile : (Node.file []).WellNamed := Node.wellNamed_of_not_dir rfl
    have hlink : (Node.link "z.py").WellNamed := Node.wellNamed_of_not_dir rfl
    simpa [sources, hfile, hlink] using ⟨hgit, hsrc⟩
  exact ⟨Node.wellNamed_dir (by decide) (by decide) (by simpa using hproject), by decide⟩

theorem trace_sourceDisk : sourceDisk.trace ⟨"/p"⟩ = .ok ["p"] := by
  have hsteps : Disk.steps "/p" = [.here, .name "p"] := by decide
  have hplace : sourceDisk.placeOf ⟨"/p"⟩ true [.here, .name "p"] = .ok (.node ["p"]) := by
    apply Disk.follow_of_leads
    exact .here rfl (.enter rfl (by decide) rfl (by simp) (.done _ _))
  have hchecked : Disk.checkText ⟨"/p"⟩ = .ok () := by decide
  simp [Disk.trace, hsteps, hplace, hchecked, bind, Except.bind, Disk.Place.location?]

theorem lists_create_sources : ∃ patterns, compilePatterns ["^src/b"] = .ok patterns ∧
    ∃ f files dirs, create sourceDisk ⟨"/p"⟩ { exclude := ["^src/b"] } = .ok f ∧
      f.files [] = .ok files ∧ f.directories [] [] = .ok dirs ∧
      Lists patterns ["p"] (.dir sources) files dirs ∧ ∀ e : Disk, e.WellNamed →
        sourceDisk.Alike e → create e ⟨"/p"⟩ { exclude := ["^src/b"] } = .ok f := by
  have hok : (compilePatterns ["^src/b"]).isOk = true := by decide +kernel
  cases hp : compilePatterns ["^src/b"] with
  | error e => simp [hp, Except.isOk, Except.toBool] at hok
  | ok patterns =>
    exact ⟨patterns, rfl, lists_create wellNamed_sourceDisk rfl hp trace_sourceDisk rfl rfl⟩

end Finder

end MetaLint
