import MetaLint.Finder
import MetaLint.Proofs.ProjectFiles

/-!
# Names of found files

Whatever ignore rules say, a walk puts together the names that entries of directories have. The
files of a finder lie therefore at the paths of locations, and two files of the same components are
one file.
-/

set_option autoImplicit false

namespace MetaLint

section Walk
variable {s : WalkSettings} {d : Disk} {project : Location} {here : Location} {f : Found}

theorem exists_entry_of_mem_walkEntries {levels : List IgnoreLevel} {es : List (OsText × Node)}
    (h : f ∈ walkEntries s d project here levels es) :
    ∃ e ∈ es, f.names = here ++ [e.1] ∨ f ∈ walkNode s d project (here ++ [e.1]) levels e.2 := by
  induction es with
  | nil => simp [walkEntries] at h
  | cons e es ih =>
    obtain ⟨name, node⟩ := e
    rw [walkEntries.eq_def] at h
    rcases List.mem_append.mp h with h | h
    · refine ⟨(name, node), List.mem_cons_self, ?_⟩
      split at h
      · contradiction
      · cases node with
        | file content =>
          rw [List.mem_singleton.mp h]
          exact .inl rfl
        | locked =>
          rw [List.mem_singleton.mp h]
          exact .inl rfl
        | link target => contradiction
        | dir own =>
          rcases List.mem_cons.mp h with rfl | h
          · exact .inl rfl
          · exact .inr h
    · obtain ⟨e, he, hf⟩ := ih h
      exact ⟨e, List.mem_cons_of_mem _ he, hf⟩

theorem named_of_mem_walkNode {levels : List IgnoreLevel} {node : Node} (hw : node.WellNamed)
    (hhere : ∀ n ∈ here, Path.IsName n) (h : f ∈ walkNode s d project here levels node) :
    ∀ n ∈ f.names, Path.IsName n := by
  induction node using Node.byEntries generalizing here levels with
  | file content => simp [walkNode] at h
  | locked => simp [walkNode] at h
  | link target => simp [walkNode] at h
  | dir es ih =>
    rw [walkNode] at h
    obtain ⟨⟨name, child⟩, he, hf⟩ := exists_entry_of_mem_walkEntries h
    have hlong : ∀ n ∈ here ++ [name], Path.IsName n := by
      intro n hn
      rcases List.mem_append.mp hn with hn | hn
      · exact hhere n hn
      · rw [List.mem_singleton.mp hn]
        exact hw.proper [] es (Node.get?_nil _) _ he
    rcases hf with hf | hf
    · rwa [hf]
    · exact ih _ he (hw.child he) hlong hf

end Walk

namespace Disk

variable {l : Location} {found : List Found} (hl : ∀ n ∈ l, Path.IsName n)
  (hf : ∀ f ∈ found, ∀ n ∈ f.names, Path.IsName n)
include hl hf

theorem exists_location_of_mem_arrange {entry : Location × List OsText}
    (h : entry ∈ arrange found) {name : OsText} (hname : name ∈ entry.2) :
    ∃ file, (∀ n ∈ file, Path.IsName n) ∧
      (Finder.below (pathOf l) entry.1).join name = pathOf file := by
  rw [arrange_eq] at h
  obtain ⟨dir, hdir, rfl⟩ := List.mem_map.mp h
  have hnames := hf _ (mem_namesIn.mp hname)
  have hbelow : ∀ n ∈ dir, Path.IsName n := fun n hn => hnames n (List.mem_append_left _ hn)
  have hlast : Path.IsName name := hnames name (List.mem_append_right _ List.mem_cons_self)
  have hlong : ∀ n ∈ l ++ dir, Path.IsName n := by
    intro n hn
    rcases List.mem_append.mp hn with hn | hn
    · exact hl n hn
    · exact hbelow n hn
  refine ⟨l ++ dir ++ [name], fun n hn => ?_, ?_⟩
  · rcases List.mem_append.mp hn with hn | hn
    · exact hlong n hn
    · rwa [List.mem_singleton.mp hn]
  · rw [below_pathOf hl hbelow, join_pathOf hlong hlast]

end Disk

namespace Finder

variable {d : Disk} {project : Path} {c : Config} {f : Finder}

theorem exists_location_of_mem_allFiles (hd : d.WellNamed) (h : create d project c = .ok f)
    {p : Path} (hp : p ∈ f.allFiles) :
    ∃ l, (∀ n ∈ l, Path.IsName n) ∧ p = Disk.pathOf l := by
  rw [create] at h
  cases ht : d.trace project with
  | error fault => simp [ht, Error.lift, bind, Except.bind] at h
  | ok location =>
    have hnamed := Disk.named_of_trace hd.cwd ht
    cases hx : compilePatterns c.exclude with
    | error e => simp [ht, hx, Error.lift, bind, Except.bind] at h
    | ok excludes =>
      simp only [ht, hx, Error.lift, bind, Except.bind, pure, Except.pure] at h
      split at h
      next es hes =>
        obtain rfl := Except.ok.inj h
        obtain ⟨⟨dir, files⟩, hentry, hfile⟩ := List.mem_flatMap.mp hp
        obtain ⟨entry, hlisted, hpaths⟩ := List.mem_map.mp hentry
        obtain ⟨-, rfl⟩ := Prod.mk.inj hpaths
        obtain ⟨name, hname, rfl⟩ := List.mem_map.mp hfile
        refine Disk.exists_location_of_mem_arrange hnamed (fun g hg => ?_) hlisted hname
        exact named_of_mem_walkNode (hd.root.get? hes) (List.forall_mem_nil _) hg
      next =>
        obtain rfl := Except.ok.inj h
        have hroot : p = Disk.pathOf location := by simpa [allFiles] using hp
        exact ⟨location, hnamed, hroot⟩

/-- No two files of a finder are spelled alike. -/
theorem eq_of_same (hd : d.WellNamed) (h : create d project c = .ok f) {p q : Path}
    (hp : p ∈ f.allFiles) (hq : q ∈ f.allFiles) (hsame : p.same q = true) : p = q := by
  obtain ⟨l, hl, rfl⟩ := exists_location_of_mem_allFiles hd h hp
  obtain ⟨m, hm, rfl⟩ := exists_location_of_mem_allFiles hd h hq
  rw [Path.same_iff, Disk.components_pathOf hl, Disk.components_pathOf hm] at hsame
  have hnames : l = m :=
    List.map_injective_iff.mpr (fun _ _ => Path.Component.name.inj) (List.cons.inj hsame).2
  rw [hnames]

end Finder

end MetaLint
