import MetaLint.Proofs.Lookup
import MetaLint.Proofs.PathText
import MetaLint.Proofs.Splitting
import MetaLint.Report.Structured

/-!
# What a log has of the issues

A log has one place for each shown path, and of files that are shown alike the last one fills it. So
a log has every issue exactly when no two files are shown alike, which absolute paths that are texts
never are.
-/

set_option autoImplicit false

namespace MetaLint

namespace Keyed

variable {α : Type}

theorem ne_of_compare {a b : String} (h : compare a b ≠ .eq) : a ≠ b := by
  rintro rfl
  exact h Std.ReflCmp.compare_self

theorem perm_set (name : String) (a : α) {k : Keyed α} (h : Ascending k) :
    (set name a k).Perm ((name, a) :: k.filter fun p => p.1 != name) := by
  induction k with
  | nil => exact List.Perm.refl _
  | cons q rest ih =>
    obtain ⟨n, b⟩ := q
    obtain ⟨hn, hrest⟩ := List.pairwise_cons.mp h
    have hlater : (compare name n).isLE → rest.filter (fun p => p.1 != name) = rest := by
      intro hle
      apply List.filter_eq_self.mpr
      intro p hp
      have hlt := Std.TransCmp.lt_of_isLE_of_lt hle (hn p hp)
      simpa using (ne_of_compare (by rw [hlt]; exact Ordering.noConfusion)).symm
    cases hc : compare name n with
    | lt =>
      have hne : name ≠ n := ne_of_compare (by rw [hc]; exact Ordering.noConfusion)
      rw [set, hc, List.filter_cons_of_pos (by simpa using hne.symm), hlater (by rw [hc]; rfl)]
    | eq =>
      obtain rfl : name = n := Std.LawfulEqOrd.eq_of_compare hc
      rw [set, hc, List.filter_cons_of_neg (by simp), hlater (by rw [hc]; rfl)]
    | gt =>
      have hne : name ≠ n := ne_of_compare (by rw [hc]; exact Ordering.noConfusion)
      rw [set, hc, List.filter_cons_of_pos (by simpa using hne.symm)]
      exact ((ih hrest).cons (n, b)).trans (List.Perm.swap _ _ _)

def latest : List (String × α) → List (String × α)
  | [] => []
  | p :: rest => if p.1 ∈ rest.map Prod.fst then latest rest else p :: latest rest

theorem perm_foldl_set {pairs : List (String × α)} {k : Keyed α} (h : Ascending k) :
    (pairs.foldl (fun done p => set p.1 p.2 done) k).Perm
      (k.filter (fun p => p.1 ∉ pairs.map Prod.fst) ++ latest pairs) := by
  induction pairs generalizing k with
  | nil =>
    have hall : k.filter (fun p => p.1 ∉ ([] : List (String × α)).map Prod.fst) = k := by simp
    rw [hall, latest, List.append_nil]
    exact List.Perm.refl k
  | cons p pairs ih =>
    obtain ⟨n, a⟩ := p
    rw [List.foldl_cons, latest]
    refine (ih (ascending_set h)).trans ?_
    -- The pair that is put in stays unless its name comes again.
    have hset := (perm_set n a h).filter fun p => p.1 ∉ pairs.map Prod.fst
    refine (hset.append_right _).trans ?_
    have hrest : (k.filter fun p => p.1 != n).filter (fun p => p.1 ∉ pairs.map Prod.fst) =
        k.filter fun p => p.1 ∉ ((n, a) :: pairs).map Prod.fst := by
      rw [List.filter_filter]
      apply List.filter_congr
      intro q _
      simp only [List.map_cons, List.mem_cons, not_or, Bool.decide_and, decide_not]
      exact Bool.and_comm _ _
    rw [List.filter_cons, hrest]
    by_cases hn : n ∈ pairs.map Prod.fst
    · simp [hn]
    · simpa [hn] using List.perm_middle.symm

theorem perm_ofList (pairs : List (String × α)) : (ofList pairs).Perm (latest pairs) :=
  perm_foldl_set (k := []) List.Pairwise.nil

theorem latest_of_nodup {pairs : List (String × α)} (h : (pairs.map Prod.fst).Nodup) :
    latest pairs = pairs := by
  induction pairs with
  | nil => rfl
  | cons p pairs ih =>
    obtain ⟨hp, hrest⟩ := List.nodup_cons.mp h
    rw [latest, if_neg hp, ih hrest]

theorem lookup_ofList {pairs : List (String × α)} {name : String} {a : α}
    (h : (pairs.map Prod.fst).Nodup) (hm : (name, a) ∈ pairs) :
    (ofList pairs).lookup name = some a := by
  rw [lookup_ofList_of_nodup h]
  exact (lookup_eq_some_iff h).mpr hm

variable {pairs : List (String × List α)}

theorem latest_length_le (pairs : List (String × List α)) :
    ((latest pairs).flatMap Prod.snd).length ≤ (pairs.flatMap Prod.snd).length := by
  induction pairs with
  | nil => exact Nat.le_refl 0
  | cons p pairs ih =>
    rw [latest]
    split
    · simp only [List.flatMap_cons, List.length_append]
      omega
    · simp only [List.flatMap_cons, List.length_append]
      omega

theorem latest_length_eq_iff (h : ∀ p ∈ pairs, p.2 ≠ []) :
    ((latest pairs).flatMap Prod.snd).length = (pairs.flatMap Prod.snd).length ↔
      (pairs.map Prod.fst).Nodup := by
  constructor
  · intro he
    induction pairs with
    | nil => exact List.nodup_nil
    | cons p pairs ih =>
      obtain ⟨hp, hrest⟩ := List.forall_mem_cons.mp h
      have hle := latest_length_le pairs
      have hpos := List.length_pos_iff.mpr hp
      rw [latest] at he
      split at he
      · simp only [List.flatMap_cons, List.length_append] at he
        omega
      next hn =>
        simp only [List.flatMap_cons, List.length_append] at he
        exact List.nodup_cons.mpr ⟨hn, ih hrest (by omega)⟩
  · intro hn
    rw [latest_of_nodup hn]

end Keyed

section Files
open Sorting
variable {ctx : ReportContext} {view : List Issue} {g : Path × List Issue}

theorem splits_issuesByFile (view : List Issue) : Grouped.Splits Path.cmp Issue.filename
    (Issue.sortBy Issue.defaultOrder view) (issuesByFile view) :=
  Issue.splits_sortBy Issue.filename Issue.defaultOrder view

theorem issuesByFile_perm (view : List Issue) : (Grouped.toList (issuesByFile view)).Perm view :=
  (splits_issuesByFile view).perm.trans (Issue.sortBy_perm Issue.defaultOrder view)

theorem pairwise_issuesByFile (view : List Issue) :
    (issuesByFile view).Pairwise fun g h => g.1.cmp h.1 = .lt :=
  (splits_issuesByFile view).ascending

theorem ne_nil_of_mem_issuesByFile (h : g ∈ issuesByFile view) : g.2 ≠ [] :=
  (splits_issuesByFile view).filled g h

theorem eq_of_mem_issuesByFile (h : g ∈ issuesByFile view) :
    (∃ i ∈ view, g.1 = i.filename) ∧
      g.2 = (Issue.sortBy Issue.defaultOrder view).filter fun i => i.filename.same g.1 := by
  have hsame : (fun i : Issue => i.filename.cmp g.1 == .eq) = fun i => i.filename.same g.1 := by
    funext i
    rw [Bool.eq_iff_iff, beq_iff_eq, Path.cmp_eq_eq, Path.same_iff]
  obtain ⟨i, hi, hkey⟩ := (splits_issuesByFile view).taken g h
  refine ⟨⟨i, (Issue.sortBy_perm Issue.defaultOrder view).mem_iff.mp hi, hkey⟩, ?_⟩
  rw [← hsame]
  exact (splits_issuesByFile view).group_eq h

theorem exists_mem_issuesByFile {i : Issue} (hi : i ∈ view) :
    ∃ g ∈ issuesByFile view, i.filename.same g.1 = true := by
  obtain ⟨g, hg, hig⟩ := List.mem_flatMap.mp ((issuesByFile_perm view).mem_iff.mpr hi)
  rw [(eq_of_mem_issuesByFile hg).2] at hig
  exact ⟨g, hg, (List.mem_filter.mp hig).2⟩

end Files

namespace IssueLog

def size (log : IssueLog) : Nat := (log.flatMap Prod.snd).length

/-- No two files of a view are shown alike. -/
def ToldApart (ctx : ReportContext) (view : List Issue) : Prop :=
  ((issuesByFile view).map fun g => g.1.relativeTo ctx.project).Nodup

instance (ctx : ReportContext) (view : List Issue) : Decidable (ToldApart ctx view) :=
  inferInstanceAs (Decidable (List.Nodup _))

/-- Every spelling of a file in a view is shown alike. -/
def ShownAsOne (ctx : ReportContext) (view : List Issue) (p : Path) : Prop :=
  ∀ i ∈ view, i.filename.same p = true → ctx.pathOf i = p.relativeTo ctx.project

section View
variable {ctx : ReportContext} {view : List Issue}

theorem toldApart_of_same (h : ∀ i ∈ view, ∀ j ∈ view, ctx.pathOf i = ctx.pathOf j →
    i.filename.same j.filename = true) : ToldApart ctx view := by
  rw [ToldApart, List.Nodup, List.pairwise_map]
  refine (pairwise_issuesByFile view).imp_of_mem ?_
  intro f g hf hg hlt hshown
  obtain ⟨⟨i, hi, hfi⟩, -⟩ := eq_of_mem_issuesByFile hf
  obtain ⟨⟨j, hj, hgj⟩, -⟩ := eq_of_mem_issuesByFile hg
  have halike : ctx.pathOf i = ctx.pathOf j := by
    rw [ReportContext.pathOf, ReportContext.pathOf, ← hfi, ← hgj, hshown]
  have hsame := h i hi j hj halike
  rw [← hfi, ← hgj, Path.same_iff, ← Path.cmp_eq_eq, hlt] at hsame
  exact Ordering.noConfusion hsame

theorem shownAsOne_of_below {p : Path} {cs : List Path.Component}
    (h : p.components = ctx.project.components ++ cs) : ShownAsOne ctx view p := by
  intro i _ hsame
  have hi := ((Path.same_iff _ _).mp hsame).trans h
  rw [ReportContext.pathOf, Path.relativeTo_eq, Path.relativeTo_eq, Path.nameFrom_of_below hi,
    Path.nameFrom_of_below h]

def places (ctx : ReportContext) (view : List Issue) : List (String × List LogEntry) :=
  (issuesByFile view).map fun g => (g.1.relativeTo ctx.project, g.2.map LogEntry.ofIssue)

theorem names_places : (places ctx view).map Prod.fst =
    (issuesByFile view).map fun g => g.1.relativeTo ctx.project := by
  rw [places, List.map_map]
  rfl

theorem length_places (ctx : ReportContext) (view : List Issue) :
    ((places ctx view).flatMap Prod.snd).length = view.length := by
  have hentries : (places ctx view).flatMap Prod.snd =
      (Grouped.toList (issuesByFile view)).map LogEntry.ofIssue := by
    rw [places, List.flatMap_map, Grouped.toList, List.map_flatMap]
  rw [hentries, List.length_map, (issuesByFile_perm view).length_eq]

theorem size_ofIssues : (ofIssues ctx view).size =
    ((Keyed.latest (places ctx view)).flatMap Prod.snd).length :=
  ((Keyed.perm_ofList (places ctx view)).flatMap_right Prod.snd).length_eq

theorem size_le : (ofIssues ctx view).size ≤ view.length := by
  rw [size_ofIssues, ← length_places ctx view]
  exact Keyed.latest_length_le _

theorem size_eq_iff : (ofIssues ctx view).size = view.length ↔ ToldApart ctx view := by
  have hfilled : ∀ p ∈ places ctx view, p.2 ≠ [] := by
    intro p hp
    obtain ⟨g, hg, rfl⟩ := List.mem_map.mp hp
    simpa using ne_nil_of_mem_issuesByFile hg
  rw [size_ofIssues, ← length_places ctx view, Keyed.latest_length_eq_iff hfilled, names_places,
    ToldApart]

theorem lookup_ofIssues (h : ToldApart ctx view) {i : Issue} (hi : i ∈ view)
    (hone : ShownAsOne ctx view i.filename) : (ofIssues ctx view).lookup (ctx.pathOf i) =
      some (((Issue.sortBy Issue.defaultOrder view).filter fun j =>
        j.filename.same i.filename).map LogEntry.ofIssue) := by
  obtain ⟨g, hg, hig⟩ := exists_mem_issuesByFile hi
  obtain ⟨⟨j, hj, hgj⟩, hissues⟩ := eq_of_mem_issuesByFile hg
  have hcomponents := (Path.same_iff _ _).mp hig
  have hname : g.1.relativeTo ctx.project = ctx.pathOf i := by
    rw [hgj]
    exact hone j hj (by rw [← hgj, Path.same_iff, hcomponents])
  have hplace : (ctx.pathOf i, g.2.map LogEntry.ofIssue) ∈ places ctx view := by
    rw [← hname]
    exact List.mem_map_of_mem hg
  rw [ToldApart, ← names_places] at h
  rw [ofIssues, ← places, Keyed.lookup_ofList h hplace, hissues]
  simp only [Path.same, hcomponents]

end View

/-- What the log of a collector has of its cleaned issues. -/
structure Logged (ctx : ReportContext) (c : Collector) (d : Disk) (log : IssueLog) : Prop where
  bounded : log.size ≤ (c.count d).1
  complete : log.size = (c.count d).1 ↔ ToldApart ctx (c.view d).1
  listed : ToldApart ctx (c.view d).1 → ∀ i ∈ (c.view d).1,
    ShownAsOne ctx (c.view d).1 i.filename → log.lookup (ctx.pathOf i) =
      some (((c.issues d Issue.defaultOrder).1.filter fun j =>
        j.filename.same i.filename).map LogEntry.ofIssue)
  toldApart : (∀ i ∈ (c.view d).1, i.filename.IsAbsolute ∧ i.filename.raw.IsText) →
    ToldApart ctx (c.view d).1
  shownAsOne : ∀ i ∈ (c.view d).1, (∃ cs, i.filename.components = ctx.project.components ++ cs) →
    ShownAsOne ctx (c.view d).1 i.filename

/-- A log has every cleaned issue once exactly when no two files are shown alike. -/
theorem logged_ofIssues (ctx : ReportContext) (c : Collector) (d : Disk) :
    Logged ctx c d (ofIssues ctx (c.view d).1) where
  bounded := size_le
  complete := size_eq_iff
  listed := fun h _ hi hone => lookup_ofIssues h hi hone
  toldApart := fun h => toldApart_of_same fun i hi j hj hshown =>
    (h i hi).1.same_of_relativeTo (h j hj).1 (h i hi).2 (h j hj).2 hshown
  shownAsOne := fun _ _ ⟨_, h⟩ => shownAsOne_of_below h

/-! A relative name outside of the project may spell what a file of the project is shown as. -/

def collidingContext : ReportContext := { project := ⟨"/project"⟩, config := { kind := "csv" } }

def colliding : Collector :=
  (Collector.create { noqa := false }).add
    [{ tool := "t", code := some "c", message := "relative", filename := ⟨"a.py"⟩ },
      { tool := "t", code := some "c", message := "absolute", filename := ⟨"/project/a.py"⟩ }]

/-- The issue of the absolute name is lost. -/
theorem lost_colliding : (colliding.count {}).1 = 2 ∧
    ofIssues collidingContext (colliding.view {}).1 =
      [("a.py", [⟨1, 0, "c", "t", "relative"⟩])] := by
  decide +kernel

end IssueLog

end MetaLint
