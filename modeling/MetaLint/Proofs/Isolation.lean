import Mathlib.Data.List.Basic
import MetaLint.Proofs.Outcome
import MetaLint.Proofs.Selecting

/-!
# Failures on their own

A tool that fails leaves one report on the project and nothing else. A directory has no directives,
so what is looked up for the other issues does not depend on the reports, and a report is neither
suppressed nor, being of a kind of its own, merged with anything.
-/

set_option autoImplicit false

namespace MetaLint

theorem CleanSettings.mem_of_mem_distinct {texts : List String} {t : String}
    (h : t ∈ distinct texts) : t ∈ texts := by
  obtain ⟨p, hp, rfl⟩ := List.mem_map.mp h
  obtain ⟨u, hu, rfl⟩ := List.mem_map.mp (Keyed.mem_ofList hp)
  exact hu

namespace Collector

variable {s : CleanSettings} {d : Disk}

theorem find?_ensureIndex (cache : DirectiveCache) (p q : Path) :
    (ensureIndex s d cache q).find? p =
      (cache.find? p).or (if p.same q then some (loadIndex s d q) else none) := by
  rw [ensureIndex]
  cases hq : cache.find? q with
  | some found =>
    rw [if_pos Option.isSome_some]
    by_cases hs : p.same q = true
    · rw [DirectiveCache.find?_eq_of_same hs, hq]
      rfl
    · rw [if_neg hs, Option.or_none]
  | none =>
    rw [if_neg (by simp), DirectiveCache.insertNew, hq, if_neg (by simp), DirectiveCache.find?,
      DirectiveCache.find?, List.find?_append]
    by_cases hs : p.same q = true
    · cases List.find? (fun entry => p.same entry.1) cache <;> simp [hs]
    · simp [hs]

theorem find?_ensureAll_eq (files : List Path) (cache : DirectiveCache) (p : Path) :
    (files.foldl (ensureIndex s d) cache).find? p =
      (cache.find? p).or ((files.find? fun q => p.same q).map (loadIndex s d)) := by
  induction files generalizing cache with
  | nil => simp
  | cons q files ih =>
    rw [List.foldl_cons, ih, find?_ensureIndex, Option.or_assoc, List.find?_cons]
    cases p.same q <;> rfl

theorem get_ensureIndexes (raw : List Issue) (p : Path) : (ensureIndexes s d [] raw).get p =
    ((filesToScan s raw).find? fun q => p.same q).elim .empty (loadIndex s d) := by
  rw [DirectiveCache.get, ensureIndexes, find?_ensureAll_eq]
  cases (filesToScan s raw).find? fun q => p.same q <;> rfl

theorem loadIndex_of_leadsToDir {p q : Path} (hd : d.LeadsToDir p) (hs : p.same q = true) :
    loadIndex s d q = .empty := by
  obtain ⟨fault, hread⟩ := hd.read_eq_error hs
  rw [loadIndex, hread]
  split <;> rfl

theorem get_of_leadsToDir {p q : Path} (hd : d.LeadsToDir p) (hs : p.same q = true)
    (raw : List Issue) : (ensureIndexes s d [] raw).get q = .empty := by
  rw [get_ensureIndexes]
  cases hf : (filesToScan s raw).find? fun file => q.same file with
  | none => rfl
  | some file =>
    have hfile : q.same file = true := List.find?_some hf
    apply loadIndex_of_leadsToDir hd
    rw [Path.same_iff] at hs hfile ⊢
    exact hs.trans hfile

theorem get_filter {project : Path} (hd : d.LeadsToDir project) {p : Issue → Bool}
    {raw : List Issue} (h : ∀ i ∈ raw, p i = false → i.filename = project) (q : Path) :
    (ensureIndexes s d [] (raw.filter p)).get q = (ensureIndexes s d [] raw).get q := by
  by_cases hs : project.same q = true
  · rw [get_of_leadsToDir hd hs, get_of_leadsToDir hd hs]
  · -- The issues that are left out are about another file, so the first spelling of this one stays.
    rw [get_ensureIndexes, get_ensureIndexes]
    congr 1
    rw [filesToScan, filesToScan]
    split
    · rw [List.find?_map, List.find?_map, List.filter_filter, ← List.head?_filter,
        ← List.head?_filter, List.filter_filter, List.filter_filter]
      congr 2
      apply List.filter_congr
      intro i hi
      cases hp : p i with
      | true => simp
      | false =>
        rw [Path.same_iff, eq_comm, ← Path.same_iff] at hs
        simp [h i hi hp, hs]
    · rfl

end Collector

theorem Error.message_ne_empty (e : Error) : e.message ≠ "" := by
  rw [Error.message.eq_def]
  split <;> simp

theorem ToolFailure.message_ne_empty (failure : ToolFailure) : failure.message ≠ "" := by
  rw [ToolFailure.message.eq_def]
  split
  · exact Error.message_ne_empty _
  · simp
  · simp

namespace Issue

/-- A report on a tool that failed. -/
def isFailure (i : Issue) : Bool := i.isToolReport && i.severity == .fatal

theorem isToolReport_of_isFailure {i : Issue} (h : i.isFailure = true) : i.isToolReport = true :=
  (Bool.and_eq_true_iff.mp h).1

end Issue

namespace Job

def failure? (project : Path) (x : Job × ToolRun) : Option Issue :=
  match x.2.result with
  | .ok _ => none
  | .error failure => some (failureIssue x.1.name project failure)

theorem message_failureIssue (name : String) (project : Path) (failure : ToolFailure) :
    (failureIssue name project failure).message =
      name ++ " failed horribly:\n" ++ failure.message := by
  have hmessage : (failureIssue name project failure).message =
      if failure.message = "" then name ++ " failed horribly"
      else name ++ " failed horribly" ++ ":\n" ++ failure.message := rfl
  rw [hmessage, if_neg failure.message_ne_empty]
  simp [String.append_assoc]

end Job

/-- The tool never returns an issue that looks like a report on a tool run. -/
def Tool.ReportFree (t : Tool) : Prop := ∀ f d config issues,
  (t.execute f d config).result = .ok issues → ∀ i ∈ issues, i.isToolReport = false

def RunEnd.ReportFree (e : RunEnd) : Prop :=
  ∀ x ∈ e.executed, ∀ issues, x.2.result = .ok issues → ∀ i ∈ issues, i.isToolReport = false

theorem RunRequest.mem_strays {r : RunRequest} {project : Path} {e : RunEnd} {i : Issue}
    (h : i ∈ r.strays project e) : i.filename = project ∧ i.isFailure = false := by
  have hone : ∀ stream text, i ∈ strayIssue stream project text →
      i.filename = project ∧ i.isFailure = false := by
    intro stream text hi
    rw [strayIssue] at hi
    split at hi
    · contradiction
    · rw [List.mem_singleton.mp hi]
      exact ⟨rfl, rfl⟩
  rw [strays] at h
  split at h
  · rcases List.mem_append.mp h with h | h
    · exact hone _ _ h
    · exact hone _ _ h
  · contradiction

namespace Outcome

variable {r : RunRequest} {project : Path} {e : RunEnd} {c : Collector}

theorem filename_of_report (h : Outcome r project e c) (he : e.ReportFree) {i : Issue}
    (hi : i ∈ c.raw) (hreport : i.isToolReport = true) : i.filename = project := by
  rcases List.mem_append.mp (h.raw.mem_iff.mp hi) with hi | hi
  · obtain ⟨x, hx, hix⟩ := List.mem_flatMap.mp hi
    rw [Job.issues] at hix
    split at hix
    next issues hresult =>
      rw [he x hx issues hresult i hix] at hreport
      contradiction
    next failure hresult =>
      rw [List.mem_singleton.mp hix]
      rfl
  · exact (RunRequest.mem_strays hi).1

theorem reportFree {tools : List Tool} (h : Outcome r project e c) (hr : r.registry = .ofList tools)
    (ht : ∀ t ∈ tools, t.ReportFree) : e.ReportFree := by
  intro x hx issues hresult
  obtain ⟨hj, f, hrun⟩ := h.genuine x hx
  rw [RunRequest.jobs, hr] at hj
  rw [hrun] at hresult
  exact ht x.1.tool (ToolRegistry.tool_of_mem_jobs hj) f r.disk x.1.config issues hresult

theorem perm_failures (h : Outcome r project e c) (he : e.ReportFree) :
    (c.raw.filter Issue.isFailure).Perm (e.executed.filterMap (Job.failure? project)) := by
  have hstrays : (r.strays project e).filter Issue.isFailure = [] := by
    apply List.filter_eq_nil_iff.mpr
    intro i hi
    simp [(RunRequest.mem_strays hi).2]
  have hone : ∀ x ∈ e.executed,
      (x.1.issues project x.2).filter Issue.isFailure = (Job.failure? project x).toList := by
    intro x hx
    rw [Job.issues, Job.failure?]
    cases hresult : x.2.result with
    | ok issues =>
      apply List.filter_eq_nil_iff.mpr
      intro i hi
      simp [Issue.isFailure, he x hx issues hresult i hi]
    | error failure => rfl
  have hraw := h.raw.filter Issue.isFailure
  rw [List.filter_append, hstrays, List.append_nil, List.filter_flatMap,
    List.flatMap_congr hone] at hraw
  rw [List.filterMap_eq_flatMap_toList]
  exact hraw

end Outcome

namespace Collector

variable {s : CleanSettings} {d : Disk}

theorem keeps_of_leadsToDir {project : Path} (hd : d.LeadsToDir project)
    (hs : toolReportCode ∉ s.disabled) {i : Issue} (hf : i.filename = project)
    (hi : i.isToolReport = true) (raw : List Issue) :
    s.keeps (ensureIndexes s d [] raw).get i = true := by
  obtain ⟨hself, hcode⟩ := Bool.and_eq_true_iff.mp hi
  have hdisables : s.disables i = false := by
    rw [CleanSettings.disables, beq_iff_eq.mp hcode]
    simp [hs]
  rw [CleanSettings.keeps, hdisables, hf, get_of_leadsToDir hd (Path.same_refl _),
    SuppressionIndex.suppresses_empty]
  simp

/-- Without issues about a directory the view is what it is of the others. -/
theorem filter_clean {project : Path} (hd : d.LeadsToDir project) {p : Issue → Bool}
    (hk : Issue.ByKind p) {raw : List Issue}
    (h : ∀ i ∈ raw, p i = false → i.filename = project) :
    (s.clean (ensureIndexes s d [] raw).get raw).filter p =
      s.clean (ensureIndexes s d [] (raw.filter p)).get (raw.filter p) := by
  rw [CleanSettings.clean, CleanSettings.clean, CleanSettings.filter_merged hk, List.filter_filter,
    List.filter_filter]
  congr 1
  apply List.filter_congr
  intro i _
  rw [CleanSettings.keeps, CleanSettings.keeps, get_filter hd h, Bool.and_comm]

end Collector

/-- The failures of a run are all reported, and nothing else depends on them. -/
structure Isolated (r : RunRequest) (project : Path) (d : Disk) (e : RunEnd) (c : Collector) :
    Prop where
  once : (e.executed.map fun x => x.1.name).Nodup
  failures : ∀ order, ((c.issues d order).1.filter Issue.isFailure).Perm
    (e.executed.filterMap (Job.failure? project))
  messages : ∀ x ∈ e.executed, ∀ failure, x.2.result = .error failure →
    ∃ i, Job.failure? project x = some i ∧
      i.message = x.1.name ++ " failed horribly:\n" ++ failure.message
  others : ∀ order, ((c.issues d order).1.filter fun i => !i.isToolReport) =
    (((Collector.ofConfig r.config).add (c.raw.filter fun i => !i.isToolReport)).issues d order).1

theorem Outcome.isolated {r : RunRequest} {project : Path} {d : Disk} {e : RunEnd} {c : Collector}
    (h : Outcome r project e c) (he : e.ReportFree) (hd : d.LeadsToDir project)
    (hcode : toolReportCode ∉ r.config.disabled) : Isolated r project d e c where
  once := h.once
  failures order := by
    have hdistinct : toolReportCode ∉ (CleanSettings.ofConfig r.config).disabled :=
      fun hm => hcode (CleanSettings.mem_of_mem_distinct hm)
    rw [h.fresh.issues, Issue.filter_sortBy]
    have hsorted := Sorting.perm_of_sameTies (Issue.sameTies_sortBy order
      (((CleanSettings.ofConfig r.config).clean (Collector.ensureIndexes (.ofConfig r.config) d []
        c.raw).get c.raw).filter Issue.isFailure))
    refine (hsorted.trans ?_).trans (h.perm_failures he)
    have hkept := CleanSettings.perm_filter_merged (s := .ofConfig r.config)
      (fun i => Issue.isToolReport_of_isFailure (i := i))
      (c.raw.filter ((CleanSettings.ofConfig r.config).keeps
        (Collector.ensureIndexes (.ofConfig r.config) d [] c.raw).get))
    rw [List.filter_filter] at hkept
    refine hkept.trans (List.Perm.of_eq (List.filter_congr ?_))
    intro i hi
    cases hf : i.isFailure with
    | false => rfl
    | true =>
      have hreport := Issue.isToolReport_of_isFailure hf
      rw [Collector.keeps_of_leadsToDir hd hdistinct (h.filename_of_report he hi hreport) hreport]
      rfl
  messages x _ failure hx :=
    ⟨Job.failureIssue x.1.name project failure, by rw [Job.failure?, hx],
      Job.message_failureIssue _ _ _⟩
  others order := by
    have hfresh := (Collector.fresh_create (.ofConfig r.config)).add
      (c.raw.filter fun i => !i.isToolReport)
    rw [h.fresh.issues, Collector.ofConfig, hfresh.issues, Issue.filter_sortBy,
      Collector.filter_clean hd Issue.byKind_isToolReport.not]
    · rfl
    · intro i hi hreport
      exact h.filename_of_report he hi (by simpa using hreport)

namespace RunRequest

/-- Whatever the workers do, the tools that failed are reported one by one, and the issues of the
others are shown as if there were no reports. -/
theorem isolated_perform (tools : List Tool) (r : RunRequest) (moves : List Bench.Move)
    (c : Collector) (project : Path) (d : Disk) (hr : r.registry = .ofList tools)
    (hp : r.disk.canonical r.project = .ok project) (hd : d.LeadsToDir project)
    (hcode : toolReportCode ∉ r.config.disabled) (hc : (r.perform moves).result = .ok c)
    (he : (r.perform moves).ReportFree) : Isolated r project d (r.perform moves) c := by
  have hn : (r.jobs.map Job.name).Nodup := by
    rw [jobs, hr]
    exact (ToolRegistry.sound_ofList tools).nodup_jobs r.config
  exact (outcome_perform hn hp hc).isolated he hd hcode

theorem leadsToDir_root : Disk.LeadsToDir {} ⟨"/"⟩ :=
  Disk.HasDir.leadsToDir (l := []) ⟨by simp, by simp, [], rfl⟩

theorem reportFree_mixedTools : ∀ t ∈ mixedTools, t.ReportFree := by
  have hfixed : ∀ name issues, (∀ i ∈ issues, i.isToolReport = false) →
      (Tool.fixed name (.ok issues)).ReportFree := by
    intro name issues h f d config returned hresult
    obtain rfl : issues = returned := Except.ok.inj hresult
    exact h
  intro t ht
  simp only [mixedTools, List.mem_cons, List.not_mem_nil, or_false] at ht
  obtain rfl | rfl | rfl := ht
  · exact hfixed _ _ (by decide)
  · intro f d config issues hresult
    contradiction
  · exact hfixed _ _ (by simp)

theorem isolated_perform_mixed : ∃ moves c, mixed.registry = .ofList mixedTools ∧
    mixed.disk.canonical mixed.project = .ok ⟨"/"⟩ ∧ mixed.disk.LeadsToDir ⟨"/"⟩ ∧
    toolReportCode ∉ mixed.config.disabled ∧ (mixed.perform moves).result = .ok c ∧
    (mixed.perform moves).ReportFree ∧
    Isolated mixed ⟨"/"⟩ mixed.disk (mixed.perform moves) c := by
  have hf : Finder.create mixed.disk mixed.project mixed.config = .ok .bare :=
    Finder.create_bare mixed.config rfl
  have hcanonical := Finder.canonical_create hf
  obtain ⟨-, hp⟩ := perform_of_finder (List.isEmpty_eq_false_iff.mp rfl) hf rfl
    [.receive 1, .receive 0, .advance 1, .advance 0, .advance 1, .cancel]
  have hok := congrArg RunEnd.result hp
  have hn : (mixed.jobs.map Job.name).Nodup := by decide
  have hfree := (outcome_perform hn hcanonical hok).reportFree rfl reportFree_mixedTools
  have hcode : toolReportCode ∉ mixed.config.disabled := List.not_mem_nil
  exact ⟨_, _, rfl, hcanonical, leadsToDir_root, hcode, hok, hfree,
    isolated_perform mixedTools mixed _ _ _ mixed.disk rfl hcanonical leadsToDir_root hcode hok
      hfree⟩

end RunRequest

end MetaLint
