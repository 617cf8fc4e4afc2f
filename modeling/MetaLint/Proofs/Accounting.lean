import MetaLint.Proofs.Registry
import MetaLint.Proofs.Standing
import MetaLint.Run

/-!
# The accounts of a run

When the workers are done every job is done or was skipped. What a run executed, told and collected
follows from the roster: an executed job told its start and its finish and left its issues, and any
other job told and left nothing.
-/

set_option autoImplicit false

namespace MetaLint

open Standing

namespace Bench

def Ended (roster : List (Job × Standing)) : Prop :=
  ∀ x ∈ roster, (∃ run, x.2 = .done run) ∨ x.2 = .skipped

theorem ran?_job {x : Job × Standing} {y : Job × ToolRun} (h : ran? x = some y) : y.1 = x.1 := by
  obtain ⟨j, s⟩ := x
  cases s with
  | waiting => simp [ran?] at h
  | skipped => simp [ran?] at h
  | done run => rw [← Option.some.inj h]
  | held phase =>
    cases phase with
    | received => simp [ran?] at h
    | accepted => simp [ran?] at h
    | started => simp [ran?] at h
    | executed run => rw [← Option.some.inj h]
    | finished run => rw [← Option.some.inj h]

section Ended
variable {jobs : List Job} {f : Finder} {d : Disk} {roster : List (Job × Standing)} {b : Bench}

theorem ended_of_idle (h : Follows jobs f d roster b) (hw : ∀ task ∈ b.workers, task = none)
    (hq : b.queue = []) : Ended roster := by
  have hheld : roster.filterMap held? = [] := by
    have hnone : b.workers.filterMap id = [] := List.filterMap_eq_nil_iff.mpr hw
    have hp := h.workers
    rw [hnone] at hp
    exact hp.eq_nil
  have hwaiting : roster.filterMap waiting? = [] := h.queue.symm.trans hq
  rintro ⟨j, s⟩ hx
  cases s with
  | waiting =>
    have hnone := List.filterMap_eq_nil_iff.mp hwaiting _ hx
    contradiction
  | held phase =>
    have hnone := List.filterMap_eq_nil_iff.mp hheld _ hx
    contradiction
  | done run => exact Or.inl ⟨run, rfl⟩
  | skipped => exact Or.inr rfl

theorem mem_executed (h : Follows jobs f d roster b) (he : Ended roster) {j : Job}
    {run : ToolRun} : (j, run) ∈ b.executed ↔ (j, .done run) ∈ roster := by
  rw [h.executed.mem_iff, List.mem_filterMap]
  constructor
  · rintro ⟨⟨k, s⟩, hx, hr⟩
    rcases he _ hx with ⟨last, hs⟩ | hs
    · have hs : s = .done last := hs
      subst hs
      obtain ⟨rfl, rfl⟩ := Prod.mk.inj (Option.some.inj hr)
      exact hx
    · have hs : s = .skipped := hs
      subst hs
      contradiction
  · intro hx
    exact ⟨_, hx, rfl⟩

theorem names_ran (roster : List (Job × Standing)) :
    ((roster.filterMap ran?).map fun x => x.1.name).Sublist (roster.map fun x => x.1.name) := by
  induction roster with
  | nil => exact List.Sublist.refl _
  | cons x roster ih =>
    rw [List.filterMap_cons]
    cases hr : ran? x with
    | none => exact ih.cons _
    | some y =>
      rw [List.map_cons, List.map_cons, ran?_job hr]
      exact ih.cons_cons _

theorem nodup_executed (hn : (jobs.map Job.name).Nodup) (h : Follows jobs f d roster b) :
    (b.executed.map fun x => x.1.name).Nodup := by
  apply (h.executed.map fun x => x.1.name).nodup_iff.mpr
  apply (names_ran roster).nodup
  rw [← h.roll, List.map_map] at hn
  exact hn

theorem flatMap_left (he : Ended roster) (project : Path) : roster.flatMap (left project) =
    (roster.filterMap ran?).flatMap fun x => x.1.issues project x.2 := by
  induction roster with
  | nil => rfl
  | cons x roster ih =>
    obtain ⟨hx, hrest⟩ := List.forall_mem_cons.mp he
    obtain ⟨j, s⟩ := x
    rcases hx with ⟨run, hs⟩ | hs
    · have hs : s = .done run := hs
      rw [List.flatMap_cons, ih hrest, hs]
      rfl
    · have hs : s = .skipped := hs
      rw [List.flatMap_cons, ih hrest, hs]
      rfl

theorem map_ran (he : ∀ x ∈ roster, ∃ run, x.2 = .done run) :
    (roster.filterMap ran?).map Prod.fst = roster.map Prod.fst := by
  induction roster with
  | nil => rfl
  | cons x roster ih =>
    obtain ⟨⟨run, hs⟩, hrest⟩ := List.forall_mem_cons.mp he
    obtain ⟨j, s⟩ := x
    have hs : s = .done run := hs
    rw [hs]
    show j :: (roster.filterMap ran?).map Prod.fst = j :: roster.map Prod.fst
    rw [ih hrest]

theorem perm_executed (h : Follows jobs f d roster b) (he : Ended roster)
    (hc : b.cancelled = false) : (b.executed.map Prod.fst).Perm jobs := by
  have hdone : ∀ x ∈ roster, ∃ run, x.2 = .done run := fun x hx =>
    (he x hx).resolve_right (h.unskipped hc x hx)
  rw [← h.roll, ← map_ran hdone]
  exact h.executed.map Prod.fst

end Ended

theorem follows_bench (r : RunRequest) (f : Finder) :
    Follows r.jobs f r.disk (r.jobs.map fun j => (j, .waiting)) (r.bench f) where
  roll := by simp [Function.comp_def]
  queue := by
    rw [List.filterMap_map]
    exact List.filterMap_some.symm
  workers := by
    rw [List.filterMap_map]
    simp [Function.comp_def, held?, RunRequest.bench]
  executed := by
    rw [List.filterMap_map]
    simp [Function.comp_def, ran?, RunRequest.bench]
  raw := by
    rw [List.flatMap_map]
    simp [left, RunRequest.bench, Collector.ofConfig, Collector.create]
  events := by
    intro x hx
    obtain ⟨j, -, rfl⟩ := List.mem_map.mp hx
    rfl
  others := by
    intro e he
    exact Or.inl (List.mem_singleton.mp he)
  unskipped := by
    intro _ x hx
    obtain ⟨j, -, rfl⟩ := List.mem_map.mp hx
    exact Standing.noConfusion
  genuine := by
    intro x hx
    cases hx
  finder := ⟨f.contents, rfl⟩
  disk := rfl

end Bench

/-- What a run that came to a collector has executed, told and collected. -/
structure Settled (r : RunRequest) (f : Finder) (e : RunEnd) (c : Collector) : Prop where
  distinct : (r.jobs.map Job.name).Nodup
  enabled : ∀ x ∈ e.executed, x.1 ∈ r.jobs
  once : (e.executed.map fun x => x.1.name).Nodup
  genuine : ∀ x ∈ e.executed, Bench.Genuine f r.disk x
  told : ∀ x ∈ e.executed, e.events.filter (RunEvent.concerns x.1.name) =
    [.toolStart x.1.name, .toolFinish x.1.name]
  silent : ∀ j ∈ r.jobs, (∀ run, (j, run) ∉ e.executed) →
    e.events.filter (RunEvent.concerns j.name) = []
  others : ∀ ev ∈ e.events, ev = .start ∨ ev = .finish ∨ ∃ j ∈ r.jobs, ev.concerns j.name = true
  returned : ∀ x ∈ e.executed, ∀ issues, x.2.result = .ok issues →
    x.1.issues f.project x.2 = issues
  failed : ∀ x ∈ e.executed, ∀ failure, x.2.result = .error failure →
    ∃ i, x.1.issues f.project x.2 = [i] ∧ i.isToolReport = true ∧ i.severity = .fatal
  /-- The raw issues are those of the executed jobs, and at most two about stray output. -/
  raw : ∃ stray, c.raw.Perm ((e.executed.flatMap fun x => x.1.issues f.project x.2) ++ stray) ∧
    stray.length ≤ 2 ∧ ∀ i ∈ stray, i.isToolReport = true ∧ i.severity = .error
  bounded : ∀ pre, pre <+: e.events →
    (Bench.inFlight r.jobs pre).length ≤ min (max r.config.workers 1) r.jobs.length
  complete : e.state = .completed → (e.executed.map Prod.fst).Perm r.jobs

namespace RunRequest

theorem stray_strayIssues (project : Path) (captured : Captured) :
    (strayIssues project captured).length ≤ 2 ∧
      ∀ i ∈ strayIssues project captured, i.isToolReport = true ∧ i.severity = .error := by
  have hone : ∀ stream text, (strayIssue stream project text).length ≤ 1 ∧
      ∀ i ∈ strayIssue stream project text, i.isToolReport = true ∧ i.severity = .error := by
    intro stream text
    rw [strayIssue]
    split
    · exact ⟨Nat.zero_le 1, by simp⟩
    · refine ⟨Nat.le_refl 1, ?_⟩
      intro i hi
      rw [List.mem_singleton.mp hi]
      exact ⟨Issue.isToolReport_toolReport _ _ _ _, rfl⟩
  obtain ⟨hout, hos⟩ := hone "stdout" captured.out
  obtain ⟨herr, hes⟩ := hone "stderr" captured.err
  rw [strayIssues, List.length_append]
  refine ⟨by omega, ?_⟩
  intro i hi
  rcases List.mem_append.mp hi with hi | hi
  · exact hos i hi
  · exact hes i hi

theorem strayIssues_silent (project : Path) :
    strayIssues project ((Streams.start {}).stop.captured 0) = [] := by
  have hnone : (Streams.start {}).stop.captured 0 = ⟨Text.decodeLossy [], Text.decodeLossy []⟩ :=
    rfl
  rw [hnone]
  rfl

theorem raw_collected (r : RunRequest) (b : Bench) : ∃ stray,
    (r.collected b).raw = b.collector.raw ++ stray ∧ stray.length ≤ 2 ∧
      ∀ i ∈ stray, i.isToolReport = true ∧ i.severity = .error := by
  have hfailed : ∀ c : Collector, (if b.cancelled then c.markFailed else c).raw = c.raw := by
    intro c
    split <;> rfl
  rw [collected, hfailed]
  split
  · exact ⟨_, rfl, stray_strayIssues _ _⟩
  · exact ⟨[], (List.append_nil _).symm, by simp, by simp⟩

theorem inFlight_finish (jobs : List Job) (events : List RunEvent) :
    Bench.inFlight jobs (events ++ [.finish]) = Bench.inFlight jobs events := by
  simp [Bench.inFlight]

theorem inFlight_start (jobs : List Job) {pre : List RunEvent} (h : pre <+: [.start]) :
    Bench.inFlight jobs pre = [] := by
  apply List.filter_eq_nil_iff.mpr
  intro j _ hj
  have hs : RunEvent.toolStart j.name ∈ pre := by
    simp only [Bool.and_eq_true, List.contains_iff_mem] at hj
    exact hj.1
  have hm := List.mem_singleton.mp (h.subset hs)
  contradiction

section Done
variable {r : RunRequest} {f : Finder} {roster : List (Job × Standing)} {b : Bench}

theorem filter_finish (b : Bench) (name : String) :
    (b.events ++ [RunEvent.finish]).filter (RunEvent.concerns name) =
      b.events.filter (RunEvent.concerns name) := by
  simp [RunEvent.concerns]

theorem settled_conclude (hn : (r.jobs.map Job.name).Nodup)
    (h : Bench.Follows r.jobs f r.disk roster b) (he : Bench.Ended roster)
    (hb : ∀ pre, pre <+: b.events → (Bench.inFlight r.jobs pre).length ≤ r.workerCount) :
    Settled r f (r.conclude b) (r.collected b) where
  distinct := hn
  enabled x hx := by
    rw [← h.roll]
    exact List.mem_map.mpr ⟨_, (Bench.mem_executed h he).mp hx, rfl⟩
  once := Bench.nodup_executed hn h
  genuine := h.genuine
  told x hx := by
    show (b.events ++ [RunEvent.finish]).filter _ = _
    rw [filter_finish, h.events _ ((Bench.mem_executed h he).mp hx)]
    rfl
  silent j hj hx := by
    show (b.events ++ [RunEvent.finish]).filter _ = _
    rw [← h.roll] at hj
    obtain ⟨⟨k, s⟩, hk, hkj⟩ := List.mem_map.mp hj
    obtain rfl : k = j := hkj
    rcases he _ hk with ⟨run, hs⟩ | hs
    · obtain rfl : s = .done run := hs
      exact absurd ((Bench.mem_executed h he).mpr hk) (hx run)
    · obtain rfl : s = .skipped := hs
      rw [filter_finish, h.events _ hk]
      rfl
  others ev hev := by
    rcases List.mem_append.mp hev with hev | hev
    · exact (h.others ev hev).imp_right Or.inr
    · exact Or.inr (Or.inl (List.mem_singleton.mp hev))
  returned x _ issues hr := by rw [Job.issues, hr]
  failed x _ failure hr := by
    refine ⟨Job.failureIssue x.1.name f.project failure, by rw [Job.issues, hr], ?_, rfl⟩
    exact Issue.isToolReport_toolReport _ _ _ _
  raw := by
    obtain ⟨stray, hraw, hlen, hs⟩ := r.raw_collected b
    refine ⟨stray, ?_, hlen, hs⟩
    have hleft := h.raw
    rw [Bench.flatMap_left he] at hleft
    rw [hraw]
    apply List.Perm.append_right
    exact hleft.trans (h.executed.symm.flatMap_right _)
  bounded pre hpre := by
    rcases List.prefix_concat_iff.mp hpre with rfl | hpre
    · show (Bench.inFlight r.jobs (b.events ++ [.finish])).length ≤ r.workerCount
      rw [inFlight_finish]
      exact hb _ (List.prefix_refl _)
    · exact hb pre hpre
  complete hstate := by
    apply Bench.perm_executed h he
    apply Bool.eq_false_iff.mpr
    intro hc
    simp [conclude, hc] at hstate

end Done

section Workers
variable (r : RunRequest) (f : Finder) (moves : List Bench.Move)

theorem close_bench : ((r.bench f).perform moves).close =
    (r.bench f).perform (moves ++ ((r.bench f).perform moves).closing) :=
  (Bench.perform_append _ _ _).symm

theorem close_idle (hs : 0 < r.startedWorkers) :
    (∀ task ∈ ((r.bench f).perform moves).close.workers, task = none) ∧
      ((r.bench f).perform moves).close.queue = [] := by
  have hworkers : ((r.bench f).perform moves).workers ≠ [] := by
    apply List.ne_nil_of_length_pos
    rw [Bench.length_workers_perform, bench, List.length_replicate]
    exact hs
  obtain ⟨hidle, hqueue⟩ := Bench.close_eq _ hworkers
  refine ⟨?_, hqueue⟩
  intro task ht
  rw [hidle] at ht
  exact (List.mem_replicate.mp ht).2

theorem exists_ended (hn : (r.jobs.map Job.name).Nodup) (hs : 0 < r.startedWorkers) :
    ∃ roster, Bench.Follows r.jobs f r.disk roster ((r.bench f).perform moves).close ∧
      Bench.Ended roster := by
  obtain ⟨hidle, hqueue⟩ := r.close_idle f moves hs
  obtain ⟨roster, h⟩ := Bench.follows_perform hn (Bench.follows_bench r f)
    (moves ++ ((r.bench f).perform moves).closing)
  rw [← close_bench] at h
  exact ⟨roster, h, Bench.ended_of_idle h hidle hqueue⟩

theorem inFlight_close (hn : (r.jobs.map Job.name).Nodup) :
    ∀ pre, pre <+: ((r.bench f).perform moves).close.events →
      (Bench.inFlight r.jobs pre).length ≤ r.startedWorkers := by
  have hstart : ∀ pre, pre <+: (r.bench f).events →
      (Bench.inFlight r.jobs pre).length ≤ (r.bench f).workers.length := by
    intro pre hpre
    rw [inFlight_start r.jobs hpre]
    exact Nat.zero_le _
  have hall := Bench.inFlight_perform hn (Bench.follows_bench r f) hstart
    (moves ++ ((r.bench f).perform moves).closing)
  rw [← close_bench, bench, List.length_replicate] at hall
  exact hall

end Workers

theorem perform_of_no_jobs {r : RunRequest} (hj : r.jobs = []) (moves : List Bench.Move) :
    r.perform moves = { result := .ok (.ofConfig r.config), state := .completed,
                        events := [.start, .finish], cancelled := r.cancelled } := by
  rw [perform, hj]
  rfl

theorem perform_eq_conclude {r : RunRequest} {moves : List Bench.Move} {c : Collector}
    (hj : r.jobs ≠ []) (h : (r.perform moves).result = .ok c) :
    ∃ f, Finder.create r.disk r.project r.config = .ok f ∧ r.startedWorkers = r.workerCount ∧
      r.perform moves = r.conclude ((r.bench f).perform moves).close ∧
      c = r.collected ((r.bench f).perform moves).close := by
  rw [perform, if_neg fun he => hj (List.isEmpty_iff.mp he)] at h ⊢
  cases hf : Finder.create r.disk r.project r.config with
  | error e => simp [hf, abort] at h
  | ok f =>
    simp only [hf] at h ⊢
    refine ⟨f, rfl, ?_⟩
    split at h
    next => simp [abort] at h
    next hcapture =>
      cases hw : r.refusedWorker? with
      | some refused => simp [hw, abort] at h
      | none =>
        simp only [hw] at h ⊢
        exact ⟨by rw [startedWorkers, hw], trivial, (Except.ok.inj h).symm⟩

theorem perform_of_finder {r : RunRequest} {f : Finder} (hj : r.jobs ≠ [])
    (hf : Finder.create r.disk r.project r.config = .ok f) (hr : r.refusals = {})
    (moves : List Bench.Move) : r.startedWorkers = r.workerCount ∧
      r.perform moves = r.conclude ((r.bench f).perform moves).close := by
  have hw : r.refusedWorker? = none := by rw [refusedWorker?, hr]; rfl
  refine ⟨by rw [startedWorkers, hw], ?_⟩
  rw [perform, if_neg fun he => hj (List.isEmpty_iff.mp he), hf, hw, hr]
  cases r.captures <;> rfl

theorem settled_idle {r : RunRequest} (f : Finder) (hj : r.jobs = []) (moves : List Bench.Move) :
    Settled r f (r.perform moves) (.ofConfig r.config) := by
  rw [perform_of_no_jobs hj]
  exact {
    distinct := by simp [hj]
    enabled := by simp
    once := by simp
    genuine := by simp
    told := by simp
    silent := by simp [hj]
    others := by simp
    returned := by simp
    failed := by simp
    raw := ⟨[], by simp [Collector.ofConfig, Collector.create], by simp, by simp⟩
    bounded := by simp [hj, Bench.inFlight]
    complete := by simp [hj] }

/-- Whatever the workers do, and whenever a cancellation comes, a run that comes to a collector
accounts for every job. -/
theorem settled_perform (tools : List Tool) (r : RunRequest) (moves : List Bench.Move)
    (c : Collector) (hr : r.registry = .ofList tools) (hc : (r.perform moves).result = .ok c) :
    ∃ f, (r.jobs ≠ [] → Finder.create r.disk r.project r.config = .ok f) ∧
      Settled r f (r.perform moves) c := by
  have hn : (r.jobs.map Job.name).Nodup := by
    rw [jobs, hr]
    exact (ToolRegistry.sound_ofList tools).nodup_jobs r.config
  by_cases hj : r.jobs = []
  · have hidle := settled_idle default hj moves
    rw [perform_of_no_jobs hj] at hc
    obtain rfl := Except.ok.inj hc
    exact ⟨default, fun h => absurd hj h, hidle⟩
  · obtain ⟨f, hf, hcount, he, rfl⟩ := perform_eq_conclude hj hc
    refine ⟨f, fun _ => hf, ?_⟩
    have hpos : 0 < r.startedWorkers := by
      have hjobs := List.length_pos_iff.mpr hj
      rw [hcount, workerCount]
      omega
    obtain ⟨roster, h, hended⟩ := r.exists_ended f moves hn hpos
    have hb := r.inFlight_close f moves hn
    rw [hcount] at hb
    rw [he]
    exact settled_conclude hn h hended hb

end RunRequest

def Tool.fixed (name : String) (result : Except ToolFailure (List Issue)) : Tool where
  name
  description := ""
  codes := []
  execute f _ _ := { result, finder := f }

def Finder.bare : Finder := { project := ⟨"/"⟩, found := [(⟨"/"⟩, [])] }

theorem Finder.create_bare (c : Config) (h : c.exclude = []) :
    Finder.create {} ⟨"/"⟩ c = .ok .bare := by
  have hchecked : Disk.checkText ⟨"/"⟩ = .ok () := rfl
  have hsteps : Disk.steps "/" = [.here, .here] := by decide
  have ht : Disk.trace {} ⟨"/"⟩ = .ok [] := by
    simp [Disk.trace, hchecked, hsteps, Disk.placeOf, Disk.follow, Node.get?,
      Disk.Place.location?, bind, Except.bind]
  have hroot : Disk.pathOf [] = ⟨"/"⟩ := by decide
  simp [Finder.create, ht, h, Error.lift, compilePatterns, Pattern.compileAll, bind, Except.bind,
    Node.get?, pure, Except.pure, walkProject, arrange, walkNode, walkEntries,
    Found.dirs, Found.files, Finder.below, Finder.bare, hroot]

namespace RunRequest

def mixedTools : List Tool :=
  [.fixed "spell" (.ok [.create "spell" "typo" "teh" ⟨"/a.py"⟩]),
   .fixed "broken" (.error (.crashed none)), .fixed "late" (.ok [])]

def mixed : RunRequest where
  registry := .ofList mixedTools
  config := { workers := 2 }
  disk := {}
  project := ⟨"/"⟩

theorem settled_perform_mixed : ∃ c, mixed.registry = .ofList mixedTools ∧
    (mixed.perform [.receive 1, .receive 0, .advance 1, .advance 0, .advance 1, .cancel]).result =
      .ok c ∧
    ∃ f, (mixed.jobs ≠ [] → Finder.create mixed.disk mixed.project mixed.config = .ok f) ∧
      Settled mixed f
        (mixed.perform [.receive 1, .receive 0, .advance 1, .advance 0, .advance 1, .cancel]) c := by
  have hjobs : mixed.jobs ≠ [] := List.isEmpty_eq_false_iff.mp rfl
  have hf : Finder.create mixed.disk mixed.project mixed.config = .ok .bare :=
    Finder.create_bare mixed.config rfl
  obtain ⟨-, hp⟩ := perform_of_finder hjobs hf rfl
    [.receive 1, .receive 0, .advance 1, .advance 0, .advance 1, .cancel]
  have hok := congrArg RunEnd.result hp
  exact ⟨_, rfl, hok, settled_perform mixedTools mixed _ _ rfl hok⟩

end RunRequest

end MetaLint
