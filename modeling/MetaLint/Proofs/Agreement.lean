import MetaLint.Proofs.Accounting
import MetaLint.Proofs.Cleaning
import MetaLint.Proofs.Finishing

/-!
# Agreement of schedules

What a run of steady tools shows is determined by the order in which the jobs finished. So complete
schedules show the same exactly when all orders do that the number of workers permits. They do when
no issues of different jobs tie; they do not when two tools fail in different ways.
-/

set_option autoImplicit false

namespace MetaLint

open Sorting Standing

namespace Bench

variable {jobs : List Job} {f : Finder} {d : Disk} {roster : List (Job × Standing)} {b : Bench}

structure Plain (s : CleanSettings) (streams : Streams) (b : Bench) : Prop where
  fresh : Collector.Fresh s b.collector
  streams : b.streams = streams

theorem plain_step {s : CleanSettings} {streams : Streams} (h : Follows jobs f d roster b)
    (hs : ∀ j ∈ jobs, j.tool.Steady) (hp : Plain s streams b) (m : Move) :
    Plain s streams (b.step m) := by
  cases m with
  | cancel => exact ⟨hp.fresh, hp.streams⟩
  | receive w =>
    rw [step, receive]
    split
    · exact ⟨hp.fresh, hp.streams⟩
    · exact hp
  | advance w =>
    rw [step, advance]
    cases hw : b.worker? w with
    | none => exact hp
    | some task =>
      obtain ⟨j, phase⟩ := task
      cases phase with
      | received => exact ⟨hp.fresh, hp.streams⟩
      | accepted => exact ⟨hp.fresh, hp.streams⟩
      | started =>
        refine ⟨hp.fresh, ?_⟩
        show (j.tool.execute b.finder b.disk j.config).written.foldl Streams.write b.streams =
          streams
        rw [(hs j (h.mem_jobs hw)).silent, List.foldl_nil]
        exact hp.streams
      | executed run => exact ⟨hp.fresh, hp.streams⟩
      | finished run => exact ⟨hp.fresh.add _, hp.streams⟩

theorem plain_perform {s : CleanSettings} {streams : Streams} (hn : (jobs.map Job.name).Nodup)
    (h : Follows jobs f d roster b) (hs : ∀ j ∈ jobs, j.tool.Steady) (hp : Plain s streams b)
    (moves : List Move) : Plain s streams (b.perform moves) := by
  induction moves generalizing b roster with
  | nil => exact hp
  | cons m moves ih =>
    obtain ⟨_, hm⟩ := follows_step hn h m
    exact ih hm (plain_step h hs hp m)

end Bench

namespace RunRequest

variable {r : RunRequest} {f : Finder} {d : Disk}

def shown (r : RunRequest) (f : Finder) (d : Disk) (order : List Job) : List Issue :=
  (((Collector.ofConfig r.config).add (order.flatMap (Job.yield f r.disk))).issues d
    Issue.defaultOrder).1

/-- The moves make a run that executes every job and comes to `c`. -/
def Completes (r : RunRequest) (moves : List Bench.Move) (c : Collector) : Prop :=
  (r.perform moves).result = .ok c ∧ (r.perform moves).state = .completed

/-- All complete schedules show the same default list. -/
def Agree (r : RunRequest) (d : Disk) : Prop :=
  ∀ m n b c, r.Completes m b → r.Completes n c →
    (b.issues d Issue.defaultOrder).1 = (c.issues d Issue.defaultOrder).1

/-- All orders in which the workers can finish show the same default list. -/
def OrderFree (r : RunRequest) (f : Finder) (d : Disk) : Prop :=
  ∀ σ τ, Finishes r.workerCount [] r.jobs σ → Finishes r.workerCount [] r.jobs τ →
    r.shown f d σ = r.shown f d τ

theorem issues_eq_shown {c : Collector} {order : List Job}
    (hc : Collector.Fresh (.ofConfig r.config) c)
    (hraw : c.raw = order.flatMap (Job.yield f r.disk)) :
    (c.issues d Issue.defaultOrder).1 = r.shown f d order := by
  have hfresh := (Collector.fresh_create (.ofConfig r.config)).add
    (order.flatMap (Job.yield f r.disk))
  rw [shown, hc.issues, Collector.ofConfig, hfresh.issues, hraw]
  rfl

theorem plain_bench (r : RunRequest) (f : Finder) :
    Bench.Plain (.ofConfig r.config) (r.bench f).streams (r.bench f) :=
  ⟨Collector.fresh_create _, rfl⟩

theorem inOrder_bench (r : RunRequest) (f : Finder) :
    Bench.InOrder r.jobs f r.disk [] [] (r.bench f) where
  holding := by simp [Bench.heldJobs, bench]
  raw := rfl
  future := fun _ ho => ho

theorem collected_of_plain {b : Bench}
    (hp : Bench.Plain (.ofConfig r.config) (r.bench f).streams b) :
    (r.collected b).raw = b.collector.raw ∧
      Collector.Fresh (.ofConfig r.config) (r.collected b) := by
  have hmarked : ∀ c : Collector, Collector.Fresh (.ofConfig r.config) c →
      (if b.cancelled then c.markFailed else c).raw = c.raw ∧
        Collector.Fresh (.ofConfig r.config) (if b.cancelled then c.markFailed else c) := by
    intro c hc
    split
    · exact ⟨rfl, hc.settings, hc.cleaned, hc.directives⟩
    · exact ⟨rfl, hc⟩
  rw [collected]
  cases hcap : r.captures && !r.refusals.readBack with
  | false => exact hmarked _ hp.fresh
  | true =>
    have hstreams : b.streams = Streams.start {} := by
      rw [hp.streams, bench, (Bool.and_eq_true_iff.mp hcap).1]
      rfl
    rw [hstreams, strayIssues_silent]
    obtain ⟨hraw, hfresh⟩ := hmarked _ (hp.fresh.add [])
    exact ⟨hraw.trans (List.append_nil _), hfresh⟩

theorem plain_close (hn : (r.jobs.map Job.name).Nodup) (hs : ∀ j ∈ r.jobs, j.tool.Steady)
    (moves : List Bench.Move) : Bench.Plain (.ofConfig r.config) (r.bench f).streams
      ((r.bench f).perform moves).close := by
  rw [close_bench]
  exact Bench.plain_perform hn (Bench.follows_bench r f) hs (plain_bench r f) _

theorem exists_order (hn : (r.jobs.map Job.name).Nodup) (hs : ∀ j ∈ r.jobs, j.tool.Steady)
    (hf : Finder.create r.disk r.project r.config = .ok f) {moves : List Bench.Move}
    {c : Collector} (h : r.Completes moves c) : ∃ order,
      Finishes r.workerCount [] r.jobs order ∧
        (c.issues d Issue.defaultOrder).1 = r.shown f d order := by
  obtain ⟨hok, hstate⟩ := h
  by_cases hj : r.jobs = []
  · rw [perform_of_no_jobs hj] at hok
    obtain rfl := Except.ok.inj hok
    refine ⟨[], ?_, issues_eq_shown (Collector.fresh_create _) rfl⟩
    rw [hj]
    exact Finishes.done
  · obtain ⟨g, hg, hcount, he, rfl⟩ := perform_eq_conclude hj hok
    obtain rfl : f = g := Except.ok.inj (hf.symm.trans hg)
    have hpos : 0 < r.startedWorkers := by
      have hjobs := List.length_pos_iff.mpr hj
      rw [hcount, workerCount]
      omega
    have huncancelled : ((r.bench f).perform moves).close.cancelled = false := by
      rw [he, conclude] at hstate
      cases hc : ((r.bench f).perform moves).close.cancelled with
      | false => rfl
      | true => simp [hc] at hstate
    obtain ⟨hidle, hqueue⟩ := r.close_idle f moves hpos
    have hfollows := Bench.follows_bench r f
    have hlen : ((r.bench f).perform moves).close.workers.length = r.workerCount := by
      rw [close_bench, Bench.length_workers_perform, bench, List.length_replicate, hcount]
    have hplain := plain_close (f := f) hn hs moves
    rw [close_bench] at huncancelled hidle hqueue hlen hplain ⊢
    obtain ⟨held, order, hi⟩ :=
      Bench.inOrder_perform hn hfollows hs (inOrder_bench r f) huncancelled
    have hheld : held = [] := by
      have hnil : ((r.bench f).perform (moves ++ ((r.bench f).perform moves).closing)).heldJobs =
          [] := by
        rw [Bench.heldJobs, List.map_eq_nil_iff]
        exact List.filterMap_eq_nil_iff.mpr hidle
      have hp := hi.holding
      rw [hnil] at hp
      exact hp.eq_nil
    obtain ⟨hraw, hfresh⟩ := collected_of_plain hplain
    refine ⟨order, ?_, issues_eq_shown hfresh (hraw.trans hi.raw)⟩
    have hfuture := hi.future [] (by rw [hheld, hqueue]; exact Finishes.done)
    rw [hlen, List.append_nil] at hfuture
    exact hfuture

theorem completes_of_uncancelled (hj : r.jobs ≠ [])
    (hf : Finder.create r.disk r.project r.config = .ok f) (hr : r.refusals = {})
    {moves : List Bench.Move} (hc : ((r.bench f).perform moves).close.cancelled = false) :
    r.Completes moves (r.collected ((r.bench f).perform moves).close) := by
  obtain ⟨-, he⟩ := perform_of_finder hj hf hr moves
  constructor
  · rw [he]
    rfl
  · rw [he, conclude, hc]
    rfl

theorem exists_schedule (hn : (r.jobs.map Job.name).Nodup) (hs : ∀ j ∈ r.jobs, j.tool.Steady)
    (hc : ∀ j ∈ r.jobs, j.tool.NeverCancels)
    (hf : Finder.create r.disk r.project r.config = .ok f) (hr : r.refusals = {})
    (hstart : r.cancelled = false) {order : List Job}
    (ho : Finishes r.workerCount [] r.jobs order) : ∃ moves c, r.Completes moves c ∧
      (c.issues d Issue.defaultOrder).1 = r.shown f d order := by
  by_cases hj : r.jobs = []
  · have horder : order = [] := by
      have hp := ho.perm
      rw [hj] at hp
      exact hp.eq_nil
    have he := perform_of_no_jobs hj []
    refine ⟨[], .ofConfig r.config, ⟨by rw [he], by rw [he]⟩, ?_⟩
    rw [horder]
    exact issues_eq_shown (Collector.fresh_create _) rfl
  · have hfollows := Bench.follows_bench r f
    have hrest : Bench.Resting [] r.jobs (r.bench f) :=
      ⟨hstart, rfl, by simp [Bench.heldJobs, bench], by simp [bench]⟩
    obtain ⟨hcount, -⟩ := perform_of_finder hj hf hr []
    have hlen : (r.bench f).workers.length = r.workerCount :=
      List.length_replicate.trans hcount
    obtain ⟨moves, hend, hraw⟩ := Bench.exists_moves hn hs hc ho hfollows hlen hrest
    have hclose : ((r.bench f).perform moves).close = (r.bench f).perform moves := by
      apply Bench.close_of_idle _ (Or.inl hend.queue)
      intro task ht
      cases task with
      | none => rfl
      | some held =>
        have hm : held.1 ∈ ((r.bench f).perform moves).heldJobs :=
          List.mem_map.mpr ⟨held, List.mem_filterMap.mpr ⟨_, ht, rfl⟩, rfl⟩
        exact absurd (hend.holding.mem_iff.mpr hm) List.not_mem_nil
    have hplain := Bench.plain_perform hn hfollows hs (plain_bench r f) moves
    obtain ⟨hcraw, hfresh⟩ := collected_of_plain hplain
    have hcompletes := completes_of_uncancelled hj hf hr
      (show ((r.bench f).perform moves).close.cancelled = false by
        rw [hclose]; exact hend.uncancelled)
    rw [hclose] at hcompletes
    exact ⟨moves, _, hcompletes, issues_eq_shown hfresh (hcraw.trans hraw)⟩

theorem flatMap_of_commute {α β : Type} {w : α → List β} {σ τ : List α} (h : σ.Perm τ)
    (hc : σ.Pairwise fun a b => w a ++ w b = w b ++ w a) : σ.flatMap w = τ.flatMap w := by
  have hsymm : ∀ {a b : α}, w a ++ w b = w b ++ w a → w b ++ w a = w a ++ w b := Eq.symm
  induction h with
  | nil => rfl
  | cons a _ ih => rw [List.flatMap_cons, List.flatMap_cons, ih (List.pairwise_cons.mp hc).2]
  | swap a b rest =>
    have hab := (List.pairwise_cons.mp hc).1 a List.mem_cons_self
    rw [List.flatMap_cons, List.flatMap_cons, List.flatMap_cons, List.flatMap_cons,
      ← List.append_assoc, hab, List.append_assoc]
  | trans hστ _ ihσ ihτ => exact (ihσ hc).trans (ihτ (hστ.pairwise hc hsymm))

theorem commute_of_equal {β : Type} {xs ys : List β} (h : ∀ x ∈ xs, ∀ y ∈ ys, x = y) :
    xs ++ ys = ys ++ xs := by
  cases xs with
  | nil => simp
  | cons x xs =>
    have hys : ys = List.replicate ys.length x :=
      List.eq_replicate_iff.mpr ⟨rfl, fun y hy => (h x List.mem_cons_self y hy).symm⟩
    cases ys with
    | nil => simp
    | cons y ys =>
      have hxs : x :: xs = List.replicate (x :: xs).length x := by
        apply List.eq_replicate_iff.mpr ⟨rfl, _⟩
        intro x' hx'
        rw [h x' hx' y List.mem_cons_self, h x List.mem_cons_self y List.mem_cons_self]
      rw [hxs, hys, List.replicate_append_replicate, List.replicate_append_replicate, Nat.add_comm]

/-- Issues of different jobs that share place, tool, code and column are equal, and paths of one
file have the same directives. -/
structure Untied (r : RunRequest) (f : Finder) (d : Disk) : Prop where
  equal : ∀ j ∈ r.jobs, ∀ k ∈ r.jobs, j.name ≠ k.name → ∀ x ∈ j.yield f r.disk,
    ∀ y ∈ k.yield f r.disk, Issue.cmpMerged x y = .eq → x = y
  spelled : Collector.SpelledAlike (.ofConfig r.config) d (r.jobs.flatMap (Job.yield f r.disk))

theorem shown_eq (order : List Job) : r.shown f d order =
    Issue.sortBy Issue.defaultOrder ((CleanSettings.ofConfig r.config).clean
      (Collector.ensureIndexes (.ofConfig r.config) d []
        (order.flatMap (Job.yield f r.disk))).get (order.flatMap (Job.yield f r.disk))) := by
  have hfresh := (Collector.fresh_create (.ofConfig r.config)).add
    (order.flatMap (Job.yield f r.disk))
  rw [shown, Collector.ofConfig, hfresh.issues]
  rfl

theorem Untied.orderFree (h : r.Untied f d) (hn : (r.jobs.map Job.name).Nodup) :
    r.OrderFree f d := by
  suffices hall : ∀ order : List Job, order.Perm r.jobs → r.shown f d order =
      r.shown f d r.jobs from fun σ τ hσ hτ => (hall σ hσ.perm).trans (hall τ hτ.perm).symm
  intro order ho
  have hkept : ∀ jobs : List Job, jobs.Perm r.jobs → r.shown f d jobs =
      Issue.sortBy Issue.defaultOrder ((CleanSettings.ofConfig r.config).merged
        ((jobs.flatMap (Job.yield f r.disk)).filter
          ((CleanSettings.ofConfig r.config).keeps
            (Collector.loadIndex (.ofConfig r.config) d)))) := by
    intro jobs hp
    have hmem : ∀ i ∈ jobs.flatMap (Job.yield f r.disk),
        i ∈ r.jobs.flatMap (Job.yield f r.disk) := fun i hi => (hp.flatMap_right _).mem_iff.mp hi
    rw [shown_eq, CleanSettings.clean]
    congr 2
    apply List.filter_congr
    intro i hi
    apply Collector.keeps_ensureIndexes (Collector.cachedFrom_nil _) _ hi
    intro x hx y hy
    exact h.spelled x (hmem x hx) y (hmem y hy)
  rw [hkept order ho, hkept r.jobs (List.Perm.refl _)]
  apply CleanSettings.sortBy_merged_congr _ fun i j => Issue.cmpMerged_of_default
  intro x
  rw [List.filter_flatMap, List.filter_flatMap, List.filter_flatMap, List.filter_flatMap]
  apply flatMap_of_commute ho
  have hnames : order.Pairwise fun j k => j.name ≠ k.name :=
    List.pairwise_map.mp ((ho.map Job.name).nodup_iff.mpr hn)
  apply hnames.imp_of_mem
  intro j k hj hk hne
  apply commute_of_equal
  intro y hy z hz
  obtain ⟨hy, hyx⟩ := List.mem_filter.mp hy
  obtain ⟨hz, hzx⟩ := List.mem_filter.mp hz
  apply h.equal j (ho.mem_iff.mp hj) k (ho.mem_iff.mp hk) hne y (List.mem_filter.mp hy).1 z
    (List.mem_filter.mp hz).1
  exact Std.TransCmp.eq_trans (Std.OrientedCmp.eq_symm (ties_iff.mp hyx)) (ties_iff.mp hzx)

structure ShowsReports (r : RunRequest) (f : Finder) : Prop where
  enabled : toolReportCode ∉ (CleanSettings.ofConfig r.config).disabled
  unscanned : (CleanSettings.ofConfig r.config).scans f.project = false

theorem keeps_report (h : r.ShowsReports f) (raw : List Issue) {i : Issue}
    (hi : i.isReportOn f.project = true) : (CleanSettings.ofConfig r.config).keeps
      (Collector.ensureIndexes (.ofConfig r.config) d [] raw).get i = true := by
  obtain ⟨hreport, hfile, -, -⟩ := Issue.isReportOn_iff.mp hi
  have hcode : i.code = some toolReportCode := by
    rw [Issue.isToolReport, Bool.and_eq_true, beq_iff_eq] at hreport
    exact hreport.2
  have hdisables : (CleanSettings.ofConfig r.config).disables i = false := by
    rw [CleanSettings.disables, hcode]
    simp [h.enabled]
  have hempty : (Collector.ensureIndexes (.ofConfig r.config) d [] raw).get i.filename =
      .empty := by
    rw [hfile]
    exact Collector.get_of_unscanned h.unscanned raw
  rw [CleanSettings.keeps, hdisables, hempty, SuppressionIndex.suppresses_empty]
  simp

theorem isReportOn_failureIssue (name : String) (project : Path) (failure : ToolFailure) :
    (Job.failureIssue name project failure).isReportOn project = true := by
  apply Issue.isReportOn_iff.mpr
  exact ⟨Issue.isToolReport_toolReport _ _ _ _, rfl, rfl, rfl⟩

def reportsOf (r : RunRequest) (f : Finder) (j : Job) : List Issue :=
  (j.yield f r.disk).filter (Issue.isReportOn f.project)

theorem reportsOf_failed {j : Job} {failure : ToolFailure}
    (h : (j.tool.execute f r.disk j.config).result = .error failure) :
    r.reportsOf f j = [Job.failureIssue j.name f.project failure] := by
  rw [reportsOf, Job.yield, Job.issues, h]
  exact List.filter_cons_of_pos (isReportOn_failureIssue j.name f.project failure)

theorem filter_shown (h : r.ShowsReports f) (order : List Job) :
    (r.shown f d order).filter (Issue.isReportOn f.project) = order.flatMap (r.reportsOf f) := by
  show _ = order.flatMap fun j => (j.yield f r.disk).filter (Issue.isReportOn f.project)
  rw [← List.filter_flatMap, shown_eq, CleanSettings.clean, Issue.filter_reports,
    List.filter_filter]
  apply List.filter_congr
  intro i _
  cases hi : i.isReportOn f.project with
  | false => rfl
  | true => rw [keeps_report h _ hi]; rfl

theorem eq_of_cons_eq_concat {α : Type} {x : α} {xs : List α} (h : x :: xs = xs ++ [x]) :
    ∀ y ∈ xs, y = x := by
  induction xs with
  | nil => simp
  | cons z xs ih =>
    obtain ⟨rfl, ht⟩ := List.cons.inj h
    intro y hy
    rcases List.mem_cons.mp hy with rfl | hy
    · rfl
    · exact ih ht y hy

/-- Two jobs that fail in different ways show in which order they finished. -/
theorem not_orderFree_of_failures (h : r.ShowsReports f) (hk : 1 < r.workerCount)
    {before mid after : List Job} {a b : Job} (hj : r.jobs = before ++ a :: (mid ++ b :: after))
    {x y : ToolFailure} (ha : (a.tool.execute f r.disk a.config).result = .error x)
    (hb : (b.tool.execute f r.disk b.config).result = .error y)
    (hne : Job.failureIssue a.name f.project x ≠ Job.failureIssue b.name f.project y) :
    ¬ r.OrderFree f d := by
  intro hfree
  have hfirst : Finishes r.workerCount [] r.jobs r.jobs := by
    have hs := Finishes.serve (show ([] : List Job).length < r.workerCount by simp; omega)
      Finishes.done r.jobs
    rw [List.append_nil] at hs
    exact hs
  -- One worker holds `a` until another one is done with `b`.
  have hsecond : Finishes r.workerCount [] r.jobs
      (before ++ ((mid ++ [b]) ++ (a :: (after ++ [])))) := by
    have hafter := Finishes.serve (show ([] : List Job).length < r.workerCount by simp; omega)
      Finishes.done after
    have hfinish := @Finishes.finish r.workerCount a [] [] _ _ hafter
    have hmid := Finishes.serve (show [a].length < r.workerCount from hk) hfinish (mid ++ [b])
    have htake := Finishes.take (show ([] : List Job).length < r.workerCount by simp; omega) hmid
    have hall := Finishes.serve (show ([] : List Job).length < r.workerCount by simp; omega)
      htake before
    rw [hj]
    simpa using hall
  have hreports := congrArg (List.filter (Issue.isReportOn f.project))
    (hfree _ _ hfirst hsecond)
  rw [filter_shown h, filter_shown h, hj] at hreports
  simp only [List.flatMap_append, List.flatMap_cons, List.flatMap_nil, List.append_nil,
    reportsOf_failed ha, reportsOf_failed hb] at hreports
  have hmiddle := List.append_cancel_left hreports
  have hcommute : Job.failureIssue a.name f.project x ::
      (mid.flatMap (r.reportsOf f) ++ [Job.failureIssue b.name f.project y]) =
      (mid.flatMap (r.reportsOf f) ++ [Job.failureIssue b.name f.project y]) ++
        [Job.failureIssue a.name f.project x] := by
    apply (List.append_left_inj (after.flatMap (r.reportsOf f))).mp
    simpa using hmiddle
  have hlast := eq_of_cons_eq_concat hcommute (Job.failureIssue b.name f.project y) (by simp)
  exact hne hlast.symm

theorem agree_of_orderFree (hn : (r.jobs.map Job.name).Nodup) (hs : ∀ j ∈ r.jobs, j.tool.Steady)
    (hf : Finder.create r.disk r.project r.config = .ok f) (h : r.OrderFree f d) : r.Agree d := by
  intro m n b c hb hc
  obtain ⟨σ, hσ, hbs⟩ := exists_order (d := d) hn hs hf hb
  obtain ⟨τ, hτ, hcs⟩ := exists_order (d := d) hn hs hf hc
  rw [hbs, hcs]
  exact h σ τ hσ hτ

theorem orderFree_of_agree (hn : (r.jobs.map Job.name).Nodup) (hs : ∀ j ∈ r.jobs, j.tool.Steady)
    (hc : ∀ j ∈ r.jobs, j.tool.NeverCancels)
    (hf : Finder.create r.disk r.project r.config = .ok f) (hr : r.refusals = {})
    (hstart : r.cancelled = false) (h : r.Agree d) : r.OrderFree f d := by
  intro σ τ hσ hτ
  obtain ⟨m, b, hb, hbs⟩ := exists_schedule (d := d) hn hs hc hf hr hstart hσ
  obtain ⟨n, c, hc, hcs⟩ := exists_schedule (d := d) hn hs hc hf hr hstart hτ
  rw [← hbs, ← hcs]
  exact h m n b c hb hc

/-- How the agreement of complete schedules depends on the tools. -/
structure Agreement (r : RunRequest) (f : Finder) (d : Disk) : Prop where
  enough : r.OrderFree f d → r.Agree d
  needed : r.refusals = {} → r.cancelled = false → (∀ j ∈ r.jobs, j.tool.NeverCancels) →
    r.Agree d → r.OrderFree f d
  untied : r.Untied f d → r.OrderFree f d
  failures : r.ShowsReports f → 1 < r.workerCount → ∀ before mid after a b x y,
    r.jobs = before ++ a :: (mid ++ b :: after) →
    (a.tool.execute f r.disk a.config).result = .error x →
    (b.tool.execute f r.disk b.config).result = .error y →
    Job.failureIssue a.name f.project x ≠ Job.failureIssue b.name f.project y →
    ¬ r.OrderFree f d

/-- Complete schedules of steady tools show the same exactly when every order does in which the
workers can finish the jobs. -/
theorem agreement_perform (tools : List Tool) (r : RunRequest) (f : Finder) (d : Disk)
    (hr : r.registry = .ofList tools) (hs : ∀ t ∈ tools, t.Steady)
    (hf : Finder.create r.disk r.project r.config = .ok f) : Agreement r f d := by
  have hn : (r.jobs.map Job.name).Nodup := by
    rw [jobs, hr]
    exact (ToolRegistry.sound_ofList tools).nodup_jobs r.config
  have hjobs : ∀ j ∈ r.jobs, j.tool.Steady := by
    intro j hj
    rw [jobs, hr] at hj
    exact hs j.tool (ToolRegistry.tool_of_mem_jobs hj)
  exact {
    enough := agree_of_orderFree hn hjobs hf
    needed := fun hr hstart hc => orderFree_of_agree hn hjobs hc hf hr hstart
    untied := fun h => h.orderFree hn
    failures := fun h hk _ _ _ _ _ _ _ hj ha hb hne =>
      not_orderFree_of_failures h hk hj ha hb hne }

theorem steady_fixed (name : String) (result : Except ToolFailure (List Issue)) :
    (Tool.fixed name result).Steady := ⟨fun _ _ _ _ => rfl, fun _ _ _ => rfl⟩

def crashingTools : List Tool :=
  [.fixed "broken" (.error (.crashed none)), .fixed "exploding" (.error (.crashed none))]

def crashes : RunRequest where
  registry := .ofList crashingTools
  config := { workers := 2 }
  disk := {}
  project := ⟨"/"⟩

theorem steady_crashingTools : ∀ t ∈ crashingTools, t.Steady := by
  intro t ht
  rcases List.mem_cons.mp ht with rfl | ht
  · exact steady_fixed "broken" _
  · rw [List.mem_singleton.mp ht]
    exact steady_fixed "exploding" _

theorem create_crashes :
    Finder.create crashes.disk crashes.project crashes.config = .ok .bare :=
  Finder.create_bare crashes.config rfl

theorem agreement_crashes : crashes.registry = .ofList crashingTools ∧
    (∀ t ∈ crashingTools, t.Steady) ∧
    Finder.create crashes.disk crashes.project crashes.config = .ok .bare ∧
    Agreement crashes .bare crashes.disk :=
  ⟨rfl, steady_crashingTools, create_crashes,
    agreement_perform crashingTools crashes .bare crashes.disk rfl steady_crashingTools
      create_crashes⟩

def overtaking : List Bench.Move := Bench.serve 0 ++ Bench.serve 1 ++ [.advance 1]

theorem nodup_crashes : (crashes.jobs.map Job.name).Nodup := by decide

theorem steady_crashes : ∀ j ∈ crashes.jobs, j.tool.Steady := by
  intro j hj
  have hj : j ∈ Job.ofRegistry (.ofList crashingTools) crashes.config := hj
  exact steady_crashingTools j.tool (ToolRegistry.tool_of_mem_jobs hj)

theorem showsReports_crashes : crashes.ShowsReports .bare :=
  ⟨by decide, by decide⟩

/-- The order in which two tools crash is the order of their reports. -/
theorem not_agree_crashes : crashes.registry = .ofList crashingTools ∧
    (∀ t ∈ crashingTools, t.Steady) ∧ ∃ b c, crashes.Completes [] b ∧
      crashes.Completes overtaking c ∧
      (b.issues crashes.disk Issue.defaultOrder).1 ≠
        (c.issues crashes.disk Issue.defaultOrder).1 := by
  have hjobs : crashes.jobs ≠ [] := List.isEmpty_eq_false_iff.mp rfl
  have hfirst := completes_of_uncancelled hjobs create_crashes rfl
    (show ((crashes.bench .bare).perform []).close.cancelled = false by decide)
  have hsecond := completes_of_uncancelled hjobs create_crashes rfl
    (show ((crashes.bench .bare).perform overtaking).close.cancelled = false by decide)
  refine ⟨rfl, steady_crashingTools, _, _, hfirst, hsecond, ?_⟩
  obtain ⟨hraw, hfresh⟩ := collected_of_plain (plain_close nodup_crashes steady_crashes [])
  obtain ⟨hraw', hfresh'⟩ :=
    collected_of_plain (plain_close nodup_crashes steady_crashes overtaking)
  have horder : ((crashes.bench .bare).perform []).close.collector.raw =
      crashes.jobs.flatMap (Job.yield .bare crashes.disk) := by decide
  have horder' : ((crashes.bench .bare).perform overtaking).close.collector.raw =
      crashes.jobs.reverse.flatMap (Job.yield .bare crashes.disk) := by decide
  rw [issues_eq_shown hfresh (hraw.trans horder), issues_eq_shown hfresh' (hraw'.trans horder')]
  intro he
  have hreports := congrArg (List.filter (Issue.isReportOn Finder.bare.project)) he
  rw [filter_shown showsReports_crashes, filter_shown showsReports_crashes] at hreports
  have hne : crashes.jobs.flatMap (crashes.reportsOf .bare) ≠
      crashes.jobs.reverse.flatMap (crashes.reportsOf .bare) := by decide
  exact hne hreports

end RunRequest

end MetaLint
