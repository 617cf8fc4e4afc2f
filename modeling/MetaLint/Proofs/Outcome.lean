import MetaLint.Proofs.Accounting
import MetaLint.Proofs.Cleaning
import MetaLint.Proofs.Location

/-!
# What a run has collected

A run that came to a collector leaves it unread. Its raw issues are those of the executed jobs, and
the reports on what these wrote to the streams, all of them about the one canonical path of the
project. Unless the run was marked as failed, all jobs were executed.
-/

set_option autoImplicit false

namespace MetaLint

open Standing

/-! ## The project of a finder -/

theorem Finder.project_create {d : Disk} {p : Path} {c : Config} {f : Finder}
    (h : Finder.create d p c = .ok f) : ∃ l, d.trace p = .ok l ∧ f.project = Disk.pathOf l := by
  rw [create] at h
  cases ht : d.trace p with
  | error fault => simp [ht, Error.lift, bind, Except.bind] at h
  | ok l =>
    refine ⟨l, rfl, ?_⟩
    cases hx : compilePatterns c.exclude with
    | error e => simp [ht, hx, Error.lift, bind, Except.bind] at h
    | ok excludes =>
      simp only [ht, hx, Error.lift, bind, Except.bind, pure, Except.pure] at h
      split at h <;> rw [← Except.ok.inj h]

theorem Finder.canonical_create {d : Disk} {p : Path} {c : Config} {f : Finder}
    (h : Finder.create d p c = .ok f) : d.canonical p = .ok f.project := by
  obtain ⟨l, ht, hp⟩ := project_create h
  rw [Disk.canonical, ht, hp]
  rfl

namespace Bench

/-- All that was written was written by the executed jobs, and nobody has read the collector. -/
structure Unread (s : CleanSettings) (streams : Streams) (b : Bench) : Prop where
  fresh : Collector.Fresh s b.collector
  unfailed : b.collector.failed = false
  streams : b.streams = (b.executed.flatMap fun x => x.2.written).foldl Streams.write streams

section Unread
variable {s : CleanSettings} {streams : Streams} {b : Bench}

theorem unread_step (h : Unread s streams b) (m : Move) : Unread s streams (b.step m) := by
  cases m with
  | cancel => exact ⟨h.fresh, h.unfailed, h.streams⟩
  | receive w =>
    rw [step, receive]
    split
    · exact ⟨h.fresh, h.unfailed, h.streams⟩
    · exact h
  | advance w =>
    rw [step, advance]
    cases b.worker? w with
    | none => exact h
    | some task =>
      obtain ⟨j, phase⟩ := task
      cases phase with
      | received => exact ⟨h.fresh, h.unfailed, h.streams⟩
      | accepted => exact ⟨h.fresh, h.unfailed, h.streams⟩
      | started =>
        refine ⟨h.fresh, h.unfailed, ?_⟩
        simp [advanceJob, assign, execute, h.streams]
      | executed run => exact ⟨h.fresh, h.unfailed, h.streams⟩
      | finished run => exact ⟨h.fresh.add _, h.unfailed, h.streams⟩

theorem unread_perform (h : Unread s streams b) (moves : List Move) :
    Unread s streams (b.perform moves) := by
  induction moves generalizing b with
  | nil => exact h
  | cons m moves ih => exact ih (unread_step h m)

end Unread

end Bench

namespace RunEnd

def written (e : RunEnd) : List StreamWrite := e.executed.flatMap fun x => x.2.written

end RunEnd

namespace RunRequest

def strays (r : RunRequest) (project : Path) (e : RunEnd) : List Issue :=
  if r.captures && !r.refusals.readBack then strayIssues project (Streams.capture e.written) else []

theorem strays_of_silent {r : RunRequest} {project : Path} {e : RunEnd} (h : e.written = []) :
    r.strays project e = [] := by
  rw [strays, h]
  split
  · exact strayIssues_silent project
  · rfl

end RunRequest

/-- What a run on `project` has collected that came to `c`. -/
structure Outcome (r : RunRequest) (project : Path) (e : RunEnd) (c : Collector) : Prop where
  fresh : Collector.Fresh (.ofConfig r.config) c
  raw : c.raw.Perm ((e.executed.flatMap fun x => x.1.issues project x.2) ++ r.strays project e)
  complete : c.failed = false → (e.executed.map Prod.fst).Perm r.jobs
  once : (e.executed.map fun x => x.1.name).Nodup
  genuine : ∀ x ∈ e.executed, x.1 ∈ r.jobs ∧
    ∃ f, x.2 = x.1.tool.execute f r.disk x.1.config

namespace RunRequest

variable {r : RunRequest}

theorem unread_bench (r : RunRequest) (f : Finder) :
    Bench.Unread (.ofConfig r.config) (r.bench f).streams (r.bench f) :=
  ⟨Collector.fresh_create _, rfl, rfl⟩

theorem collected_of_unread {f : Finder} {b : Bench} (hf : b.finder.project = f.project)
    (hu : Bench.Unread (.ofConfig r.config) (r.bench f).streams b) :
    Collector.Fresh (.ofConfig r.config) (r.collected b) ∧
      (r.collected b).raw = b.collector.raw ++ r.strays f.project (r.conclude b) ∧
      (r.collected b).failed = b.cancelled := by
  have hmarked : ∀ c : Collector, Collector.Fresh (.ofConfig r.config) c → c.failed = false →
      Collector.Fresh (.ofConfig r.config) (if b.cancelled then c.markFailed else c) ∧
        (if b.cancelled then c.markFailed else c).raw = c.raw ∧
        (if b.cancelled then c.markFailed else c).failed = b.cancelled := by
    intro c hc hfailed
    cases b.cancelled with
    | true => exact ⟨⟨hc.settings, hc.cleaned, hc.directives⟩, rfl, rfl⟩
    | false => exact ⟨hc, rfl, hfailed⟩
  rw [collected, strays]
  cases hcap : r.captures && !r.refusals.readBack with
  | false =>
    obtain ⟨hfresh, hraw, hfailed⟩ := hmarked _ hu.fresh hu.unfailed
    exact ⟨hfresh, hraw.trans (List.append_nil _).symm, hfailed⟩
  | true =>
    have hstart : (r.bench f).streams = Streams.start {} := by
      rw [bench, (Bool.and_eq_true_iff.mp hcap).1]
      rfl
    have hcaptured : b.streams.stop.captured 0 = Streams.capture (r.conclude b).written := by
      rw [hu.streams, hstart]
      rfl
    rw [hf, hcaptured]
    exact hmarked _ (hu.fresh.add _) hu.unfailed

theorem outcome_conclude {f : Finder} {roster : List (Job × Standing)} {b : Bench}
    (hn : (r.jobs.map Job.name).Nodup) (h : Bench.Follows r.jobs f r.disk roster b)
    (he : Bench.Ended roster)
    (hu : Bench.Unread (.ofConfig r.config) (r.bench f).streams b) :
    Outcome r f.project (r.conclude b) (r.collected b) := by
  obtain ⟨contents, hf⟩ := h.finder
  obtain ⟨hfresh, hraw, hfailed⟩ := collected_of_unread (by rw [hf]) hu
  refine ⟨hfresh, ?_, ?_, Bench.nodup_executed hn h, ?_⟩
  · have hleft := h.raw
    rw [Bench.flatMap_left he] at hleft
    rw [hraw]
    exact (hleft.trans (h.executed.symm.flatMap_right _)).append_right _
  · intro hc
    exact Bench.perm_executed h he (hfailed.symm.trans hc)
  · intro x hx
    obtain ⟨read, hrun⟩ := h.genuine x hx
    refine ⟨?_, _, hrun⟩
    rw [← h.roll]
    exact List.mem_map.mpr ⟨_, (Bench.mem_executed h he).mp hx, rfl⟩

/-- What every run has collected that came to a collector. -/
theorem outcome_perform {project : Path} {moves : List Bench.Move} {c : Collector}
    (hn : (r.jobs.map Job.name).Nodup) (hp : r.disk.canonical r.project = .ok project)
    (hc : (r.perform moves).result = .ok c) : Outcome r project (r.perform moves) c := by
  by_cases hj : r.jobs = []
  · rw [perform_of_no_jobs hj] at hc ⊢
    obtain rfl := Except.ok.inj hc
    refine ⟨Collector.fresh_create _, ?_, by simp [hj], by simp, by simp⟩
    rw [strays_of_silent rfl]
    exact List.Perm.refl _
  · obtain ⟨f, hf, hcount, he, rfl⟩ := perform_eq_conclude hj hc
    obtain rfl := Except.ok.inj (hp.symm.trans (Finder.canonical_create hf))
    have hpos : 0 < r.startedWorkers := by
      have hjobs := List.length_pos_iff.mpr hj
      rw [hcount, workerCount]
      omega
    obtain ⟨roster, h, hended⟩ := r.exists_ended f moves hn hpos
    have hu := Bench.unread_perform (unread_bench r f)
      (moves ++ ((r.bench f).perform moves).closing)
    rw [← close_bench] at hu
    rw [he]
    exact outcome_conclude hn h hended hu

end RunRequest

end MetaLint
