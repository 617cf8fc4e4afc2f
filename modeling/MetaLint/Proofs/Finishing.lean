import MetaLint.Proofs.Standing

/-!
# The order in which jobs finish

Workers take jobs from the front of the queue and finish those they hold in any order. The raw
issues of a run whose tools are steady are those of the jobs in the order in which they finished,
and every order that the number of workers permits comes about.
-/

set_option autoImplicit false

namespace MetaLint

open Standing

/-- Whatever has been read before, the tool returns the same, and it writes nothing. -/
structure Tool.Steady (t : Tool) : Prop where
  same : ∀ f d c contents, (t.execute { f with contents } d c).result = (t.execute f d c).result
  silent : ∀ f d c, (t.execute f d c).written = []

def Tool.NeverCancels (t : Tool) : Prop := ∀ f d c, (t.execute f d c).cancels = false

def Job.yield (f : Finder) (d : Disk) (j : Job) : List Issue :=
  j.issues f.project (j.tool.execute f d j.config)

/-- The orders in which `k` workers can finish the jobs they hold and those in the queue. -/
inductive Finishes (k : Nat) : List Job → List Job → List Job → Prop
  | done : Finishes k [] [] []
  | take {j : Job} {held queue order : List Job} :
    held.length < k → Finishes k (j :: held) queue order → Finishes k held (j :: queue) order
  | finish {j : Job} {before after queue order : List Job} :
    Finishes k (before ++ after) queue order →
    Finishes k (before ++ j :: after) queue (j :: order)

theorem Finishes.perm {k : Nat} {held queue order : List Job} (h : Finishes k held queue order) :
    order.Perm (held ++ queue) := by
  induction h with
  | done => exact List.Perm.refl []
  | take _ _ ih => exact ih.trans List.perm_middle.symm
  | finish _ ih =>
    rw [List.append_assoc] at ih ⊢
    exact (ih.cons _).trans List.perm_middle.symm

/-- A worker that is free does the next jobs while the others keep theirs. -/
theorem Finishes.serve {k : Nat} {held queue order : List Job} (h : held.length < k)
    (ho : Finishes k held queue order) (jobs : List Job) :
    Finishes k held (jobs ++ queue) (jobs ++ order) := by
  induction jobs with
  | nil => exact ho
  | cons j jobs ih => exact Finishes.take h (@Finishes.finish k j [] held _ _ ih)

namespace Bench

variable {jobs : List Job} {f : Finder} {d : Disk} {roster : List (Job × Standing)} {b : Bench}

theorem yield_of_genuine {x : Job × ToolRun} (h : Genuine f d x) (hs : x.1.tool.Steady) :
    x.1.issues f.project x.2 = x.1.yield f d := by
  obtain ⟨contents, hx⟩ := h
  rw [Job.yield, Job.issues, Job.issues, hx, hs.same]

theorem Follows.mem_jobs (h : Follows jobs f d roster b) {w : Nat} {j : Job} {phase : Phase}
    (hw : b.worker? w = some (j, phase)) : j ∈ jobs := by
  obtain ⟨pre, post, he⟩ := h.exists_held hw
  rw [← h.roll, he]
  simp

theorem Follows.yield_of_finished (h : Follows jobs f d roster b)
    (hs : ∀ j ∈ jobs, j.tool.Steady) {w : Nat} {j : Job} {run : ToolRun}
    (hw : b.worker? w = some (j, .finished run)) : j.issues f.project run = j.yield f d := by
  obtain ⟨pre, post, he⟩ := h.exists_held hw
  have hx : (j, run) ∈ b.executed := by
    apply h.executed.mem_iff.mpr
    rw [he]
    exact List.mem_filterMap.mpr ⟨(j, .held (.finished run)), by simp, rfl⟩
  exact yield_of_genuine (h.genuine _ hx) (hs j (h.mem_jobs hw))

def heldJobs (b : Bench) : List Job := (b.workers.filterMap id).map Prod.fst

theorem heldJobs_set {w : Nat} {old : Option (Job × Phase)} (h : b.workers[w]? = some old)
    {c : Bench} {new : Option (Job × Phase)} (hc : c.workers = b.workers.set w new) :
    ∃ rest, b.heldJobs.Perm ((old.map Prod.fst).toList ++ rest) ∧
      c.heldJobs.Perm ((new.map Prod.fst).toList ++ rest) := by
  obtain ⟨rest, ho, hn⟩ := filterMap_set h new
  have hmap : ∀ task : Option (Job × Phase), (task.toList ++ rest).map Prod.fst =
      (task.map Prod.fst).toList ++ rest.map Prod.fst := by
    intro task
    cases task <;> rfl
  refine ⟨rest.map Prod.fst, ?_, ?_⟩
  · rw [heldJobs, ← hmap]
    exact ho.map Prod.fst
  · rw [heldJobs, hc, ← hmap]
    exact hn.map Prod.fst

theorem cancelled_step {m : Move} (h : (b.step m).cancelled = false) : b.cancelled = false := by
  cases m with
  | cancel => exact absurd h Bool.noConfusion
  | receive w =>
    rw [step, receive] at h
    split at h <;> exact h
  | advance w =>
    rw [step, advance] at h
    cases hw : b.worker? w with
    | none => simpa [hw] using h
    | some task =>
      obtain ⟨j, phase⟩ := task
      rw [hw] at h
      cases phase with
      | started => exact (Bool.or_eq_false_iff.mp h).1
      | received => exact h
      | accepted => exact h
      | executed run => exact h
      | finished run => exact h

theorem cancelled_perform {moves : List Move} (h : (b.perform moves).cancelled = false) :
    b.cancelled = false := by
  induction moves generalizing b with
  | nil => exact h
  | cons m moves ih => exact cancelled_step (ih h)

/-! ## Every schedule finishes the jobs in a permitted order -/

/-- The finished jobs and the held ones account for the raw issues. -/
structure InOrder (jobs : List Job) (f : Finder) (d : Disk) (held finished : List Job) (b : Bench) :
    Prop where
  holding : held.Perm b.heldJobs
  raw : b.collector.raw = finished.flatMap (Job.yield f d)
  future : ∀ order, Finishes b.workers.length held b.queue order →
    Finishes b.workers.length [] jobs (finished ++ order)

theorem next_cases (b : Bench) (j : Job) (phase : Phase) : b.next j phase = .skipped ∨
    (∃ later, b.next j phase = .held later ∧ left f.project (j, .held later) = []) ∨
      ∃ run, phase = .finished run ∧ b.next j phase = .done run := by
  cases phase with
  | received =>
    rw [next]
    cases b.cancelled with
    | true => exact Or.inl rfl
    | false => exact Or.inr (Or.inl ⟨_, rfl, rfl⟩)
  | accepted => exact Or.inr (Or.inl ⟨_, rfl, rfl⟩)
  | started => exact Or.inr (Or.inl ⟨_, rfl, rfl⟩)
  | executed run => exact Or.inr (Or.inl ⟨_, rfl, rfl⟩)
  | finished run => exact Or.inr (Or.inr ⟨run, rfl, rfl⟩)

theorem workers_advanceJob (b : Bench) (w : Nat) (j : Job) (phase : Phase) :
    (b.advanceJob w j phase).workers = b.workers.set w (held? (j, b.next j phase)) := by
  cases phase with
  | received =>
    rw [next]
    cases hb : b.cancelled <;> simp [advanceJob, assign, hb, held?]
  | accepted => rfl
  | started => rfl
  | executed run => rfl
  | finished run => rfl

theorem inOrder_advance (h : Follows jobs f d roster b) (hs : ∀ j ∈ jobs, j.tool.Steady)
    {held finished : List Job} (hi : InOrder jobs f d held finished b) {w : Nat} {j : Job}
    {phase : Phase} (hw : b.worker? w = some (j, phase))
    (hc : (b.advanceJob w j phase).cancelled = false) :
    ∃ held' finished', InOrder jobs f d held' finished' (b.advanceJob w j phase) := by
  have hshift := shift_advance h hw
  have hset := b.workers_advanceJob w j phase
  have hqueue := b.queue_advanceJob w j phase
  have hlen : (b.advanceJob w j phase).workers.length = b.workers.length := by
    rw [hset, List.length_set]
  obtain ⟨rest, hold, hnew⟩ := heldJobs_set (worker?_eq_some hw) hset
  obtain ⟨new, hleft, hraw⟩ := hshift.raw
  rcases next_cases b j phase with hn | ⟨later, hn, hnil⟩ | ⟨run, hphase, hn⟩
  · exact absurd hn (hshift.cancelled hc).2
  · rw [hn] at hleft hnew
    refine ⟨held, finished, ?_, ?_, ?_⟩
    · exact hi.holding.trans (hold.trans hnew.symm)
    · have hnone : new = [] := (List.append_eq_nil_iff.mp (hleft.symm.trans hnil)).2
      rw [hraw, hnone, List.append_nil, hi.raw]
    · rw [hlen, hqueue]
      exact hi.future
  · rw [hn] at hleft hnew
    subst hphase
    have hyield : new = j.yield f d := by
      rw [← h.yield_of_finished hs hw]
      exact hleft.symm
    have hmem : j ∈ held := by
      apply (hi.holding.trans hold).mem_iff.mpr
      exact List.mem_cons_self
    obtain ⟨before, after, hsplit⟩ := List.append_of_mem hmem
    refine ⟨before ++ after, finished ++ [j], ?_, ?_, ?_⟩
    · have hp := (hi.holding.trans hold)
      rw [hsplit] at hp
      exact ((List.perm_cons j).mp (List.perm_middle.symm.trans hp)).trans hnew.symm
    · rw [hraw, hyield, hi.raw, List.flatMap_append, List.flatMap_singleton]
    · rw [hlen, hqueue]
      intro order ho
      rw [List.append_assoc]
      apply hi.future
      rw [hsplit]
      exact ho.finish

theorem length_heldJobs_lt {w : Nat} (h : b.workers[w]? = some none) :
    b.heldJobs.length < b.workers.length := by
  rw [heldJobs, List.length_map]
  exact List.length_filterMap_lt_length_iff_exists.mpr ⟨none, List.mem_of_getElem? h, rfl⟩

theorem inOrder_receive {held finished : List Job} (hi : InOrder jobs f d held finished b)
    (w : Nat) : ∃ held' finished', InOrder jobs f d held' finished' (b.receive w) := by
  rw [receive]
  split
  next j queue hw hq =>
    obtain ⟨rest, hold, hnew⟩ := heldJobs_set hw
      (c := { b.assign w (some (j, .received)) with queue }) rfl
    refine ⟨j :: held, finished, ?_, hi.raw, ?_⟩
    · exact ((hi.holding.trans hold).cons j).trans hnew.symm
    · have hlen : (b.assign w (some (j, .received))).workers.length = b.workers.length :=
        List.length_set
      intro order ho
      show Finishes (b.assign w (some (j, .received))).workers.length [] jobs (finished ++ order)
      have ho : Finishes (b.assign w (some (j, .received))).workers.length (j :: held) queue
        order := ho
      rw [hlen] at ho ⊢
      apply hi.future
      rw [hq]
      apply Finishes.take _ ho
      rw [hi.holding.length_eq]
      exact length_heldJobs_lt hw
  next => exact ⟨held, finished, hi⟩

theorem inOrder_step (h : Follows jobs f d roster b) (hs : ∀ j ∈ jobs, j.tool.Steady)
    {held finished : List Job} (hi : InOrder jobs f d held finished b) {m : Move}
    (hc : (b.step m).cancelled = false) :
    ∃ held' finished', InOrder jobs f d held' finished' (b.step m) := by
  cases m with
  | receive w => exact inOrder_receive hi w
  | cancel => exact ⟨held, finished, hi.holding, hi.raw, hi.future⟩
  | advance w =>
    rw [step, advance] at hc ⊢
    cases hw : b.worker? w with
    | none => exact ⟨held, finished, hi⟩
    | some task =>
      obtain ⟨j, phase⟩ := task
      rw [hw] at hc
      exact inOrder_advance h hs hi hw hc

theorem inOrder_perform (hn : (jobs.map Job.name).Nodup) (h : Follows jobs f d roster b)
    (hs : ∀ j ∈ jobs, j.tool.Steady) {held finished : List Job}
    (hi : InOrder jobs f d held finished b) {moves : List Move}
    (hc : (b.perform moves).cancelled = false) :
    ∃ held' finished', InOrder jobs f d held' finished' (b.perform moves) := by
  induction moves generalizing b roster held finished with
  | nil => exact ⟨held, finished, hi⟩
  | cons m moves ih =>
    obtain ⟨_, hm⟩ := follows_step hn h m
    obtain ⟨_, _, him⟩ := inOrder_step h hs hi (cancelled_perform hc)
    exact ih hm him hc

/-! ## Every permitted order comes about -/

structure Resting (held queue : List Job) (b : Bench) : Prop where
  uncancelled : b.cancelled = false
  queue : b.queue = queue
  holding : held.Perm b.heldJobs
  ready : ∀ task ∈ b.workers.filterMap id, ∃ run, task.2 = .finished run

theorem advance_eq {w : Nat} {j : Job} {phase : Phase}
    (h : b.workers[w]? = some (some (j, phase))) :
    b.advance w = b.advanceJob w j phase := by
  rw [advance, worker?, h]
  rfl

def serve (w : Nat) : List Move :=
  [.receive w, .advance w, .advance w, .advance w, .advance w]

theorem perform_serve {w : Nat} {j : Job} {rest : List Job} (hw : b.workers[w]? = some none)
    (hq : b.queue = j :: rest) (hc : b.cancelled = false) (hn : j.tool.NeverCancels) :
    (b.perform (serve w)).workers =
        b.workers.set w (some (j, .finished (j.tool.execute b.finder b.disk j.config))) ∧
      (b.perform (serve w)).queue = rest ∧ (b.perform (serve w)).cancelled = false ∧
      (b.perform (serve w)).collector = b.collector := by
  have hlt : w < b.workers.length := (List.getElem?_eq_some_iff.mp hw).1
  let run := j.tool.execute b.finder b.disk j.config
  let received : Bench := { b.assign w (some (j, .received)) with queue := rest }
  let accepted := received.assign w (some (j, .accepted))
  let started := (accepted.emit (.toolStart j.name)).assign w (some (j, .started))
  let executed := (started.execute j run).assign w (some (j, .executed run))
  have hreceived : b.receive w = received := by rw [receive, hw, hq]
  have hw₁ : received.workers[w]? = some (some (j, .received)) := List.getElem?_set_self hlt
  have hlt₁ : w < received.workers.length := (List.getElem?_eq_some_iff.mp hw₁).1
  have haccepted : received.advance w = accepted := by
    rw [advance_eq hw₁, advanceJob, show received.cancelled = false from hc]
    rfl
  have hw₂ : accepted.workers[w]? = some (some (j, .accepted)) := List.getElem?_set_self hlt₁
  have hlt₂ : w < accepted.workers.length := (List.getElem?_eq_some_iff.mp hw₂).1
  have hstarted : accepted.advance w = started := advance_eq hw₂
  have hw₃ : started.workers[w]? = some (some (j, .started)) := List.getElem?_set_self hlt₂
  have hlt₃ : w < started.workers.length := (List.getElem?_eq_some_iff.mp hw₃).1
  have hexecuted : started.advance w = executed := advance_eq hw₃
  have hw₄ : executed.workers[w]? = some (some (j, .executed run)) := List.getElem?_set_self hlt₃
  have hfinished : executed.advance w =
      (executed.emit (.toolFinish j.name)).assign w (some (j, .finished run)) := advance_eq hw₄
  have hall : b.perform (serve w) =
      (executed.emit (.toolFinish j.name)).assign w (some (j, .finished run)) := by
    show ((((b.receive w).advance w).advance w).advance w).advance w = _
    rw [hreceived, haccepted, hstarted, hexecuted, hfinished]
  rw [hall]
  refine ⟨?_, rfl, ?_, rfl⟩
  · simp [executed, started, accepted, received, assign, emit, execute, run]
  · show (b.cancelled || run.cancels) = false
    rw [hc, hn]
    rfl

theorem exists_idle {held : List Job} (hh : held.Perm b.heldJobs)
    (hlt : held.length < b.workers.length) : ∃ w : Nat, b.workers[w]? = some none := by
  rw [hh.length_eq, heldJobs, List.length_map] at hlt
  obtain ⟨task, ht, hnone⟩ := List.length_filterMap_lt_length_iff_exists.mp hlt
  have hnone : task = none := hnone
  rw [hnone] at ht
  exact List.getElem?_of_mem ht

theorem mem_of_mem_set {w : Nat} {new : Option (Job × Phase)} {task : Job × Phase}
    (h : task ∈ (b.workers.set w new).filterMap id) :
    task ∈ b.workers.filterMap id ∨ some task = new := by
  obtain ⟨t, ht, he⟩ := List.mem_filterMap.mp h
  have he : t = some task := he
  rw [he] at ht
  rcases List.mem_or_eq_of_mem_set ht with ht | ht
  · exact Or.inl (List.mem_filterMap.mpr ⟨some task, ht, rfl⟩)
  · exact Or.inr ht

theorem resting_take {held rest : List Job} {j : Job} (hr : Resting held (j :: rest) b)
    (hlt : held.length < b.workers.length) (hn : j.tool.NeverCancels) :
    ∃ w, Resting (j :: held) rest (b.perform (serve w)) ∧
      (b.perform (serve w)).collector = b.collector := by
  obtain ⟨w, hw⟩ := exists_idle hr.holding hlt
  obtain ⟨hset, hqueue, hc, hcol⟩ := perform_serve hw hr.queue hr.uncancelled hn
  obtain ⟨others, hold, hnew⟩ := heldJobs_set hw hset
  refine ⟨w, ⟨hc, hqueue, ?_, ?_⟩, hcol⟩
  · exact ((hr.holding.trans hold).cons j).trans hnew.symm
  · rw [hset]
    intro task ht
    rcases mem_of_mem_set ht with ht | ht
    · exact hr.ready task ht
    · obtain rfl := Option.some.inj ht
      exact ⟨_, rfl⟩

theorem resting_finish (h : Follows jobs f d roster b) (hs : ∀ j ∈ jobs, j.tool.Steady)
    {before after queue : List Job} {j : Job} (hr : Resting (before ++ j :: after) queue b) :
    ∃ w, Resting (before ++ after) queue (b.step (.advance w)) ∧
      (b.step (.advance w)).collector.raw = b.collector.raw ++ j.yield f d := by
  have hmem : j ∈ b.heldJobs := hr.holding.mem_iff.mp (by simp)
  obtain ⟨⟨k, phase⟩, htask, hkj⟩ := List.mem_map.mp hmem
  obtain rfl : k = j := hkj
  obtain ⟨run, hphase⟩ := hr.ready _ htask
  obtain rfl : phase = .finished run := hphase
  obtain ⟨task, ht, he⟩ := List.mem_filterMap.mp htask
  obtain rfl : task = some (k, .finished run) := he
  obtain ⟨w, hw⟩ := List.getElem?_of_mem ht
  have hworker : b.worker? w = some (k, .finished run) := by rw [worker?, hw]; rfl
  have hstep : b.step (.advance w) = b.advanceJob w k (.finished run) := advance_eq hw
  obtain ⟨others, hold, hnew⟩ := heldJobs_set hw
    (show (b.advanceJob w k (.finished run)).workers = b.workers.set w none from rfl)
  obtain ⟨new, hleft, hraw⟩ := (shift_advance h hworker).raw
  have hyield : new = k.yield f d := by
    rw [← h.yield_of_finished hs hworker]
    exact hleft.symm
  refine ⟨w, ?_⟩
  rw [hstep]
  refine ⟨⟨hr.uncancelled, hr.queue, ?_, ?_⟩, ?_⟩
  · have hp := List.perm_middle.symm.trans (hr.holding.trans hold)
    exact ((List.perm_cons k).mp hp).trans hnew.symm
  · intro task ht
    rcases mem_of_mem_set ht with ht | ht
    · exact hr.ready task ht
    · contradiction
  · rw [hraw, hyield]

theorem exists_moves (hn : (jobs.map Job.name).Nodup) (hs : ∀ j ∈ jobs, j.tool.Steady)
    (hc : ∀ j ∈ jobs, j.tool.NeverCancels) {k : Nat} {held queue order : List Job}
    (ho : Finishes k held queue order) (h : Follows jobs f d roster b)
    (hk : b.workers.length = k) (hr : Resting held queue b) :
    ∃ moves, Resting [] [] (b.perform moves) ∧
      (b.perform moves).collector.raw = b.collector.raw ++ order.flatMap (Job.yield f d) := by
  -- On the way every held job is executed, so that handing in its issues ends it.
  induction ho generalizing b roster with
  | done => exact ⟨[], hr, (List.append_nil _).symm⟩
  | @take j held queue order hlt ho ih =>
    have hj : j ∈ jobs := by
      have hm : j ∈ roster.filterMap waiting? := by
        rw [← h.queue, hr.queue]
        exact List.mem_cons_self
      obtain ⟨x, hx, he⟩ := List.mem_filterMap.mp hm
      rw [waiting?_eq_some he] at hx
      rw [← h.roll]
      exact List.mem_map.mpr ⟨_, hx, rfl⟩
    rw [← hk] at hlt
    obtain ⟨w, hrest, hcol⟩ := resting_take hr hlt (hc j hj)
    obtain ⟨_, hfollows⟩ := follows_perform hn h (serve w)
    have hlen := (length_workers_perform b (serve w)).trans hk
    obtain ⟨moves, hend, hraw⟩ := ih hfollows hlen hrest
    refine ⟨serve w ++ moves, ?_, ?_⟩
    · rw [perform_append]
      exact hend
    · rw [perform_append, hraw, hcol]
  | @finish j before after queue order ho ih =>
    obtain ⟨w, hrest, hcol⟩ := resting_finish h hs hr
    obtain ⟨_, hfollows⟩ := follows_step hn h (.advance w)
    have hlen := (length_workers_step b (.advance w)).trans hk
    obtain ⟨moves, hend, hraw⟩ := ih hfollows hlen hrest
    refine ⟨.advance w :: moves, hend, ?_⟩
    show ((b.step (.advance w)).perform moves).collector.raw = _
    rw [hraw, hcol, List.flatMap_cons, List.append_assoc]

end Bench

end MetaLint
