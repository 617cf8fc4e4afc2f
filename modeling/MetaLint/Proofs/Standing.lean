import MetaLint.Proofs.Closing

/-!
# Where the jobs stand

At any time each job waits, is with a worker, is done, or was skipped. A roster of the jobs with
their standings accounts for the queue, the workers, the executions, the raw issues and the events;
every move changes the standing of one job at most.
-/

set_option autoImplicit false

namespace MetaLint

def RunEvent.concerns (name : String) : RunEvent → Bool
  | .toolStart tool => tool == name
  | .toolFinish tool => tool == name
  | .start => false
  | .finish => false

theorem RunEvent.concerns_unique {e : RunEvent} {name other : String}
    (h : e.concerns name = true) (ho : e.concerns other = true) : name = other := by
  cases e <;> simp_all [concerns]

/-- Where a job of a run stands. -/
inductive Standing
  | waiting
  | held (phase : Phase)
  | done (run : ToolRun)
  | skipped

namespace Standing

def waiting? : Job × Standing → Option Job
  | (j, .waiting) => some j
  | _ => none

def held? : Job × Standing → Option (Job × Phase)
  | (j, .held phase) => some (j, phase)
  | _ => none

def ran? : Job × Standing → Option (Job × ToolRun)
  | (j, .held (.executed run)) => some (j, run)
  | (j, .held (.finished run)) => some (j, run)
  | (j, .done run) => some (j, run)
  | _ => none

def left (project : Path) : Job × Standing → List Issue
  | (j, .done run) => j.issues project run
  | _ => []

def told : Job × Standing → List RunEvent
  | (j, .held .started) => [.toolStart j.name]
  | (j, .held (.executed _)) => [.toolStart j.name]
  | (j, .held (.finished _)) => [.toolStart j.name, .toolFinish j.name]
  | (j, .done _) => [.toolStart j.name, .toolFinish j.name]
  | _ => []

theorem waiting?_eq_some {x : Job × Standing} {j : Job} (h : waiting? x = some j) :
    x = (j, .waiting) := by
  obtain ⟨k, s⟩ := x
  cases s <;> simp_all [waiting?]

theorem held?_eq_some {x : Job × Standing} {j : Job} {phase : Phase}
    (h : held? x = some (j, phase)) : x = (j, .held phase) := by
  obtain ⟨k, s⟩ := x
  cases s <;> simp_all [held?]

end Standing

namespace Bench

open Standing

variable {jobs : List Job} {f : Finder} {d : Disk}

/-- The execution of a job with the files of `f` and `d`, whatever had been read by then. -/
def Genuine (f : Finder) (d : Disk) (x : Job × ToolRun) : Prop :=
  ∃ contents, x.2 = x.1.tool.execute { f with contents } d x.1.config

/-- The roster of the jobs accounts for the bench. -/
structure Follows (jobs : List Job) (f : Finder) (d : Disk) (roster : List (Job × Standing))
    (b : Bench) : Prop where
  roll : roster.map Prod.fst = jobs
  queue : b.queue = roster.filterMap waiting?
  workers : (roster.filterMap held?).Perm (b.workers.filterMap id)
  executed : b.executed.Perm (roster.filterMap ran?)
  raw : b.collector.raw.Perm (roster.flatMap (left f.project))
  events : ∀ x ∈ roster, b.events.filter (RunEvent.concerns x.1.name) = told x
  others : ∀ e ∈ b.events, e = .start ∨ ∃ j ∈ jobs, e.concerns j.name = true
  unskipped : b.cancelled = false → ∀ x ∈ roster, x.2 ≠ .skipped
  genuine : ∀ x ∈ b.executed, Genuine f d x
  finder : ∃ contents, b.finder = { f with contents }
  disk : b.disk = d

theorem filterMap_at {α β : Type} (g : α → Option β) (pre post : List α) (a : α) :
    ((pre ++ a :: post).filterMap g).Perm ((g a).toList ++ (pre ++ post).filterMap g) := by
  rw [List.filterMap_append, List.filterMap_append, List.filterMap_cons]
  cases g a with
  | none => exact List.Perm.refl _
  | some b => exact List.perm_middle

theorem flatMap_at {α β : Type} (g : α → List β) (pre post : List α) (a : α) :
    ((pre ++ a :: post).flatMap g).Perm (g a ++ (pre ++ post).flatMap g) := by
  rw [List.flatMap_append, List.flatMap_append, List.flatMap_cons, ← List.append_assoc,
    ← List.append_assoc]
  exact List.perm_append_comm.append_right _

theorem filterMap_set {α : Type} {as : List (Option α)} {n : Nat} {old : Option α}
    (h : as[n]? = some old) (new : Option α) : ∃ rest,
      (as.filterMap id).Perm (old.toList ++ rest) ∧
        ((as.set n new).filterMap id).Perm (new.toList ++ rest) := by
  obtain ⟨hn, he⟩ := List.getElem?_eq_some_iff.mp h
  have ha : as = as.take n ++ old :: as.drop (n + 1) := by
    rw [← he, ← List.drop_eq_getElem_cons hn, List.take_append_drop]
  refine ⟨(as.take n ++ as.drop (n + 1)).filterMap id, ?_, ?_⟩
  · have hp := filterMap_at id (as.take n) (as.drop (n + 1)) old
    rw [← ha] at hp
    exact hp
  · rw [List.set_eq_take_append_cons_drop, if_pos hn]
    exact filterMap_at id (as.take n) (as.drop (n + 1)) new

theorem grown {α : Type} {as old rest new : List α} (h : as.Perm (old ++ rest)) :
    (as ++ new).Perm (old ++ new ++ rest) := by
  have hn := h.append_right new
  rw [List.append_assoc] at hn ⊢
  exact hn.trans (List.perm_append_comm.append_left old)

/-- What a move adds when it changes the standing of `j` from `s` to `t`. -/
structure Shift (f : Finder) (d : Disk) (j : Job) (s t : Standing) (b c : Bench) : Prop where
  worker : ∃ w, b.workers[w]? = some (held? (j, s)) ∧ c.workers = b.workers.set w (held? (j, t))
  executed : ∃ new, (ran? (j, t)).toList = (ran? (j, s)).toList ++ new ∧
    c.executed = b.executed ++ new ∧ ∀ x ∈ new, Genuine f d x
  raw : ∃ new, left f.project (j, t) = left f.project (j, s) ++ new ∧
    c.collector.raw = b.collector.raw ++ new
  events : ∃ new, told (j, t) = told (j, s) ++ new ∧ c.events = b.events ++ new
  cancelled : c.cancelled = false → b.cancelled = false ∧ t ≠ .skipped
  finder : ∃ contents, c.finder = { b.finder with contents }
  disk : c.disk = b.disk

theorem concerns_of_told {j : Job} {s : Standing} {e : RunEvent} (h : e ∈ told (j, s)) :
    e.concerns j.name = true := by
  have hboth : e = .toolStart j.name ∨ e = .toolFinish j.name := by
    cases s with
    | waiting => simp [told] at h
    | skipped => simp [told] at h
    | done run => simpa [told] using h
    | held phase => cases phase <;> simp_all [told]
  rcases hboth with rfl | rfl <;> simp [RunEvent.concerns]

theorem Shift.of_told {j : Job} {s t : Standing} {b c : Bench} {new : List RunEvent}
    (hworker : ∃ w, b.workers[w]? = some (held? (j, s)) ∧
      c.workers = b.workers.set w (held? (j, t)))
    (hran : ran? (j, t) = ran? (j, s)) (hleft : left f.project (j, t) = left f.project (j, s))
    (htold : told (j, t) = told (j, s) ++ new)
    (hbench : c = { b with queue := c.queue, workers := c.workers, events := b.events ++ new })
    (hskip : b.cancelled = false → t ≠ .skipped) : Shift f d j s t b c := by
  have hexecuted : c.executed = b.executed := by rw [hbench]
  have hcollector : c.collector = b.collector := by rw [hbench]
  have hcancelled : c.cancelled = b.cancelled := by rw [hbench]
  constructor
  · exact hworker
  · exact ⟨[], by rw [hran, List.append_nil], by rw [hexecuted, List.append_nil], by simp⟩
  · exact ⟨[], by rw [hleft, List.append_nil], by rw [hcollector, List.append_nil]⟩
  · exact ⟨new, htold, by rw [hbench]⟩
  · intro hc
    rw [hcancelled] at hc
    exact ⟨hc, hskip hc⟩
  · exact ⟨b.finder.contents, by rw [hbench]⟩
  · rw [hbench]

theorem Follows.name_ne {pre post : List (Job × Standing)} {j : Job} {s : Standing} {b : Bench}
    (h : Follows jobs f d (pre ++ (j, s) :: post) b) (hn : (jobs.map Job.name).Nodup) :
    ∀ x ∈ pre ++ post, x.1.name ≠ j.name := by
  have hp : ((pre ++ (j, s) :: post).map fun x => x.1.name).Nodup := by
    rw [← h.roll, List.map_map] at hn
    exact hn
  have hp := (List.perm_middle.map fun x : Job × Standing => x.1.name).nodup_iff.mp hp
  intro x hx he
  apply (List.nodup_cons.mp hp).1
  exact List.mem_map.mpr ⟨x, hx, he⟩

theorem Shift.exists_told {j : Job} {s t : Standing} {b c : Bench} (hs : Shift f d j s t b c) :
    ∃ new, told (j, t) = told (j, s) ++ new ∧ c.events = b.events ++ new ∧
      ∀ e ∈ new, e.concerns j.name = true := by
  obtain ⟨new, htold, hnew⟩ := hs.events
  refine ⟨new, htold, hnew, fun e he => concerns_of_told (s := t) ?_⟩
  rw [htold]
  exact List.mem_append_right _ he

section Shift
variable {pre post : List (Job × Standing)} {j : Job} {s t : Standing} {b c : Bench}

theorem Follows.workers_shift (h : Follows jobs f d (pre ++ (j, s) :: post) b)
    (hs : Shift f d j s t b c) :
    ((pre ++ (j, t) :: post).filterMap held?).Perm (c.workers.filterMap id) := by
  obtain ⟨w, hw, hset⟩ := hs.worker
  obtain ⟨rest, hold, hnew⟩ := filterMap_set hw (held? (j, t))
  have hrest : ((pre ++ post).filterMap held?).Perm rest := by
    apply (List.perm_append_left_iff (held? (j, s)).toList).mp
    exact ((filterMap_at held? pre post (j, s)).symm.trans h.workers).trans hold
  rw [hset]
  exact ((filterMap_at held? pre post (j, t)).trans (hrest.append_left _)).trans hnew.symm

/-- What is told of the other jobs stays as it was. -/
theorem Follows.events_shift (hn : (jobs.map Job.name).Nodup)
    (h : Follows jobs f d (pre ++ (j, s) :: post) b) (hs : Shift f d j s t b c) :
    ∀ x ∈ pre ++ (j, t) :: post, c.events.filter (RunEvent.concerns x.1.name) = told x := by
  obtain ⟨new, htold, hnew, hnewj⟩ := hs.exists_told
  intro x hx
  rw [hnew, List.filter_append]
  rcases List.mem_cons.mp (List.perm_middle.mem_iff.mp hx) with rfl | hx
  · rw [h.events (j, s) (by simp), htold, List.filter_eq_self.mpr hnewj]
  · have hnone : new.filter (RunEvent.concerns x.1.name) = [] := by
      apply List.filter_eq_nil_iff.mpr
      intro e he hc
      exact h.name_ne hn x hx (RunEvent.concerns_unique hc (hnewj e he))
    have hsame : b.events.filter (RunEvent.concerns x.1.name) = told x :=
      h.events x (List.perm_middle.mem_iff.mpr (List.mem_cons_of_mem _ hx))
    rw [hnone, List.append_nil, hsame]

theorem Follows.shift (hn : (jobs.map Job.name).Nodup)
    (h : Follows jobs f d (pre ++ (j, s) :: post) b) (hs : Shift f d j s t b c)
    (hq : c.queue = (pre ++ (j, t) :: post).filterMap waiting?) :
    Follows jobs f d (pre ++ (j, t) :: post) c where
  roll := by
    rw [← h.roll]
    simp
  queue := hq
  workers := h.workers_shift hs
  executed := by
    obtain ⟨new, hran, hnew, -⟩ := hs.executed
    have ht := filterMap_at ran? pre post (j, t)
    rw [hran] at ht
    rw [hnew]
    exact (grown (h.executed.trans (filterMap_at ran? pre post (j, s)))).trans ht.symm
  raw := by
    obtain ⟨new, hleft, hnew⟩ := hs.raw
    have ht := flatMap_at (left f.project) pre post (j, t)
    rw [hleft] at ht
    rw [hnew]
    exact (grown (h.raw.trans (flatMap_at (left f.project) pre post (j, s)))).trans ht.symm
  events := h.events_shift hn hs
  others := by
    obtain ⟨new, -, hnew, hnewj⟩ := hs.exists_told
    intro e he
    rw [hnew] at he
    rcases List.mem_append.mp he with he | he
    · exact h.others e he
    · refine .inr ⟨j, ?_, hnewj e he⟩
      rw [← h.roll]
      simp
  unskipped := by
    intro hc x hx
    obtain ⟨hb, ht⟩ := hs.cancelled hc
    rcases List.mem_cons.mp (List.perm_middle.mem_iff.mp hx) with rfl | hx
    · exact ht
    · exact h.unskipped hb x (List.perm_middle.mem_iff.mpr (List.mem_cons_of_mem _ hx))
  genuine := by
    obtain ⟨new, -, hnew, hg⟩ := hs.executed
    intro x hx
    rw [hnew] at hx
    rcases List.mem_append.mp hx with hx | hx
    · exact h.genuine x hx
    · exact hg x hx
  finder := by
    obtain ⟨contents, hc⟩ := hs.finder
    obtain ⟨before, hb⟩ := h.finder
    exact ⟨contents, by rw [hc, hb]⟩
  disk := hs.disk.trans h.disk

end Shift

theorem worker?_eq_some {b : Bench} {w : Nat} {task : Job × Phase} (h : b.worker? w = some task) :
    b.workers[w]? = some (some task) := Option.join_eq_some_iff.mp h

theorem Follows.exists_held {roster : List (Job × Standing)} {b : Bench}
    (h : Follows jobs f d roster b) {w : Nat} {j : Job} {phase : Phase}
    (hw : b.worker? w = some (j, phase)) :
    ∃ pre post, roster = pre ++ (j, .held phase) :: post := by
  have hm : (j, phase) ∈ b.workers.filterMap id :=
    List.mem_filterMap.mpr ⟨_, List.mem_of_getElem? (worker?_eq_some hw), rfl⟩
  obtain ⟨x, hx, he⟩ := List.mem_filterMap.mp (h.workers.mem_iff.mpr hm)
  rw [held?_eq_some he] at hx
  exact List.append_of_mem hx

theorem queue_held {pre post : List (Job × Standing)} {j : Job} {phase : Phase} {t : Standing}
    (ht : waiting? (j, t) = none) : (pre ++ (j, .held phase) :: post).filterMap waiting? =
      (pre ++ (j, t) :: post).filterMap waiting? := by
  rw [List.filterMap_append, List.filterMap_append, List.filterMap_cons, List.filterMap_cons, ht]
  rfl

def next (b : Bench) (j : Job) : Phase → Standing
  | .received => if b.cancelled then .skipped else .held .accepted
  | .accepted => .held .started
  | .started => .held (.executed (j.tool.execute b.finder b.disk j.config))
  | .executed run => .held (.finished run)
  | .finished run => .done run

theorem waiting?_next (b : Bench) (j : Job) (phase : Phase) :
    waiting? (j, b.next j phase) = none := by
  cases phase with
  | received => rw [next]; split <;> rfl
  | accepted => rfl
  | started => rfl
  | executed run => rfl
  | finished run => rfl

theorem queue_advanceJob (b : Bench) (w : Nat) (j : Job) (phase : Phase) :
    (b.advanceJob w j phase).queue = b.queue := by cases phase <;> rfl

theorem shift_advance {roster : List (Job × Standing)} {b : Bench} (h : Follows jobs f d roster b)
    {w : Nat} {j : Job} {phase : Phase} (hw : b.worker? w = some (j, phase)) :
    Shift f d j (.held phase) (b.next j phase) b (b.advanceJob w j phase) := by
  have hworker := worker?_eq_some hw
  obtain ⟨contents, hf⟩ := h.finder
  cases phase with
  | received =>
    -- A run that was cancelled in the meantime passes the job by.
    rw [next]
    cases hc : b.cancelled with
    | true =>
      have hbench : b.advanceJob w j .received = b.assign w none := by simp [advanceJob, hc]
      rw [hbench]
      refine Shift.of_told ⟨w, hworker, rfl⟩ rfl rfl rfl ?_ (by simp [hc])
      simp [assign]
    | false =>
      have hbench : b.advanceJob w j .received = b.assign w (some (j, .accepted)) := by
        simp [advanceJob, hc]
      rw [hbench]
      refine Shift.of_told ⟨w, hworker, rfl⟩ rfl rfl rfl ?_ (by simp)
      simp [assign]
  | accepted =>
    exact Shift.of_told ⟨w, hworker, rfl⟩ rfl rfl rfl rfl fun _ => Standing.noConfusion
  | started =>
    refine ⟨⟨w, hworker, rfl⟩, ⟨[(j, j.tool.execute b.finder b.disk j.config)], rfl, rfl, ?_⟩,
      ⟨[], rfl, (List.append_nil _).symm⟩, ⟨[], rfl, (List.append_nil _).symm⟩, ?_, ⟨_, rfl⟩, rfl⟩
    · intro x hx
      rw [List.mem_singleton.mp hx, h.disk, hf]
      exact ⟨contents, rfl⟩
    · intro hc
      exact ⟨(Bool.or_eq_false_iff.mp hc).1, Standing.noConfusion⟩
  | executed run =>
    exact Shift.of_told ⟨w, hworker, rfl⟩ rfl rfl rfl rfl fun _ => Standing.noConfusion
  | finished run =>
    refine ⟨⟨w, hworker, rfl⟩, ⟨[], rfl, (List.append_nil _).symm, by simp⟩,
      ⟨j.issues f.project run, rfl, ?_⟩, ⟨[], rfl, (List.append_nil _).symm⟩,
      fun hc => ⟨hc, Standing.noConfusion⟩, ⟨b.finder.contents, rfl⟩, rfl⟩
    rw [advanceJob, hf]
    rfl

theorem follows_receive (hn : (jobs.map Job.name).Nodup) {roster : List (Job × Standing)}
    {b : Bench} (h : Follows jobs f d roster b) (w : Nat) :
    ∃ roster', Follows jobs f d roster' (b.receive w) := by
  rw [receive]
  split
  next j rest hw hq =>
    have hroster := h.queue.symm.trans hq
    obtain ⟨pre, x, post, rfl, hpre, hx, hpost⟩ := List.filterMap_eq_cons_iff.mp hroster
    obtain rfl := waiting?_eq_some hx
    refine ⟨pre ++ (j, .held .received) :: post, h.shift hn ?_ ?_⟩
    · refine Shift.of_told ⟨w, hw, rfl⟩ rfl rfl rfl ?_ fun _ => Standing.noConfusion
      simp [assign]
    · rw [List.filterMap_append, List.filterMap_eq_nil_iff.mpr hpre]
      exact hpost.symm
  next => exact ⟨roster, h⟩

/-- Every move keeps the accounts. -/
theorem follows_step (hn : (jobs.map Job.name).Nodup) {roster : List (Job × Standing)} {b : Bench}
    (h : Follows jobs f d roster b) (m : Move) :
    ∃ roster', Follows jobs f d roster' (b.step m) := by
  cases m with
  | receive w => exact follows_receive hn h w
  | cancel =>
    exact ⟨roster, h.roll, h.queue, h.workers, h.executed, h.raw, h.events, h.others,
      by simp [step], h.genuine, h.finder, h.disk⟩
  | advance w =>
    rw [step, advance]
    cases hw : b.worker? w with
    | none => exact ⟨roster, h⟩
    | some task =>
      obtain ⟨j, phase⟩ := task
      obtain ⟨pre, post, rfl⟩ := h.exists_held hw
      refine ⟨pre ++ (j, b.next j phase) :: post, h.shift hn (shift_advance h hw) ?_⟩
      rw [queue_advanceJob, h.queue, queue_held (waiting?_next b j phase)]

theorem follows_perform (hn : (jobs.map Job.name).Nodup) {roster : List (Job × Standing)}
    {b : Bench} (h : Follows jobs f d roster b) (moves : List Move) :
    ∃ roster', Follows jobs f d roster' (b.perform moves) := by
  induction moves generalizing roster b with
  | nil => exact ⟨roster, h⟩
  | cons m moves ih =>
    obtain ⟨_, hm⟩ := follows_step hn h m
    exact ih hm

def inFlight (jobs : List Job) (events : List RunEvent) : List Job :=
  jobs.filter fun j =>
    events.contains (.toolStart j.name) && !events.contains (.toolFinish j.name)

theorem held?_of_inFlight {x : Job × Standing} (hs : .toolStart x.1.name ∈ told x)
    (hf : .toolFinish x.1.name ∉ told x) : (held? x).isSome = true := by
  obtain ⟨j, s⟩ := x
  cases s with
  | waiting => simp [told] at hs
  | skipped => simp [told] at hs
  | done run => simp [told] at hf
  | held phase => rfl

theorem Follows.inFlight_le {roster : List (Job × Standing)} {b : Bench}
    (h : Follows jobs f d roster b) : (inFlight jobs b.events).length ≤ b.workers.length := by
  have hheld : (inFlight jobs b.events).length ≤ (roster.filterMap held?).length := by
    rw [inFlight, ← h.roll, List.filter_map, List.length_map, List.length_filterMap_eq_countP,
      ← List.countP_eq_length_filter]
    apply List.countP_mono_left
    intro x hx hopen
    simp only [Function.comp, Bool.and_eq_true, List.contains_iff_mem, Bool.not_eq_true',
      ← Bool.not_eq_true] at hopen
    have htold := h.events x hx
    apply held?_of_inFlight
    · rw [← htold]
      exact List.mem_filter.mpr ⟨hopen.1, by simp [RunEvent.concerns]⟩
    · rw [← htold]
      intro hf
      exact hopen.2 (List.mem_filter.mp hf).1
  have hworkers := h.workers.length_eq
  have hfilter := List.length_filterMap_le id b.workers
  omega

theorem events_step (b : Bench) (m : Move) :
    (b.step m).events = b.events ∨ ∃ e, (b.step m).events = b.events ++ [e] := by
  cases m with
  | receive w =>
    rw [step, receive]
    split <;> exact Or.inl rfl
  | cancel => exact Or.inl rfl
  | advance w =>
    rw [step, advance]
    cases b.worker? w with
    | none => exact Or.inl rfl
    | some task =>
      obtain ⟨j, phase⟩ := task
      cases phase with
      | received => exact Or.inl rfl
      | accepted => exact Or.inr ⟨.toolStart j.name, rfl⟩
      | started => exact Or.inl rfl
      | executed run => exact Or.inr ⟨.toolFinish j.name, rfl⟩
      | finished run => exact Or.inl rfl

theorem length_workers_step (b : Bench) (m : Move) :
    (b.step m).workers.length = b.workers.length := by
  cases m with
  | receive w =>
    rw [step, receive]
    split
    · simp [assign]
    · rfl
  | cancel => rfl
  | advance w =>
    obtain ⟨task, hw, -⟩ := b.advance_workers w
    rw [step, hw, List.length_set]

theorem length_workers_perform (b : Bench) (moves : List Move) :
    (b.perform moves).workers.length = b.workers.length := by
  induction moves generalizing b with
  | nil => rfl
  | cons m moves ih => exact (ih (b.step m)).trans (length_workers_step b m)

/-- At no time more jobs are executing than there are workers. -/
theorem inFlight_perform (hn : (jobs.map Job.name).Nodup) {roster : List (Job × Standing)}
    {b : Bench} (h : Follows jobs f d roster b)
    (hb : ∀ pre, pre <+: b.events → (inFlight jobs pre).length ≤ b.workers.length)
    (moves : List Move) : ∀ pre, pre <+: (b.perform moves).events →
      (inFlight jobs pre).length ≤ b.workers.length := by
  induction moves generalizing roster b with
  | nil => exact hb
  | cons m moves ih =>
    obtain ⟨_, hm⟩ := follows_step hn h m
    have hlen := length_workers_step b m
    rw [← hlen]
    apply ih hm
    intro pre hpre
    rcases events_step b m with he | ⟨e, he⟩
    · rw [he] at hpre
      rw [hlen]
      exact hb pre hpre
    · have hlast := hm.inFlight_le
      rw [he] at hpre hlast
      rcases List.prefix_concat_iff.mp hpre with rfl | hpre
      · exact hlast
      · rw [hlen]
        exact hb pre hpre

end Bench

end MetaLint
