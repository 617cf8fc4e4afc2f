import MetaLint.Proofs.Outcome

/-!
# What a run announces

However a run ends, it announces its start once, before anything else, and its end once, after
everything else; in between there are announcements of tools only. The final state says what the run
came to: an error, a collector that is marked as failed, or one that is not. A collector is marked
only if somebody cancelled the run.
-/

set_option autoImplicit false

namespace MetaLint

def RunEvent.OfTool (e : RunEvent) : Prop := ∃ tool, e = .toolStart tool ∨ e = .toolFinish tool

theorem RunEvent.OfTool.ne {e : RunEvent} (h : e.OfTool) : e ≠ .start ∧ e ≠ .finish := by
  obtain ⟨tool, rfl | rfl⟩ := h
  · exact ⟨RunEvent.noConfusion, RunEvent.noConfusion⟩
  · exact ⟨RunEvent.noConfusion, RunEvent.noConfusion⟩

namespace Bench

variable {b : Bench}

theorem ofTool_step (b : Bench) (m : Move) :
    ∃ new, (b.step m).events = b.events ++ new ∧ ∀ e ∈ new, e.OfTool := by
  have hsilent : ∀ c : Bench, c.events = b.events →
      ∃ new, c.events = b.events ++ new ∧ ∀ e ∈ new, e.OfTool := by
    intro c hc
    exact ⟨[], by rw [hc, List.append_nil], by simp⟩
  cases m with
  | cancel => exact hsilent _ rfl
  | receive w =>
    rw [step, receive]
    split <;> exact hsilent _ rfl
  | advance w =>
    rw [step, advance]
    cases b.worker? w with
    | none => exact hsilent _ rfl
    | some task =>
      obtain ⟨j, phase⟩ := task
      cases phase with
      | received => exact hsilent _ rfl
      | accepted =>
        refine ⟨[.toolStart j.name], rfl, ?_⟩
        simp [RunEvent.OfTool]
      | started => exact hsilent _ rfl
      | executed run =>
        refine ⟨[.toolFinish j.name], rfl, ?_⟩
        simp [RunEvent.OfTool]
      | finished run => exact hsilent _ rfl

theorem ofTool_perform (b : Bench) (moves : List Move) :
    ∃ new, (b.perform moves).events = b.events ++ new ∧ ∀ e ∈ new, e.OfTool := by
  induction moves generalizing b with
  | nil => exact ⟨[], (List.append_nil _).symm, by simp⟩
  | cons m moves ih =>
    obtain ⟨first, hfirst, hf⟩ := b.ofTool_step m
    obtain ⟨later, hlater, hl⟩ := ih (b.step m)
    refine ⟨first ++ later, ?_, ?_⟩
    · show ((b.step m).perform moves).events = _
      rw [hlater, hfirst, List.append_assoc]
    · intro e he
      exact (List.mem_append.mp he).elim (hf e) (hl e)

theorem executed_step (b : Bench) (m : Move) : b.executed <+: (b.step m).executed := by
  cases m with
  | cancel => exact List.prefix_refl _
  | receive w =>
    rw [step, receive]
    split <;> exact List.prefix_refl _
  | advance w =>
    rw [step, advance]
    cases b.worker? w with
    | none => exact List.prefix_refl _
    | some task =>
      obtain ⟨j, phase⟩ := task
      cases phase with
      | started => exact List.prefix_append _ _
      | received => exact List.prefix_refl _
      | accepted => exact List.prefix_refl _
      | executed run => exact List.prefix_refl _
      | finished run => exact List.prefix_refl _

def AskedToCancel (b : Bench) : Prop := ∃ x ∈ b.executed, x.2.cancels = true

theorem AskedToCancel.step (h : b.AskedToCancel) (m : Move) : (b.step m).AskedToCancel := by
  obtain ⟨x, hx, hc⟩ := h
  exact ⟨x, (b.executed_step m).subset hx, hc⟩

theorem AskedToCancel.perform (h : b.AskedToCancel) (moves : List Move) :
    (b.perform moves).AskedToCancel := by
  induction moves generalizing b with
  | nil => exact h
  | cons m moves ih => exact ih (h.step m)

theorem cancelled_of_step {m : Move} (h : (b.step m).cancelled = true) :
    b.cancelled = true ∨ m = .cancel ∨ (b.step m).AskedToCancel := by
  cases m with
  | cancel => exact Or.inr (Or.inl rfl)
  | receive w =>
    rw [step, receive] at h
    split at h <;> exact Or.inl h
  | advance w =>
    rw [AskedToCancel]
    rw [step, advance] at h ⊢
    cases hw : b.worker? w with
    | none =>
      rw [hw] at h
      exact Or.inl h
    | some task =>
      obtain ⟨j, phase⟩ := task
      rw [hw] at h
      cases phase with
      | started =>
        refine (Bool.or_eq_true_iff.mp h).imp_right fun hc => Or.inr ?_
        exact ⟨(j, j.tool.execute b.finder b.disk j.config), List.mem_append_right _ (by simp), hc⟩
      | received => exact Or.inl h
      | accepted => exact Or.inl h
      | executed run => exact Or.inl h
      | finished run => exact Or.inl h

theorem cancelled_of_perform {moves : List Move} (h : (b.perform moves).cancelled = true) :
    b.cancelled = true ∨ .cancel ∈ moves ∨ (b.perform moves).AskedToCancel := by
  induction moves generalizing b with
  | nil => exact Or.inl h
  | cons m moves ih =>
    rcases ih h with hb | hm | hx
    · rcases cancelled_of_step hb with hb | rfl | hx
      · exact Or.inl hb
      · exact Or.inr (Or.inl List.mem_cons_self)
      · exact Or.inr (Or.inr (hx.perform moves))
    · exact Or.inr (Or.inl (List.mem_cons_of_mem _ hm))
    · exact Or.inr (Or.inr hx)

theorem cancel_not_mem_closing (b : Bench) : .cancel ∉ b.closing := by
  intro h
  rcases mem_closing h with ⟨w, hw⟩ | ⟨hr, -⟩
  · exact Move.noConfusion hw
  · exact Move.noConfusion hr

end Bench

namespace RunRequest

def benchAfter (r : RunRequest) (f : Finder) (moves : List Bench.Move) : Bench :=
  ((r.bench f).perform moves).close

/-- The ways out of a run: there is nothing to do, the project cannot be opened, the capture or a
worker cannot start, or the workers end. -/
inductive Ends (r : RunRequest) (moves : List Bench.Move) : RunEnd → Prop
  | idle (hj : r.jobs = []) : Ends r moves
      { result := .ok (.ofConfig r.config), state := .completed, events := [.start, .finish],
        cancelled := r.cancelled }
  | unopened (hj : r.jobs ≠ []) (e : Error)
      (hf : Finder.create r.disk r.project r.config = .error e) :
      Ends r moves (abort e [.start] r.cancelled [])
  | uncaptured (hj : r.jobs ≠ []) (f : Finder) (fault : Disk.Fault)
      (hf : Finder.create r.disk r.project r.config = .ok f)
      (hc : r.captures = true ∧ r.refusals.capture = some fault) :
      Ends r moves (abort (.io fault) [.start] r.cancelled [])
  | unmanned (hj : r.jobs ≠ []) (f : Finder) (w : Nat) (fault : Disk.Fault)
      (hf : Finder.create r.disk r.project r.config = .ok f)
      (hc : r.captures = true → r.refusals.capture = none)
      (hw : r.refusedWorker? = some (w, fault)) :
      Ends r moves (abort (.io fault) (r.benchAfter f moves).events
        (r.benchAfter f moves).cancelled (r.benchAfter f moves).executed)
  | served (hj : r.jobs ≠ []) (f : Finder) (hf : Finder.create r.disk r.project r.config = .ok f)
      (hc : r.captures = true → r.refusals.capture = none) (hw : r.refusedWorker? = none) :
      Ends r moves (r.conclude (r.benchAfter f moves))

theorem ends_perform (r : RunRequest) (moves : List Bench.Move) :
    Ends r moves (r.perform moves) := by
  rw [perform]
  split
  next hj => exact .idle (List.isEmpty_iff.mp hj)
  next hj =>
    have hjobs : r.jobs ≠ [] := fun h => hj (List.isEmpty_iff.mpr h)
    split
    next e hf => exact .unopened hjobs e hf
    next f hf =>
      split
      next fault hc hr => exact .uncaptured hjobs f fault hf ⟨hc, hr⟩
      next hfree =>
        have hcapture : r.captures = true → r.refusals.capture = none := by
          intro hc
          apply Option.eq_none_iff_forall_not_mem.mpr
          intro fault hr
          exact hfree fault hc hr
        dsimp only
        split
        next w fault hw => exact .unmanned hjobs f w fault hf hcapture hw
        next hw => exact .served hjobs f hf hcapture hw

section Workers
variable (r : RunRequest) (f : Finder) (moves : List Bench.Move)

theorem events_benchAfter :
    ∃ between, (r.benchAfter f moves).events = .start :: between ∧ ∀ e ∈ between, e.OfTool := by
  rw [benchAfter, close_bench]
  exact (r.bench f).ofTool_perform _

theorem cancelled_benchAfter (h : (r.benchAfter f moves).cancelled = true) :
    r.cancelled = true ∨ .cancel ∈ moves ∨ (r.benchAfter f moves).AskedToCancel := by
  rw [benchAfter, close_bench] at h ⊢
  rcases Bench.cancelled_of_perform h with hr | hm | hx
  · exact Or.inl hr
  · refine Or.inr (Or.inl ?_)
    exact (List.mem_append.mp hm).resolve_right (Bench.cancel_not_mem_closing _)
  · exact Or.inr (Or.inr hx)

theorem failed_collected :
    (r.collected (r.benchAfter f moves)).failed = (r.benchAfter f moves).cancelled := by
  have hunread := Bench.unread_perform (r.unread_bench f)
    (moves ++ ((r.bench f).perform moves).closing)
  rw [← close_bench, ← benchAfter] at hunread
  have hmarked : ∀ c : Collector, c.failed = false →
      (if (r.benchAfter f moves).cancelled then c.markFailed else c).failed =
        (r.benchAfter f moves).cancelled := by
    intro c hc
    cases (r.benchAfter f moves).cancelled with
    | true => rfl
    | false => exact hc
  rw [collected]
  apply hmarked
  split <;> exact hunread.unfailed

end Workers

end RunRequest

/-- What an observer is told of a run, and what the final state says. -/
structure Announced (r : RunRequest) (moves : List Bench.Move) (e : RunEnd) : Prop where
  events : ∃ between, e.events = .start :: between ++ [.finish] ∧ ∀ ev ∈ between, ev.OfTool
  failed : e.state = .failed ↔ ∃ error, e.result = .error error
  interrupted : e.state = .interrupted ↔ ∃ c, e.result = .ok c ∧ c.failed = true
  completed : e.state = .completed ↔ ∃ c, e.result = .ok c ∧ c.failed = false
  marked : ∀ c, e.result = .ok c → c.failed = true → e.cancelled = true ∧
    (r.cancelled = true ∨ .cancel ∈ moves ∨ ∃ x ∈ e.executed, x.2.cancels = true)

namespace Announced

variable {r : RunRequest} {moves : List Bench.Move} {e : RunEnd}

theorem count_start (h : Announced r moves e) : e.events.count .start = 1 := by
  obtain ⟨between, he, hb⟩ := h.events
  have hnone : RunEvent.start ∉ between := fun hs => (hb _ hs).ne.1 rfl
  rw [he, List.cons_append, List.count_cons_self, List.count_append, List.count_eq_zero.mpr hnone]
  rfl

theorem count_finish (h : Announced r moves e) : e.events.count .finish = 1 := by
  obtain ⟨between, he, hb⟩ := h.events
  have hnone : RunEvent.finish ∉ between := fun hs => (hb _ hs).ne.2 rfl
  rw [he, List.cons_append, List.count_cons_of_ne RunEvent.noConfusion, List.count_append,
    List.count_eq_zero.mpr hnone]
  rfl

end Announced

namespace RunRequest

variable (r : RunRequest) (moves : List Bench.Move)

theorem announced_abort (error : Error) {events : List RunEvent} (cancelled : Bool)
    (executed : List (Job × ToolRun))
    (h : ∃ between, events = .start :: between ∧ ∀ e ∈ between, e.OfTool) :
    Announced r moves (abort error events cancelled executed) := by
  obtain ⟨between, rfl, hb⟩ := h
  exact {
    events := ⟨between, rfl, hb⟩
    failed := by simp [abort]
    interrupted := by simp [abort]
    completed := by simp [abort]
    marked := by simp [abort] }

theorem announced_conclude (f : Finder) :
    Announced r moves (r.conclude (r.benchAfter f moves)) := by
  have hfailed := r.failed_collected f moves
  have hcause := r.cancelled_benchAfter f moves
  obtain ⟨between, hevents, hb⟩ := r.events_benchAfter f moves
  refine ⟨⟨between, ?_, hb⟩, ?_, ?_, ?_, ?_⟩
  · rw [conclude, hevents]
  all_goals rw [conclude]
  · cases (r.benchAfter f moves).cancelled <;> simp
  · cases hc : (r.benchAfter f moves).cancelled <;> simp [hfailed, hc]
  · cases hc : (r.benchAfter f moves).cancelled <;> simp [hfailed, hc]
  · intro c hc hm
    obtain rfl := Except.ok.inj hc
    rw [hfailed] at hm
    exact ⟨hm, hcause hm⟩

variable {r moves} in
theorem Ends.announced {e : RunEnd} (h : Ends r moves e) : Announced r moves e := by
  cases h with
  | idle hj =>
    exact {
      events := ⟨[], rfl, by simp⟩
      failed := by simp
      interrupted := by simp [Collector.ofConfig, Collector.create]
      completed := by simp [Collector.ofConfig, Collector.create]
      marked := by simp [Collector.ofConfig, Collector.create] }
  | unopened hj error hf => exact r.announced_abort moves error _ _ ⟨[], rfl, by simp⟩
  | uncaptured hj f fault hf hc => exact r.announced_abort moves _ _ _ ⟨[], rfl, by simp⟩
  | unmanned hj f w fault hf hc hw =>
    exact r.announced_abort moves _ _ _ (r.events_benchAfter f moves)
  | served hj f hf hc hw => exact r.announced_conclude moves f

/-- Whatever the workers do, whatever is refused and whenever a cancellation comes, a run announces
its start first and its end last, each once, and its state says what it came to. -/
theorem announced_perform : Announced r moves (r.perform moves) ∧
    (r.perform moves).events.count .start = 1 ∧ (r.perform moves).events.count .finish = 1 := by
  have h := (r.ends_perform moves).announced
  exact ⟨h, h.count_start, h.count_finish⟩

end RunRequest

end MetaLint
