import MetaLint.Run.Bench

/-!
# The closing moves

A worker needs a bounded number of steps to end its job, and a job needs one worker. After the
closing moves no worker has a job, and none is waiting unless there is nobody to do it.
-/

set_option autoImplicit false

namespace MetaLint.Bench

def stepsLeft : Option (Job × Phase) → Nat
  | none => 0
  | some (_, .received) => 5
  | some (_, .accepted) => 4
  | some (_, .started) => 3
  | some (_, .executed _) => 2
  | some (_, .finished _) => 1

theorem eq_none_of_stepsLeft {task : Option (Job × Phase)} (h : stepsLeft task = 0) :
    task = none := by
  rcases task with _ | ⟨j, phase⟩
  · rfl
  · cases phase <;> simp [stepsLeft] at h

theorem stepsLeft_le (task : Option (Job × Phase)) : stepsLeft task ≤ phaseCount := by
  rcases task with _ | ⟨j, phase⟩
  · simp [stepsLeft]
  · cases phase <;> simp [stepsLeft, phaseCount]

theorem set_worker? (b : Bench) (w : Nat) : b.workers.set w (b.worker? w) = b.workers := by
  apply List.ext_getElem?
  intro i
  by_cases hi : w = i
  · subst hi
    rw [List.getElem?_set_self', worker?]
    cases b.workers[w]? <;> rfl
  · rw [List.getElem?_set_ne hi]

theorem advance_workers (b : Bench) (w : Nat) :
    ∃ task, (b.advance w).workers = b.workers.set w task ∧ (b.advance w).queue = b.queue ∧
      stepsLeft task ≤ stepsLeft (b.worker? w) - 1 := by
  have hset := b.set_worker? w
  rw [advance]
  cases h : b.worker? w with
  | none =>
    rw [h] at hset
    exact ⟨none, hset.symm, rfl, by simp [stepsLeft]⟩
  | some held =>
    obtain ⟨j, phase⟩ := held
    cases phase with
    | received =>
      refine ⟨if b.cancelled then none else some (j, .accepted), rfl, rfl, ?_⟩
      cases b.cancelled <;> simp [stepsLeft]
    | accepted => exact ⟨some (j, .started), rfl, rfl, by simp [stepsLeft]⟩
    | started => exact ⟨some (j, .executed _), rfl, rfl, by simp [stepsLeft]⟩
    | executed run => exact ⟨some (j, .finished run), rfl, rfl, by simp [stepsLeft]⟩
    | finished run => exact ⟨none, rfl, rfl, by simp [stepsLeft]⟩

theorem stepsLeft_set_le {b : Bench} {w : Nat} {task : Option (Job × Phase)} {c : Bench}
    (h : c.workers = b.workers.set w task) : stepsLeft (c.worker? w) ≤ stepsLeft task := by
  rw [worker?, h]
  by_cases hw : w < b.workers.length
  · simp [hw]
  · simp [hw, stepsLeft]

theorem perform_advances (n w : Nat) (b : Bench) :
    ∃ task, (b.perform (List.replicate n (.advance w))).workers = b.workers.set w task ∧
      (b.perform (List.replicate n (.advance w))).queue = b.queue ∧
      stepsLeft task ≤ stepsLeft (b.worker? w) - n := by
  induction n generalizing b with
  | zero => exact ⟨b.worker? w, (b.set_worker? w).symm, rfl, Nat.le_refl _⟩
  | succ n ih =>
    obtain ⟨task, hw, hq, hl⟩ := b.advance_workers w
    obtain ⟨last, hw', hq', hl'⟩ := ih (b.advance w)
    have hset := stepsLeft_set_le hw
    refine ⟨last, ?_, hq'.trans hq, by omega⟩
    show ((b.advance w).perform (List.replicate n (.advance w))).workers = _
    rw [hw', hw, List.set_set]

theorem perform_complete (b : Bench) (w : Nat) :
    (b.perform (complete w)).workers = b.workers.set w none ∧
      (b.perform (complete w)).queue = b.queue := by
  obtain ⟨task, hw, hq, hl⟩ := perform_advances phaseCount w b
  have hbound := stepsLeft_le (b.worker? w)
  have htask : task = none := eq_none_of_stepsLeft (by omega)
  rw [htask] at hw
  exact ⟨hw, hq⟩

theorem perform_completes (b : Bench) (n : Nat) :
    (∀ i : Nat, (b.perform ((List.range n).flatMap complete)).workers[i]? =
      if i < n then (b.workers[i]?).map fun _ => none else b.workers[i]?) ∧
      (b.perform ((List.range n).flatMap complete)).queue = b.queue := by
  induction n with
  | zero => simp
  | succ n ih =>
    obtain ⟨hw, hq⟩ := perform_complete (b.perform ((List.range n).flatMap complete)) n
    rw [List.range_succ, List.flatMap_append, List.flatMap_singleton, perform_append, hw, hq]
    refine ⟨?_, ih.2⟩
    intro i
    have hi := ih.1 i
    by_cases he : n = i
    · subst he
      rw [if_neg (Nat.lt_irrefl n)] at hi
      rw [List.getElem?_set_self', hi, if_pos (Nat.lt_succ_self n)]
      cases b.workers[n]? <;> rfl
    · rw [List.getElem?_set_ne he, hi]
      by_cases hn : i < n
      · rw [if_pos hn, if_pos (by omega)]
      · rw [if_neg hn, if_neg (by omega)]

theorem perform_completes_all (b : Bench) :
    (b.perform ((List.range b.workers.length).flatMap complete)).workers =
      List.replicate b.workers.length none := by
  obtain ⟨hw, -⟩ := b.perform_completes b.workers.length
  apply List.ext_getElem?
  intro i
  rw [hw i]
  by_cases hi : i < b.workers.length
  · simp [hi]
  · simp [hi]

theorem perform_serving {n : Nat} (b : Bench) (h : b.workers = List.replicate (n + 1) none) :
    (b.perform (b.queue.flatMap fun _ => .receive 0 :: complete 0)).workers =
        List.replicate (n + 1) none ∧
      (b.perform (b.queue.flatMap fun _ => .receive 0 :: complete 0)).queue = [] := by
  cases hq : b.queue with
  | nil => exact ⟨h, hq⟩
  | cons j rest =>
    have hstep : b.receive 0 = { b.assign 0 (some (j, .received)) with queue := rest } := by
      simp [receive, h, hq, List.replicate_succ]
    obtain ⟨hw, hr⟩ := perform_complete (b.receive 0) 0
    have hw' : ((b.receive 0).perform (complete 0)).workers = List.replicate (n + 1) none := by
      rw [hw, hstep]
      simp [assign, h, List.replicate_succ]
    have hr' : ((b.receive 0).perform (complete 0)).queue = rest := by
      rw [hr, hstep]
    have ih := perform_serving ((b.receive 0).perform (complete 0)) hw'
    rw [hr'] at ih
    rw [List.flatMap_cons, perform_append]
    exact ih
termination_by b.queue.length
decreasing_by
  rw [hr', hq]
  exact Nat.lt_succ_self _

theorem perform_of_still {moves : List Move} {b : Bench} (h : ∀ m ∈ moves, b.step m = b) :
    b.perform moves = b := by
  induction moves with
  | nil => rfl
  | cons m moves ih =>
    show (b.step m).perform moves = b
    rw [h m List.mem_cons_self]
    exact ih fun m hm => h m (List.mem_cons_of_mem _ hm)

theorem advance_of_idle {b : Bench} (h : ∀ task ∈ b.workers, task = none) (w : Nat) :
    b.advance w = b := by
  rw [advance, worker?]
  cases hw : b.workers[w]? with
  | none => rfl
  | some task =>
    rw [h task (List.mem_of_getElem? hw)]
    rfl

/-- The closing moves leave no worker with a job, and no job where there is a worker. -/
theorem close_eq (b : Bench) (h : b.workers ≠ []) :
    b.close.workers = List.replicate b.workers.length none ∧ b.close.queue = [] := by
  obtain ⟨n, hn⟩ : ∃ n, b.workers.length = n + 1 :=
    Nat.exists_eq_succ_of_ne_zero fun he => h (List.length_eq_zero_iff.mp he)
  have hw := b.perform_completes_all
  have hq := (b.perform_completes b.workers.length).2
  have hs := perform_serving (b.perform ((List.range b.workers.length).flatMap complete))
    (by rw [hw, hn])
  rw [hq] at hs
  rw [close, closing, perform_append, hs.1, hs.2, hn]
  exact ⟨rfl, rfl⟩

theorem mem_closing {b : Bench} {m : Move} (h : m ∈ b.closing) :
    (∃ w, m = .advance w) ∨ (m = .receive 0 ∧ b.queue ≠ []) := by
  rcases List.mem_append.mp h with h | h
  · obtain ⟨w, -, hm⟩ := List.mem_flatMap.mp h
    exact Or.inl ⟨w, (List.mem_replicate.mp hm).2⟩
  · obtain ⟨j, hj, hm⟩ := List.mem_flatMap.mp h
    rcases List.mem_cons.mp hm with hm | hm
    · exact Or.inr ⟨hm, List.ne_nil_of_mem hj⟩
    · exact Or.inl ⟨0, (List.mem_replicate.mp hm).2⟩

theorem close_of_idle {b : Bench} (h : ∀ task ∈ b.workers, task = none)
    (hq : b.queue = [] ∨ b.workers = []) : b.close = b := by
  apply perform_of_still
  intro m hm
  rcases mem_closing hm with ⟨w, rfl⟩ | ⟨rfl, hne⟩
  · exact advance_of_idle h w
  · have hw : b.workers = [] := hq.resolve_left hne
    rw [step, receive, hw]
    rfl

end MetaLint.Bench
