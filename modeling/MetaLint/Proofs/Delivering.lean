import MetaLint.Proofs.Location
import MetaLint.Report.Delivery

/-!
# What reports leave behind

A report may look at the issues and may write one file. The first one that looks settles the view
for all that come later, and for the verdict. No report takes a directory away.
-/

set_option autoImplicit false

namespace MetaLint

namespace Collector

theorem view_view (c : Collector) (d later : Disk) : (c.view d).2.view later = c.view d := by
  cases hc : c.cleaned with
  | some issues =>
    have hview : c.view d = (issues, c) := by rw [view, hc]
    rw [hview, view, hc]
  | none => simp [view, hc, store, snapshot]

end Collector

namespace Delivery

def after (q : DeliveryRequest) (s : Delivery) (n : Nat) : Delivery :=
  (q.config.reports.take n).foldl (deliver q) s

theorem after_all (q : DeliveryRequest) (s : Delivery) :
    s.after q q.config.reports.length = deliverAll q s := by
  rw [after, List.take_length, deliverAll]

theorem after_succ (q : DeliveryRequest) (s : Delivery) (n : Nat) :
    s.after q (n + 1) = s.after q n ∨ ∃ rc, s.after q (n + 1) = deliver q (s.after q n) rc := by
  by_cases hn : n < q.config.reports.length
  · right
    refine ⟨q.config.reports[n], ?_⟩
    rw [after, List.take_succ_eq_append_getElem hn, List.foldl_append]
    rfl
  · left
    have hlast := Nat.not_lt.mp hn
    rw [after, after, List.take_of_length_le hlast,
      List.take_of_length_le (Nat.le_succ_of_le hlast)]

/-- What a report does when its text is there: it may write one file. -/
theorem put_cases (s : Delivery) (rc : ReportConfig) (text : String) :
    (s.put rc text).collector = s.collector ∧ ((s.put rc text).disk = s.disk ∨
      ∃ p content, s.disk.write p content = .ok (s.put rc text).disk) := by
  cases hf : rc.file with
  | none => simp [put, hf, finish]
  | some path =>
    cases hw : s.disk.write path (Text.encode text) with
    | ok disk =>
      simp only [put, hf, hw, finish]
      exact ⟨trivial, Or.inr ⟨path, Text.encode text, hw⟩⟩
    | error fault => simp [put, hf, hw, fail]

section Deliver
variable (q : DeliveryRequest) (s : Delivery) (rc : ReportConfig)

theorem collector_render (r : Report) (c : Collector) (d : Disk) (ctx : ReportContext) :
    (r.render c d ctx).2 = c ∨ (r.render c d ctx).2 = (c.view d).2 := by
  rw [Report.render, Report.produce]
  cases r.body ctx with
  | fixed p =>
    left
    cases hp : p.error <;> simp [hp]
  | ofIssues write =>
    right
    cases hp : (write (c.view d).1).error <;> simp [hp]

theorem deliver_cases : ∃ c, (c = s.collector ∨ c = (s.collector.view s.disk).2) ∧
    (deliver q s rc).collector = c ∧ ((deliver q s rc).disk = s.disk ∨
      ∃ p content, s.disk.write p content = .ok (deliver q s rc).disk) := by
  rw [deliver]
  cases q.registry.get? rc.kind with
  | none => exact ⟨_, .inl rfl, rfl, .inl rfl⟩
  | some report =>
    have hcollector := collector_render report s.collector s.disk (q.context rc)
    dsimp only
    generalize report.render s.collector s.disk (q.context rc) = rendered at hcollector ⊢
    obtain ⟨result, c⟩ := rendered
    refine ⟨c, hcollector, ?_⟩
    cases result with
    | error e => exact ⟨rfl, .inl rfl⟩
    | ok text => exact put_cases { s with collector := c } rc text

end Deliver

theorem collector_after (q : DeliveryRequest) (s : Delivery) (n : Nat) :
    (s.after q n).collector = s.collector ∨
      ∃ m, (s.after q n).collector = (s.collector.view (s.after q m).disk).2 := by
  induction n with
  | zero => exact Or.inl rfl
  | succ n ih =>
    rcases after_succ q s n with he | ⟨rc, he⟩
    · rw [he]
      exact ih
    · obtain ⟨c, hc, hcollector, -⟩ := deliver_cases q (s.after q n) rc
      rw [he, hcollector]
      rcases hc with rfl | rfl
      · exact ih
      · right
        rcases ih with hsame | ⟨m, hm⟩
        · exact ⟨n, by rw [hsame]⟩
        · exact ⟨m, by rw [hm, Collector.view_view]⟩

/-- Whenever the issues are asked for, the answer is the view of one moment. -/
theorem view_after (q : DeliveryRequest) (s : Delivery) (n : Nat) :
    ∃ m, (s.after q n).collector.view (s.after q n).disk = s.collector.view (s.after q m).disk := by
  rcases collector_after q s n with hc | ⟨m, hc⟩
  · exact ⟨n, by rw [hc]⟩
  · exact ⟨m, by rw [hc, Collector.view_view]⟩

end Delivery

end MetaLint
