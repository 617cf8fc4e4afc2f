import Mathlib.Data.List.Induction
import Mathlib.Data.List.Perm.Lattice
import Mathlib.Order.Bounds.Basic
import MetaLint.Progress

/-!
# What a tracker knows

A tool may execute several times at once, and an end may come without a start. Each end of a tool is
paired with the earliest of its starts before that is not paired yet. An end without such a start is
refused and changes nothing. At every moment the tracker holds the starts that are not paired, and
the ends that are, both in the order in which they came.
-/

set_option autoImplicit false

namespace MetaLint

def RunEvent.started? : RunEvent → Option String
  | .toolStart tool => some tool
  | _ => none

namespace Tracker

variable {events : List RunEvent} {e : RunEvent} {m : Nat → Option Nat} {tool : String}

theorem ofEvents_concat (events : List RunEvent) (e : RunEvent) :
    ofEvents (events ++ [e]) = (ofEvents events).observe e := by
  simp [ofEvents]

theorem observe_cases (t : Tracker) (e : RunEvent) :
    (∃ tool, e = .toolStart tool ∧ t.observe e = t.start tool) ∨
    (∃ tool, e = .toolFinish tool ∧ tool ∈ t.current ∧ t.observe e =
      { current := t.current.erase tool, completed := t.completed ++ [tool] }) ∨
    ((∀ tool, e ≠ .toolStart tool) ∧ (∀ tool, e = .toolFinish tool → tool ∉ t.current) ∧
      t.observe e = t) := by
  cases e with
  | toolStart tool => exact .inl ⟨tool, rfl, rfl⟩
  | toolFinish tool =>
    by_cases hm : tool ∈ t.current
    · exact .inr (.inl ⟨tool, rfl, hm, by simp [observe, finish, hm]⟩)
    · refine .inr (.inr ⟨by simp, ?_, by rw [observe, finish_of_not_mem hm]⟩)
      rintro other hother
      rwa [← RunEvent.toolFinish.inj hother]
  | start => exact .inr (.inr ⟨by simp, by simp, rfl⟩)
  | finish => exact .inr (.inr ⟨by simp, by simp, rfl⟩)

def InOrder (holds : Nat → String → Prop) (texts : List String) : Prop :=
  ∃ places : List (Nat × String), places.Pairwise (fun p q => p.1 < q.1) ∧
    (∀ p, p ∈ places ↔ holds p.1 p.2) ∧ places.map Prod.snd = texts

namespace InOrder

variable {holds others : Nat → String → Prop} {texts : List String}

theorem congr (h : InOrder holds texts) (hiff : ∀ i text, others i text ↔ holds i text) :
    InOrder others texts := by
  obtain ⟨places, hascending, hmem, rfl⟩ := h
  exact ⟨places, hascending, fun p => (hmem p).trans (hiff p.1 p.2).symm, rfl⟩

theorem mem_iff (h : InOrder holds texts) {text : String} : text ∈ texts ↔ ∃ i, holds i text := by
  obtain ⟨places, -, hmem, rfl⟩ := h
  simp [hmem]

theorem concat (h : InOrder holds texts) {n : Nat} {text : String}
    (hbefore : ∀ i t, holds i t → i < n)
    (hiff : ∀ i t, others i t ↔ holds i t ∨ i = n ∧ t = text) :
    InOrder others (texts ++ [text]) := by
  obtain ⟨places, hascending, hmem, rfl⟩ := h
  refine ⟨places ++ [(n, text)], List.pairwise_append.mpr ⟨hascending, by simp, ?_⟩, ?_, by simp⟩
  · intro p hp q hq
    rw [List.mem_singleton.mp hq]
    exact hbefore _ _ ((hmem p).mp hp)
  · rintro ⟨i, t⟩
    simp [hmem, hiff]

theorem erase (h : InOrder holds texts) {text : String} (ht : text ∈ texts) :
    ∃ i, IsLeast {i | holds i text} i ∧
      InOrder (fun j t => holds j t ∧ j ≠ i) (texts.erase text) := by
  obtain ⟨places, hascending, hmem, rfl⟩ := h
  obtain ⟨as, bs, hsplit, hfirst⟩ := List.eq_append_cons_of_mem ht
  obtain ⟨before, rest, rfl, rfl, hrest⟩ := List.map_eq_append_iff.mp hsplit
  obtain ⟨⟨i, t⟩, after, rfl, rfl, rfl⟩ := List.map_eq_cons_iff.mp hrest
  obtain ⟨hbefore, hlater, hacross⟩ := List.pairwise_append.mp hascending
  have hless : ∀ p ∈ before, p.1 < i := fun p hp => hacross p hp (i, t) List.mem_cons_self
  have hgreater : ∀ p ∈ after, i < p.1 := (List.pairwise_cons.mp hlater).1
  refine ⟨i, ⟨(hmem (i, t)).mp (by simp), fun j hj => ?_⟩, before ++ after, ?_, ?_, ?_⟩
  · rcases List.mem_append.mp ((hmem (j, t)).mpr hj) with hp | hp
    · exact absurd (List.mem_map_of_mem hp) hfirst
    · rcases List.mem_cons.mp hp with hp | hp
      · exact (Prod.mk.inj hp).1.ge
      · exact (hgreater _ hp).le
  · exact hascending.sublist (by simp)
  · intro p
    show _ ↔ holds p.1 p.2 ∧ p.1 ≠ i
    rw [← hmem]
    constructor
    · intro hp
      rcases List.mem_append.mp hp with hp | hp
      · exact ⟨by simp [hp], (hless p hp).ne⟩
      · exact ⟨by simp [hp], (hgreater p hp).ne'⟩
    · rintro ⟨hp, hne⟩
      rcases List.mem_append.mp hp with hp | hp
      · exact List.mem_append_left _ hp
      · refine List.mem_append_right _ ((List.mem_cons.mp hp).resolve_left ?_)
        rintro rfl
        exact hne rfl
  · rw [hsplit, List.erase_append_right _ hfirst, List.erase_cons_head, List.map_append]

end InOrder

/-- Each end of a tool is paired with the earliest of its starts before it that is not paired with
an end before, if there is one. -/
def Pairing (events : List RunEvent) (m : Nat → Option Nat) : Prop :=
  ∀ j i, m j = some i ↔ ∃ tool, events[j]? = some (.toolFinish tool) ∧
    IsLeast {i | i < j ∧ events[i]? = some (.toolStart tool) ∧ ∀ k < j, m k ≠ some i} i

namespace Pairing

theorem unique {m' : Nat → Option Nat} (h : Pairing events m) (h' : Pairing events m') :
    m = m' := by
  funext j
  induction j using Nat.strongRecOn with
  | ind j ih =>
    apply Option.ext
    intro i
    have hfree : ∀ i, (∀ k < j, m k ≠ some i) ↔ ∀ k < j, m' k ≠ some i :=
      fun i => forall₂_congr fun k hk => by rw [ih k hk]
    rw [h, h']
    simp only [hfree]

theorem lt_of_eq_some (h : Pairing events m) {j i : Nat} (hj : m j = some i) :
    i < j ∧ j < events.length := by
  obtain ⟨tool, he, hleast⟩ := (h j i).mp hj
  exact ⟨hleast.1.1, (List.getElem?_eq_some_iff.mp he).1⟩

theorem eq_none (h : Pairing events m) {j : Nat} (hj : events.length ≤ j) : m j = none := by
  cases hm : m j with
  | none => rfl
  | some i => exact absurd (h.lt_of_eq_some hm).2 (Nat.not_lt.mpr hj)

theorem concat (h : Pairing events m) {r : Option Nat}
    (hr : ∀ i, r = some i ↔ ∃ tool, e = .toolFinish tool ∧
      IsLeast {i | events[i]? = some (.toolStart tool) ∧ ∀ k, m k ≠ some i} i) :
    Pairing (events ++ [e]) (Function.update m events.length r) := by
  intro j i
  have hkept : ∀ k < events.length, Function.update m events.length r k = m k :=
    fun k hk => Function.update_of_ne hk.ne r m
  rcases Nat.lt_trichotomy j events.length with hj | rfl | hj
  · rw [hkept j hj, h, List.getElem?_append_left hj]
    refine exists_congr fun tool => and_congr_right fun _ => ?_
    have hset : ∀ i, (i < j ∧ events[i]? = some (.toolStart tool) ∧ ∀ k < j, m k ≠ some i) ↔
        i < j ∧ (events ++ [e])[i]? = some (.toolStart tool) ∧
          ∀ k < j, Function.update m events.length r k ≠ some i := by
      intro i
      refine and_congr_right fun hi => ?_
      rw [List.getElem?_append_left (hi.trans hj)]
      refine and_congr_right fun _ => forall₂_congr fun k hk => ?_
      rw [hkept k (hk.trans hj)]
    simp only [hset]
  · rw [Function.update_self, hr, List.getElem?_concat_length]
    refine exists_congr fun tool => and_congr (by simp) ?_
    have hset : ∀ i, (events[i]? = some (.toolStart tool) ∧ ∀ k, m k ≠ some i) ↔
        i < events.length ∧ (events ++ [e])[i]? = some (.toolStart tool) ∧
          ∀ k < events.length, Function.update m events.length r k ≠ some i := by
      intro i
      constructor
      · rintro ⟨he, hfree⟩
        have hi := (List.getElem?_eq_some_iff.mp he).1
        refine ⟨hi, by rwa [List.getElem?_append_left hi], fun k hk => ?_⟩
        rw [hkept k hk]
        exact hfree k
      · rintro ⟨hi, he, hfree⟩
        rw [List.getElem?_append_left hi] at he
        refine ⟨he, fun k hk => hfree k (h.lt_of_eq_some hk).2 ?_⟩
        rwa [hkept k (h.lt_of_eq_some hk).2]
    simp only [hset]
  · have hlength : (events ++ [e]).length ≤ j := by
      rw [List.length_append, List.length_singleton]
      exact hj
    rw [Function.update_of_ne hj.ne' r m, h.eq_none hj.le, List.getElem?_eq_none hlength]
    simp

end Pairing

def OpenAt (events : List RunEvent) (m : Nat → Option Nat) (i : Nat) (tool : String) : Prop :=
  events[i]? = some (.toolStart tool) ∧ ∀ j, m j ≠ some i

def EndedAt (events : List RunEvent) (j : Nat) (tool : String) : Prop :=
  events[j]? = some (.toolFinish tool) ∧ ((ofEvents (events.take j)).finish tool).1 = true

theorem openAt_concat_iff (h : Pairing events m) {r : Option Nat} {i : Nat} :
    OpenAt (events ++ [e]) (Function.update m events.length r) i tool ↔
      (OpenAt events m i tool ∨ i = events.length ∧ e = .toolStart tool) ∧ r ≠ some i := by
  have hfree : (∀ j, Function.update m events.length r j ≠ some i) ↔
      (∀ j, m j ≠ some i) ∧ r ≠ some i := by
    constructor
    · intro hall
      refine ⟨fun j hj => ?_, by simpa using hall events.length⟩
      have hne : j ≠ events.length := (h.lt_of_eq_some hj).2.ne
      exact hall j (by rwa [Function.update_of_ne hne])
    · rintro ⟨hall, hlast⟩ j
      by_cases hj : j = events.length
      · rwa [hj, Function.update_self]
      · rw [Function.update_of_ne hj]
        exact hall j
  rw [OpenAt, OpenAt, hfree, ← and_assoc]
  refine and_congr_left fun hne => ?_
  rcases Nat.lt_trichotomy i events.length with hi | rfl | hi
  · simp [List.getElem?_append_left hi, hi.ne]
  · have hunused : ∀ j, m j ≠ some events.length := by
      intro j hj
      have hlt := h.lt_of_eq_some hj
      exact absurd (hlt.1.trans hlt.2) (Nat.lt_irrefl _)
    simp [hunused]
  · have hlength : (events ++ [e]).length ≤ i := by
      rw [List.length_append, List.length_singleton]
      exact hi
    simp [List.getElem?_eq_none hlength, List.getElem?_eq_none hi.le, hi.ne']

theorem endedAt_concat_iff {j : Nat} : EndedAt (events ++ [e]) j tool ↔ EndedAt events j tool ∨
    j = events.length ∧ e = .toolFinish tool ∧ ((ofEvents events).finish tool).1 = true := by
  rw [EndedAt, EndedAt]
  rcases Nat.lt_trichotomy j events.length with hj | rfl | hj
  · simp [List.getElem?_append_left hj, List.take_append_of_le_length hj.le, hj.ne]
  · simp
  · have hlength : (events ++ [e]).length ≤ j := by
      rw [List.length_append, List.length_singleton]
      exact hj
    simp [List.getElem?_eq_none hlength, List.getElem?_eq_none hj.le, hj.ne']

/-- The tracker holds what is not paired, and an end is paired unless it is refused. -/
structure Matched (events : List RunEvent) (m : Nat → Option Nat) (t : Tracker) : Prop where
  pairing : Pairing events m
  current : InOrder (OpenAt events m) t.current
  ended : ∀ j, (∃ i, m j = some i) ↔ ∃ tool, EndedAt events j tool

namespace Matched

theorem exists_least_iff (h : Matched events m (ofEvents events)) :
    (∃ i, IsLeast {i | OpenAt events m i tool} i) ↔ ((ofEvents events).finish tool).1 = true := by
  rw [finish_eq_true_iff]
  constructor
  · rintro ⟨i, hi⟩
    exact h.current.mem_iff.mpr ⟨i, hi.1⟩
  · intro hm
    obtain ⟨i, hi, -⟩ := h.current.erase hm
    exact ⟨i, hi⟩

theorem concat (h : Matched events m (ofEvents events)) {r : Option Nat}
    (hr : ∀ i, r = some i ↔ ∃ tool, e = .toolFinish tool ∧ IsLeast {i | OpenAt events m i tool} i)
    (hcurrent : InOrder (fun i tool =>
      (OpenAt events m i tool ∨ i = events.length ∧ e = .toolStart tool) ∧ r ≠ some i)
      ((ofEvents events).observe e).current) :
    Matched (events ++ [e]) (Function.update m events.length r) (ofEvents (events ++ [e])) where
  pairing := h.pairing.concat hr
  current := by
    rw [ofEvents_concat]
    exact hcurrent.congr fun _ _ => openAt_concat_iff h.pairing
  ended j := by
    simp only [endedAt_concat_iff, exists_or]
    by_cases hj : j = events.length
    · subst hj
      have hlast : ¬∃ tool, EndedAt events events.length tool := by simp [EndedAt]
      simp only [Function.update_self, hr, hlast, true_and, false_or]
      rw [exists_comm]
      refine exists_congr fun tool => ?_
      rw [exists_and_left, h.exists_least_iff]
    · rw [Function.update_of_ne hj, h.ended]
      simp [hj]

theorem exists_concat (h : Matched events m (ofEvents events)) (e : RunEvent) :
    ∃ m', Matched (events ++ [e]) m' (ofEvents (events ++ [e])) := by
  have hnone : (∀ tool, e = .toolFinish tool → tool ∉ (ofEvents events).current) →
      ∀ i, none = some i ↔
        ∃ tool, e = .toolFinish tool ∧ IsLeast {i | OpenAt events m i tool} i := by
    intro hno i
    refine iff_of_false (by simp) ?_
    rintro ⟨tool, he, hi⟩
    exact hno tool he (h.current.mem_iff.mpr ⟨i, hi.1⟩)
  rcases (ofEvents events).observe_cases e with
    ⟨tool, rfl, ho⟩ | ⟨tool, rfl, hm, ho⟩ | ⟨hstart, hfinish, ho⟩
  · refine ⟨_, h.concat (hnone (by simp)) ?_⟩
    rw [ho]
    refine h.current.concat (fun i t hi => (List.getElem?_eq_some_iff.mp hi.1).1) fun i t => ?_
    simp [eq_comm]
  · obtain ⟨i, hleast, hrest⟩ := h.current.erase hm
    refine ⟨_, h.concat (r := some i) (fun j => ?_) ?_⟩
    · constructor
      · intro hj
        rw [← Option.some.inj hj]
        exact ⟨tool, rfl, hleast⟩
      · rintro ⟨other, hother, hj⟩
        rw [← RunEvent.toolFinish.inj hother] at hj
        rw [hleast.unique hj]
    · rw [ho]
      exact hrest.congr fun j t => by simp [eq_comm]
  · refine ⟨_, h.concat (hnone hfinish) ?_⟩
    rw [ho]
    exact h.current.congr fun i t => by simp [hstart]

end Matched

theorem exists_matched (events : List RunEvent) : ∃ m, Matched events m (ofEvents events) := by
  induction events using List.reverseRecOn with
  | nil =>
    refine ⟨fun _ => none, fun j i => by simp, ⟨[], List.Pairwise.nil, ?_, rfl⟩, ?_⟩
    · simp [OpenAt]
    · simp [EndedAt]
  | append_singleton events e ih =>
    obtain ⟨m, h⟩ := ih
    exact h.exists_concat e

theorem inOrder_completed (events : List RunEvent) :
    InOrder (EndedAt events) (ofEvents events).completed := by
  induction events using List.reverseRecOn with
  | nil => exact ⟨[], List.Pairwise.nil, by simp [EndedAt], rfl⟩
  | append_singleton events e ih =>
    rw [ofEvents_concat]
    rcases (ofEvents events).observe_cases e with
      ⟨tool, rfl, ho⟩ | ⟨tool, rfl, hm, ho⟩ | ⟨hstart, hfinish, ho⟩
    · rw [ho]
      exact ih.congr fun j t => by simp [endedAt_concat_iff]
    · rw [ho]
      refine ih.concat (fun j t hj => (List.getElem?_eq_some_iff.mp hj.1).1) fun j t => ?_
      rw [endedAt_concat_iff]
      refine or_congr_right (and_congr_right fun _ => ?_)
      constructor
      · exact fun h => (RunEvent.toolFinish.inj h.1).symm
      · rintro rfl
        exact ⟨rfl, (finish_eq_true_iff _ _).mpr hm⟩
    · rw [ho]
      refine ih.congr fun j t => endedAt_concat_iff.trans (or_iff_left ?_)
      rintro ⟨-, rfl, h⟩
      exact hfinish t rfl ((finish_eq_true_iff _ _).mp h)

def started (events : List RunEvent) : List String := events.filterMap RunEvent.started?

open scoped List in
theorem perm_ofEvents (events : List RunEvent) :
    ((ofEvents events).current ++ (ofEvents events).completed).Perm (started events) := by
  induction events using List.reverseRecOn with
  | nil => exact List.Perm.refl _
  | append_singleton events e ih =>
    have hstarted : started (events ++ [e]) = started events ++ e.started?.toList := by
      rw [started, List.filterMap_append]
      cases e <;> rfl
    rw [ofEvents_concat, hstarted]
    rcases (ofEvents events).observe_cases e with
      ⟨tool, rfl, ho⟩ | ⟨tool, rfl, hm, ho⟩ | ⟨hstart, hfinish, ho⟩
    · rw [ho]
      calc (ofEvents events).current ++ [tool] ++ (ofEvents events).completed
        _ ~ (ofEvents events).current ++ (ofEvents events).completed ++ [tool] := by
          rw [List.append_assoc, List.append_assoc]
          exact List.perm_append_comm.append_left _
        _ ~ started events ++ [tool] := ih.append_right _
    · rw [ho]
      calc (ofEvents events).current.erase tool ++ ((ofEvents events).completed ++ [tool])
        _ ~ tool :: (ofEvents events).current.erase tool ++ (ofEvents events).completed := by
          rw [← List.append_assoc, List.cons_append]
          exact List.perm_append_singleton _ _
        _ ~ (ofEvents events).current ++ (ofEvents events).completed :=
          (List.perm_cons_erase hm).symm.append_right _
        _ ~ started events ++ [] := by simpa using ih
    · have hother : e.started? = none := by
        cases e with
        | toolStart tool => exact absurd rfl (hstart tool)
        | _ => rfl
      rw [ho, hother]
      simpa using ih

/-- What a tracker knows after these events, where `m` gives the start that an end is paired
with. -/
structure Tracked (events : List RunEvent) (m : Nat → Option Nat) (t : Tracker) : Prop where
  balanced : (t.current ++ t.completed).Perm (started events)
  answered : ∀ tool, (t.finish tool).1 = true ↔
    t.completed.count tool < (started events).count tool
  refused : ∀ tool, (t.finish tool).1 = false → (t.finish tool).2 = t
  completed : InOrder (EndedAt events) t.completed
  current : InOrder (OpenAt events m) t.current
  paired : ∀ j, (∃ i, m j = some i) ↔ ∃ tool, EndedAt events j tool

/-- At every moment there is one way to pair ends with the earliest open starts, and the tracker
knows what is paired and what is not. -/
theorem tracked_ofEvents (events : List RunEvent) : (∃! m, Pairing events m) ∧
    ∀ m, Pairing events m → Tracked events m (ofEvents events) := by
  obtain ⟨m, h⟩ := exists_matched events
  refine ⟨⟨m, h.pairing, fun m' h' => h'.unique h.pairing⟩, fun m' h' => ?_⟩
  obtain rfl := h'.unique h.pairing
  refine ⟨perm_ofEvents events, fun tool => ?_, fun tool ht => ?_, inOrder_completed events,
    h.current, h.ended⟩
  · have hcount := (perm_ofEvents events).count_eq tool
    rw [List.count_append] at hcount
    rw [finish_eq_true_iff, ← List.count_pos_iff]
    omega
  · have hm : tool ∉ (ofEvents events).current := by
      rw [← finish_eq_true_iff, ht]
      exact Bool.false_ne_true
    rw [finish_of_not_mem hm]

/-- Of two executions of one tool the one that started first ends first. -/
example : ofEvents [.toolStart "a", .toolFinish "b", .toolStart "b", .toolStart "a",
    .toolFinish "a"] = { current := ["b", "a"], completed := ["a"] } := by decide

end Tracker

end MetaLint
