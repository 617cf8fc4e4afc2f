import Mathlib
import MetaLint.Proofs.Reading

/-!
# Consistent readers

Whatever issues come in, whatever readers do and however files change, there is one index for every
file such that each stored view and each answer is the cleaning of raw issues by it: a stored view
of those there are, an answer of those there were at some time while its reader was at work.
-/

set_option autoImplicit false

namespace MetaLint

open DirectiveCache (Grows Agrees)

namespace Reading

/-- How many steps a reader takes at most until it answers, when it finds so many raw issues or
fewer. -/
def due (raw : Nat) : Reading → Nat
  | .asked => 3 * raw + 3
  | .sifting _ _ todo => 3 * todo.length + 2
  | .lacking _ _ _ todo => 3 * todo.length + 4
  | .loaded _ _ _ todo _ => 3 * todo.length + 3
  | .cleaned _ _ => 1
  | .answered _ => 0

theorem due_asked (raw : Nat) : due raw .asked = 3 * raw + 3 := rfl

theorem due_step (reading : Reading) {c : Collector} {n : Nat} (d : Disk)
    (hn : c.raw.length ≤ n) : (reading.step c d).1.due n ≤ reading.due n - 1 := by
  cases reading with
  | asked =>
    rw [step]
    cases c.cleaned with
    | some view => exact Nat.zero_le _
    | none =>
      show 3 * c.raw.length + 2 ≤ 3 * n + 3 - 1
      omega
  | sifting shot kept todo =>
    cases todo with
    | nil => exact Nat.le_refl _
    | cons i todo =>
      show (siftNext c shot kept i todo).due n ≤ 3 * (todo.length + 1) + 2 - 1
      rw [siftNext]
      split
      · rw [due]; omega
      · split
        · rw [due]; omega
        · split <;> rw [due] <;> omega
  | lacking shot kept i todo => exact Nat.le_refl _
  | loaded shot kept i todo own => exact Nat.le_refl _
  | cleaned shot view => exact Nat.le_refl _
  | answered view => exact Nat.le_refl _

theorem exists_answer_of_due {reading : Reading} {n : Nat} (h : reading.due n = 0) :
    ∃ v, reading.answer? = some v := by
  cases reading with
  | answered view => exact ⟨view, rfl⟩
  | _ => simp [due] at h

end Reading

namespace SharedCollector

variable {index : Path → SuppressionIndex} {s : SharedCollector}

theorem perform_snoc (s : SharedCollector) (moves : List Move) (m : Move) :
    s.perform (moves ++ [m]) = (s.perform moves).step m := perform_append s moves [m]

theorem extends_step (s : SharedCollector) (m : Move) :
    s.collector.Extends (s.step m).collector := by
  cases m with
  | add issues => exact s.collector.extends_add issues
  | ask => exact Collector.Extends.refl _
  | change disk => exact Collector.Extends.refl _
  | advance r =>
    rw [step, advance]
    cases s.readers[r]? with
    | none => exact Collector.Extends.refl _
    | some reading => exact reading.extends_step s.collector s.disk

theorem extends_perform (s : SharedCollector) (moves : List Move) :
    s.collector.Extends (s.perform moves).collector := by
  induction moves generalizing s with
  | nil => exact Collector.Extends.refl _
  | cons m moves ih => exact (s.extends_step m).trans (ih (s.step m))

structure Sound (index : Path → SuppressionIndex) (s : SharedCollector) : Prop where
  view : ∀ v, s.collector.cleaned = some v →
    v = s.collector.settings.clean index s.collector.raw
  readers : ∀ reading ∈ s.readers, reading.Sound index s.collector

theorem sound_advance (h : Sound index s) (r : Nat)
    (hd : Agrees index (s.advance r).collector.directives) : Sound index (s.advance r) := by
  rw [advance] at hd ⊢
  cases hr : s.readers[r]? with
  | none => exact h
  | some reading =>
    rw [hr] at hd
    have hreading := h.readers reading (List.mem_of_getElem? hr)
    have hext := reading.extends_step s.collector s.disk
    constructor
    · intro v hv
      show v = (reading.step s.collector s.disk).2.settings.clean index
        (reading.step s.collector s.disk).2.raw
      rw [hext.settings, reading.raw_step]
      rcases Reading.cleaned_step s.disk hreading hv with hv | hv
      · exact h.view v hv
      · exact hv
    · intro other ho
      rcases List.mem_or_eq_of_mem_set ho with ho | rfl
      · exact (h.readers other ho).extends hext
      · exact Reading.sound_step s.disk hreading hd

theorem sound_step (h : Sound index s) (m : Move)
    (hd : Agrees index (s.step m).collector.directives) : Sound index (s.step m) := by
  cases m with
  | add issues =>
    constructor
    · intro v hv
      have hnone : (none : Option (List Issue)) = some v := hv
      contradiction
    · intro reading hr
      exact (h.readers reading hr).extends (s.collector.extends_add issues)
  | ask =>
    refine ⟨h.view, ?_⟩
    intro reading hr
    rcases List.mem_append.mp hr with hr | hr
    · exact h.readers reading hr
    · rw [List.mem_singleton.mp hr]
      exact trivial
  | change disk => exact ⟨h.view, h.readers⟩
  | advance r => exact sound_advance h r hd

theorem sound_perform (h : Sound index s) (moves : List Move)
    (hd : Agrees index (s.perform moves).collector.directives) : Sound index (s.perform moves) := by
  induction moves using List.reverseRecOn with
  | nil => exact h
  | append_singleton moves m ih =>
    rw [perform_snoc] at hd ⊢
    have hm := hd.of_grows ((s.perform moves).extends_step m).directives
    exact sound_step (ih hm) m hd

/-- The raw issues that a reader goes by have been `seen`. -/
def Drawn (seen : List Issue → Prop) (index : Path → SuppressionIndex) (s : CleanSettings) :
    Reading → Prop
  | .asked => True
  | .sifting shot _ _ => seen shot.raw
  | .lacking shot _ _ _ => seen shot.raw
  | .loaded shot _ _ _ _ => seen shot.raw
  | .cleaned shot _ => seen shot.raw
  | .answered view => ∃ raw, seen raw ∧ view = s.clean index raw

theorem Drawn.imp {seen more : List Issue → Prop} {settings : CleanSettings} {reading : Reading}
    (h : Drawn seen index settings reading) (hs : ∀ raw, seen raw → more raw) :
    Drawn more index settings reading := by
  cases reading with
  | asked => exact trivial
  | sifting shot kept todo => exact hs _ h
  | lacking shot kept i todo => exact hs _ h
  | loaded shot kept i todo own => exact hs _ h
  | cleaned shot view => exact hs _ h
  | answered view =>
    obtain ⟨raw, hraw, hv⟩ := h
    exact ⟨raw, hs raw hraw, hv⟩

theorem drawn_step {seen : List Issue → Prop} {c : Collector} (d : Disk) {reading : Reading}
    (hc : ∀ v, c.cleaned = some v → v = c.settings.clean index c.raw)
    (hr : reading.Sound index c) (h : Drawn seen index c.settings reading)
    (hs : reading.answer? = none → seen c.raw) :
    Drawn seen index c.settings (reading.step c d).1 := by
  cases reading with
  | asked =>
    rw [Reading.step]
    cases hv : c.cleaned with
    | none => exact hs rfl
    | some view => exact ⟨c.raw, hs rfl, hc view hv⟩
  | sifting shot kept todo =>
    cases todo with
    | nil => exact h
    | cons i todo =>
      show Drawn seen index c.settings (Reading.siftNext c shot kept i todo)
      rw [Reading.siftNext]
      split
      · exact h
      · split
        · exact h
        · split <;> exact h
  | lacking shot kept i todo => exact h
  | loaded shot kept i todo own => exact h
  | cleaned shot view => exact ⟨shot.raw, h, hr.2⟩
  | answered view => exact h

theorem reader_step {reading : Reading} {n : Nat} (h : s.readers[n]? = some reading) (m : Move) :
    (s.step m).readers[n]? = some reading ∨
      (s.step m).readers[n]? = some (reading.step s.collector s.disk).1 := by
  have hn : n < s.readers.length := (List.getElem?_eq_some_iff.mp h).1
  cases m with
  | add issues => exact Or.inl h
  | change disk => exact Or.inl h
  | ask =>
    left
    rw [← h]
    exact List.getElem?_append_left hn
  | advance r =>
    rw [step, advance]
    by_cases hr : r = n
    · subst hr
      right
      rw [h]
      exact List.getElem?_set_self hn
    · left
      cases s.readers[r]? with
      | none => exact h
      | some other =>
        rw [← h]
        exact List.getElem?_set_ne hr

theorem answer?_eq {reading : Reading} {n : Nat} (h : s.readers[n]? = some reading) :
    s.answer? n = reading.answer? := by
  rw [answer?, h]
  rfl

/-- Raw issues there were during `moves` while reader `n` had no answer. -/
def SeenBy (s : SharedCollector) (n : Nat) (moves : List Move) (raw : List Issue) : Prop :=
  ∃ during, during <+: moves ∧ (s.perform during).answer? n = none ∧
    raw = (s.perform during).collector.raw

theorem drawn_perform (h : Sound index s) {n : Nat} (hn : s.readers[n]? = some .asked)
    (moves : List Move) (hd : Agrees index (s.perform moves).collector.directives) :
    ∃ reading, (s.perform moves).readers[n]? = some reading ∧
      Drawn (SeenBy s n moves) index s.collector.settings reading := by
  induction moves using List.reverseRecOn with
  | nil => exact ⟨.asked, hn, trivial⟩
  | append_singleton moves m ih =>
    have hm := hd
    rw [perform_snoc] at hm
    have hbefore := hm.of_grows ((s.perform moves).extends_step m).directives
    obtain ⟨reading, hr, hdrawn⟩ := ih hbefore
    have hlater : Drawn (SeenBy s n (moves ++ [m])) index s.collector.settings reading := by
      apply hdrawn.imp
      rintro raw ⟨during, hp, hseen⟩
      exact ⟨during, hp.trans (List.prefix_append _ _), hseen⟩
    rw [perform_snoc]
    rcases reader_step hr m with hstep | hstep
    · exact ⟨reading, hstep, hlater⟩
    · -- What it takes from the collector now are the raw issues there are now.
      refine ⟨_, hstep, ?_⟩
      have hsound := sound_perform h moves hbefore
      rw [← (s.extends_perform moves).settings] at hlater ⊢
      apply drawn_step _ hsound.view (hsound.readers reading (List.mem_of_getElem? hr)) hlater
      intro hnone
      exact ⟨moves, List.prefix_append _ _, by rw [answer?_eq hr, hnone], rfl⟩

theorem reader_advance {reading : Reading} {n : Nat} (h : s.readers[n]? = some reading) :
    (s.step (.advance n)).readers[n]? = some (reading.step s.collector s.disk).1 := by
  rw [step, advance, h]
  exact List.getElem?_set_self (List.getElem?_eq_some_iff.mp h).1

def stepsOf (n : Nat) (moves : List Move) : Nat :=
  moves.countP fun m => match m with
    | .advance r => r == n
    | _ => false

theorem stepsOf_snoc_advance (n : Nat) (moves : List Move) :
    stepsOf n (moves ++ [.advance n]) = stepsOf n moves + 1 := by
  simp [stepsOf]

theorem stepsOf_snoc {n : Nat} {m : Move} (h : m ≠ .advance n) (moves : List Move) :
    stepsOf n (moves ++ [m]) = stepsOf n moves := by
  cases m with
  | advance r =>
    have hr : r ≠ n := fun hr => h (by rw [hr])
    simp [stepsOf, hr]
  | _ => simp [stepsOf]

theorem due_perform {reading : Reading} {n bound : Nat} (h : s.readers[n]? = some reading)
    (moves : List Move) (hb : (s.perform moves).collector.raw.length ≤ bound) :
    ∃ later, (s.perform moves).readers[n]? = some later ∧
      later.due bound ≤ reading.due bound - stepsOf n moves := by
  induction moves using List.reverseRecOn with
  | nil => exact ⟨reading, h, Nat.le_refl _⟩
  | append_singleton moves m ih =>
    rw [perform_snoc] at hb ⊢
    have hraw : (s.perform moves).collector.raw.length ≤ bound :=
      Nat.le_trans ((s.perform moves).extends_step m).raw.length_le hb
    obtain ⟨later, hl, hdue⟩ := ih hraw
    have hless := later.due_step (s.perform moves).disk hraw
    by_cases hm : m = .advance n
    · rw [hm, stepsOf_snoc_advance]
      exact ⟨_, reader_advance hl, by omega⟩
    · rw [stepsOf_snoc hm]
      rcases reader_step hl m with hstep | hstep
      · exact ⟨later, hstep, hdue⟩
      · exact ⟨_, hstep, by omega⟩

/-- A reader answers when it has taken three steps for each raw issue there is, and three more. -/
theorem exists_answer {mid : List Move}
    (hs : 3 * ((s.step .ask).perform mid).collector.raw.length + 3 ≤
      stepsOf s.readers.length mid) :
    ∃ v, ((s.step .ask).perform mid).answer? s.readers.length = some v := by
  have hn : (s.step .ask).readers[s.readers.length]? = some .asked :=
    List.getElem?_concat_length
  obtain ⟨later, hl, hdue⟩ := due_perform hn mid (Nat.le_refl _)
  rw [answer?_eq hl]
  have hdone : later.due ((s.step .ask).perform mid).collector.raw.length = 0 := by
    rw [Reading.due_asked] at hdue
    omega
  exact Reading.exists_answer_of_due hdone

theorem length_readers_step (s : SharedCollector) (m : Move) :
    (s.step m).readers.length = s.readers.length ∨
      m = .ask ∧ (s.step m).readers.length = s.readers.length + 1 := by
  cases m with
  | add issues => exact Or.inl rfl
  | change disk => exact Or.inl rfl
  | ask => exact Or.inr ⟨rfl, List.length_append⟩
  | advance r =>
    left
    rw [step, advance]
    cases s.readers[r]? with
    | none => rfl
    | some reading => exact List.length_set

theorem exists_ask {n : Nat} (moves : List Move) (hle : s.readers.length ≤ n)
    (hlt : n < (s.perform moves).readers.length) : ∃ before after,
      moves = before ++ .ask :: after ∧ (s.perform before).readers.length = n := by
  induction moves using List.reverseRecOn with
  | nil =>
    rw [perform_nil] at hlt
    omega
  | append_singleton moves m ih =>
    by_cases hn : n < (s.perform moves).readers.length
    · obtain ⟨before, after, he, hb⟩ := ih hn
      exact ⟨before, after ++ [m], by rw [he, List.append_assoc, List.cons_append], hb⟩
    · rw [perform_snoc] at hlt
      rcases length_readers_step (s.perform moves) m with hl | ⟨rfl, hl⟩
      · omega
      · exact ⟨moves, [], rfl, by omega⟩

theorem lt_of_answer?_eq_some {n : Nat} {v : List Issue} (h : s.answer? n = some v) :
    n < s.readers.length := by
  rw [answer?] at h
  obtain ⟨reading, hr, -⟩ := Option.bind_eq_some_iff.mp h
  exact (List.getElem?_eq_some_iff.mp hr).1

theorem raw_perform {moves : List Move} (h : ∀ issues, .add issues ∉ moves) :
    (s.perform moves).collector.raw = s.collector.raw := by
  induction moves using List.reverseRecOn with
  | nil => rfl
  | append_singleton moves m ih =>
    rw [perform_snoc, ← ih fun issues hm => h issues (List.mem_append_left _ hm)]
    cases m with
    | add issues => exact absurd (by simp) (h issues)
    | ask => rfl
    | change disk => rfl
    | advance r =>
      rw [step, advance]
      cases (s.perform moves).readers[r]? with
      | none => rfl
      | some reading => exact reading.raw_step _ _

structure Loaded (origin : Path → SuppressionIndex → Prop) (s : SharedCollector) : Prop where
  cache : ∀ entry ∈ s.collector.directives, origin entry.1 entry.2
  readers : ∀ shot kept i todo index, .loaded shot kept i todo index ∈ s.readers →
    origin i.filename index

theorem loaded_step {origin : Path → SuppressionIndex → Prop} (h : Loaded origin s)
    (hs : ∀ p, origin p (Collector.loadIndex s.collector.settings s.disk p)) (m : Move) :
    Loaded origin (s.step m) := by
  cases m with
  | add issues => exact ⟨h.cache, h.readers⟩
  | change disk => exact ⟨h.cache, h.readers⟩
  | ask =>
    refine ⟨h.cache, ?_⟩
    intro shot kept i todo index hm
    rcases List.mem_append.mp hm with hm | hm
    · exact h.readers shot kept i todo index hm
    · have he := List.mem_singleton.mp hm
      contradiction
  | advance r =>
    rw [step, advance]
    cases hr : s.readers[r]? with
    | none => exact h
    | some reading =>
      have hm := List.mem_of_getElem? hr
      constructor
      · intro entry he
        rcases Reading.mem_directives_step he with he | ⟨shot, kept, i, todo, rfl, hi⟩
        · exact h.cache entry he
        · rw [hi]
          exact h.readers shot kept i todo entry.2 hm
      · intro shot kept i todo index hmem
        rcases List.mem_or_eq_of_mem_set hmem with hmem | he
        · exact h.readers shot kept i todo index hmem
        · rw [Reading.loaded_of_step he.symm]
          exact hs i.filename

theorem loaded_perform {origin : Path → SuppressionIndex → Prop} (h : Loaded origin s)
    (moves : List Move) (hs : ∀ done, done <+: moves → ∀ p,
      origin p (Collector.loadIndex s.collector.settings (s.perform done).disk p)) :
    Loaded origin (s.perform moves) := by
  induction moves using List.reverseRecOn with
  | nil => exact h
  | append_singleton moves m ih =>
    rw [perform_snoc]
    apply loaded_step (ih fun done hd => hs done (hd.trans (List.prefix_append _ _)))
    intro p
    rw [(s.extends_perform moves).settings]
    exact hs moves (List.prefix_append _ _) p

def start (settings : CleanSettings) (disk : Disk) : SharedCollector :=
  { collector := .create settings, disk }

/-- How readers see the history of `moves` from `s` on, with one index for every file. -/
structure Consistent (s : SharedCollector) (moves : List Move) (index : Path → SuppressionIndex) :
    Prop where
  shared : ∀ p q, p.same q = true → index p = index q
  kept : ∀ done, done <+: moves → ∀ p found,
    (s.perform done).collector.directives.find? p = some found → index p = found
  loaded : ∀ p found, (s.perform moves).collector.directives.find? p = some found →
    ∃ done q, done <+: moves ∧ p.same q = true ∧
      found = Collector.loadIndex s.collector.settings (s.perform done).disk q
  view : ∀ done, done <+: moves → ∀ v, (s.perform done).collector.cleaned = some v →
    v = s.collector.settings.clean index (s.perform done).collector.raw
  answer : ∀ before mid, before ++ .ask :: mid <+: moves → ∀ v,
    (s.perform (before ++ .ask :: mid)).answer? (s.perform before).readers.length = some v →
    ∃ during, during <+: mid ∧
      (s.perform (before ++ .ask :: during)).answer? (s.perform before).readers.length = none ∧
      (s.perform before).collector.raw <+:
        (s.perform (before ++ .ask :: during)).collector.raw ∧
      v = s.collector.settings.clean index (s.perform (before ++ .ask :: during)).collector.raw
  /-- It does answer: when it has taken three steps for each raw issue there is and three more,
  whatever happens in between. -/
  answers : ∀ before mid, before ++ .ask :: mid <+: moves →
    3 * (s.perform (before ++ .ask :: mid)).collector.raw.length + 3 ≤
      stepsOf (s.perform before).readers.length mid →
    ∃ v, (s.perform (before ++ .ask :: mid)).answer? (s.perform before).readers.length = some v
  steady : ∀ before mid, before ++ mid <+: moves → (∀ issues, .add issues ∉ mid) →
    ∀ m n v w, (s.perform before).readers.length ≤ m → (s.perform before).readers.length ≤ n →
      (s.perform (before ++ mid)).answer? m = some v →
      (s.perform (before ++ mid)).answer? n = some w → v = w

theorem sound_start (index : Path → SuppressionIndex) (settings : CleanSettings) (disk : Disk) :
    Sound index (start settings disk) where
  view v hv := by
    have hnone : (none : Option (List Issue)) = some v := hv
    contradiction
  readers reading hr := by
    have hnil : reading ∈ ([] : List Reading) := hr
    contradiction

theorem perform_ask (s : SharedCollector) (before mid : List Move) :
    s.perform (before ++ .ask :: mid) = ((s.perform before).step .ask).perform mid :=
  perform_append s before (.ask :: mid)

theorem exists_during (h : Sound index s) {mid : List Move}
    (hd : Agrees index ((s.step .ask).perform mid).collector.directives) {v : List Issue}
    (hv : ((s.step .ask).perform mid).answer? s.readers.length = some v) :
    ∃ during, during <+: mid ∧ ((s.step .ask).perform during).answer? s.readers.length = none ∧
      v = s.collector.settings.clean index ((s.step .ask).perform during).collector.raw := by
  have hask : Sound index (s.step .ask) :=
    sound_step h .ask (hd.of_grows ((s.step .ask).extends_perform mid).directives)
  have hn : (s.step .ask).readers[s.readers.length]? = some .asked :=
    List.getElem?_concat_length
  obtain ⟨reading, hr, hdrawn⟩ := drawn_perform hask hn mid hd
  rw [answer?_eq hr] at hv
  cases reading with
  | answered view =>
    obtain rfl : view = v := Option.some.inj hv
    obtain ⟨raw, ⟨during, hp, hnone, rfl⟩, hview⟩ := hdrawn
    exact ⟨during, hp, hnone, hview⟩
  | asked => contradiction
  | sifting shot kept todo => contradiction
  | lacking shot kept i todo => contradiction
  | loaded shot kept i todo own => contradiction
  | cleaned shot view => contradiction

theorem answer_of_steady (h : Sound index s) {mid : List Move}
    (hd : Agrees index (s.perform mid).collector.directives) (hadd : ∀ issues, .add issues ∉ mid)
    {n : Nat} {v : List Issue} (hn : s.readers.length ≤ n)
    (hv : (s.perform mid).answer? n = some v) :
    v = s.collector.settings.clean index s.collector.raw := by
  obtain ⟨before, after, rfl, rfl⟩ := exists_ask mid hn (lt_of_answer?_eq_some hv)
  rw [perform_ask] at hd hv
  have hmid := hd.of_grows (((s.perform before).step .ask).extends_perform after).directives
  have hbefore : Sound index (s.perform before) := by
    apply sound_perform h before
    exact hmid.of_grows ((s.perform before).extends_step .ask).directives
  obtain ⟨during, hp, -, hview⟩ := exists_during hbefore hd hv
  have hraw : ((s.perform before).step .ask).perform during =
      s.perform (before ++ .ask :: during) :=
    (perform_ask s before during).symm
  rw [hview, (s.extends_perform before).settings, hraw, raw_perform]
  intro issues hm
  apply hadd issues
  rcases List.mem_append.mp hm with hm | hm
  · exact List.mem_append_left _ hm
  · exact List.mem_append_right _ ((List.cons_prefix_cons.mpr ⟨rfl, hp⟩).subset hm)

theorem agrees_done {done moves : List Move} (hp : done <+: moves) :
    Agrees (s.perform moves).collector.directives.get (s.perform done).collector.directives := by
  obtain ⟨rest, rfl⟩ := hp
  rw [perform_append]
  exact (DirectiveCache.agrees_get _).of_grows (extends_perform _ rest).directives

section Start
variable {settings : CleanSettings} {disk : Disk} {done moves : List Move}

theorem sound_done (hp : done <+: moves) :
    Sound ((start settings disk).perform moves).collector.directives.get
      ((start settings disk).perform done) :=
  sound_perform (sound_start _ settings disk) done (agrees_done hp)

theorem exists_load {p : Path} {found : SuppressionIndex}
    (hf : ((start settings disk).perform moves).collector.directives.find? p = some found) :
    ∃ done q, done <+: moves ∧ p.same q = true ∧
      found = Collector.loadIndex settings ((start settings disk).perform done).disk q := by
  obtain ⟨q, hq, hsame⟩ := DirectiveCache.exists_entry hf
  have hl : Loaded (fun p index => ∃ done, done <+: moves ∧
      index = Collector.loadIndex settings ((start settings disk).perform done).disk p)
      ((start settings disk).perform moves) := by
    apply loaded_perform ⟨by simp [start, Collector.create], by simp [start]⟩
    intro done hd p
    exact ⟨done, hd, rfl⟩
  obtain ⟨done, hd, he⟩ := hl.cache _ hq
  exact ⟨done, q, hd, hsame, he⟩

theorem view_done (hp : done <+: moves) {v : List Issue}
    (hv : ((start settings disk).perform done).collector.cleaned = some v) :
    v = settings.clean ((start settings disk).perform moves).collector.directives.get
      ((start settings disk).perform done).collector.raw := by
  have hview := (sound_done hp).view v hv
  rwa [((start settings disk).extends_perform done).settings] at hview

theorem exists_during_ask {before mid : List Move} (hp : before ++ .ask :: mid <+: moves)
    {v : List Issue} (hv : ((start settings disk).perform (before ++ .ask :: mid)).answer?
      ((start settings disk).perform before).readers.length = some v) :
    ∃ during, during <+: mid ∧ ((start settings disk).perform (before ++ .ask :: during)).answer?
        ((start settings disk).perform before).readers.length = none ∧
      ((start settings disk).perform before).collector.raw <+:
        ((start settings disk).perform (before ++ .ask :: during)).collector.raw ∧
      v = settings.clean ((start settings disk).perform moves).collector.directives.get
        ((start settings disk).perform (before ++ .ask :: during)).collector.raw := by
  have hbefore : Sound ((start settings disk).perform moves).collector.directives.get
      ((start settings disk).perform before) := sound_done ((List.prefix_append _ _).trans hp)
  have hmid := agrees_done (s := start settings disk) hp
  rw [perform_ask] at hmid hv
  obtain ⟨during, hd, hnone, hview⟩ := exists_during hbefore hmid hv
  rw [((start settings disk).extends_perform before).settings] at hview
  refine ⟨during, hd, ?_⟩
  rw [perform_ask]
  exact ⟨hnone, (extends_perform _ (.ask :: during)).raw, hview⟩

theorem answer_eq_answer {before mid : List Move} (hp : before ++ mid <+: moves)
    (hadd : ∀ issues, .add issues ∉ mid) {m n : Nat} {v w : List Issue}
    (hm : ((start settings disk).perform before).readers.length ≤ m)
    (hn : ((start settings disk).perform before).readers.length ≤ n)
    (hv : ((start settings disk).perform (before ++ mid)).answer? m = some v)
    (hw : ((start settings disk).perform (before ++ mid)).answer? n = some w) : v = w := by
  have hbefore : Sound ((start settings disk).perform moves).collector.directives.get
      ((start settings disk).perform before) := sound_done ((List.prefix_append _ _).trans hp)
  have hmid := agrees_done (s := start settings disk) hp
  rw [perform_append] at hmid hv hw
  rw [answer_of_steady hbefore hmid hadd hm hv, answer_of_steady hbefore hmid hadd hn hw]

end Start

/-- All readers see one history, whatever the order of the steps and whatever becomes of the
files. -/
theorem consistent_perform (settings : CleanSettings) (disk : Disk) (moves : List Move) :
    ∃ index, Consistent (start settings disk) moves index := by
  refine ⟨((start settings disk).perform moves).collector.directives.get, ?_⟩
  constructor
  · intro p q h
    rw [DirectiveCache.get, DirectiveCache.get, DirectiveCache.find?_eq_of_same h]
  · intro done hd p found hf
    exact agrees_done hd p found hf
  · intro p found hf
    exact exists_load hf
  · intro done hd v hv
    exact view_done hd hv
  · intro before mid hd v hv
    exact exists_during_ask hd hv
  · intro before mid _ hs
    rw [perform_ask] at hs ⊢
    exact exists_answer hs
  · intro before mid hd hadd m n v w hm hn hv hw
    exact answer_eq_answer hd hadd hm hn hv hw

def readInTurns (first second : Issue) : List Move :=
  [.add [first], .ask, .advance 0, .add [second]] ++ List.replicate 5 (.advance 0)

theorem consistent_perform_read : ∃ first second moves index,
    moves = readInTurns first second ++ .ask :: List.replicate 9 (.advance 1) ∧
    Consistent (start {} {}) moves index ∧
    (∃ v, ((start {} {}).perform moves).answer? 1 = some v) ∧
    ((start {} {}).perform moves).answer? 0 = some [first] ∧
    ((start {} {}).perform moves).answer? 1 = some [first, second] := by
  let first : Issue := .create "spell" "typo" "teh" ⟨"/a.py"⟩
  let second : Issue := .create "spell" "case" "Teh" ⟨"/b.py"⟩
  obtain ⟨moves, hmoves⟩ : ∃ moves, moves = readInTurns first second ++
    .ask :: List.replicate 9 (.advance 1) := ⟨_, rfl⟩
  obtain ⟨index, h⟩ := consistent_perform {} {} moves
  have hreader : ((start {} {}).perform (readInTurns first second)).readers.length = 1 := by cbv
  have hraw : ((start {} {}).perform moves).collector.raw.length = 2 := by
    rw [hmoves]
    cbv
  have hfirst : ((start {} {}).perform moves).answer? 0 = some [first] := by
    rw [hmoves]
    cbv
  have hsecond : ((start {} {}).perform moves).answer? 1 = some [first, second] := by
    rw [hmoves]
    cbv
  have hanswers := h.answers (readInTurns first second) (List.replicate 9 (.advance 1))
  rw [← hmoves, hreader, hraw] at hanswers
  exact ⟨first, second, moves, index, hmoves, h, hanswers (List.prefix_refl _) (by decide), hfirst,
    hsecond⟩

end SharedCollector

end MetaLint
