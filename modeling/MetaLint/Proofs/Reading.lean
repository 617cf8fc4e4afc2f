import MetaLint.Collector.Shared
import MetaLint.Proofs.Directives

/-!
# Reading while issues come in

Take one index for every file that agrees with the cache in the end. It agrees with the cache at
every time, so every issue is sifted by it, whenever and by whichever reader. A reader cleans what
its snapshot holds, and a view is stored only when nothing came in since the snapshot.
-/

set_option autoImplicit false

namespace MetaLint

open DirectiveCache (Grows Agrees)

/-! ## What a move leaves as it was -/

/-- How a collector can have come about from an earlier one. -/
structure Collector.Extends (old new : Collector) : Prop where
  settings : new.settings = old.settings
  raw : old.raw <+: new.raw
  generation : old.generation ≤ new.generation
  unchanged : new.generation = old.generation → new.raw = old.raw
  directives : Grows old.directives new.directives

namespace Collector.Extends

theorem refl (c : Collector) : Extends c c :=
  ⟨rfl, List.prefix_refl _, Nat.le_refl _, fun _ => rfl, DirectiveCache.grows_refl _⟩

theorem trans {a b c : Collector} (h : Extends a b) (k : Extends b c) : Extends a c := by
  have hh := h.generation
  have hk := k.generation
  refine ⟨k.settings.trans h.settings, h.raw.trans k.raw, by omega, ?_, ?_⟩
  · intro hg
    exact (k.unchanged (by omega)).trans (h.unchanged (by omega))
  · intro p found hf
    exact k.directives p found (h.directives p found hf)

end Collector.Extends

theorem Collector.extends_add (c : Collector) (issues : List Issue) :
    Extends c (c.add issues) := by
  refine ⟨rfl, List.prefix_append _ _, Nat.le_succ _, ?_, DirectiveCache.grows_refl _⟩
  intro h
  have hg : c.generation + 1 = c.generation := h
  omega

theorem Collector.extends_store (c : Collector) (generation : Nat) (view : List Issue) :
    Extends c (c.store generation view) := by
  rw [store]
  split
  · exact ⟨rfl, List.prefix_refl _, Nat.le_refl _, fun _ => rfl, DirectiveCache.grows_refl _⟩
  · exact Extends.refl c

namespace Reading

theorem extends_step (c : Collector) (d : Disk) (reading : Reading) :
    c.Extends (reading.step c d).2 := by
  cases reading with
  | asked =>
    rw [step]
    split <;> exact Collector.Extends.refl c
  | sifting shot kept todo => cases todo <;> exact Collector.Extends.refl c
  | lacking shot kept i todo => exact Collector.Extends.refl c
  | loaded shot kept i todo index =>
    exact ⟨rfl, List.prefix_refl _, Nat.le_refl _, fun _ => rfl,
      DirectiveCache.grows_insertNew _ _ _⟩
  | cleaned shot view => exact c.extends_store _ _
  | answered view => exact Collector.Extends.refl c

theorem raw_step (c : Collector) (d : Disk) (reading : Reading) :
    (reading.step c d).2.raw = c.raw := by
  cases reading with
  | asked =>
    rw [step]
    split <;> rfl
  | sifting shot kept todo => cases todo <;> rfl
  | lacking shot kept i todo => rfl
  | loaded shot kept i todo index => rfl
  | cleaned shot view =>
    show (c.store shot.generation view).raw = c.raw
    rw [Collector.store]
    split <;> rfl
  | answered view => rfl

theorem mem_directives_step {c : Collector} {d : Disk} {reading : Reading}
    {entry : Path × SuppressionIndex} (h : entry ∈ (reading.step c d).2.directives) :
    entry ∈ c.directives ∨
      ∃ shot kept i todo, reading = .loaded shot kept i todo entry.2 ∧ entry.1 = i.filename := by
  cases reading with
  | asked =>
    rw [step] at h
    split at h <;> exact Or.inl h
  | sifting shot kept todo => cases todo <;> exact Or.inl h
  | lacking shot kept i todo => exact Or.inl h
  | answered view => exact Or.inl h
  | loaded shot kept i todo index =>
    have h : entry ∈ c.directives.insertNew i.filename index := h
    rw [DirectiveCache.insertNew] at h
    split at h
    · exact Or.inl h
    · rcases List.mem_append.mp h with h | h
      · exact Or.inl h
      · rw [List.mem_singleton.mp h]
        exact Or.inr ⟨shot, kept, i, todo, rfl, rfl⟩
  | cleaned shot view =>
    have h : entry ∈ (c.store shot.generation view).directives := h
    rw [Collector.store] at h
    split at h <;> exact Or.inl h

theorem siftNext_ne_loaded (c : Collector) (before : Collector.Snapshot) (kept : List Issue)
    (current : Issue) (rest : List Issue) (shot : Collector.Snapshot) (done : List Issue)
    (i : Issue) (todo : List Issue) (index : SuppressionIndex) :
    siftNext c before kept current rest ≠ .loaded shot done i todo index := by
  rw [siftNext]
  split
  · exact Reading.noConfusion
  · split
    · exact Reading.noConfusion
    · split <;> exact Reading.noConfusion

theorem loaded_of_step {c : Collector} {d : Disk} {reading : Reading} {shot : Collector.Snapshot}
    {kept : List Issue} {i : Issue} {todo : List Issue} {index : SuppressionIndex}
    (h : (reading.step c d).1 = .loaded shot kept i todo index) :
    index = Collector.loadIndex c.settings d i.filename := by
  cases reading with
  | asked =>
    rw [step] at h
    split at h <;> contradiction
  | sifting before done rest =>
    cases rest with
    | nil => contradiction
    | cons current rest => exact absurd h (siftNext_ne_loaded _ _ _ _ _ _ _ _ _ _)
  | lacking before done current rest =>
    injection h with hshot hkept hi htodo hindex
    rw [← hindex, hi]
  | loaded before done current rest own => contradiction
  | cleaned before view => contradiction
  | answered view => contradiction

/-! ## What a reader knows -/

def Recent (c : Collector) (shot : Collector.Snapshot) : Prop :=
  shot.generation ≤ c.generation ∧ (c.generation = shot.generation → c.raw = shot.raw)

def Sifted (s : CleanSettings) (index : Path → SuppressionIndex) (shot : Collector.Snapshot)
    (kept todo : List Issue) : Prop :=
  ∃ done, shot.raw = done ++ todo ∧ kept.reverse = done.filter (s.keeps index)

def Undecided (s : CleanSettings) (i : Issue) : Prop := s.disables i = false ∧ s.noqa = true

def Sound (index : Path → SuppressionIndex) (c : Collector) : Reading → Prop
  | .asked => True
  | .sifting shot kept todo => Recent c shot ∧ Sifted c.settings index shot kept todo
  | .lacking shot kept i todo =>
    Recent c shot ∧ Sifted c.settings index shot kept (i :: todo) ∧ Undecided c.settings i
  | .loaded shot kept i todo _ =>
    Recent c shot ∧ Sifted c.settings index shot kept (i :: todo) ∧ Undecided c.settings i
  | .cleaned shot view => Recent c shot ∧ view = c.settings.clean index shot.raw
  | .answered _ => True

variable {index : Path → SuppressionIndex} {c : Collector}

theorem Recent.extends {shot : Collector.Snapshot} {later : Collector} (h : Recent c shot)
    (hc : c.Extends later) : Recent later shot := by
  obtain ⟨hle, hraw⟩ := h
  have hg := hc.generation
  refine ⟨by omega, ?_⟩
  intro he
  exact (hc.unchanged (by omega)).trans (hraw (by omega))

/-- What a reader knows stays true whatever the others do. -/
theorem Sound.extends {reading : Reading} {later : Collector} (h : reading.Sound index c)
    (hc : c.Extends later) : reading.Sound index later := by
  cases reading with
  | asked => exact trivial
  | sifting shot kept todo =>
    rw [Sound, hc.settings]
    exact ⟨h.1.extends hc, h.2⟩
  | lacking shot kept i todo =>
    rw [Sound, hc.settings]
    exact ⟨h.1.extends hc, h.2⟩
  | loaded shot kept i todo index =>
    rw [Sound, hc.settings]
    exact ⟨h.1.extends hc, h.2⟩
  | cleaned shot view =>
    rw [Sound, hc.settings]
    exact ⟨h.1.extends hc, h.2⟩
  | answered view => exact trivial

theorem Sifted.next {s : CleanSettings} {shot : Collector.Snapshot} {kept kept' : List Issue}
    {i : Issue} {todo : List Issue} (h : Sifted s index shot kept (i :: todo))
    (hk : kept' = if s.keeps index i then i :: kept else kept) :
    Sifted s index shot kept' todo := by
  obtain ⟨done, hraw, hkept⟩ := h
  refine ⟨done ++ [i], by rw [hraw, List.append_assoc, List.singleton_append], ?_⟩
  rw [hk, List.filter_append]
  cases hi : s.keeps index i <;> simp [hi, hkept]

theorem sift_eq {s : CleanSettings} {i : Issue} (h : Undecided s i) (kept : List Issue) :
    sift kept i (index i.filename) = if s.keeps index i then i :: kept else kept := by
  rw [sift, CleanSettings.keeps, h.1, h.2]
  cases (index i.filename).suppresses i <;> rfl

theorem sound_siftNext (hd : Agrees index c.directives) {shot : Collector.Snapshot}
    {kept : List Issue} {i : Issue} {todo : List Issue} (hr : Recent c shot)
    (h : Sifted c.settings index shot kept (i :: todo)) :
    (siftNext c shot kept i todo).Sound index c := by
  rw [siftNext]
  split
  next hdis => exact ⟨hr, h.next (by simp [CleanSettings.keeps, hdis])⟩
  next hdis =>
    have hdis := Bool.eq_false_iff.mpr hdis
    split
    next hnoqa => exact ⟨hr, h.next (by simp_all [CleanSettings.keeps])⟩
    next hnoqa =>
      have hu : Undecided c.settings i := ⟨hdis, by simpa using hnoqa⟩
      cases hf : c.directives.find? i.filename with
      | none => exact ⟨hr, h, hu⟩
      | some found =>
        refine ⟨hr, h.next ?_⟩
        rw [← hd _ _ hf]
        exact sift_eq hu kept

theorem sound_step (d : Disk) {reading : Reading} (h : reading.Sound index c)
    (hd : Agrees index (reading.step c d).2.directives) :
    (reading.step c d).1.Sound index (reading.step c d).2 := by
  cases reading with
  | asked =>
    rw [step]
    cases c.cleaned with
    | some view => exact trivial
    | none => exact ⟨⟨Nat.le_refl _, fun _ => rfl⟩, [], rfl, rfl⟩
  | sifting shot kept todo =>
    cases todo with
    | nil =>
      obtain ⟨hr, done, hraw, hkept⟩ := h
      refine ⟨hr, ?_⟩
      rw [List.append_nil] at hraw
      rw [hkept, hraw]
      rfl
    | cons i todo => exact sound_siftNext hd h.1 h.2
  | lacking shot kept i todo => exact h
  | loaded shot kept i todo own =>
    -- Another reader may have been faster, and then its index counts.
    obtain ⟨hr, hs, hu⟩ := h
    refine ⟨hr.extends (extends_step c d (.loaded shot kept i todo own)), hs.next ?_⟩
    have hf := DirectiveCache.find?_insertNew_self c.directives i.filename own
    rw [DirectiveCache.get_eq hf, ← hd _ _ hf]
    exact sift_eq hu kept
  | cleaned shot view => exact trivial
  | answered view => exact trivial

theorem cleaned_step (d : Disk) {reading : Reading} (h : reading.Sound index c) {view : List Issue}
    (hc : (reading.step c d).2.cleaned = some view) :
    c.cleaned = some view ∨ view = c.settings.clean index c.raw := by
  cases reading with
  | asked =>
    left
    rw [step] at hc
    split at hc <;> exact hc
  | sifting shot kept todo => cases todo <;> exact Or.inl hc
  | lacking shot kept i todo => exact Or.inl hc
  | loaded shot kept i todo own => exact Or.inl hc
  | answered view => exact Or.inl hc
  | cleaned shot own =>
    obtain ⟨hr, hview⟩ := h
    have hc : (c.store shot.generation own).cleaned = some view := hc
    rw [Collector.store] at hc
    split at hc
    next hg =>
      right
      rw [hr.2 hg, ← hview]
      exact (Option.some.inj hc).symm
    next => exact Or.inl hc

end Reading

end MetaLint
