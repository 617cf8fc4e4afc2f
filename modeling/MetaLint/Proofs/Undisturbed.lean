import MetaLint.Proofs.Cleaning
import MetaLint.Proofs.Reading

/-!
# A reader that nobody disturbs

A reader looks up directives on the way through the issues of its snapshot. When nobody comes in
between, this is the same as loading all directives first and cleaning the issues by them: the
reader answers with the view, and leaves the collector that keeps it.
-/

set_option autoImplicit false

namespace MetaLint

open DirectiveCache (Agrees)

namespace Collector

variable {s : CleanSettings} {d : Disk} {cache : DirectiveCache} {i : Issue}

theorem ensureIndexes_cons (i : Issue) (raw : List Issue) : ensureIndexes s d cache (i :: raw) =
    ensureIndexes s d (ensureIndexes s d cache [i]) raw := by
  have hfiles : filesToScan s (i :: raw) = filesToScan s [i] ++ filesToScan s raw := by
    rw [filesToScan, filesToScan, filesToScan]
    split
    · rw [← List.map_append, ← List.filter_append, List.singleton_append]
    · rfl
  rw [ensureIndexes, hfiles, List.foldl_append]
  rfl

theorem ensureIndexes_of_undecided (h : Reading.Undecided s i) :
    ensureIndexes s d cache [i] = ensureIndex s d cache i.filename := by
  simp [ensureIndexes, filesToScan, h.1, h.2]

/-- Directives are looked up when they decide on an issue only. -/
theorem ensureIndexes_of_decided (h : s.disables i = true ∨ s.noqa = false) :
    ensureIndexes s d cache [i] = cache := by
  rcases h with h | h <;> simp [ensureIndexes, filesToScan, h]

end Collector

namespace Reading

def alone (d : Disk) : Nat → Reading × Collector → Reading × Collector
  | 0, x => x
  | n + 1, x => alone d n (x.1.step x.2 d)

theorem alone_add (d : Disk) (m n : Nat) (x : Reading × Collector) :
    alone d (m + n) x = alone d n (alone d m x) := by
  induction m generalizing x with
  | zero => rw [Nat.zero_add, alone]
  | succ m ih => rw [Nat.succ_add, alone, alone, ih]

variable {d : Disk} {c : Collector} {index : Path → SuppressionIndex}

theorem alone_undecided {i : Issue} (hu : Undecided c.settings i)
    (hd : Agrees index (Collector.ensureIndex c.settings d c.directives i.filename))
    (shot : Collector.Snapshot) (kept todo : List Issue) :
    ∃ n, alone d n (.sifting shot kept (i :: todo), c) =
      (.sifting shot (if c.settings.keeps index i then i :: kept else kept) todo,
        { c with directives := Collector.ensureIndex c.settings d c.directives i.filename }) := by
  rw [Collector.ensureIndex] at hd ⊢
  rw [← sift_eq hu]
  cases hf : c.directives.find? i.filename with
  | some found =>
    refine ⟨1, ?_⟩
    rw [hf, if_pos Option.isSome_some] at hd
    have hnext : siftNext c shot kept i todo = .sifting shot (sift kept i found) todo := by
      simp [siftNext, hu.1, hu.2, hf]
    show (siftNext c shot kept i todo, c) = _
    rw [hnext, hd _ _ hf, if_pos Option.isSome_some]
  | none =>
    refine ⟨3, ?_⟩
    rw [hf, if_neg (by simp)] at hd
    have hfound := DirectiveCache.find?_insertNew_self c.directives i.filename
      (Collector.loadIndex c.settings d i.filename)
    have hindex := hd _ _ hfound
    rw [← DirectiveCache.get_eq hfound] at hindex
    have hnext : siftNext c shot kept i todo = .lacking shot kept i todo := by
      simp [siftNext, hu.1, hu.2, hf]
    show alone d 2 (siftNext c shot kept i todo, c) = _
    rw [hnext, if_neg (by simp), hindex]
    rfl

theorem alone_next {i : Issue}
    (hd : Agrees index (Collector.ensureIndexes c.settings d c.directives [i]))
    (shot : Collector.Snapshot) (kept todo : List Issue) :
    ∃ n, alone d n (.sifting shot kept (i :: todo), c) =
      (.sifting shot (if c.settings.keeps index i then i :: kept else kept) todo,
        { c with directives := Collector.ensureIndexes c.settings d c.directives [i] }) := by
  cases hdis : c.settings.disables i with
  | true =>
    refine ⟨1, ?_⟩
    rw [Collector.ensureIndexes_of_decided (Or.inl hdis)]
    show (siftNext c shot kept i todo, c) = _
    simp [siftNext, CleanSettings.keeps, hdis]
  | false =>
    cases hnoqa : c.settings.noqa with
    | false =>
      refine ⟨1, ?_⟩
      rw [Collector.ensureIndexes_of_decided (Or.inr hnoqa)]
      show (siftNext c shot kept i todo, c) = _
      simp [siftNext, CleanSettings.keeps, hdis, hnoqa]
    | true =>
      have hu : Undecided c.settings i := ⟨hdis, hnoqa⟩
      rw [Collector.ensureIndexes_of_undecided hu] at hd ⊢
      exact alone_undecided hu hd shot kept todo

theorem alone_sift (shot : Collector.Snapshot) (todo kept : List Issue)
    (hd : Agrees index (Collector.ensureIndexes c.settings d c.directives todo)) :
    ∃ n, alone d n (.sifting shot kept todo, c) =
      (.sifting shot ((todo.filter (c.settings.keeps index)).reverse ++ kept) [],
        { c with directives := Collector.ensureIndexes c.settings d c.directives todo }) := by
  induction todo generalizing c kept with
  | nil =>
    have hnone : Collector.ensureIndexes c.settings d c.directives [] = c.directives := by
      simp [Collector.ensureIndexes, Collector.filesToScan]
    rw [hnone]
    exact ⟨0, rfl⟩
  | cons i todo ih =>
    have hkept : ((i :: todo).filter (c.settings.keeps index)).reverse ++ kept =
        (todo.filter (c.settings.keeps index)).reverse ++
          (if c.settings.keeps index i then i :: kept else kept) := by
      rw [List.filter_cons]
      split <;> simp
    rw [Collector.ensureIndexes_cons] at hd ⊢
    -- The index agrees with the cache in the end, so with the one after this issue too.
    have hgrows := Collector.grows_ensureAll (s := c.settings) (d := d)
      (Collector.filesToScan c.settings todo)
      (Collector.ensureIndexes c.settings d c.directives [i])
    obtain ⟨m, hm⟩ := alone_next (hd.of_grows hgrows) shot kept todo
    obtain ⟨n, hn⟩ := @ih
      { c with directives := Collector.ensureIndexes c.settings d c.directives [i] } _ hd
    exact ⟨m + n, by rw [alone_add, hm, hn, hkept]⟩

theorem alone_asked (c : Collector) (d : Disk) :
    ∃ n, alone d n (.asked, c) = (.answered (c.view d).1, (c.view d).2) := by
  cases hc : c.cleaned with
  | some view =>
    refine ⟨1, ?_⟩
    show Reading.step c d .asked = _
    rw [step, Collector.view, hc]
  | none =>
    obtain ⟨n, hn⟩ := alone_sift c.snapshot c.raw [] (DirectiveCache.agrees_get
      (Collector.ensureIndexes c.settings d c.directives c.raw))
    refine ⟨1 + (n + 2), ?_⟩
    have hfirst : alone d 1 (.asked, c) = (.sifting c.snapshot [] c.raw, c) := by
      show Reading.step c d .asked = _
      rw [step, hc]
    rw [alone_add, hfirst, alone_add, hn, Collector.view, hc, List.append_nil]
    show alone d 1 (Reading.cleaned c.snapshot (c.settings.merged _), _) = _
    rw [List.reverse_reverse]
    rfl

end Reading

namespace SharedCollector

def undisturbed (s : SharedCollector) (n : Nat) : List Move :=
  .ask :: List.replicate n (.advance s.readers.length)

theorem perform_advances (s : SharedCollector) (reading : Reading) (n : Nat) :
    perform { s with readers := s.readers ++ [reading] }
        (List.replicate n (.advance s.readers.length)) =
      { s with
        collector := (Reading.alone s.disk n (reading, s.collector)).2
        readers := s.readers ++ [(Reading.alone s.disk n (reading, s.collector)).1] } := by
  induction n generalizing s reading with
  | zero => rfl
  | succ n ih =>
    have hstep : step { s with readers := s.readers ++ [reading] } (.advance s.readers.length) =
        { s with
          collector := (reading.step s.collector s.disk).2
          readers := s.readers ++ [(reading.step s.collector s.disk).1] } := by
      simp [step, advance]
    show perform (step { s with readers := s.readers ++ [reading] }
      (.advance s.readers.length)) _ = _
    rw [hstep]
    exact ih { s with collector := (reading.step s.collector s.disk).2 } _

/-- A reader that nobody disturbs does what the view does. -/
theorem perform_undisturbed (s : SharedCollector) : ∃ n, s.perform (s.undisturbed n) =
    { s with
      collector := (s.collector.view s.disk).2
      readers := s.readers ++ [.answered (s.collector.view s.disk).1] } := by
  obtain ⟨n, hn⟩ := Reading.alone_asked s.collector s.disk
  refine ⟨n, ?_⟩
  have h := perform_advances s .asked n
  rw [hn] at h
  exact h

end SharedCollector

end MetaLint
