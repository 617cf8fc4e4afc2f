import MetaLint.Proofs.Cleaning
import MetaLint.Proofs.Consistency
import MetaLint.Proofs.Logging

/-!
# The order of arrival

When every file has one name and no two issues tie, what a collector shows depends on which issues
came in: not on their order, not on the batches they came in, and not on who read meanwhile.
-/

set_option autoImplicit false

namespace MetaLint

open Sorting

namespace Reading

def ahead : Reading → List Issue
  | .sifting _ _ todo => todo
  | .lacking _ _ i todo => i :: todo
  | .loaded _ _ i todo _ => i :: todo
  | _ => []

theorem ahead_siftNext (c : Collector) (shot : Collector.Snapshot) (kept : List Issue) (i : Issue)
    (todo : List Issue) : (siftNext c shot kept i todo).ahead ⊆ i :: todo := by
  rw [siftNext]
  split
  · exact List.subset_cons_self i todo
  · split
    · exact List.subset_cons_self i todo
    · split
      · exact List.subset_cons_self i todo
      · exact List.Subset.refl _

theorem ahead_step {c : Collector} (d : Disk) {reading : Reading} (h : reading.ahead ⊆ c.raw) :
    (reading.step c d).1.ahead ⊆ c.raw := by
  cases reading with
  | asked =>
    rw [step]
    split
    · exact List.nil_subset _
    · exact List.Subset.refl _
  | sifting shot kept todo =>
    cases todo with
    | nil => exact List.nil_subset _
    | cons i todo => exact List.Subset.trans (ahead_siftNext c shot kept i todo) h
  | lacking shot kept i todo => exact h
  | loaded shot kept i todo index => exact List.Subset.trans (List.subset_cons_self i todo) h
  | cleaned shot view => exact List.nil_subset _
  | answered view => exact List.nil_subset _

end Reading

namespace SharedCollector

variable {s : SharedCollector}

/-- Only files of raw issues are looked at, and only they are in the cache. -/
structure Within (s : SharedCollector) : Prop where
  readers : ∀ reading ∈ s.readers, reading.ahead ⊆ s.collector.raw
  cache : ∀ entry ∈ s.collector.directives, ∃ i ∈ s.collector.raw, entry.1 = i.filename

theorem within_step (h : Within s) (m : Move) : Within (s.step m) := by
  cases m with
  | add issues =>
    have hraw : s.collector.raw ⊆ s.collector.raw ++ issues := List.subset_append_left _ _
    refine ⟨fun reading hr => List.Subset.trans (h.readers reading hr) hraw, ?_⟩
    intro entry he
    obtain ⟨i, hi, hname⟩ := h.cache entry he
    exact ⟨i, hraw hi, hname⟩
  | change disk => exact ⟨h.readers, h.cache⟩
  | ask =>
    refine ⟨?_, h.cache⟩
    intro reading hr
    rcases List.mem_append.mp hr with hr | hr
    · exact h.readers reading hr
    · rw [List.mem_singleton.mp hr]
      exact List.nil_subset _
  | advance r =>
    rw [step, advance]
    cases hr : s.readers[r]? with
    | none => exact h
    | some reading =>
      have hahead := h.readers reading (List.mem_of_getElem? hr)
      constructor
      · intro other ho
        show other.ahead ⊆ (reading.step s.collector s.disk).2.raw
        rw [reading.raw_step]
        rcases List.mem_or_eq_of_mem_set ho with ho | rfl
        · exact h.readers other ho
        · exact Reading.ahead_step s.disk hahead
      · intro entry he
        show ∃ i ∈ (reading.step s.collector s.disk).2.raw, entry.1 = i.filename
        rw [reading.raw_step]
        rcases Reading.mem_directives_step he with he | ⟨shot, kept, i, todo, rfl, hname⟩
        · exact h.cache entry he
        · exact ⟨i, hahead List.mem_cons_self, hname⟩

theorem within_perform (h : Within s) (moves : List Move) : Within (s.perform moves) := by
  induction moves generalizing s with
  | nil => exact h
  | cons m moves ih => exact ih (within_step h m)

def arrivals (moves : List Move) : List Issue :=
  moves.flatMap fun
    | .add issues => issues
    | _ => []

theorem raw_step (s : SharedCollector) (m : Move) :
    (s.step m).collector.raw = s.collector.raw ++ arrivals [m] := by
  cases m with
  | add issues => simp [step, arrivals]
  | ask => simp [step, arrivals]
  | change disk => simp [step, arrivals]
  | advance r =>
    have hnone : arrivals [.advance r] = [] := rfl
    rw [hnone, List.append_nil, step, advance]
    cases s.readers[r]? with
    | none => rfl
    | some reading => exact reading.raw_step _ _

theorem raw_eq_arrivals (s : SharedCollector) (moves : List Move) :
    (s.perform moves).collector.raw = s.collector.raw ++ arrivals moves := by
  induction moves generalizing s with
  | nil => simp [arrivals]
  | cons m moves ih =>
    show ((s.step m).perform moves).collector.raw = _
    have hcons : arrivals (m :: moves) = arrivals [m] ++ arrivals moves := by simp [arrivals]
    rw [ih, raw_step, hcons, List.append_assoc]

/-- The files stay as they are. -/
def Still (moves : List Move) : Prop := ∀ disk, .change disk ∉ moves

theorem disk_perform {moves : List Move} (h : Still moves) : (s.perform moves).disk = s.disk := by
  induction moves generalizing s with
  | nil => rfl
  | cons m moves ih =>
    have hrest : Still moves := fun disk hm => h disk (List.mem_cons_of_mem m hm)
    show ((s.step m).perform moves).disk = s.disk
    rw [ih hrest]
    cases m with
    | add issues => rfl
    | ask => rfl
    | change disk => exact absurd List.mem_cons_self (h disk)
    | advance r =>
      rw [step, advance]
      cases s.readers[r]? <;> rfl

end SharedCollector

namespace DirectiveCache

variable {cache : DirectiveCache}

def orLoad (cache : DirectiveCache) (load : Path → SuppressionIndex) (p : Path) :
    SuppressionIndex := (cache.find? p).getD (load p)

theorem agrees_orLoad (load : Path → SuppressionIndex) : Agrees (cache.orLoad load) cache := by
  intro p found hf
  rw [orLoad, hf, Option.getD_some]

theorem orLoad_eq {s : CleanSettings} {d : Disk} {raw : List Issue}
    (h : Collector.CachedFrom s d raw cache) (ha : Collector.SpelledAlike s d raw) {i : Issue}
    (hi : i ∈ raw) :
    cache.orLoad (Collector.loadIndex s d) i.filename = Collector.loadIndex s d i.filename := by
  rw [orLoad]
  cases hf : cache.find? i.filename with
  | none => rfl
  | some found => exact h.eq_loadIndex ha hi hf

end DirectiveCache

namespace SharedCollector

variable {settings : CleanSettings} {disk : Disk} {moves : List Move}

theorem within_start (settings : CleanSettings) (disk : Disk) : Within (start settings disk) :=
  ⟨by simp [start], by simp [start, Collector.create]⟩

theorem cachedFrom_perform (h : Still moves) : Collector.CachedFrom settings disk (arrivals moves)
    ((start settings disk).perform moves).collector.directives := by
  have hwithin := within_perform (within_start settings disk) moves
  have hloaded : Loaded (fun p index => index = Collector.loadIndex settings disk p)
      ((start settings disk).perform moves) := by
    apply loaded_perform ⟨by simp [start, Collector.create], by simp [start]⟩
    rintro done ⟨rest, rfl⟩ p
    have hdone : Still done := fun d hd => h d (List.mem_append_left rest hd)
    rw [disk_perform hdone]
    rfl
  intro entry he
  obtain ⟨i, hi, hname⟩ := hwithin.cache entry he
  have hindex := hloaded.cache entry he
  rw [hname] at hindex
  rw [raw_eq_arrivals] at hi
  exact ⟨i, hi, Prod.ext hname hindex⟩

/-- The view is the cleaning of what came in, whoever read before. -/
theorem view_perform (h : Still moves)
    (ha : Collector.SpelledAlike settings disk (arrivals moves)) :
    (((start settings disk).perform moves).collector.view disk).1 =
      settings.merged ((arrivals moves).filter
        (settings.keeps (Collector.loadIndex settings disk))) := by
  have hcached : Collector.CachedFrom settings disk (arrivals moves) _ := cachedFrom_perform h
  have hsettings : ((start settings disk).perform moves).collector.settings = settings :=
    ((start settings disk).extends_perform moves).settings
  have hraw : ((start settings disk).perform moves).collector.raw = arrivals moves :=
    raw_eq_arrivals (start settings disk) moves
  rw [Collector.view]
  cases hc : ((start settings disk).perform moves).collector.cleaned with
  | none =>
    simp only [Collector.snapshot, hsettings, hraw, CleanSettings.clean]
    rw [List.filter_congr fun i hi => Collector.keeps_ensureIndexes hcached ha hi]
  | some view =>
    -- The view was stored by one index for each file; where the cache has none, any will do.
    have hview := (sound_perform (sound_start _ settings disk) moves
      (DirectiveCache.agrees_orLoad (Collector.loadIndex settings disk))).view view hc
    have hkeeps : ∀ i ∈ arrivals moves, settings.keeps
        (((start settings disk).perform moves).collector.directives.orLoad
          (Collector.loadIndex settings disk)) i =
        settings.keeps (Collector.loadIndex settings disk) i := by
      intro i hi
      rw [CleanSettings.keeps, CleanSettings.keeps, DirectiveCache.orLoad_eq hcached ha hi]
    rw [hsettings, hraw, CleanSettings.clean, List.filter_congr hkeeps] at hview
    exact hview

end SharedCollector

namespace Issue

/-- Every file has one name, and issues that share their place, tool and code are equal. -/
structure ToldApart (issues : List Issue) : Prop where
  named : ∀ i ∈ issues, ∀ j ∈ issues, i.filename.same j.filename = true → i.filename = j.filename
  placed : ∀ i ∈ issues, ∀ j ∈ issues, i.filename = j.filename → i.line = j.line →
    i.column = j.column → i.tool = j.tool → i.codeText = j.codeText → i = j

variable {issues others : List Issue}

theorem ToldApart.subset (h : ToldApart issues) (hs : others ⊆ issues) : ToldApart others :=
  ⟨fun i hi j hj => h.named i (hs hi) j (hs hj), fun i hi j hj => h.placed i (hs hi) j (hs hj)⟩

theorem ToldApart.eq_of_tied (h : ToldApart issues) {i j : Issue} (hi : i ∈ issues)
    (hj : j ∈ issues) (hij : cmpMerged i j = .eq) : i = j := by
  obtain ⟨hk, hcolumn⟩ := cmpMerged_eq_eq.mp hij
  obtain ⟨hfile, hline, htool, hcode⟩ := cmpKind_eq_eq.mp hk
  exact h.placed i hi j hj (h.named i hi j hj hfile) hline hcolumn htool hcode

theorem ToldApart.sameTies (h : ToldApart issues) (hp : issues.Perm others) :
    SameTies cmpMerged issues others :=
  sameTies_of_perm hp fun _ hi _ hj => h.eq_of_tied hi hj

theorem issuesByFile_congr (hn : ∀ i ∈ issues, ∀ j ∈ issues,
      i.filename.same j.filename = true → i.filename = j.filename)
    (h : sortBy defaultOrder issues = sortBy defaultOrder others) :
    issuesByFile issues = issuesByFile others := by
  have hperm : issues.Perm others := by
    have hp := sortBy_perm defaultOrder issues
    rw [h] at hp
    exact hp.symm.trans (sortBy_perm defaultOrder others)
  have hmem : ∀ {as bs : List Issue}, as.Perm issues → bs.Perm issues →
      sortBy defaultOrder as = sortBy defaultOrder bs →
      ∀ g ∈ issuesByFile as, g ∈ issuesByFile bs := by
    intro as bs ha hb hs g hg
    obtain ⟨⟨i, hi, hname⟩, hissues⟩ := eq_of_mem_issuesByFile hg
    have hib : i ∈ bs := hb.mem_iff.mpr (ha.mem_iff.mp hi)
    obtain ⟨g', hg', hsame⟩ := exists_mem_issuesByFile hib
    obtain ⟨⟨j, hj, hname'⟩, hissues'⟩ := eq_of_mem_issuesByFile hg'
    rw [hname'] at hsame
    have heq := hn i (ha.mem_iff.mp hi) j (hb.mem_iff.mp hj) hsame
    have hfile : g.1 = g'.1 := by rw [hname, hname', heq]
    have hg : g = g' := Prod.ext hfile (by rw [hissues, hissues', hs, hfile])
    rw [hg]
    exact hg'
  have hascending : ∀ view : List Issue,
      (issuesByFile view).Pairwise fun g h => cmpOn Path.cmp Prod.fst g h = .lt :=
    pairwise_issuesByFile
  apply eq_of_ascending (hascending issues) (hascending others)
  intro g
  exact ⟨hmem (List.Perm.refl _) hperm.symm h g, hmem hperm.symm (List.Perm.refl _) h.symm g⟩

end Issue

theorem CleanSettings.merged_subset (s : CleanSettings) (kept : List Issue) :
    s.merged kept ⊆ kept := by
  rw [merged]
  split
  · intro i hi
    exact Issue.mem_arranged.mp ((Issue.merge_sublist kept).subset hi)
  · exact List.Subset.refl kept

/-- Two collectors show the same list of issues and the same files with the same issues. -/
structure Collector.ShownAlike (d : Disk) (b c : Collector) : Prop where
  issues : (b.issues d Issue.defaultOrder).1 = (c.issues d Issue.defaultOrder).1
  byFile : (b.byFile d Issue.defaultOrder).1 = (c.byFile d Issue.defaultOrder).1

namespace SharedCollector

/-- What is shown depends on which issues came in, not on their order, their batches or who read
meanwhile. -/
theorem shownAlike_perform (settings : CleanSettings) (disk : Disk) (m n : List Move)
    (hm : Still m) (hn : Still n) (hp : (arrivals m).Perm (arrivals n))
    (h : Issue.ToldApart (arrivals m)) :
    Collector.ShownAlike disk ((start settings disk).perform m).collector
      ((start settings disk).perform n).collector := by
  have h' : Issue.ToldApart (arrivals n) := h.subset hp.symm.subset
  have halike : ∀ {raw : List Issue}, Issue.ToldApart raw →
      Collector.SpelledAlike settings disk raw := by
    intro raw hr i hi j hj hsame
    rw [hr.named i hi j hj hsame]
  have hapart : Issue.ToldApart ((arrivals m).filter
      (settings.keeps (Collector.loadIndex settings disk))) :=
    h.subset (List.filter_subset_self _)
  have hkept := hapart.sameTies (hp.filter _)
  have hsorted := CleanSettings.sortBy_merged_congr (s := settings) hkept
    fun i j => Issue.cmpMerged_of_default
  have hfiles := Issue.issuesByFile_congr
    (hapart.subset (settings.merged_subset _)).named hsorted
  rw [← view_perform hm (halike h), ← view_perform hn (halike h')] at hsorted hfiles
  exact ⟨hsorted, hfiles⟩

def scattered : List Issue :=
  [{ tool := "spell", code := none, message := "third", filename := ⟨"a.py"⟩, character := some 7 },
   { tool := "spell", code := some "", message := "second", filename := ⟨"a.py"⟩,
     character := some 5 },
   Issue.toolReport "spell failed horribly" ⟨"."⟩ none true,
   { tool := "spell", code := none, message := "first", filename := ⟨"a.py"⟩ }]

def inBatches : List Move :=
  [.add (scattered.take 1), .ask, .advance 0, .advance 0, .add (scattered.drop 1), .advance 0]

theorem shownAlike_perform_batches : Still inBatches ∧ Still [.add scattered.reverse] ∧
    (arrivals inBatches).Perm (arrivals [.add scattered.reverse]) ∧
    Issue.ToldApart (arrivals inBatches) ∧
    Collector.ShownAlike {} ((start {} {}).perform inBatches).collector
      ((start {} {}).perform [.add scattered.reverse]).collector := by
  have hm : Still inBatches := by simp [Still, inBatches]
  have hn : Still [.add scattered.reverse] := by simp [Still]
  have hp : (arrivals inBatches).Perm (arrivals [.add scattered.reverse]) := by decide
  have ha : Issue.ToldApart (arrivals inBatches) := ⟨by decide, by decide⟩
  exact ⟨hm, hn, hp, ha, shownAlike_perform {} {} inBatches _ hm hn hp ha⟩

end SharedCollector

end MetaLint
