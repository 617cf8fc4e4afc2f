import MetaLint.Proofs.Directives
import MetaLint.Proofs.Selecting

/-!
# Directives and duplicates

A directive covers all issues of one kind or none of them. It does not matter therefore whether
suppressed issues are left out before duplicates are merged or afterwards: whichever issue stands
for a kind without directives stands for it with them, unless the kind is suppressed as a whole.
-/

set_option autoImplicit false

namespace MetaLint

namespace Suppression

/-- A directive looks at the tool and the code of an issue only, a missing code being empty. -/
theorem covers_congr (s : Suppression) {i j : Issue} (ht : i.tool = j.tool)
    (hc : i.codeText = j.codeText) : s.covers i = s.covers j := by
  have htoken : ∀ token, tokenCovers token i = tokenCovers token j := by
    intro token
    simp only [tokenCovers, ht, hc]
  cases s with
  | everything => rfl
  | targets tokens => simp only [covers, htoken]

end Suppression

/-- All spellings of a file have the same directives. -/
def OnePerFile (index : Path → SuppressionIndex) : Prop :=
  ∀ p q, p.same q = true → index p = index q

theorem DirectiveCache.onePerFile_get (cache : DirectiveCache) : OnePerFile cache.get := by
  intro p q h
  rw [get, get, find?_eq_of_same h]

/-- Whether the directives of its file suppress an issue. -/
def Suppressed (index : Path → SuppressionIndex) (i : Issue) : Bool :=
  (index i.filename).suppresses i

section Index
variable {index : Path → SuppressionIndex}

theorem byKind_suppressed (h : OnePerFile index) : Issue.ByKind (Suppressed index) := by
  intro i j hk
  obtain ⟨hfile, hline, htool, hcode⟩ := Issue.cmpKind_eq_eq.mp hk
  rw [Suppressed, Suppressed, h _ _ hfile, SuppressionIndex.suppresses,
    SuppressionIndex.suppresses, hline]
  cases (index j.filename).get? j.line.toNat with
  | none => rfl
  | some s => exact s.covers_congr htool hcode

end Index

/-- What directives leave of a view. -/
structure Spared (suppressed : Issue → Bool) (plain spared : List Issue) : Prop where
  eq_filter : spared = plain.filter fun i => !suppressed i
  sublist : spared.Sublist plain
  /-- The same issues stand for the kind of an issue that is not suppressed. -/
  represented : ∀ i, suppressed i = false →
    spared.filter (Issue.sameKind i) = plain.filter (Issue.sameKind i)
  gone : ∀ i, suppressed i = true → spared.filter (Issue.sameKind i) = []

namespace CleanSettings

variable {index : Path → SuppressionIndex}

def withNoqa (s : CleanSettings) (on : Bool) : CleanSettings := { s with noqa := on }

theorem keeps_withNoqa (s : CleanSettings) (i : Issue) : (s.withNoqa true).keeps index i =
    (!Suppressed index i && (s.withNoqa false).keeps index i) := by
  have hdisables : ∀ on, (s.withNoqa on).disables i = s.disables i := fun _ => rfl
  rw [keeps, keeps, hdisables, hdisables, Suppressed]
  cases s.disables i <;> simp [withNoqa]

theorem merged_withNoqa (s : CleanSettings) (on : Bool) (kept : List Issue) :
    (s.withNoqa on).merged kept = s.merged kept := rfl

theorem clean_withNoqa_true (h : OnePerFile index) (s : CleanSettings) (raw : List Issue) :
    (s.withNoqa true).clean index raw =
      ((s.withNoqa false).clean index raw).filter fun i => !Suppressed index i := by
  have hkept : raw.filter ((s.withNoqa true).keeps index) =
      (raw.filter ((s.withNoqa false).keeps index)).filter fun i => !Suppressed index i := by
    rw [List.filter_filter]
    exact List.filter_congr fun i _ => s.keeps_withNoqa i
  rw [clean, clean, merged_withNoqa, merged_withNoqa, hkept,
    filter_merged (byKind_suppressed h).not]

end CleanSettings

section Views
variable {index : Path → SuppressionIndex} {plain spared : List Issue}

theorem Spared.of_eq_filter (h : OnePerFile index)
    (he : spared = plain.filter fun i => !Suppressed index i) :
    Spared (Suppressed index) plain spared := by
  have hkind : ∀ i j, Issue.sameKind i j = true → Suppressed index j = Suppressed index i := by
    intro i j hij
    exact (byKind_suppressed h i j (Issue.cmpKind_of_sameKind hij)).symm
  refine ⟨he, ?_, ?_, ?_⟩
  · rw [he]
    exact List.filter_sublist
  · intro i hi
    rw [he, List.filter_filter]
    apply List.filter_congr
    intro j _
    cases hij : Issue.sameKind i j with
    | false => rfl
    | true => rw [hkind i j hij, hi]; rfl
  · intro i hi
    rw [he, List.filter_filter]
    apply List.filter_eq_nil_iff.mpr
    intro j _ hj
    obtain ⟨hij, hsuppressed⟩ := Bool.and_eq_true_iff.mp hj
    rw [hkind i j hij, hi] at hsuppressed
    contradiction

end Views

namespace Collector

def withNoqa (c : Collector) (on : Bool) : Collector :=
  { c with settings := c.settings.withNoqa on }

theorem view_withNoqa {c : Collector} (h : c.cleaned = none) (d : Disk) (on : Bool) :
    ((c.withNoqa on).view d).1 =
      (c.settings.withNoqa on).clean ((c.withNoqa on).view d).2.directives.get c.raw := by
  simp [view, withNoqa, h, snapshot, store]

theorem spared_view {c : Collector} (h : c.cleaned = none) (d : Disk) :
    Spared (Suppressed ((c.withNoqa true).view d).2.directives.get) ((c.withNoqa false).view d).1
      ((c.withNoqa true).view d).1 := by
  have hone := DirectiveCache.onePerFile_get ((c.withNoqa true).view d).2.directives
  apply Spared.of_eq_filter hone
  rw [view_withNoqa h d true, CleanSettings.clean_withNoqa_true hone, view_withNoqa h d false]
  -- The view without directives is the same whichever they are.
  rfl

end Collector

/-- A view with directives is the view without them less what they suppress. So it is for a
collector that holds these issues, by the directives that it reads. -/
theorem spared_clean {index : Path → SuppressionIndex} (h : OnePerFile index) (s : CleanSettings)
    (raw : List Issue) :
    Spared (Suppressed index) ((s.withNoqa false).clean index raw)
      ((s.withNoqa true).clean index raw) ∧
    ∀ (c : Collector) (d : Disk), c.settings = s → c.raw = raw → c.cleaned = none →
      Spared (Suppressed ((c.withNoqa true).view d).2.directives.get) ((c.withNoqa false).view d).1
        ((c.withNoqa true).view d).1 :=
  ⟨.of_eq_filter h (s.clean_withNoqa_true h raw), fun _ d _ _ hc => Collector.spared_view hc d⟩

/-! A directive that names one of two codes on a line, in a file with two spellings. -/

def partlySpared : List Issue :=
  [{ (Issue.create "spell" "typo" "second" ⟨"src//a.py"⟩) with character := some 9 },
    { (Issue.create "spell" "typo" "first" ⟨"src/a.py"⟩) with character := some 4 },
    { (Issue.create "spell" "case" "other" ⟨"src/a.py"⟩) with character := some 2 },
    { (Issue.create "spell" "case" "again" ⟨"src//a.py"⟩) with character := some 1 }]

def partialDirectives : DirectiveCache := [(⟨"src/a.py"⟩, ⟨[(1, .targets ["typo"])]⟩)]

def partlyCollected : Collector := { raw := partlySpared, directives := partialDirectives }

theorem spared_clean_partly : OnePerFile partialDirectives.get ∧
    Spared (Suppressed partialDirectives.get)
      ((CleanSettings.withNoqa {} false).clean partialDirectives.get partlySpared)
      ((CleanSettings.withNoqa {} true).clean partialDirectives.get partlySpared) ∧
    Spared (Suppressed ((partlyCollected.withNoqa true).view {}).2.directives.get)
      ((partlyCollected.withNoqa false).view {}).1 ((partlyCollected.withNoqa true).view {}).1 := by
  have hone := partialDirectives.onePerFile_get
  obtain ⟨hcleaned, hviews⟩ := spared_clean hone {} partlySpared
  exact ⟨hone, hcleaned, hviews partlyCollected {} rfl rfl rfl⟩

end MetaLint
