import MetaLint.Collector
import MetaLint.Proofs.Sorting

/-!
# Directives kept for good

The cache of directives has one index for every file, whatever its spelling. What it has for a file
stays when others come in, so an index for each file that agrees with a cache agrees with all caches
before it.
-/

set_option autoImplicit false

namespace MetaLint.DirectiveCache

variable {cache : DirectiveCache} {p q : Path} {found : SuppressionIndex}

theorem find?_eq_of_same (h : p.same q = true) : cache.find? p = cache.find? q := by
  have hc : p.components = q.components := (Path.same_iff p q).mp h
  have hf : (fun entry : Path × SuppressionIndex => p.same entry.1) =
      fun entry => q.same entry.1 := by
    funext entry
    rw [Path.same, Path.same, hc]
  rw [find?, find?, hf]

theorem exists_entry (h : cache.find? p = some found) :
    ∃ q, (q, found) ∈ cache ∧ p.same q = true := by
  rw [find?] at h
  obtain ⟨entry, he, hfound⟩ := Option.map_eq_some_iff.mp h
  refine ⟨entry.1, ?_, @List.find?_some _ _ entry _ he⟩
  rw [← hfound]
  exact List.mem_of_find?_eq_some he

theorem find?_append_of_some (h : cache.find? p = some found) (more : DirectiveCache) :
    find? (cache ++ more) p = some found := by
  rw [find?] at h ⊢
  obtain ⟨entry, he, hfound⟩ := Option.map_eq_some_iff.mp h
  rw [List.find?_append, he]
  exact congrArg some hfound

theorem find?_insertNew (h : cache.find? p = some found) (index : SuppressionIndex) :
    (cache.insertNew q index).find? p = some found := by
  rw [insertNew]
  split
  · exact h
  · exact find?_append_of_some h _

theorem find?_insertNew_self (cache : DirectiveCache) (p : Path) (index : SuppressionIndex) :
    (cache.insertNew p index).find? p = some ((cache.find? p).getD index) := by
  rw [insertNew]
  cases h : cache.find? p with
  | some found =>
    rw [if_pos Option.isSome_some]
    exact h
  | none =>
    rw [if_neg (by simp), find?, List.find?_append, Option.map_eq_none_iff.mp h]
    simp [Path.same_refl]

theorem get_eq (h : cache.find? p = some found) : cache.get p = found := by rw [get, h]; rfl

def Grows (old new : DirectiveCache) : Prop :=
  ∀ p found, old.find? p = some found → new.find? p = some found

theorem grows_refl (cache : DirectiveCache) : Grows cache cache := fun _ _ h => h

theorem grows_insertNew (cache : DirectiveCache) (p : Path) (index : SuppressionIndex) :
    Grows cache (cache.insertNew p index) := fun _ _ h => find?_insertNew h index

def Agrees (index : Path → SuppressionIndex) (cache : DirectiveCache) : Prop :=
  ∀ p found, cache.find? p = some found → index p = found

theorem agrees_get (cache : DirectiveCache) : Agrees cache.get cache := fun _ _ h => get_eq h

theorem Agrees.of_grows {index : Path → SuppressionIndex} {old new : DirectiveCache}
    (h : Agrees index new) (hg : Grows old new) : Agrees index old :=
  fun p found hf => h p found (hg p found hf)

end MetaLint.DirectiveCache
