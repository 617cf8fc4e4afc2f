import MetaLint.Proofs.Registry
import MetaLint.Proofs.Sorting

/-!
# Looking up names

Where no name comes twice, the pairs of a list are what can be looked up in it. A list in ascending
order of its names is therefore determined by what is found under each name.
-/

set_option autoImplicit false

namespace MetaLint.Keyed

open Std (OrientedCmp TransCmp LawfulEqCmp)

section Keys
variable {κ α : Type} [BEq κ] [LawfulBEq κ] {k : List (κ × α)} {name : κ} {a : α}

theorem lookup_cons_of_ne {n : κ} (h : name ≠ n) (b : α) (k : List (κ × α)) :
    List.lookup name ((n, b) :: k) = k.lookup name := by
  have hne : (name == n) = false := by simp [h]
  rw [List.lookup_cons, hne]

theorem lookup_eq_some_iff (h : (k.map Prod.fst).Nodup) :
    k.lookup name = some a ↔ (name, a) ∈ k := by
  induction k with
  | nil => simp
  | cons p rest ih =>
    obtain ⟨n, b⟩ := p
    obtain ⟨hn, hrest⟩ := List.nodup_cons.mp h
    by_cases he : name = n
    · subst he
      have hother : (name, a) ∉ rest := fun hm => hn (List.mem_map.mpr ⟨_, hm, rfl⟩)
      simp [hother, eq_comm]
    · rw [lookup_cons_of_ne he, ih hrest]
      simp [he]

theorem mem_of_lookup (h : k.lookup name = some a) : (name, a) ∈ k := by
  obtain ⟨pre, post, rfl, -⟩ := List.lookup_eq_some_iff.mp h
  simp

end Keys

variable {α β : Type} {k l : Keyed α} {name : String} {a : α}

theorem lookup_isSome_iff : (k.lookup name).isSome = true ↔ name ∈ names k := by
  induction k with
  | nil => simp [names]
  | cons p rest ih =>
    obtain ⟨n, b⟩ := p
    by_cases he : name = n
    · simp [names, he]
    · rw [lookup_cons_of_ne he, ih]
      simp [names, he]

theorem lookup_eq_none_iff : k.lookup name = none ↔ name ∉ names k := by
  rw [← lookup_isSome_iff, ← Option.isNone_iff_eq_none]
  cases k.lookup name <;> simp

theorem lookup_mapValues (f : String → α → β) (k : Keyed α) (name : String) :
    (mapValues f k).lookup name = (k.lookup name).map (f name) := by
  induction k with
  | nil => rfl
  | cons p rest ih =>
    obtain ⟨n, b⟩ := p
    rw [mapValues, List.map_cons]
    by_cases he : name = n
    · simp [he]
    · rw [lookup_cons_of_ne he, lookup_cons_of_ne he]
      exact ih

theorem names_mapValues (f : String → α → β) (k : Keyed α) : names (mapValues f k) = names k := by
  simp [names, mapValues, Function.comp_def]

/-! ## Ascending names -/

theorem ascending_iff : Ascending k ↔ (names k).Pairwise fun m n => compare m n = .lt := by
  rw [Ascending, names, List.pairwise_map]

theorem Ascending.mapValues (h : Ascending k) (f : String → α → β) :
    Ascending (mapValues f k) := by
  rw [ascending_iff, names_mapValues]
  exact ascending_iff.mp h

theorem Ascending.ext_mem (hk : Ascending k) (hl : Ascending l) (h : ∀ p, p ∈ k ↔ p ∈ l) : k = l :=
  Sorting.eq_of_ascending (show k.Pairwise fun p q =>
    Sorting.cmpOn compare Prod.fst p q = .lt from hk) hl h

theorem Ascending.ext (hk : Ascending k) (hl : Ascending l)
    (h : ∀ name, k.lookup name = l.lookup name) : k = l := by
  apply hk.ext_mem hl
  rintro ⟨name, a⟩
  rw [← lookup_eq_some_iff hk.nodup, ← lookup_eq_some_iff hl.nodup, h]

theorem ascending_foldl_set (pairs : List (String × α)) (h : Ascending k) :
    Ascending (pairs.foldl (fun done p => set p.1 p.2 done) k) := by
  induction pairs generalizing k with
  | nil => exact h
  | cons p pairs ih => exact ih (ascending_set h)

theorem ascending_ofList (pairs : List (String × α)) : Ascending (ofList pairs) :=
  ascending_foldl_set pairs List.Pairwise.nil

theorem lookup_foldl_set (pairs : List (String × α)) (k : Keyed α) (name : String) :
    (pairs.foldl (fun done p => set p.1 p.2 done) k).lookup name =
      (pairs.reverse.lookup name).or (k.lookup name) := by
  induction pairs generalizing k with
  | nil => simp
  | cons p pairs ih =>
    obtain ⟨n, b⟩ := p
    rw [List.foldl_cons, ih, List.reverse_cons, List.lookup_append, Option.or_assoc]
    congr 1
    by_cases he : name = n
    · simp [he, lookup_set_self]
    · rw [lookup_set_of_ne he, lookup_cons_of_ne he]
      rfl

/-- Of several pairs with one name the last one counts. -/
theorem lookup_ofList_eq (pairs : List (String × α)) (name : String) :
    (ofList pairs).lookup name = pairs.reverse.lookup name := by
  rw [ofList, lookup_foldl_set, List.lookup_nil, Option.or_none]

theorem mem_names_ofList {pairs : List (String × α)} :
    name ∈ names (ofList pairs) ↔ name ∈ pairs.map Prod.fst := by
  rw [← lookup_isSome_iff, lookup_ofList_eq, lookup_isSome_iff, names, List.map_reverse,
    List.mem_reverse]

theorem lookup_reverse (h : (names k).Nodup) : k.reverse.lookup name = k.lookup name := by
  have hr : (names k.reverse).Nodup := by
    rw [names, List.map_reverse]
    exact (List.reverse_perm _).nodup_iff.mpr h
  apply Option.ext
  intro a
  rw [lookup_eq_some_iff h, lookup_eq_some_iff hr, List.mem_reverse]

theorem lookup_ofList_of_nodup (h : (names k).Nodup) :
    (ofList k).lookup name = k.lookup name := by
  rw [lookup_ofList_eq, lookup_reverse h]

theorem ofList_of_ascending (h : Ascending k) : ofList k = k :=
  (ascending_ofList k).ext h fun _ => lookup_ofList_of_nodup h.nodup

theorem mem_ofList_iff (h : (names k).Nodup) {p : String × α} : p ∈ ofList k ↔ p ∈ k := by
  obtain ⟨name, a⟩ := p
  rw [← lookup_eq_some_iff h, ← lookup_eq_some_iff (ascending_ofList k).nodup,
    lookup_ofList_of_nodup h]

end MetaLint.Keyed
