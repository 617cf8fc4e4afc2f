import MetaLint.Run.Bench

/-!
# Names of tools and jobs

A keyed list stays in strictly ascending order of its names, and a registry holds each tool under
its own name. The jobs of a run have therefore different names.
-/

set_option autoImplicit false

namespace MetaLint.Keyed

open Std (OrientedCmp TransCmp)

variable {α : Type}

def Ascending (k : Keyed α) : Prop := k.Pairwise fun p q => compare p.1 q.1 = .lt

theorem mem_set {name : String} {a : α} {k : Keyed α} {p : String × α} (h : p ∈ set name a k) :
    p = (name, a) ∨ p ∈ k := by
  induction k with
  | nil => exact Or.inl (List.mem_singleton.mp h)
  | cons q rest ih =>
    obtain ⟨n, b⟩ := q
    cases hc : compare name n with
    | lt =>
      rw [set, hc] at h
      exact List.mem_cons.mp h
    | eq =>
      rw [set, hc] at h
      exact (List.mem_cons.mp h).imp_right (List.mem_cons_of_mem _)
    | gt =>
      rw [set, hc] at h
      rcases List.mem_cons.mp h with rfl | h
      · exact Or.inr List.mem_cons_self
      · exact (ih h).imp_right (List.mem_cons_of_mem _)

theorem mem_ofList {pairs : List (String × α)} {p : String × α} (h : p ∈ ofList pairs) :
    p ∈ pairs := by
  suffices hall : ∀ k : Keyed α, p ∈ pairs.foldl (fun done p => set p.1 p.2 done) k →
      p ∈ k ∨ p ∈ pairs from (hall [] h).resolve_left List.not_mem_nil
  clear h
  induction pairs with
  | nil => exact fun k hk => Or.inl hk
  | cons q pairs ih =>
    intro k hk
    rcases ih _ hk with hp | hp
    · rcases mem_set hp with rfl | hp
      · exact Or.inr List.mem_cons_self
      · exact Or.inl hp
    · exact Or.inr (List.mem_cons_of_mem q hp)

theorem ascending_set {name : String} {a : α} {k : Keyed α} (h : Ascending k) :
    Ascending (set name a k) := by
  induction k with
  | nil => exact List.pairwise_singleton _ _
  | cons q rest ih =>
    obtain ⟨n, b⟩ := q
    obtain ⟨hn, hrest⟩ := List.pairwise_cons.mp h
    cases hc : compare name n with
    | lt =>
      rw [set, hc]
      apply List.pairwise_cons.mpr ⟨_, h⟩
      intro p hp
      rcases List.mem_cons.mp hp with rfl | hp
      · exact hc
      · exact TransCmp.lt_trans hc (hn p hp)
    | eq =>
      rw [set, hc]
      apply List.pairwise_cons.mpr ⟨_, hrest⟩
      intro p hp
      exact TransCmp.lt_of_eq_of_lt hc (hn p hp)
    | gt =>
      rw [set, hc]
      apply List.pairwise_cons.mpr ⟨_, ih hrest⟩
      intro p hp
      rcases mem_set hp with rfl | hp
      · exact OrientedCmp.lt_of_gt hc
      · exact hn p hp

theorem Ascending.nodup {k : Keyed α} (h : Ascending k) : (names k).Nodup := by
  apply List.pairwise_map.mpr
  apply List.Pairwise.imp _ h
  intro p q hlt he
  have hself : compare q.1 q.1 = .eq := Std.ReflCmp.compare_self
  rw [he, hself] at hlt
  contradiction

end MetaLint.Keyed

namespace MetaLint.ToolRegistry

/-- The names are in strictly ascending order, and each is the name of its tool. -/
structure Sound (r : ToolRegistry) : Prop where
  ascending : Keyed.Ascending r
  named : ∀ p ∈ r, p.1 = p.2.name

theorem sound_register {r : ToolRegistry} (h : Sound r) (t : Tool) : Sound (r.register t) := by
  refine ⟨Keyed.ascending_set h.ascending, ?_⟩
  intro p hp
  rcases Keyed.mem_set hp with rfl | hp
  · rfl
  · exact h.named p hp

theorem sound_ofList (tools : List Tool) : Sound (ofList tools) := by
  suffices h : ∀ r : ToolRegistry, Sound r → Sound (tools.foldl register r) from
    h [] ⟨List.Pairwise.nil, by simp⟩
  intro r h
  induction tools generalizing r with
  | nil => exact h
  | cons t tools ih => exact ih _ (sound_register h t)

theorem Sound.names_eq {r : ToolRegistry} (h : Sound r) :
    (Keyed.values r).map Tool.name = Keyed.names r := by
  rw [Keyed.values, Keyed.names, List.map_map]
  apply List.map_congr_left
  intro p hp
  exact (h.named p hp).symm

theorem names_jobs_sublist (r : ToolRegistry) (c : Config) :
    ((Job.ofRegistry r c).map Job.name).Sublist ((Keyed.values r).map Tool.name) := by
  rw [Job.ofRegistry]
  induction Keyed.values r with
  | nil => exact List.Sublist.refl _
  | cons t tools ih =>
    rw [List.filterMap_cons]
    by_cases he : (Job.blockOf c t).enabled && t.usable
    · simpa [he, Job.name] using ih
    · simpa [he] using ih.cons t.name

theorem Sound.nodup_jobs {r : ToolRegistry} (h : Sound r) (c : Config) :
    ((Job.ofRegistry r c).map Job.name).Nodup := by
  have hn : ((Keyed.values r).map Tool.name).Nodup := by
    rw [h.names_eq]
    exact h.ascending.nodup
  exact hn.sublist (names_jobs_sublist r c)

theorem ofList_eq (tools : List Tool) :
    ofList tools = Keyed.ofList (tools.map fun t => (t.name, t)) := by
  rw [Keyed.ofList, List.foldl_map]
  rfl

theorem tool_of_mem_jobs {tools : List Tool} {c : Config} {j : Job}
    (h : j ∈ Job.ofRegistry (ofList tools) c) : j.tool ∈ tools := by
  obtain ⟨t, ht, hj⟩ := List.mem_filterMap.mp h
  obtain ⟨p, hp, rfl⟩ := List.mem_map.mp ht
  have hmem : p.2 ∈ tools := by
    rw [ofList_eq] at hp
    obtain ⟨t, hmem, rfl⟩ := List.mem_map.mp (Keyed.mem_ofList hp)
    exact hmem
  simp only at hj
  split at hj
  · rw [← Option.some.inj hj]
    exact hmem
  · contradiction

end MetaLint.ToolRegistry
