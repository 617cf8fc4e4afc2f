import MetaLint.Keyed
import MetaLint.Proofs.Sorting

/-!
# Groups as a stable sort

The groups of a list stand in strictly ascending key order, hold what ties with their key, and are
never empty. Read one after the other they are the list in key order, every class of ties as it was,
so each of them is the part of the list that ties with its key.
-/

set_option autoImplicit false

namespace MetaLint.Grouped

open Std (TransCmp OrientedCmp ReflCmp)
open Sorting

variable {κ α : Type}

structure Sound (cmp : κ → κ → Ordering) (key : α → κ) (groups : Grouped κ α) : Prop where
  ascending : groups.Pairwise fun g h => cmp g.1 h.1 = .lt
  keyed : ∀ g ∈ groups, ∀ a ∈ g.2, cmp (key a) g.1 = .eq
  filled : ∀ g ∈ groups, g.2 ≠ []

section Insert
variable {cmp : κ → κ → Ordering} {key : α → κ}

theorem sound_nil : Sound cmp key [] := ⟨List.Pairwise.nil, by simp, by simp⟩

theorem Sound.tail {g : κ × List α} {groups : Grouped κ α} (h : Sound cmp key (g :: groups)) :
    Sound cmp key groups :=
  ⟨(List.pairwise_cons.mp h.ascending).2, fun k hk => h.keyed k (List.mem_cons_of_mem g hk),
    fun k hk => h.filled k (List.mem_cons_of_mem g hk)⟩

theorem Sound.cons {g : κ × List α} {groups : Grouped κ α} (h : Sound cmp key groups)
    (hlt : ∀ k ∈ groups, cmp g.1 k.1 = .lt) (hk : ∀ a ∈ g.2, cmp (key a) g.1 = .eq)
    (hf : g.2 ≠ []) : Sound cmp key (g :: groups) :=
  ⟨List.pairwise_cons.mpr ⟨hlt, h.ascending⟩, List.forall_mem_cons.mpr ⟨hk, h.keyed⟩,
    List.forall_mem_cons.mpr ⟨hf, h.filled⟩⟩

theorem key_of_mem_insert {k : κ} {a : α} {groups : Grouped κ α} {g : κ × List α}
    (h : g ∈ insert cmp k a groups) : g.1 = k ∨ ∃ g' ∈ groups, g.1 = g'.1 := by
  induction groups with
  | nil =>
    simp only [insert, List.mem_singleton] at h
    exact Or.inl (by rw [h])
  | cons head rest ih =>
    obtain ⟨k', group⟩ := head
    cases hc : cmp k k' with
    | lt =>
      rw [insert, hc] at h
      rcases List.mem_cons.mp h with rfl | h
      · exact Or.inl rfl
      · exact Or.inr ⟨g, h, rfl⟩
    | eq =>
      rw [insert, hc] at h
      rcases List.mem_cons.mp h with rfl | h
      · exact Or.inr ⟨_, List.mem_cons_self, rfl⟩
      · exact Or.inr ⟨g, List.mem_cons_of_mem _ h, rfl⟩
    | gt =>
      rw [insert, hc] at h
      rcases List.mem_cons.mp h with rfl | h
      · exact Or.inr ⟨_, List.mem_cons_self, rfl⟩
      · rcases ih h with he | ⟨g', hg', he⟩
        · exact Or.inl he
        · exact Or.inr ⟨g', List.mem_cons_of_mem _ hg', he⟩

variable [TransCmp cmp]

theorem sound_insert (a : α) {groups : Grouped κ α} (h : Sound cmp key groups) :
    Sound cmp key (insert cmp (key a) a groups) := by
  induction groups with
  | nil => exact sound_nil.cons (by simp) (by simp [ReflCmp.compare_self]) (by simp)
  | cons g rest ih =>
    obtain ⟨k, group⟩ := g
    have hrest := (List.pairwise_cons.mp h.ascending).1
    have hk := h.keyed (k, group) List.mem_cons_self
    cases hc : cmp (key a) k with
    | lt =>
      rw [insert, hc]
      refine h.cons ?_ (by simp [ReflCmp.compare_self]) (by simp)
      intro g hg
      rcases List.mem_cons.mp hg with rfl | hg
      · exact hc
      · exact TransCmp.lt_trans hc (hrest g hg)
    | eq =>
      rw [insert, hc]
      refine h.tail.cons hrest ?_ (by simp)
      intro b hb
      rcases List.mem_append.mp hb with hb | hb
      · exact hk b hb
      · rw [List.mem_singleton.mp hb, hc]
    | gt =>
      rw [insert, hc]
      refine (ih h.tail).cons ?_ hk (h.filled _ List.mem_cons_self)
      intro g hg
      rcases key_of_mem_insert hg with he | ⟨g', hg', he⟩
      · rw [he]
        exact OrientedCmp.lt_of_gt hc
      · rw [he]
        exact hrest g' hg'

theorem sound_byKey (as : List α) : Sound cmp key (byKey cmp key as) := by
  suffices h : ∀ groups : Grouped κ α, Sound cmp key groups →
      Sound cmp key (as.foldl (fun groups a => insert cmp (key a) a groups) groups) from
    h [] sound_nil
  intro groups h
  induction as generalizing groups with
  | nil => exact h
  | cons a as ih => exact ih _ (sound_insert a h)

end Insert

section ToList
variable {cmp : κ → κ → Ordering} [TransCmp cmp] {key : α → κ}

omit [TransCmp cmp] in
theorem toList_cons (g : κ × List α) (groups : Grouped κ α) :
    toList (g :: groups) = g.2 ++ toList groups := rfl

theorem sameTies_rotate {a : α} {bs : List α} (h : ∀ b ∈ bs, cmp (key a) (key b) = .lt) :
    SameTies (cmpOn cmp key) (a :: bs) (bs ++ [a]) := by
  intro x
  rw [List.filter_append, List.filter_cons]
  split
  next hx =>
    have hb : bs.filter (ties (cmpOn cmp key) x) = [] := by
      apply List.filter_eq_nil_iff.mpr
      intro b hb he
      have hab := TransCmp.eq_trans (OrientedCmp.eq_symm (ties_iff.mp hx)) (ties_iff.mp he)
      rw [cmpOn, h b hb] at hab
      contradiction
    simp [hb, hx]
  next hx => simp [hx]

theorem sameTies_insert (a : α) {groups : Grouped κ α} (h : Sound cmp key groups) :
    SameTies (cmpOn cmp key) (toList (insert cmp (key a) a groups)) (toList groups ++ [a]) := by
  induction groups with
  | nil => exact fun _ => rfl
  | cons g rest ih =>
    obtain ⟨k, group⟩ := g
    have hrest : ∀ b ∈ toList rest, cmp k (key b) = .lt := by
      intro b hb
      obtain ⟨g, hg, hbg⟩ := List.mem_flatMap.mp hb
      have hlt := (List.pairwise_cons.mp h.ascending).1 g hg
      have heq := h.keyed g (List.mem_cons_of_mem _ hg) b hbg
      exact TransCmp.lt_of_lt_of_eq hlt (OrientedCmp.eq_symm heq)
    have hgroup : ∀ b ∈ group, cmp k (key b) = .eq := fun b hb =>
      OrientedCmp.eq_symm (h.keyed (k, group) List.mem_cons_self b hb)
    cases hc : cmp (key a) k with
    | lt =>
      rw [insert, hc]
      show SameTies _ (a :: toList ((k, group) :: rest)) (toList ((k, group) :: rest) ++ [a])
      apply sameTies_rotate
      intro b hb
      rcases List.mem_append.mp hb with hb | hb
      · exact TransCmp.lt_of_lt_of_eq hc (hgroup b hb)
      · exact TransCmp.lt_trans hc (hrest b hb)
    | eq =>
      have hr := sameTies_rotate (a := a) fun b hb => TransCmp.lt_of_eq_of_lt hc (hrest b hb)
      intro x
      have hx := hr x
      rw [insert, hc]
      simp only [toList_cons, List.append_assoc, List.filter_append] at hx ⊢
      rw [← hx, ← List.filter_append, List.singleton_append]
    | gt =>
      intro x
      have hx := ih h.tail x
      rw [insert, hc]
      simp only [toList_cons, List.append_assoc, List.filter_append] at hx ⊢
      rw [hx]

theorem sameTies_byKey (as : List α) :
    SameTies (cmpOn cmp key) (toList (byKey cmp key as)) as := by
  suffices h : ∀ groups : Grouped κ α, Sound cmp key groups → SameTies (cmpOn cmp key)
      (toList (as.foldl (fun groups a => insert cmp (key a) a groups) groups))
      (toList groups ++ as) from h [] sound_nil
  intro groups h
  induction as generalizing groups with
  | nil => simp [SameTies]
  | cons a as ih =>
    intro x
    have hi := sameTies_insert a h x
    rw [List.foldl_cons, ih _ (sound_insert a h) x, List.filter_append, hi, ← List.filter_append,
      List.append_assoc, List.singleton_append]

omit [TransCmp cmp] in
theorem key_of_mem_byKey {as : List α} {g : κ × List α} (h : g ∈ byKey cmp key as) :
    ∃ a ∈ as, g.1 = key a := by
  suffices hall : ∀ groups : Grouped κ α,
      g ∈ as.foldl (fun groups a => insert cmp (key a) a groups) groups →
        (∃ g' ∈ groups, g.1 = g'.1) ∨ ∃ a ∈ as, g.1 = key a by
    rcases hall [] h with ⟨g', hg', -⟩ | ha
    · contradiction
    · exact ha
  clear h
  induction as with
  | nil => exact fun groups hg => Or.inl ⟨g, hg, rfl⟩
  | cons a as ih =>
    intro groups hg
    rcases ih _ hg with ⟨g', hg', he⟩ | ⟨b, hb, he⟩
    · rcases key_of_mem_insert hg' with hk | ⟨g'', hg'', hk⟩
      · exact Or.inr ⟨a, List.mem_cons_self, he.trans hk⟩
      · exact Or.inl ⟨g'', hg'', he.trans hk⟩
    · exact Or.inr ⟨b, List.mem_cons_of_mem a hb, he⟩

theorem Sound.filter_toList {groups : Grouped κ α} (h : Sound cmp key groups) {g : κ × List α}
    (hg : g ∈ groups) : (toList groups).filter (fun a => cmp (key a) g.1 == .eq) = g.2 := by
  obtain ⟨pre, post, rfl⟩ := List.append_of_mem hg
  have hothers : ∀ others : Grouped κ α, (∀ o ∈ others, o ∈ pre ++ g :: post ∧ cmp o.1 g.1 ≠ .eq) →
      (toList others).filter (fun a => cmp (key a) g.1 == .eq) = [] := by
    intro others ho
    apply List.filter_eq_nil_iff.mpr
    intro a ha
    obtain ⟨o, hm, hao⟩ := List.mem_flatMap.mp ha
    obtain ⟨hgroups, hne⟩ := ho o hm
    simp only [beq_iff_eq]
    intro he
    exact hne (TransCmp.eq_trans (OrientedCmp.eq_symm (h.keyed o hgroups a hao)) he)
  obtain ⟨-, hpost, hcross⟩ := List.pairwise_append.mp h.ascending
  have hbefore := hothers pre fun o ho => ⟨List.mem_append_left _ ho, by
    rw [hcross o ho g List.mem_cons_self]
    exact Ordering.noConfusion⟩
  have hbehind := hothers post fun o ho => ⟨by simp [ho], by
    rw [OrientedCmp.gt_of_lt ((List.pairwise_cons.mp hpost).1 o ho)]
    exact Ordering.noConfusion⟩
  have hown : g.2.filter (fun a => cmp (key a) g.1 == .eq) = g.2 := by
    apply List.filter_eq_self.mpr
    intro a ha
    exact beq_iff_eq.mpr (h.keyed g hg a ha)
  have hsplit : toList (pre ++ g :: post) = toList pre ++ (g.2 ++ toList post) := by
    simp [toList]
  rw [hsplit, List.filter_append, List.filter_append, hbefore, hbehind, hown, List.nil_append,
    List.append_nil]

/-- A group has the elements of its key, in the order of the list. -/
theorem group_eq {as : List α} {g : κ × List α} (hg : g ∈ byKey cmp key as) :
    g.2 = as.filter fun a => cmp (key a) g.1 == .eq := by
  have hsound : Sound cmp key (byKey cmp key as) := sound_byKey as
  obtain ⟨x, hx⟩ := List.exists_mem_of_ne_nil _ (hsound.filled g hg)
  have hxg := hsound.keyed g hg x hx
  have hties : ties (cmpOn cmp key) x = fun a => cmp (key a) g.1 == .eq := by
    funext a
    rw [Bool.eq_iff_iff, ties_iff, cmpOn, beq_iff_eq]
    constructor
    · intro he
      exact TransCmp.eq_trans (OrientedCmp.eq_symm he) hxg
    · intro he
      exact TransCmp.eq_trans hxg (OrientedCmp.eq_symm he)
  have hall : SameTies (cmpOn cmp key) (toList (byKey cmp key as)) as := sameTies_byKey as
  have hsame := hall x
  rw [hties] at hsame
  rw [← hsame, hsound.filter_toList hg]

end ToList

end MetaLint.Grouped
