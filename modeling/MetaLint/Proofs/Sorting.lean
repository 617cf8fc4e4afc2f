import MetaLint.Issue.Order

/-!
# Stable sorting

A list in order is determined by what it holds in each class of ties, and a stable sort leaves every
such class as it is. Sorting field by field, the last field first, is therefore one stable sort by
all fields together. Names are ordered by their bytes, and paths by their components.
-/

set_option autoImplicit false

namespace MetaLint.Sorting

open Std (TransCmp OrientedCmp ReflCmp)

variable {α κ : Type}

def cmpOn (cmp : κ → κ → Ordering) (key : α → κ) (a b : α) : Ordering := cmp (key a) (key b)

instance cmpOn_trans (cmp : κ → κ → Ordering) [TransCmp cmp] (key : α → κ) :
    TransCmp (cmpOn cmp key) where
  eq_swap {a b} := by
    show cmp (key a) (key b) = (cmp (key b) (key a)).swap
    exact OrientedCmp.eq_swap
  isLE_trans {a b c} := by
    show (cmp (key a) (key b)).isLE → (cmp (key b) (key c)).isLE → (cmp (key a) (key c)).isLE
    exact TransCmp.isLE_trans

def ties (cmp : α → α → Ordering) (a b : α) : Bool := cmp a b == .eq

def Ordered (cmp : α → α → Ordering) (as : List α) : Prop := as.Pairwise fun a b => (cmp a b).isLE

/-- In each class of ties both lists have the same elements in the same order. -/
def SameTies (cmp : α → α → Ordering) (as bs : List α) : Prop :=
  ∀ a, as.filter (ties cmp a) = bs.filter (ties cmp a)

theorem ties_iff {cmp : α → α → Ordering} {a b : α} : ties cmp a b = true ↔ cmp a b = .eq := by
  simp [ties]

theorem ties_self {cmp : α → α → Ordering} [ReflCmp cmp] (a : α) : ties cmp a a = true :=
  ties_iff.mpr ReflCmp.compare_self

theorem filter_of_sameTies {cmp : α → α → Ordering} {as bs : List α} (h : SameTies cmp as bs)
    (a : α) {p : α → Bool} (hp : ∀ b, p b = true → cmp a b = .eq) : as.filter p = bs.filter p := by
  have hf : ∀ cs : List α, cs.filter p = (cs.filter (ties cmp a)).filter p := by
    intro cs
    rw [List.filter_filter]
    apply List.filter_congr
    intro b _
    cases hb : p b with
    | false => rfl
    | true => simp [ties_iff.mpr (hp b hb)]
  rw [hf as, hf bs, h a]

theorem sameTies_symm {cmp : α → α → Ordering} {as bs : List α} (h : SameTies cmp as bs) :
    SameTies cmp bs as := fun a => (h a).symm

theorem sameTies_trans {cmp : α → α → Ordering} {as bs cs : List α} (h : SameTies cmp as bs)
    (k : SameTies cmp bs cs) : SameTies cmp as cs := fun a => (h a).trans (k a)

section Order
variable {cmp : α → α → Ordering} [TransCmp cmp]

private theorem exists_tied_head {as bs : List α} {a b : α} (h : SameTies cmp (a :: as) (b :: bs)) :
    ∃ c ∈ b :: bs, cmp a c = .eq := by
  have ha : a ∈ (b :: bs).filter (ties cmp a) := by
    rw [← h a]
    simp [ties_self]
  exact ⟨a, (List.mem_filter.mp ha).1, ReflCmp.compare_self⟩

private theorem head_le {bs : List α} {a b c : α} (hb : Ordered cmp (b :: bs)) (hc : c ∈ b :: bs)
    (hac : cmp a c = .eq) : (cmp b a).isLE := by
  have hbc : (cmp b c).isLE := by
    rcases List.mem_cons.mp hc with rfl | hc
    · exact ReflCmp.isLE_rfl
    · exact (List.pairwise_cons.mp hb).1 c hc
  exact TransCmp.isLE_trans hbc (Ordering.isLE_of_eq_eq (OrientedCmp.eq_symm hac))

/-- A list in order is determined by its classes of ties. -/
theorem eq_of_sameTies {as bs : List α} (ha : Ordered cmp as) (hb : Ordered cmp bs)
    (h : SameTies cmp as bs) : as = bs := by
  induction as generalizing bs with
  | nil =>
    cases bs with
    | nil => rfl
    | cons b bs => simpa [ties_self] using h b
  | cons a as ih =>
    cases bs with
    | nil => simpa [ties_self] using h a
    | cons b bs =>
      obtain ⟨c, hc, hac⟩ := exists_tied_head h
      obtain ⟨d, hd, hbd⟩ := exists_tied_head (sameTies_symm h)
      have hab : cmp a b = .eq :=
        OrientedCmp.isLE_antisymm (head_le ha hd hbd) (head_le hb hc hac)
      have hhead : a :: as.filter (ties cmp a) = b :: bs.filter (ties cmp a) := by
        simpa [ties_self, ties_iff.mpr hab] using h a
      obtain ⟨rfl, -⟩ := List.cons.inj hhead
      rw [ih (List.pairwise_cons.mp ha).2 (List.pairwise_cons.mp hb).2 ?_]
      intro x
      have hx := h x
      rw [List.filter_cons, List.filter_cons] at hx
      split at hx
      · exact (List.cons.inj hx).2
      · exact hx

omit [TransCmp cmp] in
theorem isLE_total [OrientedCmp cmp] (a b : α) : ((cmp a b).isLE || (cmp b a).isLE) = true := by
  cases h : cmp a b with
  | lt => rfl
  | eq => rfl
  | gt => simp [OrientedCmp.lt_of_gt h]

theorem ordered_mergeSort (as : List α) : Ordered cmp (as.mergeSort fun a b => (cmp a b).isLE) :=
  List.pairwise_mergeSort (fun _ _ _ => TransCmp.isLE_trans) isLE_total as

theorem sameTies_mergeSort (as : List α) :
    SameTies cmp (as.mergeSort fun a b => (cmp a b).isLE) as := by
  intro a
  have hp : (as.filter (ties cmp a)).Pairwise fun b c => (cmp b c).isLE := by
    apply List.pairwise_of_forall_mem_list
    intro b hb c hc
    have hab := ties_iff.mp (List.mem_filter.mp hb).2
    have hac := ties_iff.mp (List.mem_filter.mp hc).2
    exact Ordering.isLE_of_eq_eq (TransCmp.eq_trans (OrientedCmp.eq_symm hab) hac)
  have hs : (as.filter (ties cmp a)).Sublist (as.mergeSort fun a b => (cmp a b).isLE) :=
    List.sublist_mergeSort (fun _ _ _ => TransCmp.isLE_trans) isLE_total hp List.filter_sublist
  have hf : (as.filter (ties cmp a)).Sublist
      ((as.mergeSort fun a b => (cmp a b).isLE).filter (ties cmp a)) := by
    simpa [List.filter_filter] using hs.filter (ties cmp a)
  have hl := ((List.mergeSort_perm as fun a b => (cmp a b).isLE).filter (ties cmp a)).length_eq
  exact (hf.eq_of_length hl.symm).symm

theorem perm_of_sameTies {as bs : List α} (h : SameTies cmp as bs) : as.Perm bs := by
  have hs : (as.mergeSort fun a b => (cmp a b).isLE) = bs.mergeSort fun a b => (cmp a b).isLE := by
    apply eq_of_sameTies (ordered_mergeSort as) (ordered_mergeSort bs)
    exact sameTies_trans (sameTies_trans (sameTies_mergeSort as) h)
      (sameTies_symm (sameTies_mergeSort bs))
  have ha := (List.mergeSort_perm as fun a b => (cmp a b).isLE).symm
  rw [hs] at ha
  exact ha.trans (List.mergeSort_perm bs _)

theorem ordered_compareLex {rest : α → α → Ordering} {as : List α} (h : Ordered rest as) :
    Ordered (compareLex cmp rest) (as.mergeSort fun a b => (cmp a b).isLE) := by
  apply List.pairwise_iff_forall_sublist.mpr
  intro a b hab
  have hle : (cmp a b).isLE := List.pairwise_iff_forall_sublist.mp (ordered_mergeSort as) hab
  rcases Ordering.isLE_iff_eq_lt_or_eq_eq.mp hle with hlt | heq
  · simp [compareLex, hlt]
  · have hs : [a, b].Sublist (as.filter (ties cmp a)) := by
      rw [← sameTies_mergeSort as a]
      simpa [ties_self, ties_iff.mpr heq] using hab.filter (ties cmp a)
    have hr := List.pairwise_iff_forall_sublist.mp h (hs.trans List.filter_sublist)
    simpa [compareLex, heq] using hr

theorem sameTies_compareLex {rest : α → α → Ordering} {as bs : List α} (h : SameTies rest as bs) :
    SameTies (compareLex cmp rest) (as.mergeSort fun a b => (cmp a b).isLE) bs := by
  intro a
  rw [filter_of_sameTies (sameTies_mergeSort as) a (p := ties (compareLex cmp rest) a)]
  · apply filter_of_sameTies h a
    intro b hb
    exact (compareLex_eq_eq.mp (ties_iff.mp hb)).2
  · intro b hb
    exact (compareLex_eq_eq.mp (ties_iff.mp hb)).1

end Order

theorem sameTies_of_perm {cmp : α → α → Ordering} [TransCmp cmp] {as bs : List α} (h : as.Perm bs)
    (he : ∀ a ∈ as, ∀ b ∈ as, cmp a b = .eq → a = b) : SameTies cmp as bs := by
  intro x
  have hp := h.filter (ties cmp x)
  cases hf : as.filter (ties cmp x) with
  | nil =>
    rw [hf] at hp
    exact hp.nil_eq
  | cons a rest =>
    have hmem : ∀ b ∈ a :: rest, b ∈ as ∧ cmp x b = .eq := by
      intro b hb
      rw [← hf] at hb
      exact ⟨(List.mem_filter.mp hb).1, ties_iff.mp (List.mem_filter.mp hb).2⟩
    obtain ⟨ha, hxa⟩ := hmem a List.mem_cons_self
    have hall : a :: rest = List.replicate (a :: rest).length a := by
      apply List.eq_replicate_iff.mpr ⟨rfl, _⟩
      intro b hb
      obtain ⟨hb, hxb⟩ := hmem b hb
      exact he b hb a ha (TransCmp.eq_trans (OrientedCmp.eq_symm hxb) hxa)
    rw [hf, hall] at hp
    rw [hall]
    exact (List.perm_replicate.mp hp.symm).symm

theorem nodup_of_ascending {cmp : α → α → Ordering} [ReflCmp cmp] {as : List α}
    (h : as.Pairwise fun a b => cmp a b = .lt) : as.Nodup := by
  apply h.imp
  rintro a b hlt rfl
  have hself : cmp a a = .eq := ReflCmp.compare_self
  rw [hself] at hlt
  contradiction

theorem eq_of_ascending {cmp : α → α → Ordering} [TransCmp cmp] {as bs : List α}
    (ha : as.Pairwise fun a b => cmp a b = .lt) (hb : bs.Pairwise fun a b => cmp a b = .lt)
    (h : ∀ a, a ∈ as ↔ a ∈ bs) : as = bs := by
  have hperm : as.Perm bs :=
    (List.perm_ext_iff_of_nodup (nodup_of_ascending ha) (nodup_of_ascending hb)).mpr h
  apply hperm.eq_of_pairwise _ ha hb
  intro a b _ _ hab hba
  rw [OrientedCmp.gt_of_lt hab] at hba
  contradiction

section Lawful
variable {cmp : α → α → Ordering} [TransCmp cmp] [Std.LawfulEqCmp cmp] {as bs : List α}

theorem ascending_mergeSort (h : as.Nodup) :
    (as.mergeSort fun a b => (cmp a b).isLE).Pairwise fun a b => cmp a b = .lt := by
  have hnodup : (as.mergeSort fun a b => (cmp a b).isLE).Nodup :=
    (List.mergeSort_perm as _).nodup_iff.mpr h
  apply ((ordered_mergeSort as).and hnodup).imp
  rintro a b ⟨hle, hne⟩
  rcases Ordering.isLE_iff_eq_lt_or_eq_eq.mp hle with hlt | heq
  · exact hlt
  · exact absurd (Std.LawfulEqCmp.eq_of_compare heq) hne

theorem mergeSort_congr (h : as.Perm bs) :
    (as.mergeSort fun a b => (cmp a b).isLE) = bs.mergeSort fun a b => (cmp a b).isLE := by
  apply eq_of_sameTies (ordered_mergeSort as) (ordered_mergeSort bs)
  apply sameTies_trans (sameTies_mergeSort as)
  apply sameTies_trans (sameTies_of_perm h fun a _ b _ => Std.LawfulEqCmp.eq_of_compare)
  exact sameTies_symm (sameTies_mergeSort bs)

end Lawful

end MetaLint.Sorting

namespace MetaLint

open Std (TransCmp TransOrd LawfulEqCmp LawfulEqOrd)

/-! ## The orders of names and of paths -/

instance : TransOrd OsText :=
  inferInstanceAs (TransCmp (Sorting.cmpOn (compare : Text.Bytes → _ → _) OsText.bytes))

instance : LawfulEqOrd OsText where
  eq_of_compare {a b} h := by
    have hbytes : compare a.bytes b.bytes = .eq := h
    exact OsText.ext (LawfulEqOrd.eq_of_compare hbytes)

namespace Path

namespace Component

def label : Component → OsText
  | .name raw => raw
  | _ => ""

theorem cmp_eq_compareLex :
    cmp = compareLex (compareOn Component.rank) (compareOn Component.label) := by
  funext a b
  cases a <;> cases b <;> rfl

instance : TransCmp cmp := by
  rw [cmp_eq_compareLex]
  infer_instance

instance : LawfulEqCmp cmp where
  eq_of_compare {a b} h := by
    rw [cmp_eq_compareLex, compareLex_eq_eq] at h
    have hr : a.rank = b.rank := LawfulEqOrd.eq_of_compare h.1
    have hl : a.label = b.label := LawfulEqOrd.eq_of_compare h.2
    cases a <;> cases b <;> simp_all [rank, label]

end Component

instance : TransCmp cmp :=
  inferInstanceAs (TransCmp (Sorting.cmpOn (List.compareLex Component.cmp) components))

theorem cmp_eq_eq {p q : Path} : p.cmp q = .eq ↔ p.components = q.components :=
  @LawfulEqCmp.compare_eq_iff_eq _ (List.compareLex Component.cmp) _ _ _

theorem same_refl (p : Path) : p.same p = true := by simp [same_iff]

end Path

end MetaLint

namespace MetaLint.Issue

open Std (TransCmp)
open Sorting

instance (f : Field) : TransCmp f.cmp := by
  cases f with
  | filename => exact inferInstanceAs (TransCmp (compareOn fun i : Issue => i.filename.raw))
  | line => exact inferInstanceAs (TransCmp (compareOn Issue.line))
  | character => exact inferInstanceAs (TransCmp (compareOn Issue.column))
  | tool => exact inferInstanceAs (TransCmp (compareOn Issue.tool))
  | code => exact inferInstanceAs (TransCmp (compareOn Issue.codeText))
  | message => exact inferInstanceAs (TransCmp (compareOn Issue.message))

theorem cmpBy_cons (f : Field) (fields : List Field) :
    cmpBy (f :: fields) = compareLex f.cmp (cmpBy fields) := rfl

instance cmpBy_trans (fields : List Field) : TransCmp (cmpBy fields) := by
  induction fields with
  | nil => exact { eq_swap := rfl, isLE_trans := fun _ _ => rfl }
  | cons f fields ih => exact inferInstanceAs (TransCmp (compareLex f.cmp (cmpBy fields)))

theorem ordered_sortBy (fields : List Field) (issues : List Issue) :
    Ordered (cmpBy fields) (sortBy fields issues) := by
  induction fields with
  | nil => exact List.pairwise_of_forall fun _ _ => rfl
  | cons f fields ih =>
    rw [cmpBy_cons, sortBy_cons]
    exact ordered_compareLex ih

theorem sameTies_sortBy (fields : List Field) (issues : List Issue) :
    SameTies (cmpBy fields) (sortBy fields issues) issues := by
  induction fields with
  | nil => exact fun _ => rfl
  | cons f fields ih =>
    rw [cmpBy_cons, sortBy_cons]
    exact sameTies_compareLex ih

/-- Lists that agree in every class of ties are sorted into the same list. -/
theorem sortBy_congr {fields : List Field} {issues others : List Issue}
    (h : SameTies (cmpBy fields) issues others) : sortBy fields issues = sortBy fields others := by
  apply eq_of_sameTies (ordered_sortBy fields issues) (ordered_sortBy fields others)
  have hi := sameTies_trans (sameTies_sortBy fields issues) h
  exact sameTies_trans hi (sameTies_symm (sameTies_sortBy fields others))

end MetaLint.Issue
