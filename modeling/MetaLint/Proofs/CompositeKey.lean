import MetaLint.Proofs.Sorting

/-!
# Sorting by a composite key

An issue has a value in each field, and its values in a list of fields, from first to last, are its
composite key. Keys are compared value by value, so that the first difference decides. Sorting field
by field is the stable sort by this key, and there is only one.
-/

set_option autoImplicit false

namespace MetaLint.Issue

open Sorting (Ordered SameTies ties)

inductive Key
  | name (n : OsText)
  | text (s : String)
  | number (n : UInt32)
  deriving Repr, DecidableEq

/-- Names are ordered by their bytes, texts by their characters. No field has values of two
kinds. -/
inductive Key.Below : Key → Key → Prop
  | name {m n : OsText} (h : m.bytes < n.bytes) : Below (.name m) (.name n)
  | text {s t : String} (h : s < t) : Below (.text s) (.text t)
  | number {m n : UInt32} (h : m < n) : Below (.number m) (.number n)

/-- The value of an issue in a field: a missing column is 0, and a missing code is empty. -/
def key (i : Issue) : Field → Key
  | .filename => .name i.filename.raw
  | .line => .number i.line
  | .character => .number (i.character.getD 0)
  | .tool => .text i.tool
  | .code => .text (i.code.getD "")
  | .message => .text i.message

def compositeKey (fields : List Field) (i : Issue) : List Key := fields.map i.key

/-- `a` has the smaller value in the first field in which they differ. -/
def Precedes (fields : List Field) (a b : Issue) : Prop :=
  List.Lex Key.Below (compositeKey fields a) (compositeKey fields b)

theorem compare_bytes_eq_lt {a b : Text.Bytes} : compare a b = .lt ↔ a < b := by
  induction a generalizing b with
  | nil => cases b <;> simp [compare, List.compareLex]
  | cons x a ih =>
    cases b with
    | nil => simp [compare, List.compareLex]
    | cons y b =>
      have hthen : compare (x :: a) (y :: b) = (compare x y).then (compare a b) :=
        List.compareLex_cons_cons
      rw [List.cons_lt_cons_iff, ← ih, hthen, Ordering.then_eq_lt, Std.compare_eq_lt,
        Std.LawfulEqOrd.compare_eq_iff_eq]

theorem below_name {m n : OsText} : Key.Below (.name m) (.name n) ↔ compare m n = .lt := by
  rw [show compare m n = compare m.bytes n.bytes from rfl, compare_bytes_eq_lt]
  exact ⟨fun h => by cases h; assumption, Key.Below.name⟩

theorem below_text {s t : String} : Key.Below (.text s) (.text t) ↔ compare s t = .lt := by
  rw [show compare s t = compareOfLessAndEq s t from rfl, compareOfLessAndEq_eq_lt]
  exact ⟨fun h => by cases h; assumption, Key.Below.text⟩

theorem below_number {m n : UInt32} : Key.Below (.number m) (.number n) ↔ compare m n = .lt := by
  rw [Std.compare_eq_lt]
  exact ⟨fun h => by cases h; assumption, Key.Below.number⟩

section Fields
variable {f : Field} {fields : List Field} {a b : Issue}

theorem cmp_eq_lt : f.cmp a b = .lt ↔ (a.key f).Below (b.key f) := by
  cases f with
  | filename => exact below_name.symm
  | line => exact below_number.symm
  | character => exact below_number.symm
  | _ => exact below_text.symm

theorem cmp_eq_eq_iff_key : f.cmp a b = .eq ↔ a.key f = b.key f := by
  cases f <;> simp [Field.cmp, key, column, codeText]

theorem cmpBy_eq_eq : cmpBy fields a b = .eq ↔ compositeKey fields a = compositeKey fields b := by
  induction fields with
  | nil => simp [cmpBy, compositeKey]
  | cons f fields ih =>
    rw [cmpBy, Ordering.then_eq_eq, ih, cmp_eq_eq_iff_key]
    simp [compositeKey]

theorem cmpBy_eq_lt : cmpBy fields a b = .lt ↔ Precedes fields a b := by
  induction fields with
  | nil => simp [cmpBy, Precedes, compositeKey]
  | cons f fields ih =>
    rw [cmpBy, Ordering.then_eq_lt, ih, cmp_eq_lt, cmp_eq_eq_iff_key]
    exact List.cons_lex_cons_iff.symm

theorem ties_cmpBy : ties (cmpBy fields) a =
    fun b => decide (compositeKey fields a = compositeKey fields b) := by
  funext b
  rw [Bool.eq_iff_iff, Sorting.ties_iff, cmpBy_eq_eq, decide_eq_true_eq]

end Fields

theorem ordered_cmpBy_iff {fields : List Field} {issues : List Issue} :
    Ordered (cmpBy fields) issues ↔ issues.Pairwise fun a b => ¬ Precedes fields b a := by
  have hpair : ∀ a b, (cmpBy fields a b).isLE = true ↔ ¬ Precedes fields b a := by
    intro a b
    rw [← cmpBy_eq_lt, Ordering.isLE_iff_ne_gt, Std.OrientedCmp.gt_iff_lt]
  simp only [Ordered, hpair]

/-- The same issues in the order of their keys. Those with equal keys stand as they did before. -/
structure StableSort (fields : List Field) (issues sorted : List Issue) : Prop where
  perm : sorted.Perm issues
  ordered : sorted.Pairwise fun a b => ¬ Precedes fields b a
  stable : ∀ i : Issue,
    (sorted.filter fun j => compositeKey fields i = compositeKey fields j) =
      issues.filter fun j => compositeKey fields i = compositeKey fields j

/-- Sorting by one field after the other, the last one first, is the stable sort by all fields, and
there is no other. -/
theorem stableSort_iff_eq_sortBy (fields : List Field) (issues sorted : List Issue) :
    StableSort fields issues sorted ↔ sorted = sortBy fields issues := by
  have hties : ∀ {others : List Issue}, SameTies (cmpBy fields) others issues ↔
      ∀ i : Issue, (others.filter fun j => compositeKey fields i = compositeKey fields j) =
        issues.filter fun j => compositeKey fields i = compositeKey fields j := by
    intro others
    simp only [SameTies, ties_cmpBy]
  constructor
  · intro h
    apply Sorting.eq_of_sameTies (ordered_cmpBy_iff.mpr h.ordered) (ordered_sortBy fields issues)
    exact Sorting.sameTies_trans (hties.mpr h.stable)
      (Sorting.sameTies_symm (sameTies_sortBy fields issues))
  · rintro rfl
    exact ⟨sortBy_perm fields issues, ordered_cmpBy_iff.mp (ordered_sortBy fields issues),
      hties.mp (sameTies_sortBy fields issues)⟩

end MetaLint.Issue
