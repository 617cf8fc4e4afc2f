/-!
# Lists by key

A keyed list has one value for each key. A grouped list has the elements of each key, in ascending
key order; an element joins the group of an equal key at its end, and the group keeps the key it was
opened with.
-/

set_option autoImplicit false

namespace MetaLint

abbrev Keyed (α : Type) := List (String × α)

namespace Keyed

variable {α : Type}

def set (name : String) (a : α) : Keyed α → Keyed α
  | [] => [(name, a)]
  | (n, b) :: rest =>
    match compare name n with
    | .lt => (name, a) :: (n, b) :: rest
    | .eq => (name, a) :: rest
    | .gt => (n, b) :: set name a rest

def ofList (pairs : List (String × α)) : Keyed α :=
  pairs.foldl (fun done p => set p.1 p.2 done) []

def names (k : Keyed α) : List String := k.map Prod.fst

def values (k : Keyed α) : List α := k.map Prod.snd

def mapValues {β : Type} (f : String → α → β) (k : Keyed α) : Keyed β :=
  k.map fun (n, a) => (n, f n a)

theorem lookup_set_self (name : String) (a : α) (k : Keyed α) :
    (set name a k).lookup name = some a := by
  induction k with
  | nil => simp [set]
  | cons p rest ih =>
    obtain ⟨n, b⟩ := p
    cases h : compare name n
    · simp [set, h]
    · simp [set, h]
    · have hne : (name == n) = false := by
        simp only [beq_eq_false_iff_ne, ne_eq]
        intro he
        simp [he] at h
      simp [set, h, List.lookup_cons, hne, ih]

theorem lookup_set_of_ne {name other : String} (hne : other ≠ name) (a : α) (k : Keyed α) :
    (set name a k).lookup other = k.lookup other := by
  have ho : (other == name) = false := by simp [hne]
  induction k with
  | nil => simp [set, List.lookup_cons, ho]
  | cons p rest ih =>
    obtain ⟨n, b⟩ := p
    cases h : compare name n
    · simp [set, h, List.lookup_cons, ho]
    · have he : name = n := Std.LawfulEqOrd.eq_of_compare h
      subst he
      simp [set, List.lookup_cons, ho]
    · simp only [set, h, List.lookup_cons]
      cases other == n <;> simp [ih]

end Keyed

abbrev Grouped (κ α : Type) := List (κ × List α)

namespace Grouped

variable {κ α : Type}

/-- Puts `a` at the end of the group of `k`, which is opened in its place if there is none. -/
def insert (cmp : κ → κ → Ordering) (k : κ) (a : α) : Grouped κ α → Grouped κ α
  | [] => [(k, [a])]
  | (k', group) :: rest =>
    match cmp k k' with
    | .lt => (k, [a]) :: (k', group) :: rest
    | .eq => (k', group ++ [a]) :: rest
    | .gt => (k', group) :: insert cmp k a rest

def byKey (cmp : κ → κ → Ordering) (key : α → κ) (as : List α) : Grouped κ α :=
  as.foldl (fun groups a => insert cmp (key a) a groups) []

def toList (groups : Grouped κ α) : List α := groups.flatMap Prod.snd

theorem insert_perm (cmp : κ → κ → Ordering) (k : κ) (a : α) (groups : Grouped κ α) :
    (toList (insert cmp k a groups)).Perm (a :: toList groups) := by
  induction groups with
  | nil => simp [insert, toList]
  | cons g rest ih =>
    obtain ⟨k', group⟩ := g
    simp only [toList, List.flatMap_cons] at ih ⊢
    cases h : cmp k k'
    · simp [insert, h]
    · simp only [insert, h, List.flatMap_cons, List.append_assoc, List.singleton_append]
      exact List.perm_middle
    · simp only [insert, h, List.flatMap_cons]
      exact (List.Perm.append_left group ih).trans List.perm_middle

theorem byKey_perm (cmp : κ → κ → Ordering) (key : α → κ) (as : List α) :
    (toList (byKey cmp key as)).Perm as := by
  suffices h : ∀ (groups : Grouped κ α) (as : List α),
      (toList (as.foldl (fun groups a => insert cmp (key a) a groups) groups)).Perm
        (toList groups ++ as) by
    simpa [byKey, toList] using h [] as
  intro groups as
  induction as generalizing groups with
  | nil => simp
  | cons a rest ih =>
    refine (ih _).trans ?_
    exact ((insert_perm cmp (key a) a groups).append_right rest).trans List.perm_middle.symm

end Grouped

end MetaLint
