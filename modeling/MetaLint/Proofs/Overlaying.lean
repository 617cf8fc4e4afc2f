import MetaLint.Proofs.ValueForm

/-!
# Overlays

What merging is to be is said as a relation: objects go together key by key, and any other value
replaces what was there. Merging does this for well-formed values, and nothing else does. A value
that came out of a merge takes in what it was merged over.
-/

set_option autoImplicit false

namespace MetaLint.Json

mutual

/-- `result` is `overlay` merged over `base`. -/
inductive Merges : Value → Value → Value → Prop
  | replaced {base overlay : Value}
      (h : ∀ b o, base = .object b → overlay = .object o → False) : Merges base overlay overlay
  | joined {base overlay result : Members} (ha : Keyed.Ascending result)
      (h : ∀ key, MergesAt (base.lookup key) (overlay.lookup key) (result.lookup key)) :
      Merges (.object base) (.object overlay) (.object result)

/-- What stands under one key. -/
inductive MergesAt : Option Value → Option Value → Option Value → Prop
  | absent : MergesAt none none none
  | kept (base : Value) : MergesAt (some base) none (some base)
  | added (overlay : Value) : MergesAt none (some overlay) (some overlay)
  | merged {base overlay result : Value} (h : Merges base overlay result) :
      MergesAt (some base) (some overlay) (some result)

end

def mergeAt : Option Value → Option Value → Option Value
  | base, none => base
  | none, some overlay => some overlay
  | some base, some overlay => some (base.mergeOver overlay)

theorem ascending_mergeMembers {members : Members} (overlay : Members)
    (h : Keyed.Ascending members) : Keyed.Ascending (mergeMembers members overlay) := by
  induction overlay generalizing members with
  | nil => rwa [mergeMembers]
  | cons m rest ih =>
    obtain ⟨key, v⟩ := m
    rw [mergeMembers]
    exact ih (Keyed.ascending_set h)

theorem lookup_mergeMembers {overlay : Members} (h : (Keyed.names overlay).Nodup)
    (members : Members) (key : String) : (mergeMembers members overlay).lookup key =
      mergeAt (members.lookup key) (overlay.lookup key) := by
  induction overlay generalizing members with
  | nil =>
    rw [mergeMembers]
    cases members.lookup key <;> rfl
  | cons m rest ih =>
    obtain ⟨k, v⟩ := m
    obtain ⟨hk, hrest⟩ := List.nodup_cons.mp h
    rw [mergeMembers, ih hrest]
    by_cases he : key = k
    · subst he
      have hnone : rest.lookup key = none := Keyed.lookup_eq_none_iff.mpr hk
      rw [Keyed.lookup_set_self, hnone, List.lookup_cons_self]
      cases members.lookup key <;> rfl
    · rw [Keyed.lookup_set_of_ne he, Keyed.lookup_cons_of_ne he]

theorem mergeOver_of_replaced {base overlay : Value}
    (h : ∀ b o, base = .object b → overlay = .object o → False) :
    base.mergeOver overlay = overlay := by
  cases overlay with
  | object late =>
    cases base with
    | object members => exact (h members late rfl rfl).elim
    | _ => rw [Value.mergeOver]; simp
  | _ => rw [Value.mergeOver]; simp

/-- Merging well-formed values is what it is to be. -/
theorem merges_mergeOver {base overlay : Value} (hb : base.WellFormed)
    (ho : overlay.WellFormed) : Merges base overlay (base.mergeOver overlay) := by
  induction base using Value.byParts generalizing overlay with
  | object members ih =>
    cases overlay with
    | object late =>
      rw [Value.mergeOver]
      refine .joined (ascending_mergeMembers late hb.ascending) fun key => ?_
      rw [lookup_mergeMembers ho.ascending.nodup]
      cases hx : members.lookup key with
      | none =>
        cases late.lookup key with
        | none => exact .absent
        | some o => exact .added o
      | some b =>
        cases hy : late.lookup key with
        | none => exact .kept b
        | some o =>
          exact .merged (ih _ (Keyed.mem_of_lookup hx) (hb.lookup hx) (ho.lookup hy))
    | _ =>
      rw [mergeOver_of_replaced (by simp)]
      exact .replaced (by simp)
  | _ =>
    rw [mergeOver_of_replaced (by simp)]
    exact .replaced (by simp)

section Merges
variable {base overlay result other : Value} {b o r s : Option Value}

theorem MergesAt.unique_of (hb : ∀ base, b = some base → ∀ {overlay result other : Value},
      Merges base overlay result → Merges base overlay other → result = other)
    (h : MergesAt b o r) (k : MergesAt b o s) : r = s := by
  cases h with
  | absent => cases k; rfl
  | kept base => cases k; rfl
  | added overlay => cases k; rfl
  | merged h =>
    cases k with
    | merged k => rw [hb _ rfl h k]

theorem Merges.unique (h : Merges base overlay result) (k : Merges base overlay other) :
    result = other := by
  induction base using Value.byParts generalizing overlay result other with
  | object members ih =>
    cases h with
    | replaced h =>
      cases k with
      | replaced => rfl
      | joined => exact (h _ _ rfl rfl).elim
    | joined ha h =>
      cases k with
      | replaced k => exact (k _ _ rfl rfl).elim
      | joined hb k =>
        congr 1
        apply ha.ext hb
        intro key
        exact (h key).unique_of (fun _ hbase => ih _ (Keyed.mem_of_lookup hbase)) (k key)
  | _ =>
    cases h
    cases k
    rfl

theorem MergesAt.unique (h : MergesAt b o r) (k : MergesAt b o s) : r = s :=
  h.unique_of (fun _ _ => Merges.unique) k

theorem MergesAt.eq_getD (hb : ∀ members, base ≠ .object members)
    (h : MergesAt (some base) o r) : r = some (o.getD base) := by
  cases h with
  | kept => rfl
  | merged h =>
    cases h with
    | replaced => rfl
    | joined => exact (hb _ rfl).elim

theorem MergesAt.exists_object {base : Members} (ha : Keyed.Ascending base)
    (ho : ∀ v, o = some v → ∃ members, v = .object members)
    (h : MergesAt (some (.object base)) o r) : ∃ members, r = some (.object members) ∧
      Keyed.Ascending members ∧
      ∀ key, MergesAt (base.lookup key) (o.bind (Value.member? key)) (members.lookup key) := by
  cases h with
  | kept =>
    refine ⟨base, rfl, ha, fun key => ?_⟩
    cases base.lookup key with
    | none => exact .absent
    | some v => exact .kept v
  | merged h =>
    cases h with
    | replaced h =>
      obtain ⟨members, hm⟩ := ho _ rfl
      exact (h _ _ rfl hm).elim
    | joined ha h => exact ⟨_, rfl, ha, h⟩

theorem merges_self {v : Value} (h : v.WellFormed) : Merges v v v := by
  induction v using Value.byParts with
  | object members ih =>
    refine .joined h.ascending fun key => ?_
    cases hx : members.lookup key with
    | none => exact .absent
    | some v => exact .merged (ih _ (Keyed.mem_of_lookup hx) (h.lookup hx))
  | _ => exact .replaced (by simp)

theorem merges_emptyObject {v : Value} (h : v.WellFormed) : Merges .emptyObject v v := by
  cases v with
  | object members =>
    refine .joined h.ascending fun key => ?_
    cases members.lookup key with
    | none => exact .absent
    | some v => exact .added v
  | _ => exact .replaced (by simp)

theorem MergesAt.absorbed_of (hself : ∀ base, b = some base → Merges base base base)
    (hb : ∀ base, b = some base → ∀ {overlay result : Value},
      Merges base overlay result → Merges base result result) (h : MergesAt b o r) :
    MergesAt b r r := by
  cases h with
  | absent => exact .absent
  | kept base => exact .merged (hself base rfl)
  | added overlay => exact .added overlay
  | merged h => exact .merged (hb _ rfl h)

theorem Merges.absorbed (h : Merges base overlay result) (hb : base.WellFormed) :
    Merges base result result := by
  induction base using Value.byParts generalizing overlay result with
  | object members ih =>
    cases h with
    | replaced h => exact .replaced h
    | joined ha h =>
      refine .joined ha fun key => (h key).absorbed_of ?_ ?_
      · exact fun _ hx => merges_self (hb.lookup hx)
      · exact fun _ hx _ _ hm => ih _ (Keyed.mem_of_lookup hx) hm (hb.lookup hx)
  | _ => cases h with | replaced h => exact .replaced h

theorem MergesAt.absorbed (h : MergesAt b o r) (hb : ∀ base, b = some base → base.WellFormed) :
    MergesAt b r r :=
  h.absorbed_of (fun base hx => merges_self (hb base hx)) fun base hx _ _ hm =>
    hm.absorbed (hb base hx)

/-- A property of all that lies within two values holds of all that lies within their merge, if
joined objects have it. -/
theorem Merges.everywhere {P : Value → Prop} (h : Merges base overlay result)
    (hb : base.Everywhere P) (ho : overlay.Everywhere P)
    (hP : ∀ {x y z}, Merges (.object x) (.object y) (.object z) → P (.object x) → P (.object y) →
      P (.object z)) : result.Everywhere P := by
  induction base using Value.byParts generalizing overlay result with
  | object members ih =>
    cases h with
    | replaced h => exact ho
    | @joined _ late members' ha h =>
      refine Value.everywhere_object.mpr ⟨hP (.joined ha h) hb.here ho.here, ?_⟩
      rintro ⟨key, v⟩ hm
      have hv : members'.lookup key = some v := (Keyed.lookup_eq_some_iff ha.nodup).mpr hm
      have hk := h key
      rw [hv] at hk
      cases hx : members.lookup key with
      | none =>
        rw [hx] at hk
        cases hy : late.lookup key with
        | none => rw [hy] at hk; cases hk
        | some o => rw [hy] at hk; cases hk; exact ho.lookup hy
      | some b =>
        rw [hx] at hk
        cases hy : late.lookup key with
        | none => rw [hy] at hk; cases hk; exact hb.lookup hx
        | some o =>
          rw [hy] at hk
          cases hk with
          | merged hm => exact ih _ (Keyed.mem_of_lookup hx) hm (hb.lookup hx) (ho.lookup hy)
  | _ => cases h with | replaced h => exact ho

theorem Merges.wellFormed (h : Merges base overlay result) (hb : base.WellFormed)
    (ho : overlay.WellFormed) : result.WellFormed :=
  h.everywhere hb ho fun hm _ _ => by
    cases hm with
    | replaced h => exact (h _ _ rfl rfl).elim
    | joined ha h => exact ha

theorem MergesAt.isSome_iff (h : MergesAt b o r) : r.isSome ↔ b.isSome ∨ o.isSome := by
  cases h <;> simp

theorem Merges.plain (h : Merges base overlay result) (hb : base.Plain) (ho : overlay.Plain)
    (hbf : base.WellFormed) (hof : overlay.WellFormed) : result.Plain := by
  apply (h.everywhere (hb.and hbf) (ho.and hof) ?_).imp fun _ hu => hu.1
  rintro x y z hm ⟨hx, hxf⟩ ⟨hy, hyf⟩
  cases hm with
  | replaced h => exact (h _ _ rfl rfl).elim
  | joined ha h =>
    refine ⟨(Value.literal_iff ha).mpr fun hmem => ?_, ha⟩
    have hkeys : ∀ key, key ∈ Keyed.names z ↔ key ∈ Keyed.names x ∨ key ∈ Keyed.names y := by
      intro key
      simpa only [Keyed.lookup_isSome_iff] using (h key).isSome_iff
    rcases (hkeys embeddingKey).mp hmem with hmem | hmem
    · obtain ⟨key, hkey, hlt⟩ := (Value.literal_iff hxf).mp hx hmem
      exact ⟨key, (hkeys key).mpr (.inl hkey), hlt⟩
    · obtain ⟨key, hkey, hlt⟩ := (Value.literal_iff hyf).mp hy hmem
      exact ⟨key, (hkeys key).mpr (.inr hkey), hlt⟩

end Merges

end MetaLint.Json
