import MetaLint.Proofs.Overlaying

/-!
# Key paths

A path of keys leads from object to object. What merging leaves at the end of a path is what the
overlay says there; where an object of the overlay lacks the next key, the base goes on as it is.
-/

set_option autoImplicit false

namespace MetaLint.Json

namespace Value

variable {P : Value → Prop} {v u : Value}

/-- What stands at the end of a path of keys. -/
def at? : List String → Value → Option Value
  | [], v => some v
  | key :: rest, v => (v.member? key).bind (at? rest)

theorem at?_cons (key : String) (rest : List String) (v : Value) :
    v.at? (key :: rest) = (v.member? key).bind (at? rest) := rfl

theorem at?_append (path rest : List String) (v : Value) :
    v.at? (path ++ rest) = (v.at? path).bind (at? rest) := by
  induction path generalizing v with
  | nil => rfl
  | cons key path ih =>
    rw [List.cons_append, at?_cons, at?_cons, Option.bind_assoc]
    congr 1
    funext u
    exact ih u

theorem Everywhere.at? (h : v.Everywhere P) {path : List String} (hu : v.at? path = some u) :
    u.Everywhere P := by
  induction path generalizing v with
  | nil =>
    obtain rfl : v = u := Option.some.inj hu
    exact h
  | cons key path ih =>
    obtain ⟨w, hw, hu⟩ := Option.bind_eq_some_iff.mp hu
    exact ih (h.member hw) hu

theorem member?_eq_none (h : ∀ members, v ≠ .object members) (key : String) :
    v.member? key = none := by
  cases v with
  | object members => exact (h members rfl).elim
  | _ => rfl

theorem member?_ofMembers (members : Members) (key : String) :
    (Value.ofMembers members).member? key = members.reverse.lookup key :=
  Keyed.lookup_ofList_eq members key

theorem isSome_bind_member? (b : Option Value) (key : String) :
    (b.bind (member? key)).isSome ↔
      ∃ members, b = some (.object members) ∧ key ∈ Keyed.names members := by
  cases b with
  | none => simp
  | some v => cases v <;> simp [member?, ← Keyed.lookup_isSome_iff]

end Value

section Merging
variable {base overlay result v : Value} {late : Members} {path : List String}

theorem member?_mergeOver (h : Keyed.Ascending late) (base : Value) (key : String) :
    (base.mergeOver (.object late)).member? key =
      mergeAt (base.member? key) (late.lookup key) := by
  cases base with
  | object members =>
    rw [Value.mergeOver]
    exact lookup_mergeMembers h.nodup members key
  | _ =>
    rw [mergeOver_of_replaced (by simp)]
    show late.lookup key = mergeAt none (late.lookup key)
    cases late.lookup key <;> rfl

/-- The overlay goes along a path with the base. -/
theorem at?_mergeOver (ho : overlay.WellFormed) (h : overlay.at? path = some v) :
    (base.mergeOver overlay).at? path = mergeAt (base.at? path) (some v) := by
  induction path generalizing base overlay with
  | nil =>
    obtain rfl : overlay = v := Option.some.inj h
    rfl
  | cons key path ih =>
    obtain ⟨next, hnext, hv⟩ := Option.bind_eq_some_iff.mp h
    cases overlay with
    | object late =>
      have hlookup : late.lookup key = some next := hnext
      rw [Value.at?_cons, Value.at?_cons, member?_mergeOver ho.ascending, hlookup]
      cases base.member? key with
      | none => exact hv
      | some old => exact ih (ho.member hnext) hv
    | _ => contradiction

theorem mergeAt_of_replaced (h : ∀ members, v ≠ .object members) (b : Option Value) :
    mergeAt b (some v) = some v := by
  cases b with
  | none => rfl
  | some base => exact congrArg some (mergeOver_of_replaced fun _ _ _ ho => h _ ho)

theorem mergeAt_object (h : Keyed.Ascending late) (b : Option Value) :
    ∃ members, mergeAt b (some (.object late)) = some (.object members) ∧
      ∀ key, members.lookup key = mergeAt (b.bind (Value.member? key)) (late.lookup key) := by
  cases b with
  | none =>
    refine ⟨late, rfl, fun key => ?_⟩
    show late.lookup key = mergeAt none (late.lookup key)
    cases late.lookup key <;> rfl
  | some base =>
    obtain ⟨members, hm⟩ : ∃ members, base.mergeOver (.object late) = .object members := by
      cases base <;> simp [Value.mergeOver]
    refine ⟨members, congrArg some hm, fun key => ?_⟩
    rw [Option.bind_some, ← member?_mergeOver h, hm, Value.member?]

theorem mergeAt_isSome (b o : Option Value) : (mergeAt b o).isSome ↔ b.isSome ∨ o.isSome := by
  cases b <;> cases o <;> simp [mergeAt]

/-! ## Merging once more -/

theorem MergesAt.repeated_of {b o r : Option Value}
    (ho : ∀ overlay, o = some overlay → overlay.WellFormed)
    (hb : ∀ base, b = some base → ∀ {overlay result : Value}, overlay.WellFormed →
      Merges base overlay result → Merges result overlay result) (h : MergesAt b o r) :
    MergesAt r o r := by
  cases h with
  | absent => exact .absent
  | kept base => exact .kept base
  | added overlay => exact .merged (merges_self (ho overlay rfl))
  | merged h => exact .merged (hb _ rfl (ho _ rfl) h)

theorem Merges.repeated (h : Merges base overlay result) (ho : overlay.WellFormed) :
    Merges result overlay result := by
  induction base using Value.byParts generalizing overlay result with
  | object members ih =>
    cases h with
    | replaced => exact merges_self ho
    | joined ha h =>
      refine .joined ha fun key => (h key).repeated_of ?_ ?_
      · exact fun _ hx => ho.lookup hx
      · exact fun _ hx _ _ hwf hm => ih _ (Keyed.mem_of_lookup hx) hm hwf
  | _ =>
    cases h
    exact merges_self ho

/-- What merging `overlay` over `base` leaves at the end of every path, and that there is nothing
left to merge. -/
structure MergedAlong (base overlay result : Value) : Prop where
  /-- What is no object in the overlay replaces what was there. -/
  replaced : ∀ path v, overlay.at? path = some v → (∀ members, v ≠ .object members) →
    result.at? path = some v
  /-- Where an object of the overlay lacks the next key, the base goes on as it is. -/
  kept : ∀ path late key rest, overlay.at? path = some (.object late) →
    late.lookup key = none → result.at? (path ++ key :: rest) = base.at? (path ++ key :: rest)
  /-- Below what is no object in the overlay there is nothing. -/
  covered : ∀ path v key rest, overlay.at? path = some v → (∀ members, v ≠ .object members) →
    result.at? (path ++ key :: rest) = none
  /-- Objects of the overlay are joined with those of the base. -/
  joined : ∀ path late, overlay.at? path = some (.object late) →
    ∃ members, result.at? path = some (.object members) ∧ ∀ key, key ∈ Keyed.names members ↔
      key ∈ Keyed.names late ∨
        ∃ early, base.at? path = some (.object early) ∧ key ∈ Keyed.names early
  repeated : result.mergeOver overlay = result
  absorbed : base.mergeOver result = result

theorem mergedAlong_mergeOver (hb : base.WellFormed) (ho : overlay.WellFormed) :
    MergedAlong base overlay (base.mergeOver overlay) := by
  have hmerges := merges_mergeOver hb ho
  have hreplaced : ∀ path v, overlay.at? path = some v → (∀ members, v ≠ .object members) →
      (base.mergeOver overlay).at? path = some v := by
    intro path v hv hno
    rw [at?_mergeOver ho hv, mergeAt_of_replaced hno]
  refine ⟨hreplaced, ?_, ?_, ?_, ?_, ?_⟩
  · intro path late key rest hlate hnone
    obtain ⟨members, hmembers, hlookup⟩ :=
      mergeAt_object (Value.WellFormed.ascending (ho.at? hlate)) (base.at? path)
    rw [Value.at?_append, Value.at?_append, at?_mergeOver ho hlate, hmembers, Option.bind_some,
      Value.at?_cons, Value.member?, hlookup, hnone, mergeAt, Option.bind_assoc]
    rfl
  · intro path v key rest hv hno
    rw [Value.at?_append, hreplaced path v hv hno, Option.bind_some, Value.at?_cons,
      Value.member?_eq_none hno, Option.bind_none]
  · intro path late hlate
    obtain ⟨members, hmembers, hlookup⟩ :=
      mergeAt_object (Value.WellFormed.ascending (ho.at? hlate)) (base.at? path)
    refine ⟨members, (at?_mergeOver ho hlate).trans hmembers, fun key => ?_⟩
    rw [← Keyed.lookup_isSome_iff, hlookup, mergeAt_isSome, Value.isSome_bind_member?, or_comm,
      Keyed.lookup_isSome_iff]
  · exact (hmerges.repeated ho).unique (merges_mergeOver (hmerges.wellFormed hb ho) ho) |>.symm
  · exact (hmerges.absorbed hb).unique (merges_mergeOver hb (hmerges.wellFormed hb ho)) |>.symm

def nestedBase : Value :=
  .ofMembers [("a", .ofMembers [("b", .ofNat 1), ("c", .list [.ofNat 1, .ofNat 2])]),
    ("d", .bool true)]

def nestedOverlay : Value :=
  .ofMembers [("a", .ofMembers [("c", .list [.ofNat 3]), ("e", .text "x")]), ("d", .bool false)]

def nestedResult : Value :=
  .ofMembers [("a", .ofMembers [("b", .ofNat 1), ("c", .list [.ofNat 3]), ("e", .text "x")]),
    ("d", .bool false)]

theorem mergedAlong_nested : nestedBase.WellFormed ∧ nestedOverlay.WellFormed ∧
    nestedBase.mergeOver nestedOverlay = nestedResult ∧
    MergedAlong nestedBase nestedOverlay nestedResult := by
  have hb : nestedBase.WellFormed := by
    apply Value.wellFormed_ofMembers
    simp only [List.forall_mem_cons]
    refine ⟨?_, Value.wellFormed_bool true, by simp⟩
    apply Value.wellFormed_ofMembers
    simp [Value.wellFormed_list, Value.wellFormed_ofNat, UInt64.size]
  have ho : nestedOverlay.WellFormed := by
    apply Value.wellFormed_ofMembers
    simp only [List.forall_mem_cons]
    refine ⟨?_, Value.wellFormed_bool false, by simp⟩
    apply Value.wellFormed_ofMembers
    simp [Value.wellFormed_list, Value.wellFormed_ofNat, Value.wellFormed_text, UInt64.size]
  have hr : nestedBase.mergeOver nestedOverlay = nestedResult := by rfl
  exact ⟨hb, ho, hr, hr ▸ mergedAlong_mergeOver hb ho⟩

end Merging

end MetaLint.Json
