import Mathlib.Data.List.Forall2
import MetaLint.Config.Basic
import MetaLint.Proofs.ValueForm

/-!
# Reading records

A field of a record that is read from an object has what is read under its key, or its default. The
fields of a record are independent of each other, so the record is read when each of them is.
-/

set_option autoImplicit false

namespace MetaLint.Json

variable {σ α β : Type}

def Given (v? : Option Value) (tells : Value → α → Prop) (default a : α) : Prop :=
  match v? with
  | some v => tells v a
  | none => a = default

section Given
variable {v? : Option Value} {tells : Value → α → Prop} {default a b : α}

theorem Given.unique (hs : ∀ v, tells v a → tells v b → a = b) (ha : Given v? tells default a)
    (hb : Given v? tells default b) : a = b := by
  cases v? with
  | none => exact ha.trans hb.symm
  | some v => exact hs v ha hb

theorem given_congr {tells' : Value → α → Prop} (h : ∀ v, v? = some v → (tells v a ↔ tells' v a)) :
    Given v? tells default a ↔ Given v? tells' default a := by
  cases v? with
  | none => exact Iff.rfl
  | some v => exact h v rfl

theorem given_getD {v : Value} (hd : tells v default) (hs : ∀ a, tells v a → a = default) :
    tells (v?.getD v) a ↔ Given v? tells default a := by
  cases v? with
  | none => exact ⟨hs a, fun h => by rw [show a = default from h]; exact hd⟩
  | some v => exact Iff.rfl

end Given

def readBy (read : Value → Shaped α) (v : Value) (a : α) : Prop := read v = .ok a

theorem Given.unique_read {read : Value → Shaped α} {v? : Option Value} {default a b : α}
    (ha : Given v? (readBy read) default a) (hb : Given v? (readBy read) default b) : a = b :=
  ha.unique (fun _ h k => Except.ok.inj (h.symm.trans k)) hb

/-! ## Slots -/

theorem bind_pure_eq_ok {read : Shaped α} {f : α → β} {b : β} :
    (read >>= fun a => pure (f a)) = .ok b ↔ ∃ a, read = .ok a ∧ f a = b := by
  cases read <;> simp [bind, Except.bind, pure, Except.pure]

def slot (read : Value → Shaped α) (put : σ → α → σ) (s : σ) (v : Value) : Shaped σ :=
  return put s (← read v)

abbrev Slots (σ : Type) := List (String × (σ → Value → Shaped σ))

/-- A member goes into the slot with its key; what `other` does with one that has no slot cannot
fail. -/
def Slots.take (slots : Slots σ) (other : σ → String × Value → σ) (s : σ) (name : String)
    (v : Value) : Shaped σ :=
  match slots.lookup name with
  | some f => f s v
  | none => .ok (other s (name, v))

def Keeps (get : σ → β) (f : σ → Value → Shaped σ) : Prop :=
  ∀ s v s', f s v = .ok s' → get s' = get s

def Accepts (members : Members) (key : String) (f : σ → Value → Shaped σ) : Prop :=
  ∀ v, members.lookup key = some v → ∀ s, ∃ s', f s v = .ok s'

section Slot
variable {read : Value → Shaped α} {put : σ → α → σ} {get : σ → β} {s s' : σ} {v : Value} {a : α}
  {members : Members} {key : String}

theorem slot_eq_ok : slot read put s v = .ok s' ↔ ∃ a, read v = .ok a ∧ put s a = s' :=
  bind_pure_eq_ok

theorem keeps_slot (h : ∀ s a, get (put s a) = get s) : Keeps get (slot read put) := by
  intro s v s' hs
  obtain ⟨a, -, rfl⟩ := slot_eq_ok.mp hs
  exact h s a

theorem Given.accepts {default : α} (h : Given (members.lookup key) (readBy read) default a) :
    Accepts members key (slot read put) := by
  intro v hv s
  rw [hv] at h
  exact ⟨put s a, slot_eq_ok.mpr ⟨a, h, rfl⟩⟩

end Slot

section FoldMembers
variable {slots : Slots σ} {other : σ → String × Value → σ} {members : Members} {s s' : σ}

theorem foldMembers_cons_eq_ok {step : σ → String → Value → Shaped σ} {key : String} {v : Value}
    (h : foldMembers step s ((key, v) :: members) = .ok s') :
    ∃ t, step s key v = .ok t ∧ foldMembers step t members = .ok s' := by
  rw [foldMembers] at h
  cases hs : step s key v with
  | error e => rw [hs] at h; contradiction
  | ok t => rw [hs] at h; exact ⟨t, rfl, h⟩

theorem given_of_foldMembers {key : String} {read : Value → Shaped α} {put : σ → α → σ}
    {get : σ → α} (h : foldMembers (slots.take other) s members = .ok s')
    (hn : (Keyed.names members).Nodup) (hslot : slots.lookup key = some (slot read put))
    (hput : ∀ s a, get (put s a) = a) (hkeep : ∀ p ∈ slots, p.1 ≠ key → Keeps get p.2)
    (hother : ∀ s m, get (other s m) = get s) :
    Given (members.lookup key) (readBy read) (get s) (get s') := by
  induction members generalizing s with
  | nil =>
    rw [foldMembers] at h
    exact congrArg get (Except.ok.inj h).symm
  | cons m rest ih =>
    obtain ⟨name, v⟩ := m
    obtain ⟨hname, hrest⟩ := List.nodup_cons.mp hn
    obtain ⟨t, hstep, hfold⟩ := foldMembers_cons_eq_ok h
    have hg := ih hfold hrest
    by_cases he : key = name
    · subst he
      rw [Keyed.lookup_eq_none_iff.mpr hname] at hg
      rw [Slots.take, hslot] at hstep
      obtain ⟨a, ha, rfl⟩ := slot_eq_ok.mp hstep
      have hkept : get s' = get (put s a) := hg
      rw [List.lookup_cons_self]
      show read v = .ok (get s')
      rw [hkept, hput, ha]
    · have hkept : get t = get s := by
        rw [Slots.take] at hstep
        cases hl : slots.lookup name with
        | none => rw [hl] at hstep; rw [← Except.ok.inj hstep, hother]
        | some f =>
          rw [hl] at hstep
          exact hkeep _ (Keyed.mem_of_lookup hl) (Ne.symm he) s v t hstep
      rw [Keyed.lookup_cons_of_ne he, ← hkept]
      exact hg

theorem foldl_of_foldMembers {get : σ → β} {push : β → String × Value → β}
    (h : foldMembers (slots.take other) s members = .ok s')
    (hkeep : ∀ p ∈ slots, Keeps get p.2) (hother : ∀ s m, get (other s m) = push (get s) m) :
    get s' = (members.filter fun m => (slots.lookup m.1).isNone).foldl push (get s) := by
  induction members generalizing s with
  | nil =>
    rw [foldMembers] at h
    exact congrArg get (Except.ok.inj h).symm
  | cons m rest ih =>
    obtain ⟨name, v⟩ := m
    obtain ⟨t, hstep, hfold⟩ := foldMembers_cons_eq_ok h
    rw [ih hfold, List.filter_cons]
    rw [Slots.take] at hstep
    cases hl : slots.lookup name with
    | none =>
      rw [hl] at hstep
      obtain rfl := Except.ok.inj hstep
      rw [Option.isNone_none, if_pos rfl, List.foldl_cons, hother]
    | some f =>
      rw [hl] at hstep
      simp only [Option.isNone_some, Bool.false_eq_true, if_false]
      rw [hkeep _ (Keyed.mem_of_lookup hl) s v t hstep]

/-- A record is read when every slot can take what stands under its key. -/
theorem exists_foldMembers (hn : (Keyed.names members).Nodup)
    (h : ∀ p ∈ slots, Accepts members p.1 p.2) (s : σ) :
    ∃ s', foldMembers (slots.take other) s members = .ok s' := by
  suffices hall : ∀ rest : Members, rest ⊆ members → ∀ s,
      ∃ s', foldMembers (slots.take other) s rest = .ok s' from hall members (List.Subset.refl _) s
  intro rest
  induction rest with
  | nil => exact fun _ s => ⟨s, by rw [foldMembers]⟩
  | cons m rest ih =>
    intro hsub s
    obtain ⟨name, v⟩ := m
    have hv : members.lookup name = some v :=
      (Keyed.lookup_eq_some_iff hn).mpr (hsub List.mem_cons_self)
    obtain ⟨t, ht⟩ : ∃ t, slots.take other s name v = .ok t := by
      rw [Slots.take]
      cases hl : slots.lookup name with
      | none => exact ⟨_, rfl⟩
      | some f => exact h _ (Keyed.mem_of_lookup hl) v hv s
    obtain ⟨s', hs'⟩ := ih (fun m hm => hsub (List.mem_cons_of_mem _ hm)) t
    exact ⟨s', by rw [foldMembers, ht]; exact hs'⟩

end FoldMembers

/-! ## Single values -/

theorem asBool_eq_ok {v : Value} {b : Bool} : asBool v = .ok b ↔ v = .bool b := by
  cases v <;> simp [asBool, wrongType]

theorem asText_eq_ok {v : Value} {s : String} : asText v = .ok s ↔ v = .text s := by
  cases v <;> simp [asText, wrongType]

theorem mapM_eq_ok_iff {read : Value → Shaped α} {items : List Value} {as : List α} :
    items.mapM read = .ok as ↔ List.Forall₂ (readBy read) items as := by
  induction items generalizing as with
  | nil => cases as <;> simp [pure, Except.pure]
  | cons v rest ih =>
    rw [List.mapM_cons]
    cases hv : read v with
    | error e => cases as <;> simp [readBy, bind, Except.bind, hv]
    | ok a =>
      cases hrest : rest.mapM read with
      | error e => cases as <;> simp [readBy, bind, Except.bind, hv, ← ih, hrest]
      | ok bs =>
        cases as <;> simp [readBy, bind, Except.bind, pure, Except.pure, hv, ← ih, hrest]

theorem asList_eq_ok {read : Value → Shaped α} {v : Value} {as : List α} :
    asList read v = .ok as ↔
      ∃ items, v = .list items ∧ List.Forall₂ (readBy read) items as := by
  cases v with
  | list items => simp [asList, mapM_eq_ok_iff]
  | _ => simp [asList, wrongType]

theorem asTexts_eq_ok {v : Value} {ss : List String} :
    asTexts v = .ok ss ↔ v = .ofTexts ss := by
  have hforall : ∀ items, List.Forall₂ (readBy asText) items ss ↔ items = ss.map .text := by
    intro items
    induction ss generalizing items with
    | nil => simp
    | cons s rest ih =>
      cases items with
      | nil => simp
      | cons v items => simp [readBy, asText_eq_ok, ih]
  rw [asTexts, asList_eq_ok, Value.ofTexts]
  simp [hforall]

theorem asSize_eq_ok {v : Value} {n : Nat} :
    asSize v = .ok n ↔ v = .ofNat n ∧ n < UInt64.size := by
  cases v with
  | number n =>
    cases n with
    | fraction bits => simp [asSize, asNat, natOfNumber, Value.ofNat]
    | int i =>
      simp only [asSize, asNat, natOfNumber, Value.ofNat, UInt64.size, Bool.and_eq_true,
        decide_eq_true_eq, Value.number.injEq, Number.int.injEq]
      split
      · rw [Except.ok.injEq]
        omega
      · simp only [reduceCtorEq, false_iff]
        omega
  | _ => simp [asSize, asNat, wrongType, Value.ofNat]

end MetaLint.Json
