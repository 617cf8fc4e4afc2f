import MetaLint.Config.Document
import MetaLint.Proofs.Lookup

/-!
# What schemas let pass

A schema lets a record pass when nothing is missing and each member passes by itself.
-/

set_option autoImplicit false

namespace MetaLint

namespace Json

theorem under_eq_ok {step : Step} {r : Checked} : Checked.under step r = .ok () ↔ r = .ok () := by
  cases r <;> simp [Checked.under]

namespace Schema

variable {v : Value} {least : Nat} {items : Schema} {required : List String}
  {fields : List (String × Schema)} {others : OtherMembers}

def Passes (s : Schema) (v : Value) : Prop := s.check v = .ok ()

theorem passes_text : text.Passes v ↔ ∃ s, v = .text s := by
  cases v <;> simp [Passes, check, breach]

theorem passes_bool : bool.Passes v ↔ ∃ b, v = .bool b := by
  cases v <;> simp [Passes, check, breach]

theorem passes_object : object.Passes v ↔ ∃ members, v = .object members := by
  cases v <;> simp [Passes, check, breach]

theorem passes_count_ofNat {n : Nat} : (count least).Passes (.ofNat n) ↔ least ≤ n := by
  simp [Passes, check, Value.ofNat, Number.isWhole, Number.isBelow, breach]

theorem checkItems_eq_ok {n : Nat} {vs : List Value} :
    checkItems items n vs = .ok () ↔ ∀ v ∈ vs, items.Passes v := by
  induction vs generalizing n with
  | nil => simp [checkItems]
  | cons v rest ih =>
    rw [checkItems, List.forall_mem_cons, Passes]
    cases items.check v with
    | error e => simp [Checked.under]
    | ok u => simpa [Checked.under] using ih

theorem passes_list : (list items).Passes v ↔ ∃ vs, v = .list vs ∧ ∀ w ∈ vs, items.Passes w := by
  cases v with
  | list vs => simp [Passes, check, checkItems_eq_ok]
  | _ => simp [Passes, check, breach]

def PassesMember (fields : List (String × Schema)) (others : OtherMembers) (key : String)
    (v : Value) : Prop := checkMember fields others key v = .ok ()

theorem passesMember_of_field {key : String} {s : Schema} (h : fields.lookup key = some s) :
    PassesMember fields others key v ↔ s.Passes v := by
  rw [PassesMember, checkMember.eq_def, h]
  exact under_eq_ok

theorem passesMember_any {key : String} (h : fields.lookup key = none) :
    PassesMember fields .any key v := by
  rw [PassesMember, checkMember.eq_def, h]

theorem passesMember_each {key : String} {s : Schema} (h : fields.lookup key = none) :
    PassesMember fields (.each s) key v ↔ s.Passes v := by
  rw [PassesMember, checkMember.eq_def, h]
  exact under_eq_ok

theorem checkMembers_eq_ok {members : Members} :
    checkMembers fields others members = .ok () ↔
      ∀ m ∈ members, PassesMember fields others m.1 m.2 := by
  induction members with
  | nil => simp [checkMembers]
  | cons m rest ih =>
    obtain ⟨key, v⟩ := m
    rw [checkMembers, List.forall_mem_cons, ← ih, PassesMember]
    cases checkMember fields others key v <;> simp

theorem missingKey?_eq_none {members : Members} :
    missingKey? members required = none ↔ ∀ name ∈ required, name ∈ Keyed.names members := by
  rw [missingKey?, List.find?_eq_none]
  simp only [Option.isNone_iff_eq_none, Keyed.lookup_eq_none_iff, Decidable.not_not]

theorem passes_record : (record required fields others).Passes v ↔
    ∃ members, v = .object members ∧ (∀ name ∈ required, name ∈ Keyed.names members) ∧
      ∀ m ∈ members, PassesMember fields others m.1 m.2 := by
  cases v with
  | object members =>
    rw [Passes, check]
    simp only [Value.object.injEq, exists_eq_left', ← missingKey?_eq_none, ← checkMembers_eq_ok]
    cases missingKey? members required <;> simp [breach]
  | _ => simp [Passes, check, breach]

section Passes
variable {w : Value} {key : String} {s : Schema}

theorem Passes.field (h : (record required fields others).Passes v)
    (hs : fields.lookup key = some s) (hw : v.member? key = some w) : s.Passes w := by
  obtain ⟨members, rfl, -, hmembers⟩ := passes_record.mp h
  exact (passesMember_of_field hs).mp (hmembers _ (Keyed.mem_of_lookup hw))

theorem Passes.each (h : (record required fields (.each s)).Passes v)
    (hs : fields.lookup key = none) (hw : v.member? key = some w) : s.Passes w := by
  obtain ⟨members, rfl, -, hmembers⟩ := passes_record.mp h
  exact (passesMember_each hs).mp (hmembers _ (Keyed.mem_of_lookup hw))

theorem Passes.filter {members : Members} (h : (record [] fields others).Passes (.object members))
    (p : String × Value → Bool) :
    (record [] fields others).Passes (.object (members.filter p)) := by
  obtain ⟨_, he, -, hmembers⟩ := passes_record.mp h
  obtain rfl := Value.object.inj he
  exact passes_record.mpr
    ⟨_, rfl, by simp, fun m hm => hmembers m (List.mem_filter.mp hm).1⟩

theorem Passes.exists_object (h : (record required fields others).Passes v) :
    ∃ members, v = .object members :=
  (passes_record.mp h).imp fun _ hm => hm.1

end Passes

end Schema

end Json

end MetaLint
