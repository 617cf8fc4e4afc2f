import MetaLint.Json.Parser
import MetaLint.Json.Value
import MetaLint.Proofs.Lookup

/-!
# The form of values

A value is well formed when its objects list their members by ascending key and its integers have
64 bits. It is plain when nothing in it stands for an embedded value, and whole when it has no
fractions. Each of these is a property of all that lies within a value.
-/

set_option autoImplicit false

namespace MetaLint.Json

namespace Value

variable {P Q : Value → Prop} {u v w : Value} {items : List Value} {members : Members}

/-- Induction along the parts of lists and objects. -/
@[elab_as_elim]
theorem byParts (null : P .null) (bool : ∀ b, P (.bool b)) (number : ∀ n, P (.number n))
    (text : ∀ s, P (.text s)) (list : ∀ items, (∀ v ∈ items, P v) → P (.list items))
    (object : ∀ members, (∀ m ∈ members, P m.2) → P (.object members)) : ∀ v, P v
  | .null => null
  | .bool b => bool b
  | .number n => number n
  | .text s => text s
  | .list items => list items fun v _ => byParts null bool number text list object v
  | .object members =>
    object members fun m _ => byParts null bool number text list object m.2
termination_by v => sizeOf v
decreasing_by
  · have hitem := List.sizeOf_lt_of_mem ‹v ∈ items›
    simp
    omega
  · have hpair : sizeOf m.2 < sizeOf m := by
      cases m
      simp only [Prod.mk.sizeOf_spec]
      omega
    have hmember := List.sizeOf_lt_of_mem ‹m ∈ members›
    simp
    omega

inductive Within (u : Value) : Value → Prop
  | self : Within u u
  | item {v : Value} {items : List Value} (hv : v ∈ items) (hu : Within u v) :
      Within u (.list items)
  | member {m : String × Value} {members : Members} (hm : m ∈ members) (hu : Within u m.2) :
      Within u (.object members)

def Everywhere (P : Value → Prop) (v : Value) : Prop := ∀ u, u.Within v → P u

theorem Everywhere.here (h : v.Everywhere P) : P v := h v .self

theorem everywhere_list :
    (Value.list items).Everywhere P ↔ P (.list items) ∧ ∀ v ∈ items, v.Everywhere P := by
  constructor
  · exact fun h => ⟨h.here, fun v hv u hu => h u (.item hv hu)⟩
  · rintro ⟨hown, hitems⟩ u hu
    cases hu with
    | self => exact hown
    | item hv hu => exact hitems _ hv u hu

theorem everywhere_object :
    (Value.object members).Everywhere P ↔
      P (.object members) ∧ ∀ m ∈ members, m.2.Everywhere P := by
  constructor
  · exact fun h => ⟨h.here, fun m hm u hu => h u (.member hm hu)⟩
  · rintro ⟨hown, hmembers⟩ u hu
    cases hu with
    | self => exact hown
    | member hm hu => exact hmembers _ hm u hu

@[simp] theorem everywhere_null : Value.null.Everywhere P ↔ P .null :=
  ⟨fun h => h.here, fun h u hu => by cases hu; exact h⟩

@[simp] theorem everywhere_bool (b : Bool) : (Value.bool b).Everywhere P ↔ P (.bool b) :=
  ⟨fun h => h.here, fun h u hu => by cases hu; exact h⟩

@[simp] theorem everywhere_number (n : Number) : (Value.number n).Everywhere P ↔ P (.number n) :=
  ⟨fun h => h.here, fun h u hu => by cases hu; exact h⟩

@[simp] theorem everywhere_text (s : String) : (Value.text s).Everywhere P ↔ P (.text s) :=
  ⟨fun h => h.here, fun h u hu => by cases hu; exact h⟩

theorem Everywhere.lookup (h : (Value.object members).Everywhere P) {key : String}
    (hv : members.lookup key = some v) : v.Everywhere P :=
  (everywhere_object.mp h).2 _ (Keyed.mem_of_lookup hv)

theorem Everywhere.member (h : v.Everywhere P) {key : String} (hu : v.member? key = some u) :
    u.Everywhere P := by
  cases v with
  | object members => exact h.lookup hu
  | _ => contradiction

theorem Everywhere.filter (h : (Value.object members).Everywhere P) {p : String × Value → Bool}
    (hp : P (.object (members.filter p))) : (Value.object (members.filter p)).Everywhere P :=
  everywhere_object.mpr
    ⟨hp, fun m hm => (everywhere_object.mp h).2 m (List.mem_filter.mp hm).1⟩

theorem Everywhere.and (h : v.Everywhere P) (k : v.Everywhere Q) :
    v.Everywhere fun u => P u ∧ Q u := fun u hu => ⟨h u hu, k u hu⟩

theorem Everywhere.imp (h : v.Everywhere P) (hpq : ∀ u, P u → Q u) : v.Everywhere Q :=
  fun u hu => hpq u (h u hu)

def InRange (i : Int) : Prop := -0x8000000000000000 ≤ i ∧ i ≤ 0xFFFFFFFFFFFFFFFF

def InForm : Value → Prop
  | .object members => Keyed.Ascending members
  | .number (.int i) => InRange i
  | _ => True

/-- An object that does not start with the key of embedding. -/
def Literal : Value → Prop
  | .object ((key, _) :: _) => key ≠ embeddingKey
  | _ => True

def Unfractional : Value → Prop
  | .number (.fraction _) => False
  | _ => True

def WellFormed (v : Value) : Prop := v.Everywhere InForm

def Plain (v : Value) : Prop := v.Everywhere Literal

def Whole (v : Value) : Prop := v.Everywhere Unfractional

theorem WellFormed.ascending (h : (Value.object members).WellFormed) : Keyed.Ascending members :=
  h.here

theorem literal_iff (h : Keyed.Ascending members) : Literal (.object members) ↔
    (embeddingKey ∈ Keyed.names members →
      ∃ key ∈ Keyed.names members, compare key embeddingKey = .lt) := by
  cases members with
  | nil => simp [Literal, Keyed.names]
  | cons m rest =>
    obtain ⟨first, v⟩ := m
    have hlt := (List.pairwise_cons.mp (Keyed.ascending_iff.mp h)).1
    constructor
    · intro hne hmem
      rcases List.mem_cons.mp hmem with he | hmem
      · exact absurd he.symm hne
      · exact ⟨first, List.mem_cons_self, hlt _ hmem⟩
    · rintro hkeys rfl
      obtain ⟨key, hkey, hbefore⟩ := hkeys List.mem_cons_self
      rcases List.mem_cons.mp hkey with rfl | hkey
      · simp [Std.ReflCmp.compare_self] at hbefore
      · have hafter := hlt key hkey
        rw [Std.OrientedCmp.gt_of_lt hbefore] at hafter
        contradiction

@[simp] theorem ofTexts_inj {ss ts : List String} : ofTexts ss = ofTexts ts ↔ ss = ts := by
  rw [ofTexts, ofTexts, Value.list.injEq]
  exact List.map_inj_right fun _ _ => Value.text.inj

theorem wellFormed_bool (b : Bool) : (Value.bool b).WellFormed := (everywhere_bool b).mpr trivial

theorem wellFormed_text (s : String) : (Value.text s).WellFormed := (everywhere_text s).mpr trivial

theorem whole_bool (b : Bool) : (Value.bool b).Whole := (everywhere_bool b).mpr trivial

theorem whole_text (s : String) : (Value.text s).Whole := (everywhere_text s).mpr trivial

theorem wellFormed_ofNat {n : Nat} (h : n < UInt64.size) : (ofNat n).WellFormed := by
  rw [UInt64.size] at h
  exact (everywhere_number _).mpr ⟨by omega, by omega⟩

theorem wellFormed_list (h : ∀ v ∈ items, v.WellFormed) : (Value.list items).WellFormed :=
  everywhere_list.mpr ⟨trivial, h⟩

theorem wellFormed_ofTexts (ss : List String) : (ofTexts ss).WellFormed := by
  apply wellFormed_list
  intro v hv
  obtain ⟨s, -, rfl⟩ := List.mem_map.mp hv
  exact wellFormed_text s

theorem whole_ofTexts (ss : List String) : (ofTexts ss).Whole := by
  refine everywhere_list.mpr ⟨trivial, fun v hv => ?_⟩
  obtain ⟨s, -, rfl⟩ := List.mem_map.mp hv
  exact whole_text s

theorem wellFormed_ofMembers (h : ∀ m ∈ members, m.2.WellFormed) :
    (ofMembers members).WellFormed :=
  everywhere_object.mpr ⟨Keyed.ascending_ofList members, fun m hm => h m (Keyed.mem_ofList hm)⟩

end Value

section TakenOver
variable (surplus : Nat → ShapeError)

theorem itemsTakenOver_of_forall {items : List Value}
    (h : ∀ v ∈ items, v.takenOver surplus = .ok v) : itemsTakenOver surplus items = .ok items := by
  induction items with
  | nil => rw [itemsTakenOver]
  | cons v rest ih =>
    obtain ⟨hv, hrest⟩ := List.forall_mem_cons.mp h
    rw [itemsTakenOver, hv, ih hrest]
    rfl

theorem membersTakenOver_of_forall {members : Members}
    (h : ∀ m ∈ members, m.2.takenOver surplus = .ok m.2) :
    membersTakenOver surplus members = .ok members := by
  induction members with
  | nil => rw [membersTakenOver]
  | cons m rest ih =>
    obtain ⟨key, v⟩ := m
    obtain ⟨hv, hrest⟩ := List.forall_mem_cons.mp h
    rw [membersTakenOver, hv, ih hrest]
    rfl

theorem takenOver_of_plain {v : Value} (h : v.Plain) : v.takenOver surplus = .ok v := by
  induction v using Value.byParts with
  | null => simp [Value.takenOver]
  | bool b => simp [Value.takenOver]
  | number n => simp [Value.takenOver]
  | text s => simp [Value.takenOver]
  | list items ih =>
    have hitems := (Value.everywhere_list.mp h).2
    rw [Value.takenOver, itemsTakenOver_of_forall surplus fun v hv => ih v hv (hitems v hv)]
    rfl
  | object members ih =>
    obtain ⟨hown, hmembers⟩ := Value.everywhere_object.mp h
    have htaken := membersTakenOver_of_forall surplus fun m hm => ih m hm (hmembers m hm)
    cases members with
    | nil => rw [Value.takenOver]; rfl
    | cons m rest =>
      obtain ⟨key, v⟩ := m
      have hkey : key ≠ embeddingKey := hown
      rw [Value.takenOver, if_neg hkey, htaken]
      rfl

end TakenOver

end MetaLint.Json
