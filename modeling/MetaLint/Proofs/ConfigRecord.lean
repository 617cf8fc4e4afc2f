import MetaLint.Proofs.Records

/-!
# Configurations read from records

What a record has to hold so that a configuration, the block of a tool or a report is read from it.
-/

set_option autoImplicit false

namespace MetaLint

open Json

namespace ToolConfig

def optionsOf (v : Value) : Shaped Value :=
  v.takenOver (.invalidLength · "fewer elements in map")

structure ReadFrom (members : Members) (t : ToolConfig) : Prop where
  enabled : Given (members.lookup "use") (readBy asBool) true t.enabled
  filters : Given (members.lookup "filters") (readBy asTexts) [] t.filters
  disabled : Given (members.lookup "disabled") (readBy asTexts) [] t.disabled
  options : Given (members.lookup "options") (readBy optionsOf) .emptyObject t.options

def slots : Slots ToolConfig :=
  [("use", slot asBool fun t b => { t with enabled := b }),
   ("filters", slot asTexts fun t ss => { t with filters := ss }),
   ("disabled", slot asTexts fun t ss => { t with disabled := ss }),
   ("options", slot optionsOf fun t v => { t with options := v })]

theorem take_eq_slots : take = slots.take fun t _ => t := by
  funext t name v
  rw [take.eq_def]
  split
  any_goals rfl
  have hnone : slots.lookup name = none := by
    rw [Keyed.lookup_eq_none_iff]
    simp_all [Keyed.names, slots]
  rw [Slots.take, hnone]

section ReadFrom
variable {members : Members} {t u : ToolConfig}

theorem readFrom_of_ofValue (hn : (Keyed.names members).Nodup)
    (h : ofValue (.object members) = .ok t) : ReadFrom members t := by
  rw [ofValue, take_eq_slots] at h
  constructor <;>
    exact given_of_foldMembers h hn rfl (fun _ _ => rfl) (by simp [slots, keeps_slot])
      fun _ _ => rfl

theorem ReadFrom.unique (ht : ReadFrom members t) (hu : ReadFrom members u) : t = u := by
  cases t
  cases u
  simp only [ToolConfig.mk.injEq]
  exact ⟨ht.enabled.unique_read hu.enabled, ht.filters.unique_read hu.filters,
    ht.disabled.unique_read hu.disabled, ht.options.unique_read hu.options⟩

theorem ofValue_eq_ok (hn : (Keyed.names members).Nodup) :
    ofValue (.object members) = .ok t ↔ ReadFrom members t := by
  refine ⟨readFrom_of_ofValue hn, fun h => ?_⟩
  have haccepts : ∀ p ∈ slots, Accepts members p.1 p.2 := by
    simp only [slots, List.forall_mem_cons]
    exact ⟨h.enabled.accepts, h.filters.accepts, h.disabled.accepts, h.options.accepts, by simp⟩
  obtain ⟨u, hu⟩ := exists_foldMembers hn haccepts {}
  rw [← take_eq_slots] at hu
  rw [h.unique (readFrom_of_ofValue hn hu)]
  exact hu

end ReadFrom

end ToolConfig

namespace ReportConfig

def others (members : Members) : Members :=
  members.filter fun m => m.1 != "type" && m.1 != "file"

def fileOf (v : Value) : Shaped (Option Path) :=
  (optional asPathText v).map (Option.map fun text : String => ⟨text⟩)

def optionsOf (members : Members) : Shaped Members :=
  membersTakenOver (.invalidLength · "1 element in map") members

structure ReadFrom (members : Members) (r : ReportConfig) : Prop where
  kind : members.lookup "type" = some (.text r.kind)
  file : Given (members.lookup "file") (readBy fileOf) none r.file
  options : optionsOf (others members) = .ok r.options

def kindOf (v : Value) : Shaped (Option String) := (asText v).map some

def slots : Slots Fields :=
  [("type", slot kindOf fun f kind => { f with kind }),
   ("file", slot fileOf fun f file => { f with file })]

def Fields.collect (f : Fields) (m : String × Value) : Fields :=
  { f with options := m :: f.options }

theorem take_eq_slots : Fields.take = slots.take Fields.collect := by
  funext f name v
  rw [Fields.take.eq_def]
  split
  · have htype : slots.take Fields.collect f "type" v =
        slot kindOf (fun f kind => { f with kind }) f v := rfl
    rw [htype, slot, kindOf]
    cases asText v <;> rfl
  · have hfile : slots.take Fields.collect f "file" v =
        slot fileOf (fun f file => { f with file }) f v := rfl
    rw [hfile, slot, fileOf]
    cases optional asPathText v <;> rfl
  · have hnone : slots.lookup name = none := by
      rw [Keyed.lookup_eq_none_iff]
      simp_all [Keyed.names, slots]
    rw [Slots.take, hnone]
    rfl

section ReadFrom
variable {members : Members} {r : ReportConfig}

structure Gathered (members : Members) (f : Fields) : Prop where
  kind : Given (members.lookup "type") (readBy kindOf) none f.kind
  file : Given (members.lookup "file") (readBy fileOf) none f.file
  options : f.options.reverse = others members

theorem gathered_of_foldMembers (hn : (Keyed.names members).Nodup) {f : Fields}
    (h : foldMembers Fields.take {} members = .ok f) : Gathered members f := by
  rw [take_eq_slots] at h
  have hpush : ∀ (f : Fields) m, (f.collect m).options = (fun ms m => m :: ms) f.options m :=
    fun _ _ => rfl
  have hothers : others members = members.filter fun m => (slots.lookup m.1).isNone := by
    apply List.filter_congr
    intro m _
    rw [Bool.eq_iff_iff, Option.isNone_iff_eq_none, Keyed.lookup_eq_none_iff]
    simp [slots, Keyed.names]
  refine ⟨?_, ?_, ?_⟩
  · exact given_of_foldMembers h hn rfl (fun _ _ => rfl) (by simp [slots, keeps_slot])
      fun _ _ => rfl
  · exact given_of_foldMembers h hn rfl (fun _ _ => rfl) (by simp [slots, keeps_slot])
      fun _ _ => rfl
  · have hfold : f.options = (members.filter fun m => (slots.lookup m.1).isNone).foldl
        (fun ms m => m :: ms) [] := foldl_of_foldMembers h (by simp [slots, keeps_slot]) hpush
    rw [hfold, hothers]
    simp

theorem kindOf_eq_ok {v : Value} {kind : String} : kindOf v = .ok (some kind) ↔ v = .text kind := by
  cases v <;> simp [kindOf, asText, wrongType, Except.map]

theorem given_kind {v? : Option Value} {kind : String} :
    Given v? (readBy kindOf) none (some kind) ↔ v? = some (.text kind) := by
  cases v? with
  | none => simp [Given]
  | some v =>
    rw [Option.some.injEq]
    exact kindOf_eq_ok

theorem readFrom_of_ofValue (hn : (Keyed.names members).Nodup)
    (h : ofValue (.object members) = .ok r) : ReadFrom members r := by
  rw [ofValue] at h
  cases hf : foldMembers Fields.take {} members with
  | error e => simp [hf, bind, Except.bind] at h
  | ok f =>
    obtain ⟨hkind, hfile, hoptions⟩ := gathered_of_foldMembers hn hf
    simp only [hf, bind, Except.bind, hoptions] at h
    cases hk : f.kind with
    | none => simp [hk, required] at h
    | some kind =>
      rw [hk] at hkind
      cases ho : optionsOf (others members) with
      | error e =>
        rw [optionsOf] at ho
        simp [hk, required, ho] at h
      | ok options =>
        rw [optionsOf] at ho
        simp only [hk, required, ho, pure, Except.pure, Except.ok.injEq] at h
        subst h
        exact ⟨given_kind.mp hkind, hfile, ho⟩

theorem ofValue_of_readFrom (hn : (Keyed.names members).Nodup) (h : ReadFrom members r) :
    ofValue (.object members) = .ok r := by
  have haccepts : ∀ p ∈ slots, Accepts members p.1 p.2 := by
    simp only [slots, List.forall_mem_cons]
    exact ⟨(given_kind.mpr h.kind).accepts, h.file.accepts, by simp⟩
  obtain ⟨f, hf⟩ := exists_foldMembers hn haccepts {}
  rw [← take_eq_slots] at hf
  obtain ⟨hkind, hfile, hoptions⟩ := gathered_of_foldMembers hn hf
  have hk : f.kind = some r.kind := hkind.unique_read (given_kind.mpr h.kind)
  have ho := h.options
  rw [optionsOf] at ho
  simp only [ofValue, hf, bind, Except.bind, hk, required, hoptions, ho, pure, Except.pure,
    hfile.unique_read h.file]

theorem ofValue_eq_ok (hn : (Keyed.names members).Nodup) :
    ofValue (.object members) = .ok r ↔ ReadFrom members r :=
  ⟨readFrom_of_ofValue hn, ofValue_of_readFrom hn⟩

end ReadFrom

end ReportConfig

namespace Config

structure ReadFrom (processors : Nat) (members : Members) (c : Config) : Prop where
  exclude : Given (members.lookup "exclude") (readBy asTexts) [] c.exclude
  mergeIssues : Given (members.lookup "merge-issues") (readBy asBool) true c.mergeIssues
  workers : Given (members.lookup "workers") (readBy asSize) (defaultWorkers processors)
    c.workers
  disabled : Given (members.lookup "disabled") (readBy asTexts) [] c.disabled
  noqa : Given (members.lookup "noqa") (readBy asBool) true c.noqa
  noqaExtensions :
    Given (members.lookup "noqa-extensions") (readBy asTexts) ["py", "pyi"] c.noqaExtensions
  respectGitignore :
    Given (members.lookup "respect-gitignore") (readBy asBool) false c.respectGitignore
  reports : Given (members.lookup "reports") (readBy asReports) [{ kind := "console" }] c.reports
  tools : Given (members.lookup "tools") (readBy asTools) [] c.tools

def slots : Slots Config :=
  [("exclude", slot asTexts fun c ss => { c with exclude := ss }),
   ("merge-issues", slot asBool fun c b => { c with mergeIssues := b }),
   ("workers", slot asSize fun c n => { c with workers := n }),
   ("disabled", slot asTexts fun c ss => { c with disabled := ss }),
   ("noqa", slot asBool fun c b => { c with noqa := b }),
   ("noqa-extensions", slot asTexts fun c ss => { c with noqaExtensions := ss }),
   ("respect-gitignore", slot asBool fun c b => { c with respectGitignore := b }),
   ("reports", slot asReports fun c reports => { c with reports }),
   ("tools", slot asTools fun c tools => { c with tools })]

theorem take_eq_slots : take = slots.take fun c _ => c := by
  funext c name v
  rw [take.eq_def]
  split
  any_goals rfl
  have hnone : slots.lookup name = none := by
    rw [Keyed.lookup_eq_none_iff]
    simp_all [Keyed.names, slots]
  rw [Slots.take, hnone]

section ReadFrom
variable {processors : Nat} {members : Members} {c other : Config}

theorem readFrom_of_ofValue (hn : (Keyed.names members).Nodup)
    (h : ofValue (.object members) processors = .ok c) : ReadFrom processors members c := by
  rw [ofValue, take_eq_slots] at h
  constructor <;>
    exact given_of_foldMembers h hn rfl (fun _ _ => rfl) (by simp [slots, keeps_slot])
      fun _ _ => rfl

theorem ReadFrom.unique (hc : ReadFrom processors members c)
    (ho : ReadFrom processors members other) : c = other := by
  cases c
  cases other
  simp only [Config.mk.injEq]
  exact ⟨hc.exclude.unique_read ho.exclude, hc.mergeIssues.unique_read ho.mergeIssues,
    hc.workers.unique_read ho.workers, hc.disabled.unique_read ho.disabled,
    hc.noqa.unique_read ho.noqa, hc.noqaExtensions.unique_read ho.noqaExtensions,
    hc.respectGitignore.unique_read ho.respectGitignore, hc.reports.unique_read ho.reports,
    hc.tools.unique_read ho.tools⟩

theorem ofValue_eq_ok (hn : (Keyed.names members).Nodup) :
    ofValue (.object members) processors = .ok c ↔ ReadFrom processors members c := by
  refine ⟨readFrom_of_ofValue hn, fun h => ?_⟩
  have haccepts : ∀ p ∈ slots, Accepts members p.1 p.2 := by
    simp only [slots, List.forall_mem_cons]
    exact ⟨h.exclude.accepts, h.mergeIssues.accepts, h.workers.accepts, h.disabled.accepts,
      h.noqa.accepts, h.noqaExtensions.accepts, h.respectGitignore.accepts, h.reports.accepts,
      h.tools.accepts, by simp⟩
  obtain ⟨other, hother⟩ := exists_foldMembers hn haccepts (defaults [] processors)
  rw [← take_eq_slots] at hother
  rw [h.unique (readFrom_of_ofValue hn hother)]
  exact hother

end ReadFrom

def isBlock (v : Value) (t? : Option ToolConfig) : Prop :=
  ∃ t, ToolConfig.ofValue v = .ok t ∧ t? = some t

structure BlocksFrom (members : Members) (tools : Keyed ToolConfig) : Prop where
  ascending : Keyed.Ascending tools
  blocks : ∀ name, Given (members.lookup name) isBlock none (tools.lookup name)

section BlocksFrom
variable {members : Members} {done tools others : Keyed ToolConfig}

theorem given_of_takeTools (hn : (Keyed.names members).Nodup) (hd : Keyed.Ascending done)
    (h : foldMembers takeTools done members = .ok tools) : Keyed.Ascending tools ∧
      ∀ name, Given (members.lookup name) isBlock (done.lookup name) (tools.lookup name) := by
  induction members generalizing done with
  | nil =>
    rw [foldMembers] at h
    obtain rfl := Except.ok.inj h
    exact ⟨hd, fun _ => rfl⟩
  | cons m rest ih =>
    obtain ⟨key, v⟩ := m
    obtain ⟨hkey, hrest⟩ := List.nodup_cons.mp hn
    obtain ⟨next, hstep, hfold⟩ := foldMembers_cons_eq_ok h
    obtain ⟨t, ht, rfl⟩ := bind_pure_eq_ok.mp hstep
    obtain ⟨ha, hg⟩ := ih hrest (Keyed.ascending_set hd) hfold
    refine ⟨ha, fun name => ?_⟩
    have hname := hg name
    by_cases he : name = key
    · subst he
      rw [Keyed.lookup_eq_none_iff.mpr hkey, Keyed.lookup_set_self] at hname
      rw [List.lookup_cons_self]
      exact ⟨t, ht, hname⟩
    · rw [Keyed.lookup_cons_of_ne he]
      rwa [Keyed.lookup_set_of_ne he] at hname

theorem exists_takeTools (h : ∀ m ∈ members, ∃ t, ToolConfig.ofValue m.2 = .ok t)
    (done : Keyed ToolConfig) : ∃ tools, foldMembers takeTools done members = .ok tools := by
  induction members generalizing done with
  | nil => exact ⟨done, by rw [foldMembers]⟩
  | cons m rest ih =>
    obtain ⟨key, v⟩ := m
    obtain ⟨⟨t, ht⟩, hrest⟩ := List.forall_mem_cons.mp h
    obtain ⟨tools, htools⟩ := ih hrest (Keyed.set key t done)
    have hstep : takeTools done key v = .ok (Keyed.set key t done) :=
      bind_pure_eq_ok.mpr ⟨t, ht, rfl⟩
    exact ⟨tools, by rw [foldMembers, hstep]; exact htools⟩

theorem BlocksFrom.unique (h : BlocksFrom members tools) (k : BlocksFrom members others) :
    tools = others := by
  apply h.ascending.ext k.ascending
  intro name
  apply (h.blocks name).unique _ (k.blocks name)
  rintro v ⟨t, ht, hsome⟩ ⟨u, hu, hsome'⟩
  rw [hsome, hsome', Except.ok.inj (ht.symm.trans hu)]

theorem blocksFrom_of_asTools (hn : (Keyed.names members).Nodup)
    (h : asTools (.object members) = .ok tools) : BlocksFrom members tools := by
  obtain ⟨ha, hg⟩ := given_of_takeTools hn List.Pairwise.nil h
  exact ⟨ha, hg⟩

theorem asTools_eq_ok (hn : (Keyed.names members).Nodup) :
    asTools (.object members) = .ok tools ↔ BlocksFrom members tools := by
  refine ⟨blocksFrom_of_asTools hn, fun h => ?_⟩
  have hblocks : ∀ m ∈ members, ∃ t, ToolConfig.ofValue m.2 = .ok t := by
    rintro ⟨name, v⟩ hm
    have hname := h.blocks name
    rw [(Keyed.lookup_eq_some_iff hn).mpr hm] at hname
    obtain ⟨t, ht, -⟩ := hname
    exact ⟨t, ht⟩
  obtain ⟨others, hothers⟩ := exists_takeTools hblocks []
  rw [h.unique (blocksFrom_of_asTools hn hothers)]
  exact hothers

end BlocksFrom

end Config

end MetaLint
