import Mathlib
import MetaLint.Proofs.ConfigRecord
import MetaLint.Proofs.Overlaying
import MetaLint.Proofs.ParsedValues
import MetaLint.Proofs.SchemaChecked
import MetaLint.Tool.Builtin

/-!
# What a document changes

A document that passes the schema determines a configuration field by field: what it mentions is as
it says, and the rest has its default. The options of a tool are merged over its default ones, and
whatever stands for an embedded value in them is then taken over.
-/

set_option autoImplicit false

namespace MetaLint

open Json

/-- The options that a merged value becomes: itself, unless something in it stands for an embedded
value. -/
structure ToolConfig.Taken (merged options : Value) : Prop where
  value : optionsOf merged = .ok options
  literal : merged.Plain → options = merged

/-- The block of a tool, given its default block and what a document holds for the tool. -/
structure ToolConfig.Loaded (base : ToolConfig) (block? : Option Value) (t : ToolConfig) :
    Prop where
  enabled : Given (block?.bind (Value.member? "use")) (fun v b => v = .bool b) base.enabled
    t.enabled
  filters : Given (block?.bind (Value.member? "filters")) (fun v ss => v = .ofTexts ss) base.filters
    t.filters
  disabled : Given (block?.bind (Value.member? "disabled")) (fun v ss => v = .ofTexts ss)
    base.disabled t.disabled
  options : ∃ merged, MergesAt (some base.options) (block?.bind (Value.member? "options"))
    (some merged) ∧ Taken merged t.options

/-- The report that an item of a document describes. -/
structure ReportConfig.Loaded (item : Value) (r : ReportConfig) : Prop where
  kind : item.member? "type" = some (.text r.kind)
  file : Given (item.member? "file") (fun v p? => ∃ s, v = .text s ∧ p? = some ⟨s⟩) none r.file
  options : ∃ members, item = .object members ∧ optionsOf (others members) = .ok r.options ∧
    ((∀ m ∈ others members, m.2.Plain) → r.options = others members)

namespace Config

/-- What a document holds for a tool. -/
def blockIn? (v : Value) (name : String) : Option Value :=
  (v.member? "tools").bind (Value.member? name)

/-- The configuration that a document with this value describes, over the default blocks and on a
machine with so many processors. -/
structure Loaded (processors : Nat) (blocks : Keyed ToolConfig) (v : Value) (c : Config) :
    Prop where
  exclude : Given (v.member? "exclude") (fun v ss => v = .ofTexts ss) [] c.exclude
  mergeIssues : Given (v.member? "merge-issues") (fun v b => v = .bool b) true c.mergeIssues
  workers : Given (v.member? "workers") (fun v n => v = .ofNat n ∧ n < UInt64.size)
    (max 1 (min (processors - 1) 4)) c.workers
  disabled : Given (v.member? "disabled") (fun v ss => v = .ofTexts ss) [] c.disabled
  noqa : Given (v.member? "noqa") (fun v b => v = .bool b) true c.noqa
  noqaExtensions : Given (v.member? "noqa-extensions") (fun v ss => v = .ofTexts ss) ["py", "pyi"]
    c.noqaExtensions
  respectGitignore : Given (v.member? "respect-gitignore") (fun v b => v = .bool b) false
    c.respectGitignore
  reports : Given (v.member? "reports")
    (fun v rs => ∃ items, v = .list items ∧ List.Forall₂ ReportConfig.Loaded items rs)
    [{ kind := "console" }] c.reports
  ascending : Keyed.Ascending c.tools
  names : ∀ name, name ∈ Keyed.names c.tools ↔
    name ∈ Keyed.names blocks ∨ (blockIn? v name).isSome
  tools : ∀ name t, c.tool? name = some t →
    ToolConfig.Loaded ((blocks.lookup name).getD {}) (blockIn? v name) t

end Config

section Fields
variable {α : Type} {b : Value} {o r : Option Value}

theorem given_merged {read : Value → Shaped α} {tells : Value → α → Prop} {default d a : α}
    (hb : ∀ members, b ≠ .object members) (h : MergesAt (some b) o r)
    (hread : ∀ v a, read v = .ok a ↔ tells v a) (hd : ∀ a, tells b a ↔ a = default) :
    Given r (readBy read) d a ↔ Given o tells default a := by
  rw [h.eq_getD hb]
  have hgiven : Given (some (o.getD b)) (readBy read) d a ↔ tells (o.getD b) a := hread _ a
  rw [hgiven]
  exact given_getD ((hd default).mpr rfl) fun a => (hd a).mp

theorem given_bool {default d a : Bool} (h : MergesAt (some (.bool default)) o r) :
    Given r (readBy asBool) d a ↔ Given o (fun v b => v = .bool b) default a :=
  given_merged (by simp) h (fun _ _ => asBool_eq_ok) (by simp [eq_comm])

theorem given_texts {default d a : List String} (h : MergesAt (some (.ofTexts default)) o r) :
    Given r (readBy asTexts) d a ↔ Given o (fun v ss => v = .ofTexts ss) default a :=
  given_merged (by simp [Value.ofTexts]) h (fun _ _ => asTexts_eq_ok)
    fun _ => Value.ofTexts_inj.trans eq_comm

end Fields

namespace ToolConfig

variable {base t : ToolConfig} {o : Option Value}

theorem taken_iff {merged options : Value} :
    Taken merged options ↔ optionsOf merged = .ok options := by
  refine ⟨fun h => h.value, fun h => ⟨h, fun hp => ?_⟩⟩
  rw [optionsOf, takenOver_of_plain _ hp] at h
  exact (Except.ok.inj h).symm

theorem exists_taken_iff {b merged options : Value} (h : MergesAt (some b) o (some merged)) :
    (∃ w, MergesAt (some b) o (some w) ∧ Taken w options) ↔ optionsOf merged = .ok options := by
  constructor
  · rintro ⟨w, hw, ht⟩
    rw [← Option.some.inj (hw.unique h)]
    exact ht.value
  · exact fun ht => ⟨merged, h, taken_iff.mpr ht⟩

def members (t : ToolConfig) : Members :=
  [("disabled", .ofTexts t.disabled), ("filters", .ofTexts t.filters), ("options", t.options),
   ("use", .bool t.enabled)]

theorem ascending_members (t : ToolConfig) : Keyed.Ascending t.members := by
  rw [Keyed.ascending_iff]
  show ["disabled", "filters", "options", "use"].Pairwise fun m n => compare m n = .lt
  decide

theorem wellFormed_toValue (h : t.options.WellFormed) : t.toValue.WellFormed := by
  refine Value.everywhere_object.mpr ⟨ascending_members t, ?_⟩
  simp only [List.forall_mem_cons]
  exact ⟨Value.wellFormed_ofTexts _, Value.wellFormed_ofTexts _, h, Value.wellFormed_bool _,
    by simp⟩

theorem readFrom_merged_iff {read : Members} (h : ∀ key,
      MergesAt (base.members.lookup key) (o.bind (Value.member? key)) (read.lookup key)) :
    ReadFrom read t ↔ Loaded base o t := by
  have hoptions : Given (read.lookup "options") (readBy optionsOf) .emptyObject t.options ↔
      ∃ merged, MergesAt (some base.options) (o.bind (Value.member? "options")) (some merged) ∧
        Taken merged t.options := by
    have hm : MergesAt (some base.options) (o.bind (Value.member? "options"))
      (read.lookup "options") := h "options"
    obtain ⟨merged, hread⟩ := Option.isSome_iff_exists.mp (hm.isSome_iff.mpr (.inl rfl))
    rw [hread] at hm ⊢
    exact (exists_taken_iff hm).symm
  constructor
  · rintro ⟨he, hf, hd, ho⟩
    exact ⟨(given_bool (h "use")).mp he, (given_texts (h "filters")).mp hf,
      (given_texts (h "disabled")).mp hd, hoptions.mp ho⟩
  · rintro ⟨he, hf, hd, ho⟩
    exact ⟨(given_bool (h "use")).mpr he, (given_texts (h "filters")).mpr hf,
      (given_texts (h "disabled")).mpr hd, hoptions.mpr ho⟩

/-- A block that is no object cannot be loaded; one that is loaded over the default block of the
tool. -/
theorem ofValue_merged_eq_ok {w : Value} (ho : ∀ v, o = some v → ∃ members, v = .object members)
    (h : MergesAt (some base.toValue) o (some w)) : ofValue w = .ok t ↔ Loaded base o t := by
  obtain ⟨read, hw, ha, hread⟩ := h.exists_object base.ascending_members ho
  rw [Option.some.inj hw, ofValue_eq_ok ha.nodup]
  exact readFrom_merged_iff hread

/-- The block of a tool without a default block is loaded over the block that says nothing. -/
theorem ofValue_new_eq_ok {v : Value} (hv : v.WellFormed)
    (ho : ∃ members, v = .object members) : ofValue v = .ok t ↔ Loaded {} (some v) t := by
  obtain ⟨members, rfl⟩ := ho
  rw [ofValue_eq_ok hv.ascending.nodup]
  have hoptions : Given (members.lookup "options") (readBy optionsOf) .emptyObject t.options ↔
      ∃ merged, MergesAt (some .emptyObject) (members.lookup "options") (some merged) ∧
        Taken merged t.options := by
    cases hm : members.lookup "options" with
    | none =>
      have hempty : optionsOf .emptyObject = .ok .emptyObject := rfl
      rw [exists_taken_iff (.kept _), hempty, Except.ok.injEq]
      exact eq_comm
    | some v =>
      have hmerged := merges_emptyObject (hv.lookup hm)
      exact (exists_taken_iff (.merged hmerged)).symm
  constructor
  · rintro ⟨he, hf, hd, ho⟩
    exact ⟨(given_congr fun _ _ => asBool_eq_ok).mp he,
      (given_congr fun _ _ => asTexts_eq_ok).mp hf,
      (given_congr fun _ _ => asTexts_eq_ok).mp hd, hoptions.mp ho⟩
  · rintro ⟨he, hf, hd, ho⟩
    exact ⟨(given_congr fun _ _ => asBool_eq_ok).mpr he,
      (given_congr fun _ _ => asTexts_eq_ok).mpr hf,
      (given_congr fun _ _ => asTexts_eq_ok).mpr hd, hoptions.mpr ho⟩

end ToolConfig

namespace ReportConfig

variable {item : Value} {r : ReportConfig}

theorem optionsOf_of_plain {members : Members} (h : ∀ m ∈ members, m.2.Plain) :
    optionsOf members = .ok members :=
  membersTakenOver_of_forall _ fun m hm => takenOver_of_plain _ (h m hm)

theorem ofValue_eq_ok_iff_loaded (hw : item.WellFormed) (hs : Config.reportSchema.Passes item) :
    ofValue item = .ok r ↔ Loaded item r := by
  obtain ⟨members, rfl⟩ := hs.exists_object
  have hfile : Given (members.lookup "file") (readBy fileOf) none r.file ↔
      Given (members.lookup "file") (fun v p? => ∃ s, v = .text s ∧ p? = some ⟨s⟩) none r.file := by
    refine given_congr fun v hv => ?_
    obtain ⟨s, rfl⟩ := Schema.passes_text.mp (hs.field rfl hv)
    simp [readBy, fileOf, Json.optional, asPathText, Except.map, eq_comm]
  rw [ofValue_eq_ok hw.ascending.nodup]
  constructor
  · rintro ⟨hk, hf, ho⟩
    exact ⟨hk, hfile.mp hf, members, rfl, ho, fun hp =>
      Except.ok.inj (ho.symm.trans (optionsOf_of_plain hp))⟩
  · rintro ⟨hk, hf, members', hmem, ho, -⟩
    obtain rfl := Value.object.inj hmem
    exact ⟨hk, hfile.mpr hf, ho⟩

end ReportConfig

namespace Config

variable {processors : Nat} {blocks tools : Keyed ToolConfig} {v : Value} {c : Config}

def members (c : Config) (tools : Value) : Members :=
  [("disabled", .ofTexts c.disabled), ("exclude", .ofTexts c.exclude),
    ("merge-issues", .bool c.mergeIssues), ("noqa", .bool c.noqa),
    ("noqa-extensions", .ofTexts c.noqaExtensions),
    ("reports", .list (c.reports.map ReportConfig.toValue)),
    ("respect-gitignore", .bool c.respectGitignore), ("tools", tools),
    ("workers", .ofNat c.workers)]

theorem ascending_members (c : Config) (tools : Value) : Keyed.Ascending (c.members tools) := by
  rw [Keyed.ascending_iff]
  show ["disabled", "exclude", "merge-issues", "noqa", "noqa-extensions", "reports",
    "respect-gitignore", "tools", "workers"].Pairwise fun m n => compare m n = .lt
  decide

section Passes
variable (hs : schema.Passes v)
include hs

theorem tools_of_passes {w : Value} (hw : v.member? "tools" = some w) :
    ∃ members, w = .object members := (hs.field rfl hw).exists_object

theorem passes_blockIn? {name : String} {w : Value} (hw : blockIn? v name = some w) :
    toolSchema.Passes w := by
  obtain ⟨held, hheld, hw⟩ := Option.bind_eq_some_iff.mp hw
  exact (hs.field rfl hheld).each rfl hw

theorem reports_of_passes {items : List Value} (hi : v.member? "reports" = some (.list items)) :
    ∀ item ∈ items, reportSchema.Passes item := by
  obtain ⟨_, hitems, hpass⟩ := Schema.passes_list.mp (hs.field rfl hi)
  rwa [Value.list.inj hitems]

theorem workers_of_passes {n : Nat} (hn : v.member? "workers" = some (.ofNat n)) : 1 ≤ n :=
  Schema.passes_count_ofNat.mp (hs.field rfl hn)

end Passes

theorem everywhere_blockIn? {P : Value → Prop} (hv : v.Everywhere P) {name : String} {w : Value}
    (hw : blockIn? v name = some w) : w.Everywhere P := by
  obtain ⟨held, hheld, hw⟩ := Option.bind_eq_some_iff.mp hw
  exact (hv.member hheld).member hw

section Blocks
variable {read : Members} (hv : v.WellFormed) (hs : schema.Passes v)
include hv hs

theorem ofValue_block_eq_ok {name : String} {w : Value} {t : ToolConfig}
    (h : MergesAt ((blocks.lookup name).map ToolConfig.toValue) (blockIn? v name) (some w)) :
    ToolConfig.ofValue w = .ok t ↔
      ToolConfig.Loaded ((blocks.lookup name).getD {}) (blockIn? v name) t := by
  cases hb : blocks.lookup name with
  | some base =>
    rw [hb] at h
    exact ToolConfig.ofValue_merged_eq_ok (fun _ ho => (passes_blockIn? hs ho).exists_object) h
  | none =>
    rw [hb, Option.map_none] at h
    cases ho : blockIn? v name with
    | none => rw [ho] at h; cases h
    | some o =>
      rw [ho] at h
      cases h
      exact ToolConfig.ofValue_new_eq_ok (everywhere_blockIn? hv ho)
        (passes_blockIn? hs ho).exists_object

/-- A tool has a block if it has a default one or the document has one for it. -/
theorem given_block_iff {name : String} {t? : Option ToolConfig}
    (h : MergesAt ((blocks.lookup name).map ToolConfig.toValue) (blockIn? v name)
      (read.lookup name)) : Given (read.lookup name) isBlock none t? ↔
      (t?.isSome ↔ name ∈ Keyed.names blocks ∨ (blockIn? v name).isSome) ∧
      ∀ t, t? = some t →
        ToolConfig.Loaded ((blocks.lookup name).getD {}) (blockIn? v name) t := by
  have hsome : (read.lookup name).isSome ↔
      name ∈ Keyed.names blocks ∨ (blockIn? v name).isSome := by
    rw [h.isSome_iff, Option.isSome_map, Keyed.lookup_isSome_iff]
  rw [← hsome]
  cases hr : read.lookup name with
  | none =>
    show t? = none ↔ _
    cases t? <;> simp
  | some w =>
    rw [hr] at h
    have hload : ∀ t, ToolConfig.ofValue w = .ok t ↔ _ := fun t => ofValue_block_eq_ok hv hs h
    show (∃ t, ToolConfig.ofValue w = .ok t ∧ t? = some t) ↔ _
    cases t? <;> simp [hload]

theorem blocksFrom_merged_iff (h : ∀ name, MergesAt ((blocks.lookup name).map ToolConfig.toValue)
      (blockIn? v name) (read.lookup name)) :
    BlocksFrom read tools ↔ Keyed.Ascending tools ∧
      (∀ name, name ∈ Keyed.names tools ↔
        name ∈ Keyed.names blocks ∨ (blockIn? v name).isSome) ∧
      ∀ name t, tools.lookup name = some t →
        ToolConfig.Loaded ((blocks.lookup name).getD {}) (blockIn? v name) t := by
  simp only [← Keyed.lookup_isSome_iff (k := tools)]
  constructor
  · rintro ⟨ha, hg⟩
    have hblock := fun name => (given_block_iff hv hs (h name)).mp (hg name)
    exact ⟨ha, fun name => (hblock name).1, fun name => (hblock name).2⟩
  · rintro ⟨ha, hn, hl⟩
    exact ⟨ha, fun name => (given_block_iff hv hs (h name)).mpr ⟨hn name, hl name⟩⟩

end Blocks

theorem asReports_eq_ok {w : Value} {rs : List ReportConfig} (hv : v.WellFormed)
    (hs : schema.Passes v) (hw : v.member? "reports" = some w) :
    asReports w = .ok rs ↔
      ∃ items, w = .list items ∧ List.Forall₂ ReportConfig.Loaded items rs := by
  rw [asReports, asList_eq_ok]
  refine exists_congr fun items => and_congr_right fun hi => ?_
  subst hi
  have hwell := (Value.everywhere_list.mp (hv.member hw)).2
  have hpass := reports_of_passes hs hw
  have hiff : ∀ item ∈ items, ∀ r, readBy ReportConfig.ofValue item r ↔
      ReportConfig.Loaded item r := fun item hitem _ =>
    ReportConfig.ofValue_eq_ok_iff_loaded (hwell item hitem) (hpass item hitem)
  constructor
  · exact fun h => ((List.forall₂_and_left _ _).mpr ⟨hiff, h⟩).imp fun _ r ⟨hr, h⟩ => (hr r).mp h
  · exact fun h => ((List.forall₂_and_left _ _).mpr ⟨hiff, h⟩).imp fun _ r ⟨hr, h⟩ => (hr r).mpr h

section Given
variable {read? : Option Value}

theorem given_workers_iff {n : Nat} (h : MergesAt (some (.ofNat (defaultWorkers processors)))
      (v.member? "workers") read?) : Given read? (readBy asSize) (defaultWorkers processors) n ↔
      Given (v.member? "workers") (fun v n => v = .ofNat n ∧ n < UInt64.size)
        (max 1 (min (processors - 1) 4)) n := by
  refine given_merged (by simp [Value.ofNat]) h (fun _ _ => asSize_eq_ok) fun n => ?_
  simp only [defaultWorkers, Value.ofNat, Value.number.injEq, Number.int.injEq, UInt64.size]
  omega

theorem given_reports_iff {rs : List ReportConfig} (hv : v.WellFormed) (hs : schema.Passes v)
    (h : MergesAt (some (.list ((defaults blocks processors).reports.map ReportConfig.toValue)))
      (v.member? "reports") read?) :
    Given read? (readBy asReports) [{ kind := "console" }] rs ↔
      Given (v.member? "reports") (fun v rs => ∃ items, v = .list items ∧
        List.Forall₂ ReportConfig.Loaded items rs) [{ kind := "console" }] rs := by
  have hdefault : asReports (.list ((defaults blocks processors).reports.map
      ReportConfig.toValue)) = .ok [{ kind := "console" }] := rfl
  refine (given_merged (by simp) h (fun _ _ => Iff.rfl) fun rs => ?_).trans
    (given_congr fun w hw => asReports_eq_ok hv hs hw)
  rw [hdefault, Except.ok.injEq, eq_comm]

theorem given_tools_iff (hb : Keyed.Ascending blocks) (hv : v.WellFormed) (hs : schema.Passes v)
    (h : MergesAt (some (toolsValue blocks)) (v.member? "tools") read?) :
    Given read? (readBy asTools) [] tools ↔ Keyed.Ascending tools ∧
      (∀ name, name ∈ Keyed.names tools ↔
        name ∈ Keyed.names blocks ∨ (blockIn? v name).isSome) ∧
      ∀ name t, tools.lookup name = some t →
        ToolConfig.Loaded ((blocks.lookup name).getD {}) (blockIn? v name) t := by
  obtain ⟨held, rfl, ha, hheld⟩ :=
    h.exists_object (hb.mapValues _) fun _ => tools_of_passes hs
  refine (asTools_eq_ok ha.nodup).trans (blocksFrom_merged_iff hv hs fun name => ?_)
  have hname := hheld name
  rwa [Keyed.lookup_mapValues] at hname

end Given

theorem readFrom_merged_iff {read : Members} (hb : Keyed.Ascending blocks) (hv : v.WellFormed)
    (hs : schema.Passes v)
    (h : ∀ key, MergesAt (((defaults blocks processors).members (toolsValue blocks)).lookup key)
      (v.member? key) (read.lookup key)) : ReadFrom processors read c ↔
      Loaded processors blocks v c := by
  have hworkers : Given _ _ _ c.workers ↔ _ := given_workers_iff (h "workers")
  have hreports : Given _ _ _ c.reports ↔ _ := given_reports_iff hv hs (h "reports")
  have htools : Given _ _ _ c.tools ↔ _ := given_tools_iff hb hv hs (h "tools")
  constructor
  · rintro ⟨he, hm, hw, hd, hn, hx, hg, hr, ht⟩
    obtain ⟨ha, hnames, hloaded⟩ := htools.mp ht
    exact ⟨(given_texts (h "exclude")).mp he, (given_bool (h "merge-issues")).mp hm, hworkers.mp hw,
      (given_texts (h "disabled")).mp hd, (given_bool (h "noqa")).mp hn,
      (given_texts (h "noqa-extensions")).mp hx, (given_bool (h "respect-gitignore")).mp hg,
      hreports.mp hr, ha, hnames, hloaded⟩
  · rintro ⟨he, hm, hw, hd, hn, hx, hg, hr, ha, hnames, hloaded⟩
    exact ⟨(given_texts (h "exclude")).mpr he, (given_bool (h "merge-issues")).mpr hm,
      hworkers.mpr hw, (given_texts (h "disabled")).mpr hd, (given_bool (h "noqa")).mpr hn,
      (given_texts (h "noqa-extensions")).mpr hx, (given_bool (h "respect-gitignore")).mpr hg,
      hreports.mpr hr, htools.mpr ⟨ha, hnames, hloaded⟩⟩

theorem check_eq_ok : c.check = .ok () ↔ c.workers ≠ 0 := by
  rw [check]
  split <;> simp_all

theorem map_check_eq_ok {d : Config} :
    (d.check.map fun _ => d) = .ok c ↔ d = c ∧ c.check = .ok () := by
  constructor
  · intro h
    cases hd : d.check with
    | error e => rw [hd] at h; contradiction
    | ok u =>
      rw [hd] at h
      obtain rfl := Except.ok.inj h
      exact ⟨rfl, hd⟩
  · rintro ⟨rfl, hd⟩
    rw [hd]
    rfl

/-- A value has to pass the schema, and what is read from it has to pass the last check. -/
theorem ofOverrides_eq_ok_iff_stages : ofOverrides blocks v processors = .ok c ↔
    schema.Passes v ∧
      ofValue ((defaults blocks processors).toValue.mergeOver v) processors = .ok c ∧
      c.check = .ok () := by
  rw [ofOverrides, Schema.Passes]
  cases schema.check v with
  | error e => simp
  | ok u =>
    cases ofValue ((defaults blocks processors).toValue.mergeOver v) processors with
    | error e => simp
    | ok d =>
      simp only [true_and, Except.ok.injEq]
      exact map_check_eq_ok

theorem Loaded.workers_pos (h : Loaded processors blocks v c) (hs : schema.Passes v) :
    c.workers ≠ 0 := by
  have hw := h.workers
  cases hn : v.member? "workers" with
  | none =>
    rw [hn] at hw
    have hdefault : c.workers = max 1 (min (processors - 1) 4) := hw
    omega
  | some w =>
    rw [hn] at hw
    obtain ⟨rfl, -⟩ := hw
    exact Nat.ne_of_gt (workers_of_passes hs hn)

theorem wellFormed_members {tools : Value} (ht : tools.WellFormed) :
    (Value.object ((defaults blocks processors).members tools)).WellFormed := by
  have hreports : (Value.list [ReportConfig.toValue { kind := "console" }]).WellFormed := by
    refine Value.wellFormed_list fun v hv => ?_
    obtain rfl := List.mem_singleton.mp hv
    exact Value.wellFormed_ofMembers (by simp [ReportConfig.fileMember, Value.wellFormed_text])
  refine Value.everywhere_object.mpr ⟨ascending_members _ _, ?_⟩
  simp only [members, defaults, List.forall_mem_cons, List.map_cons, List.map_nil]
  exact ⟨Value.wellFormed_ofTexts _, Value.wellFormed_ofTexts _, Value.wellFormed_bool _,
    Value.wellFormed_bool _, Value.wellFormed_ofTexts _, hreports, Value.wellFormed_bool _, ht,
    Value.wellFormed_ofNat (by rw [defaultWorkers, UInt64.size]; omega), by simp⟩

section Blocks
variable (hb : Keyed.Ascending blocks)
  (hw : ∀ name t, blocks.lookup name = some t → t.options.WellFormed)
include hb hw

theorem wellFormed_defaults : (defaults blocks processors).toValue.WellFormed := by
  apply wellFormed_members
  refine Value.everywhere_object.mpr ⟨hb.mapValues _, fun m hm => ?_⟩
  obtain ⟨⟨name, t⟩, ht, rfl⟩ := List.mem_map.mp hm
  exact ToolConfig.wellFormed_toValue (hw name t ((Keyed.lookup_eq_some_iff hb.nodup).mpr ht))

theorem exists_settings (hv : v.WellFormed) (hs : schema.Passes v) :
    ∃ settings, (defaults blocks processors).toValue.mergeOver v = .object settings ∧
      Keyed.Ascending settings ∧ ∀ key, MergesAt
        (((defaults blocks processors).members (toolsValue blocks)).lookup key) (v.member? key)
        (settings.lookup key) := by
  obtain ⟨settings, hm, ha, hread⟩ :=
    (MergesAt.merged (merges_mergeOver (wellFormed_defaults hb hw) hv)).exists_object
      (ascending_members _ _) (fun _ h => Option.some.inj h ▸ hs.exists_object)
  exact ⟨settings, Option.some.inj hm, ha, hread⟩

theorem ofOverrides_eq_ok (hv : v.WellFormed) :
    ofOverrides blocks v processors = .ok c ↔
      schema.Passes v ∧ Loaded processors blocks v c := by
  rw [ofOverrides_eq_ok_iff_stages]
  refine and_congr_right fun hs => ?_
  obtain ⟨settings, hm, ha, hread⟩ := exists_settings hb hw hv hs
  rw [hm, ofValue_eq_ok ha.nodup, readFrom_merged_iff hb hv hs hread]
  exact and_iff_left_of_imp fun hl => check_eq_ok.mpr (hl.workers_pos hs)

theorem ofDocument_eq_ok {text : String} : ofDocument blocks text processors = .ok c ↔
    ∃ v, documentValue text = .ok v ∧ schema.Passes v ∧ Loaded processors blocks v c := by
  rw [ofDocument]
  cases hd : documentValue text with
  | error e => simp [bind, Except.bind]
  | ok v =>
    simp only [bind, Except.bind, Except.ok.injEq, exists_eq_left']
    exact ofOverrides_eq_ok hb hw (wellFormed_documentValue hd)

end Blocks

def settingKeys : List String :=
  ["exclude", "merge-issues", "workers", "disabled", "noqa", "noqa-extensions",
   "respect-gitignore", "reports"]

def blockKeys : List String := ["use", "filters", "disabled", "options"]

/-- Two documents have the same under each of these keys, and blocks for the same tools. -/
structure SameSettings (v w : Value) : Prop where
  settings : ∀ key ∈ settingKeys, v.member? key = w.member? key
  named : ∀ name, (blockIn? v name).isSome = (blockIn? w name).isSome
  blocks : ∀ name, ∀ key ∈ blockKeys,
    (blockIn? v name).bind (Value.member? key) = (blockIn? w name).bind (Value.member? key)

theorem Loaded.of_same {w : Value} (h : SameSettings v w) (hl : Loaded processors blocks v c) :
    Loaded processors blocks w c := by
  have hs := h.settings
  simp only [settingKeys, List.forall_mem_cons] at hs
  obtain ⟨he, hm, hw, hd, hn, hx, hg, hr, -⟩ := hs
  refine ⟨he ▸ hl.exclude, hm ▸ hl.mergeIssues, hw ▸ hl.workers, hd ▸ hl.disabled, hn ▸ hl.noqa,
    hx ▸ hl.noqaExtensions, hg ▸ hl.respectGitignore, hr ▸ hl.reports, hl.ascending,
    fun name => h.named name ▸ hl.names name, fun name t ht => ?_⟩
  have hb := h.blocks name
  simp only [blockKeys, List.forall_mem_cons] at hb
  obtain ⟨hu, hf, hdis, ho, -⟩ := hb
  obtain ⟨hu', hf', hdis', ho'⟩ := hl.tools name t ht
  exact ⟨hu ▸ hu', hf ▸ hf', hdis ▸ hdis', ho ▸ ho'⟩

theorem lookup_blocks {tools : List Tool} {name : String} {t : ToolConfig}
    (h : (ToolRegistry.ofList tools).blocks.lookup name = some t) :
    ∃ tool ∈ tools, t = tool.defaults := by
  rw [ToolRegistry.blocks, Keyed.lookup_mapValues, Option.map_eq_some_iff] at h
  obtain ⟨tool, htool, rfl⟩ := h
  refine ⟨tool, ?_, rfl⟩
  rw [ToolRegistry.ofList_eq] at htool
  obtain ⟨_, hmem, he⟩ := List.mem_map.mp (Keyed.mem_ofList (Keyed.mem_of_lookup htool))
  rwa [← (Prod.mk.inj he).2]

theorem wellFormed_blocks {tools : List Tool}
    (hw : ∀ tool ∈ tools, tool.defaults.options.WellFormed) {name : String} {t : ToolConfig}
    (h : (ToolRegistry.ofList tools).blocks.lookup name = some t) : t.options.WellFormed := by
  obtain ⟨tool, htool, rfl⟩ := lookup_blocks h
  exact hw tool htool

theorem ascending_blocks (tools : List Tool) :
    Keyed.Ascending (ToolRegistry.ofList tools).blocks :=
  (ToolRegistry.sound_ofList tools).ascending.mapValues _

/-- A document is loaded just when its value passes the schema, and to the configuration that the
value describes: what it says of a setting or of a tool is as it says, and the rest is as it is by
default. Nothing else in the document has any influence. -/
theorem describes_ofDocument (tools : List Tool)
    (hw : ∀ tool ∈ tools, tool.defaults.options.WellFormed) (processors : Nat) (text : String)
    (c : Config) :
    (ofDocument (ToolRegistry.ofList tools).blocks text processors = .ok c ↔
      ∃ v, documentValue text = .ok v ∧ schema.Passes v ∧
        Loaded processors (ToolRegistry.ofList tools).blocks v c) ∧
    ∀ v other w, documentValue text = .ok v → documentValue other = .ok w → schema.Passes w →
      SameSettings v w → ofDocument (ToolRegistry.ofList tools).blocks text processors = .ok c →
        ofDocument (ToolRegistry.ofList tools).blocks other processors = .ok c := by
  have hblocks : ∀ name t, (ToolRegistry.ofList tools).blocks.lookup name = some t →
      t.options.WellFormed := by
    intro name t ht
    obtain ⟨tool, htool, rfl⟩ := lookup_blocks ht
    exact hw tool htool
  have hiff : ∀ text, ofDocument (ToolRegistry.ofList tools).blocks text processors = .ok c ↔
      ∃ v, documentValue text = .ok v ∧ schema.Passes v ∧
        Loaded processors (ToolRegistry.ofList tools).blocks v c :=
    fun _ => ofDocument_eq_ok (ascending_blocks tools) hblocks
  refine ⟨hiff text, fun v other w hv hother hs hsame hc => ?_⟩
  obtain ⟨v', hv', -, hl⟩ := (hiff text).mp hc
  obtain rfl := Except.ok.inj (hv.symm.trans hv')
  exact (hiff other).mpr ⟨w, hother, hs, hl.of_same hsame⟩

def shortText : String :=
  "\x7b \"noqa\": false, \"tools\": \x7b" ++
    "\"whitespace\": \x7b \"options\": \x7b \"a\": 1 \x7d \x7d, \"x\": \x7b\x7d \x7d \x7d"

def shortConfig : Config :=
  { workers := 3, noqa := false,
    tools := [("whitespace", { Tool.whitespace.defaults with
      options := .object [("a", .ofNat 1), ("max-line-length", .ofNat 100)] }), ("x", {})] }

def shortValue : Value :=
  .object [("noqa", .bool false),
    ("tools", .object [("whitespace", .object [("options", .object [("a", .ofNat 1)])]),
      ("x", .object [])])]

theorem documentValue_short : documentValue shortText = .ok shortValue := by
  cbv

theorem ofDocument_short :
    ofDocument (ToolRegistry.ofList [.whitespace]).blocks shortText 4 = .ok shortConfig := by
  rw [ofDocument, documentValue_short]
  cbv

theorem wellFormed_whitespace : Tool.whitespace.defaults.options.WellFormed := by
  refine Value.everywhere_object.mpr ⟨List.pairwise_singleton _ _, ?_⟩
  simp only [List.forall_mem_cons]
  exact ⟨Value.wellFormed_ofNat (by decide), by simp⟩

theorem describes_ofDocument_short :
    (∀ tool ∈ [Tool.whitespace], tool.defaults.options.WellFormed) ∧
    ∃ v, documentValue shortText = .ok v ∧ schema.Passes v ∧
      Loaded 4 (ToolRegistry.ofList [.whitespace]).blocks v shortConfig := by
  have hw : ∀ tool ∈ [Tool.whitespace], tool.defaults.options.WellFormed := by
    simp [wellFormed_whitespace]
  exact ⟨hw, (describes_ofDocument [.whitespace] hw 4 shortText shortConfig).1.mp ofDocument_short⟩

def embeddingText : String :=
  "\x7b \"tools\": \x7b \"x\": \x7b \"options\": \x7b" ++
    "\"$serde_json::private::RawValue\": \"1\"" ++ "\x7d \x7d \x7d \x7d"

def embeddedConfig : Config := { tools := [("x", { options := .ofNat 1 })] }

theorem ofDocument_embedding :
    ofDocument (ToolRegistry.ofList []).blocks embeddingText = .ok embeddedConfig := by
  cbv

/-- Options that stand for an embedded value are not what the document's options are merged into. -/
theorem not_merged_embedding : ∃ v c t merged, documentValue embeddingText = .ok v ∧
    ofDocument (ToolRegistry.ofList []).blocks embeddingText = .ok c ∧ c.tool? "x" = some t ∧
    MergesAt (some .emptyObject) ((blockIn? v "x").bind (Value.member? "options"))
      (some merged) ∧ t.options ≠ merged := by
  let options : Value := .object [(embeddingKey, .text "1")]
  let v : Value := .object [("tools", .object [("x", .object [("options", options)])])]
  have hoptions : options.WellFormed := by
    refine Value.everywhere_object.mpr ⟨List.pairwise_singleton _ _, fun m hm => ?_⟩
    obtain rfl := List.mem_singleton.mp hm
    exact Value.wellFormed_text "1"
  refine ⟨v, embeddedConfig, { options := .ofNat 1 }, options, by cbv, ofDocument_embedding, rfl,
    .merged (merges_emptyObject hoptions), ?_⟩
  simp [options, Value.ofNat]

end Config

end MetaLint
