import Mathlib
import MetaLint.Proofs.Loading

/-!
# What passes the schema and is not loaded

A document is checked twice: its value against the schema, and then what is merged over the defaults
against the types of a configuration. The second check asks for more in two places only. The number
of workers may not be written as a fraction, although a whole fraction is an integer for the schema,
and a value that is embedded in options has to be one that can be taken over. The last check of all
refuses nothing that the schema lets pass.
-/

set_option autoImplicit false

namespace MetaLint

open Json

section Existence
variable {α β : Type}

theorem exists_given {tells : Value → α → Prop} {v? : Option Value} (default : α)
    (h : ∀ v, v? = some v → ∃ a, tells v a) : ∃ a, Given v? tells default a := by
  cases v? with
  | none => exact ⟨default, rfl⟩
  | some v => exact h v rfl

theorem exists_forall₂_iff {R : α → β → Prop} {as : List α} :
    (∃ bs, List.Forall₂ R as bs) ↔ ∀ a ∈ as, ∃ b, R a b := by
  constructor
  · rintro ⟨bs, h⟩
    induction h with
    | nil => simp
    | cons hb _ ih => exact List.forall_mem_cons.mpr ⟨⟨_, hb⟩, ih⟩
  · intro h
    induction as with
    | nil => exact ⟨[], .nil⟩
    | cons a as ih =>
      obtain ⟨⟨b, hb⟩, hrest⟩ := List.forall_mem_cons.mp h
      obtain ⟨bs, hbs⟩ := ih hrest
      exact ⟨b :: bs, .cons hb hbs⟩

theorem exists_merged {b : Value} {o : Option Value} (hb : b.WellFormed)
    (ho : ∀ v, o = some v → v.WellFormed) : ∃ merged, MergesAt (some b) o (some merged) := by
  cases o with
  | none => exact ⟨b, .kept b⟩
  | some v => exact ⟨_, .merged (merges_mergeOver hb (ho v rfl))⟩

end Existence

namespace Json.Schema

variable {v : Value}

theorem exists_ofTexts (h : (list text).Passes v) : ∃ ss, v = .ofTexts ss := by
  obtain ⟨vs, rfl, hvs⟩ := passes_list.mp h
  obtain ⟨ss, hss⟩ := exists_forall₂_iff.mpr fun w hw => passes_text.mp (hvs w hw)
  have heq : List.Forall₂ Eq vs (ss.map .text) := (List.forall₂_map_right_iff).mpr hss
  exact ⟨ss, congrArg Value.list (List.forall₂_eq_eq_eq ▸ heq)⟩

theorem exists_ofNat {least : Nat} (hw : v.WellFormed) (h : (count least).Passes v)
    (hf : ∀ bits, v ≠ .number (.fraction bits)) : ∃ n, v = .ofNat n ∧ n < UInt64.size := by
  cases v with
  | number n =>
    cases n with
    | int i =>
      obtain ⟨-, hmax⟩ : Value.InRange i := hw.here
      have hleast : (least : Int) ≤ i := by
        simpa [Passes, check, Number.isWhole, Number.isBelow, breach] using h
      refine ⟨i.toNat, ?_, by rw [UInt64.size]; omega⟩
      rw [Value.ofNat, Int.toNat_of_nonneg (by omega)]
    | fraction bits => exact absurd rfl (hf bits)
  | _ => simp [Passes, check, breach] at h

end Json.Schema

theorem ToolConfig.exists_loaded {base : ToolConfig} {block? : Option Value}
    (hbase : base.options.WellFormed) (hwell : ∀ v, block? = some v → v.WellFormed)
    (hs : ∀ v, block? = some v → Config.toolSchema.Passes v)
    (ho : ∀ merged, MergesAt (some base.options) (block?.bind (Value.member? "options"))
      (some merged) → ∃ options, optionsOf merged = .ok options) :
    ∃ t, Loaded base block? t := by
  have hfield : ∀ key w s, block?.bind (Value.member? key) = some w →
      [("disabled", Config.texts), ("filters", Config.texts), ("options", .object),
        ("use", .bool)].lookup key = some s → s.Passes w := by
    intro key w s hw hlookup
    obtain ⟨v, hv, hmember⟩ := Option.bind_eq_some_iff.mp hw
    exact (hs v hv).field hlookup hmember
  obtain ⟨enabled, he⟩ := exists_given base.enabled fun w hw =>
    Schema.passes_bool.mp (hfield "use" w _ hw rfl)
  obtain ⟨filters, hf⟩ := exists_given base.filters fun w hw =>
    Schema.exists_ofTexts (hfield "filters" w _ hw rfl)
  obtain ⟨disabled, hd⟩ := exists_given base.disabled fun w hw =>
    Schema.exists_ofTexts (hfield "disabled" w _ hw rfl)
  have hoverlay : ∀ w, block?.bind (Value.member? "options") = some w → w.WellFormed := by
    intro w hw
    obtain ⟨v, hv, hmember⟩ := Option.bind_eq_some_iff.mp hw
    exact (hwell v hv).member hmember
  obtain ⟨merged, hm⟩ := exists_merged hbase hoverlay
  obtain ⟨options, hoptions⟩ := ho merged hm
  exact ⟨⟨enabled, filters, disabled, options⟩, he, hf, hd, merged, hm, taken_iff.mpr hoptions⟩

theorem ReportConfig.exists_loaded {item : Value}
    (hs : Config.reportSchema.Passes item)
    (ho : ∀ members, item = .object members → ∃ options, optionsOf (others members) = .ok options) :
    ∃ r, Loaded item r := by
  obtain ⟨members, rfl, hrequired, -⟩ := Schema.passes_record.mp hs
  obtain ⟨w, hkind⟩ := Option.isSome_iff_exists.mp
    (Keyed.lookup_isSome_iff.mpr (hrequired "type" (List.mem_singleton_self _)))
  obtain ⟨kind, rfl⟩ := Schema.passes_text.mp (hs.field rfl hkind)
  obtain ⟨file, hfile⟩ : ∃ file : Option Path, Given ((Value.object members).member? "file")
      (fun v p? => ∃ s, v = .text s ∧ p? = some ⟨s⟩) none file := by
    refine exists_given none fun w hw => ?_
    obtain ⟨s, rfl⟩ := Schema.passes_text.mp (hs.field rfl hw)
    exact ⟨_, s, rfl, rfl⟩
  obtain ⟨options, hoptions⟩ := ho members rfl
  exact ⟨⟨kind, file, options⟩, hkind, hfile, members, rfl, hoptions, fun hp =>
    Except.ok.inj (hoptions.symm.trans (optionsOf_of_plain hp))⟩

namespace Config

variable {processors : Nat} {blocks : Keyed ToolConfig} {v : Value} {c : Config}

/-- What the types of a configuration ask of a value that passes the schema. -/
structure Loadable (blocks : Keyed ToolConfig) (v : Value) : Prop where
  workers : ∀ bits, v.member? "workers" ≠ some (.number (.fraction bits))
  tools : ∀ name, name ∈ Keyed.names blocks ∨ (blockIn? v name).isSome → ∀ merged,
    MergesAt (some ((blocks.lookup name).getD {}).options)
      ((blockIn? v name).bind (Value.member? "options")) (some merged) →
    ∃ options, ToolConfig.optionsOf merged = .ok options
  reports : ∀ items, v.member? "reports" = some (.list items) → ∀ members, .object members ∈ items →
    ∃ options, ReportConfig.optionsOf (ReportConfig.others members) = .ok options

theorem Loaded.loadable (h : Loaded processors blocks v c) : Loadable blocks v where
  workers bits hb := by
    have hw := h.workers
    rw [hb] at hw
    obtain ⟨hn, -⟩ := hw
    rw [Value.ofNat, Value.number.injEq] at hn
    contradiction
  tools name hname merged hm := by
    obtain ⟨t, ht⟩ := Option.isSome_iff_exists.mp
      (Keyed.lookup_isSome_iff.mpr ((h.names name).mpr hname))
    obtain ⟨-, -, -, w, hw, htaken⟩ := h.tools name t ht
    rw [← Option.some.inj (hw.unique hm)]
    exact ⟨t.options, htaken.value⟩
  reports items hi members hmem := by
    have hr := h.reports
    rw [hi] at hr
    obtain ⟨items', he, hall⟩ := hr
    obtain rfl := Value.list.inj he
    obtain ⟨r, hloaded⟩ := exists_forall₂_iff.mp ⟨_, hall⟩ _ hmem
    obtain ⟨members', hobject, hoptions, -⟩ := hloaded.options
    obtain rfl := Value.object.inj hobject
    exact ⟨r.options, hoptions⟩

section Loads
variable (hb : Keyed.Ascending blocks)
  (hw : ∀ name t, blocks.lookup name = some t → t.options.WellFormed)
  (hv : v.WellFormed) (hs : schema.Passes v)
include hb hw hv hs

theorem Loadable.exists_tools (h : Loadable blocks v) : ∃ tools, Keyed.Ascending tools ∧
    (∀ name, name ∈ Keyed.names tools ↔ name ∈ Keyed.names blocks ∨ (blockIn? v name).isSome) ∧
    ∀ name t, tools.lookup name = some t →
      ToolConfig.Loaded ((blocks.lookup name).getD {}) (blockIn? v name) t := by
  obtain ⟨settings, -, -, hread⟩ := @exists_settings 1 _ _ hb hw hv hs
  have hmerged : MergesAt (some (toolsValue blocks)) (v.member? "tools")
    (settings.lookup "tools") := hread "tools"
  obtain ⟨held, -, ha, hheld⟩ :=
    hmerged.exists_object (hb.mapValues _) fun _ => tools_of_passes hs
  have hblock : ∀ name, MergesAt ((blocks.lookup name).map ToolConfig.toValue) (blockIn? v name)
      (held.lookup name) := by
    intro name
    have hname := hheld name
    rwa [Keyed.lookup_mapValues] at hname
  have hloaded : ∀ m ∈ held, ∃ t, ToolConfig.ofValue m.2 = .ok t := by
    rintro ⟨name, w⟩ hm
    have hlookup := (Keyed.lookup_eq_some_iff ha.nodup).mpr hm
    have hname := hblock name
    rw [hlookup] at hname
    have hnamed : name ∈ Keyed.names blocks ∨ (blockIn? v name).isSome := by
      rw [← Keyed.lookup_isSome_iff, ← Option.isSome_map (f := ToolConfig.toValue)]
      exact hname.isSome_iff.mp rfl
    have hbase : ((blocks.lookup name).getD {}).options.WellFormed := by
      cases hl : blocks.lookup name with
      | none => exact Value.everywhere_object.mpr ⟨List.Pairwise.nil, by simp⟩
      | some base => exact hw name base hl
    obtain ⟨t, ht⟩ := ToolConfig.exists_loaded hbase (fun _ => everywhere_blockIn? hv)
      (fun _ => passes_blockIn? hs) (h.tools name hnamed)
    exact ⟨t, (ofValue_block_eq_ok hv hs hname).mpr ht⟩
  obtain ⟨tools, htools⟩ := exists_takeTools hloaded []
  exact ⟨tools, (blocksFrom_merged_iff hv hs hblock).mp (blocksFrom_of_asTools ha.nodup htools)⟩

theorem Loadable.exists_loaded (h : Loadable blocks v) : ∃ c, Loaded processors blocks v c := by
  obtain ⟨exclude, he⟩ := exists_given [] fun w (hm : v.member? "exclude" = some w) =>
    Schema.exists_ofTexts (hs.field rfl hm)
  obtain ⟨mergeIssues, hmi⟩ := exists_given true fun w (hm : v.member? "merge-issues" = some w) =>
    Schema.passes_bool.mp (hs.field rfl hm)
  obtain ⟨disabled, hd⟩ := exists_given [] fun w (hm : v.member? "disabled" = some w) =>
    Schema.exists_ofTexts (hs.field rfl hm)
  obtain ⟨noqa, hn⟩ := exists_given true fun w (hm : v.member? "noqa" = some w) =>
    Schema.passes_bool.mp (hs.field rfl hm)
  obtain ⟨extensions, hx⟩ := exists_given ["py", "pyi"]
    fun w (hm : v.member? "noqa-extensions" = some w) => Schema.exists_ofTexts (hs.field rfl hm)
  obtain ⟨gitignore, hg⟩ := exists_given false
    fun w (hm : v.member? "respect-gitignore" = some w) => Schema.passes_bool.mp (hs.field rfl hm)
  obtain ⟨workers, hwo⟩ := exists_given (max 1 (min (processors - 1) 4))
    fun w (hm : v.member? "workers" = some w) => Schema.exists_ofNat (hv.member hm)
      (hs.field rfl hm) fun bits hf => h.workers bits (hf ▸ hm)
  obtain ⟨reports, hr⟩ : ∃ reports, Given (v.member? "reports") (fun v rs => ∃ items,
      v = .list items ∧ List.Forall₂ ReportConfig.Loaded items rs) [{ kind := "console" }]
        reports := by
    refine exists_given _ fun w hm => ?_
    obtain ⟨items, rfl, hitems⟩ := Schema.passes_list.mp (hs.field rfl hm)
    obtain ⟨rs, hrs⟩ := exists_forall₂_iff.mpr fun item hi =>
      ReportConfig.exists_loaded (hitems item hi) fun members ho =>
        h.reports items hm members (ho ▸ hi)
    exact ⟨rs, items, rfl, hrs⟩
  obtain ⟨tools, ha, hnames, hloaded⟩ := h.exists_tools hb hw hv hs
  exact ⟨⟨exclude, mergeIssues, workers, disabled, noqa, extensions, gitignore, reports, tools⟩,
    he, hmi, hwo, hd, hn, hx, hg, hr, ha, hnames, hloaded⟩

theorem exists_ofOverrides_iff :
    (∃ c, ofOverrides blocks v processors = .ok c) ↔ Loadable blocks v := by
  constructor
  · rintro ⟨c, hc⟩
    exact ((ofOverrides_eq_ok hb hw hv).mp hc).2.loadable
  · intro h
    obtain ⟨c, hc⟩ : ∃ c, Loaded processors blocks v c := h.exists_loaded hb hw hv hs
    exact ⟨c, (ofOverrides_eq_ok hb hw hv).mpr ⟨hs, hc⟩⟩

end Loads

theorem misshapen_of_refused (hb : Keyed.Ascending blocks)
    (hw : ∀ name t, blocks.lookup name = some t → t.options.WellFormed) (hv : v.WellFormed)
    (hs : schema.Passes v) {e : ConfigError} 
    (h : ofOverrides blocks v processors = .error e) : ∃ flaw, e = .misshapen flaw := by
  cases hread : ofValue ((defaults blocks processors).toValue.mergeOver v) processors with
  | error flaw =>
    simp only [ofOverrides, show schema.check v = .ok () from hs, hread, Except.error.injEq] at h
    exact ⟨flaw, h.symm⟩
  | ok c =>
    obtain ⟨settings, hm, ha, hmerged⟩ := exists_settings hb hw hv hs
    have hloaded : Loaded processors blocks v c := by
      rw [hm, ofValue_eq_ok ha.nodup] at hread
      exact (readFrom_merged_iff hb hv hs hmerged).mp hread
    have hok := (ofOverrides_eq_ok hb hw hv).mpr ⟨hs, hloaded⟩
    rw [h] at hok
    contradiction

/-- A document without embedded values is loaded unless its number of workers is a fraction. -/
theorem loadable_iff_of_plain (hw : ∀ name t, blocks.lookup name = some t → t.options.WellFormed)
    (hv : v.WellFormed) (hp : v.Plain)
    (hd : ∀ name t, blocks.lookup name = some t → t.options.Plain) :
    Loadable blocks v ↔ ∀ bits, v.member? "workers" ≠ some (.number (.fraction bits)) := by
  refine ⟨fun h => h.workers, fun h => ⟨h, fun name _ merged hm => ?_, fun items hi members hmem =>
    ?_⟩⟩
  · have hbase : ((blocks.lookup name).getD {}).options.WellFormed ∧
        ((blocks.lookup name).getD {}).options.Plain := by
      cases hl : blocks.lookup name with
      | none =>
        exact ⟨Value.everywhere_object.mpr ⟨List.Pairwise.nil, by simp⟩,
          Value.everywhere_object.mpr ⟨trivial, by simp⟩⟩
      | some base => exact ⟨hw name base hl, hd name base hl⟩
    have hplain : merged.Plain := by
      cases ho : (blockIn? v name).bind (Value.member? "options") with
      | none =>
        rw [ho] at hm
        cases hm
        exact hbase.2
      | some o =>
        obtain ⟨block, hblock, hmember⟩ := Option.bind_eq_some_iff.mp ho
        rw [ho] at hm
        cases hm with
        | merged hm =>
          exact hm.plain hbase.2 ((everywhere_blockIn? hp hblock).member hmember) hbase.1
            ((everywhere_blockIn? hv hblock).member hmember)
    exact ⟨merged, takenOver_of_plain _ hplain⟩
  · have hitem := (Value.everywhere_list.mp (hp.member hi)).2 _ hmem
    refine ⟨_, ReportConfig.optionsOf_of_plain fun m hm => ?_⟩
    exact (Value.everywhere_object.mp hitem).2 m (List.mem_filter.mp hm).1

/-- How far the schema and the loader agree on a document with this value, which passes. -/
structure LoadsUnless (blocks : Keyed ToolConfig) (text : String) (v : Value) : Prop where
  loads_iff : ∀ processors, (∃ c, ofDocument blocks text processors = .ok c) ↔ Loadable blocks v
  misshapen : ∀ processors e, ofDocument blocks text processors = .error e →
    ∃ flaw, e = .misshapen flaw
  plain : v.Plain → (∀ name t, blocks.lookup name = some t → t.options.Plain) →
    ∀ processors, (∃ c, ofDocument blocks text processors = .ok c) ↔
      ∀ bits, v.member? "workers" ≠ some (.number (.fraction bits))

/-- A document that passes the schema is loaded, unless its number of workers is written as a
fraction or something embedded in options cannot be taken over. -/
theorem loadsUnless_ofDocument (tools : List Tool)
    (hw : ∀ tool ∈ tools, tool.defaults.options.WellFormed) {text : String} {v : Value}
    (hd : documentValue text = .ok v) (hs : schema.Passes v) :
    LoadsUnless (ToolRegistry.ofList tools).blocks text v := by
  have hb := ascending_blocks tools
  have hblocks : ∀ name t, (ToolRegistry.ofList tools).blocks.lookup name = some t →
      t.options.WellFormed := fun _ _ => wellFormed_blocks hw
  have hv := wellFormed_documentValue hd
  have htext : ∀ processors, ofDocument (ToolRegistry.ofList tools).blocks text processors =
      ofOverrides (ToolRegistry.ofList tools).blocks v processors := by
    intro processors
    rw [ofDocument, hd]
    rfl
  have hiff : ∀ processors,
      (∃ c, ofDocument (ToolRegistry.ofList tools).blocks text processors = .ok c) ↔
        Loadable (ToolRegistry.ofList tools).blocks v := by
    intro processors
    rw [htext]
    exact exists_ofOverrides_iff hb hblocks hv hs
  exact ⟨hiff, fun processors e he => misshapen_of_refused hb hblocks hv hs (htext processors ▸ he),
    fun hp hplain processors =>
      (hiff processors).trans (loadable_iff_of_plain hblocks hv hp hplain)⟩

theorem passes_short : schema.Passes shortValue := by
  rw [Schema.Passes]
  cbv

theorem loadsUnless_short :
    (∀ tool ∈ [Tool.whitespace], tool.defaults.options.WellFormed) ∧
    documentValue shortText = .ok shortValue ∧ schema.Passes shortValue ∧
    LoadsUnless (ToolRegistry.ofList [.whitespace]).blocks shortText shortValue := by
  have hw : ∀ tool ∈ [Tool.whitespace], tool.defaults.options.WellFormed := by
    simp [wellFormed_whitespace]
  exact ⟨hw, documentValue_short, passes_short,
    loadsUnless_ofDocument [.whitespace] hw documentValue_short passes_short⟩

def fractionalText : String := "\x7b\"workers\": 2.0\x7d"

def fractionalValue : Value := .object [("workers", .number (.fraction 0x4000000000000000))]

theorem passes_fractional : schema.Passes fractionalValue := by
  refine Schema.passes_record.mpr ⟨_, rfl, by simp, fun m hm => ?_⟩
  obtain rfl := List.mem_singleton.mp hm
  refine (Schema.passesMember_of_field rfl).mpr ?_
  have hwhole : Number.isWhole (.fraction 0x4000000000000000) = true := by decide
  have hbelow : Number.isBelow 1 (.fraction 0x4000000000000000) = false := by decide
  simp [Schema.Passes, Schema.check, hwhole, hbelow]

def membersOf? : Value → Option Members
  | .object members => some members
  | .null => none
  | .bool _ => none
  | .number _ => none
  | .text _ => none
  | .list _ => none

def numberOf? : Value → Option Number
  | .number n => some n
  | .null => none
  | .bool _ => none
  | .text _ => none
  | .list _ => none
  | .object _ => none

theorem eq_object_of_membersOf? {members : Members} (h : membersOf? v = some members) :
    v = .object members := by
  cases v with
  | object _ => rw [Option.some.inj h]
  | _ => contradiction

theorem eq_number_of_numberOf? {n : Number} (h : numberOf? v = some n) : v = .number n := by
  cases v with
  | number _ => rw [Option.some.inj h]
  | _ => contradiction

theorem eq_of_only_number {r : Except ConfigError Value} {key : String} {n : Number}
    (h : (r.toOption.bind membersOf?).map (List.map fun m => (m.1, numberOf? m.2)) =
      some [(key, some n)]) : r = .ok (.object [(key, .number n)]) := by
  obtain ⟨members, hm, hmap⟩ := Option.map_eq_some_iff.mp h
  obtain ⟨v, hv, hmembers⟩ := Option.bind_eq_some_iff.mp hm
  obtain ⟨⟨name, w⟩, rfl, hone⟩ := List.map_eq_singleton_iff.mp hmap
  obtain rfl : name = key := congrArg Prod.fst hone
  have hw : numberOf? w = some n := congrArg Prod.snd hone
  cases r with
  | error e => contradiction
  | ok u =>
    obtain rfl := Option.some.inj hv
    rw [eq_object_of_membersOf? hmembers, eq_number_of_numberOf? hw]

theorem documentValue_fractional : documentValue fractionalText = .ok fractionalValue := by
  apply eq_of_only_number
  decide +kernel

/-- The schema takes a whole fraction for an integer, and the loader does not. -/
theorem refused_fractional : documentValue fractionalText = .ok fractionalValue ∧
    schema.Passes fractionalValue ∧
    ∀ processors c,
      ofDocument (ToolRegistry.ofList []).blocks fractionalText processors ≠ .ok c := by
  refine ⟨documentValue_fractional, passes_fractional, fun processors c hc => ?_⟩
  obtain ⟨v, hv, -, hl⟩ := (ofDocument_eq_ok List.Pairwise.nil nofun).mp hc
  obtain rfl := Except.ok.inj (documentValue_fractional.symm.trans hv)
  exact hl.loadable.workers _ rfl

end Config

end MetaLint
