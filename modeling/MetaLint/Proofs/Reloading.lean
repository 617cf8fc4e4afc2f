import MetaLint.Command.Catalog
import MetaLint.Proofs.StoredConfig

/-!
# Saving and loading again

A configuration takes in the default options that it was merged over. Its own document changes
nothing in it when it is loaded, unless something that was merged stands for an embedded value.
-/

set_option autoImplicit false

namespace MetaLint

open Json Jsonc

theorem Json.MergesAt.wellFormed {b o : Option Value} {result : Value}
    (h : MergesAt b o (some result)) (hb : ∀ v, b = some v → v.WellFormed)
    (ho : ∀ v, o = some v → v.WellFormed) : result.WellFormed := by
  cases h with
  | kept => exact hb _ rfl
  | added => exact ho _ rfl
  | merged h => exact h.wellFormed (hb _ rfl) (ho _ rfl)

theorem ReportConfig.Loaded.isText_file {item : Value} {r : ReportConfig} (h : Loaded item r)
    (p : Path) (hp : r.file = some p) : p.raw.IsText := by
  have hfile := h.file
  cases hm : item.member? "file" with
  | none =>
    rw [hm] at hfile
    rw [show r.file = none from hfile] at hp
    contradiction
  | some w =>
    rw [hm] at hfile
    obtain ⟨s, -, hs⟩ := hfile
    rw [hp] at hs
    obtain rfl := Option.some.inj hs
    exact OsText.isText_ofText s

theorem ReportConfig.Loaded.storable {item : Value} {r : ReportConfig} (h : Loaded item r)
    (hw : item.WellFormed)
    (hplain : ∀ members, item = .object members → ∀ m ∈ others members, m.2.Plain) :
    r.Storable := by
  obtain ⟨members, rfl, -, hliteral⟩ := h.options
  have hplain := hplain members rfl
  have hsub : ∀ m ∈ others members, m ∈ members ∧ m.1 ≠ "type" ∧ m.1 ≠ "file" := by
    intro m hm
    simpa [others] using hm
  obtain ⟨-, hmembers⟩ := Value.everywhere_object.mp hw
  have hoptions := hliteral hplain
  exact ⟨hoptions ▸ hw.ascending.filter _, hoptions ▸ fun m hm => (hsub m hm).2,
    hoptions ▸ fun m hm => hmembers m (hsub m hm).1, hoptions ▸ hplain, h.isText_file⟩

theorem forall_mem_of_forall₂ {α β : Type} {R : α → β → Prop} {P : β → Prop} {as : List α}
    {bs : List β} (h : List.Forall₂ R as bs) (hp : ∀ a ∈ as, ∀ b, R a b → P b) :
    ∀ b ∈ bs, P b := by
  induction h with
  | nil => simp
  | cons hab _ ih =>
    obtain ⟨ha, has⟩ := List.forall_mem_cons.mp hp
    exact List.forall_mem_cons.mpr ⟨ha _ hab, ih has⟩

namespace Config

/-- The default blocks are in order, and their options are objects. -/
structure Registered (blocks : Keyed ToolConfig) : Prop where
  ascending : Keyed.Ascending blocks
  wellFormed : ∀ name t, blocks.lookup name = some t → t.options.WellFormed
  object : ∀ name t, blocks.lookup name = some t → ∃ members, t.options = .object members

/-- Nothing that is merged for a document with this value stands for an embedded value, and nothing
in the options of its reports does. -/
structure Free (blocks : Keyed ToolConfig) (v : Value) : Prop where
  tools : ∀ name merged, MergesAt (some ((blocks.lookup name).getD {}).options)
    ((blockIn? v name).bind (Value.member? "options")) (some merged) → merged.Plain
  reports : ∀ items, v.member? "reports" = some (.list items) →
    ∀ members, .object members ∈ items → ∀ m ∈ ReportConfig.others members, m.2.Plain

variable {processors other : Nat} {blocks : Keyed ToolConfig} {v : Value} {c : Config}

section Registered
variable (hb : Registered blocks) (name : String)
include hb

theorem Registered.base : ((blocks.lookup name).getD {}).options.WellFormed ∧
    ∃ members, ((blocks.lookup name).getD {}).options = .object members := by
  cases h : blocks.lookup name with
  | none => exact ⟨Value.everywhere_object.mpr ⟨List.Pairwise.nil, by simp⟩, [], rfl⟩
  | some t => exact ⟨hb.wellFormed name t h, hb.object name t h⟩

end Registered

theorem free_of_plain (hb : Registered blocks)
    (hp : ∀ name t, blocks.lookup name = some t → t.options.Plain) (hv : v.WellFormed)
    (hvp : v.Plain) : Free blocks v := by
  constructor
  · intro name merged hm
    have hbase : ((blocks.lookup name).getD {}).options.Plain := by
      cases h : blocks.lookup name with
      | none => exact Value.everywhere_object.mpr ⟨trivial, by simp⟩
      | some t => exact hp name t h
    cases ho : (blockIn? v name).bind (Value.member? "options") with
    | none =>
      rw [ho] at hm
      cases hm
      exact hbase
    | some w =>
      rw [ho] at hm
      obtain ⟨block, hblock, hw⟩ := Option.bind_eq_some_iff.mp ho
      cases hm with
      | merged h =>
        exact h.plain hbase ((everywhere_blockIn? hvp hblock).member hw) (hb.base name).1
          ((everywhere_blockIn? hv hblock).member hw)
  · intro items hitems members hmember m hm
    have hitem := (Value.everywhere_list.mp (hvp.member hitems)).2 _ hmember
    exact (Value.everywhere_object.mp hitem).2 m (List.mem_filter.mp hm).1

theorem Loaded.merges_options (hf : Free blocks v) (h : Loaded processors blocks v c)
    {name : String}
    {t : ToolConfig} (ht : c.tool? name = some t) :
    MergesAt (some ((blocks.lookup name).getD {}).options)
      ((blockIn? v name).bind (Value.member? "options")) (some t.options) ∧ t.options.Plain := by
  obtain ⟨merged, hm, htaken⟩ := (h.tools name t ht).options
  have hplain := hf.tools name merged hm
  rw [htaken.literal hplain]
  exact ⟨hm, hplain⟩

theorem Loaded.storable_reports (hv : v.WellFormed) (hf : Free blocks v)
    (h : Loaded processors blocks v c) :
    ∀ r ∈ c.reports, r.Storable := by
  have hr := h.reports
  cases hn : v.member? "reports" with
  | none =>
    rw [hn] at hr
    rw [show c.reports = [{ kind := "console" }] from hr]
    intro r hmem
    obtain rfl := List.mem_singleton.mp hmem
    exact ⟨List.Pairwise.nil, by simp, by simp, by simp, by simp⟩
  | some w =>
    rw [hn] at hr
    obtain ⟨items, rfl, hitems⟩ := hr
    have hwell := (Value.everywhere_list.mp (hv.member hn)).2
    exact forall_mem_of_forall₂ hitems fun item hitem r hl =>
      hl.storable (hwell item hitem) fun members he => hf.reports items hn members (he ▸ hitem)

section Loaded
variable (hb : Registered blocks) (hv : v.WellFormed) (hs : schema.Passes v)
  (hf : Free blocks v) (h : Loaded processors blocks v c)
include hb hv hs hf h

theorem Loaded.storable_tool {name : String} {t : ToolConfig} (ht : c.tool? name = some t) :
    t.Storable := by
  obtain ⟨hm, hplain⟩ := h.merges_options hf ht
  obtain ⟨hbase, members, hobject⟩ := hb.base name
  have hoptions : ∀ w, (blockIn? v name).bind (Value.member? "options") = some w →
      w.WellFormed ∧ ∃ members, w = .object members := by
    intro w hw
    obtain ⟨block, hblock, hw⟩ := Option.bind_eq_some_iff.mp hw
    have hpass : toolSchema.Passes block := passes_blockIn? hs hblock
    exact ⟨(everywhere_blockIn? hv hblock).member hw,
      Schema.passes_object.mp (hpass.field rfl hw)⟩
  refine ⟨?_, hm.wellFormed ?_ fun w hw => (hoptions w hw).1, hplain⟩
  · rw [hobject] at hm hbase
    obtain ⟨result, hresult, -⟩ := hm.exists_object hbase.ascending fun w hw => (hoptions w hw).2
    exact ⟨result, Option.some.inj hresult⟩
  · rintro w ⟨⟩
    exact hbase

theorem Loaded.storable : c.Storable := by
  refine ⟨h.ascending, h.workers_pos hs, ?_, fun m hm => ?_, h.storable_reports hv hf⟩
  · have hw := h.workers
    cases hn : v.member? "workers" with
    | none =>
      rw [hn] at hw
      have hdefault : c.workers = max 1 (min (processors - 1) 4) := hw
      rw [UInt64.size]
      omega
    | some w =>
      rw [hn] at hw
      exact hw.2
  · exact h.storable_tool hb hv hs hf ((Keyed.lookup_eq_some_iff h.ascending.nodup).mpr hm)

end Loaded

/-- A record with the tools of a configuration is loaded as the configuration when each block is
loaded as the block that it is for. -/
theorem Loaded.of_blocks {f : ToolConfig → Value} (h : Loaded processors blocks v c)
    (hc : c.Storable)
    (hf : ∀ name t, c.tool? name = some t →
      ToolConfig.Loaded ((blocks.lookup name).getD {}) (some (f t)) t) :
    Loaded other blocks (.object (c.members (.object (c.tools.mapValues fun _ t => f t)))) c := by
  have hblock : ∀ name, blockIn?
      (.object (c.members (.object (c.tools.mapValues fun _ t => f t)))) name =
        (c.tools.lookup name).map f := fun name => Keyed.lookup_mapValues (fun _ t => f t) _ _
  refine ⟨rfl, rfl, ⟨rfl, hc.workers⟩, rfl, rfl, rfl, rfl, ⟨_, rfl, ?_⟩, h.ascending,
    fun name => ?_, fun name t ht => ?_⟩
  · rw [List.forall₂_map_left_iff]
    exact List.forall₂_same.mpr fun r hr => (hc.reports r hr).loaded
  · rw [hblock, Option.isSome_map, Keyed.lookup_isSome_iff]
    exact ⟨.inr, fun hn => hn.elim (fun hn => (h.names name).mpr (.inl hn)) id⟩
  · rw [hblock, show c.tools.lookup name = some t from ht]
    exact hf name t ht

theorem Loaded.of_toValue (hb : Registered blocks) (hf : Free blocks v)
    (h : Loaded processors blocks v c) (hc : c.Storable) : Loaded other blocks c.toValue c := by
  refine h.of_blocks hc fun name t ht => ?_
  obtain ⟨hm, hplain⟩ := h.merges_options hf ht
  refine ⟨rfl, rfl, rfl, t.options, ?_, ToolConfig.taken_iff.mpr (takenOver_of_plain _ hplain)⟩
  apply hm.absorbed
  rintro w ⟨⟩
  exact (hb.base name).1

/-- What was loaded is loaded again from its own document. -/
theorem Loaded.ofDocument_pretty (hb : Registered blocks) (hv : v.WellFormed)
    (hs : schema.Passes v) (hf : Free blocks v) (h : Loaded processors blocks v c)
    (hwhole : c.Whole) : ofDocument blocks c.pretty other = .ok c := by
  have hc := h.storable hb hv hs hf
  exact (ofDocument_eq_ok hb.ascending hb.wellFormed).mpr
    ⟨c.toValue, documentValue_pretty (hc.shows hwhole), hc.passes, h.of_toValue hb hf hc⟩

theorem passes_emptyObject : schema.Passes .emptyObject :=
  Schema.passes_record.mpr ⟨[], rfl, by simp, by simp⟩

theorem wellFormed_emptyObject : Value.emptyObject.WellFormed :=
  Value.everywhere_object.mpr ⟨List.Pairwise.nil, by simp⟩

theorem loaded_defaults (hb : Registered blocks) (hf : Free blocks .emptyObject) :
    Loaded processors blocks .emptyObject (defaults blocks processors) := by
  refine ⟨rfl, rfl, rfl, rfl, rfl, rfl, rfl, rfl, hb.ascending, fun name => ?_,
    fun name t ht => ?_⟩
  · simp [blockIn?, Value.member?, Value.emptyObject, defaults]
  · have hbase : (blocks.lookup name).getD {} = t := by
      rw [show blocks.lookup name = some t from ht, Option.getD_some]
    have hplain := hf.tools name t.options (by rw [hbase]; exact .kept _)
    rw [hbase]
    exact ⟨rfl, rfl, rfl, t.options, .kept _,
      ToolConfig.taken_iff.mpr (takenOver_of_plain _ hplain)⟩

end Config

namespace ToolConfig

variable {t : ToolConfig}

theorem briefValue_eq (t : ToolConfig) : t.briefValue =
    .object (t.members.filter fun m => !(m.1 == "options" && m.2 == .emptyObject)) := rfl

theorem wellFormed_briefValue (h : t.options.WellFormed) : t.briefValue.WellFormed :=
  (wellFormed_toValue h).filter ((ascending_members t).filter _)

theorem whole_briefValue (h : t.options.Whole) : t.briefValue.Whole := by
  have hwhole : (Value.object t.members).Whole := by
    refine Value.everywhere_object.mpr ⟨trivial, ?_⟩
    simp only [members, List.forall_mem_cons]
    exact ⟨Value.whole_ofTexts _, Value.whole_ofTexts _, h, Value.whole_bool _, by simp⟩
  exact hwhole.filter trivial

theorem passes_briefValue (h : ∃ members, t.options = .object members) :
    Config.toolSchema.Passes t.briefValue :=
  (passes_toValue h).filter _

theorem loaded_briefValue (hw : t.options.WellFormed) (hp : t.options.Plain) :
    Loaded t (some t.briefValue) t := by
  have htaken : Taken t.options t.options := taken_iff.mpr (takenOver_of_plain _ hp)
  rw [briefValue_eq]
  cases h : t.options == .emptyObject
  · have hmembers : t.members.filter (fun m => !(m.1 == "options" && m.2 == .emptyObject)) =
        t.members := by
      simp [members, h]
    rw [hmembers]
    exact ⟨rfl, rfl, rfl, t.options, .merged (merges_self hw), htaken⟩
  · have hmembers : t.members.filter (fun m => !(m.1 == "options" && m.2 == .emptyObject)) =
        [("disabled", .ofTexts t.disabled), ("filters", .ofTexts t.filters),
          ("use", .bool t.enabled)] := by
      simp [members, h]
    rw [hmembers]
    exact ⟨rfl, rfl, rfl, t.options, .kept _, htaken⟩

end ToolConfig

namespace Config

variable {processors other : Nat} {blocks : Keyed ToolConfig}

theorem defaultDocument_eq : defaultDocument blocks processors =
    .object ((defaults blocks processors).members
      (.object (blocks.mapValues fun _ t => t.briefValue))) := by
  cbv

theorem whole_members {tools : Value} (ht : tools.Whole) :
    (Value.object ((defaults blocks processors).members tools)).Whole := by
  have hreports : (Value.list [ReportConfig.toValue { kind := "console" }]).Whole := by
    refine Value.everywhere_list.mpr ⟨trivial, fun v hv => ?_⟩
    obtain rfl := List.mem_singleton.mp hv
    refine Value.everywhere_object.mpr ⟨trivial, fun m hm => ?_⟩
    have hm := Keyed.mem_ofList hm
    simp only [ReportConfig.fileMember, Option.map_none, Option.toList_none, List.append_nil,
      List.mem_singleton] at hm
    rw [hm]
    exact Value.whole_text _
  refine Value.everywhere_object.mpr ⟨trivial, ?_⟩
  simp only [members, defaults, List.forall_mem_cons, List.map_cons, List.map_nil]
  exact ⟨Value.whole_ofTexts _, Value.whole_ofTexts _, Value.whole_bool _, Value.whole_bool _,
    Value.whole_ofTexts _, hreports, Value.whole_bool _, ht,
    (Value.everywhere_number _).mpr trivial, by simp⟩

theorem ofDocument_defaultDocument (hb : Registered blocks) (hf : Free blocks .emptyObject)
    (hwhole : (defaults blocks processors).Whole) :
    ofDocument blocks (Json.pretty (defaultDocument blocks processors) ++ "\n") other =
      .ok (defaults blocks processors) := by
  have hloaded : Loaded processors blocks .emptyObject (defaults blocks processors) :=
    loaded_defaults hb hf
  have hc := hloaded.storable hb wellFormed_emptyObject passes_emptyObject hf
  have hwell : (defaultDocument blocks processors).WellFormed := by
    rw [defaultDocument_eq]
    apply wellFormed_members
    refine Value.everywhere_object.mpr ⟨hb.ascending.mapValues _, fun m hm => ?_⟩
    obtain ⟨t, ht, rfl⟩ := List.mem_map.mp hm
    exact ToolConfig.wellFormed_briefValue (hc.tools t ht).wellFormed
  have hunfractional : (defaultDocument blocks processors).Whole := by
    rw [defaultDocument_eq]
    apply whole_members
    refine Value.everywhere_object.mpr ⟨trivial, fun m hm => ?_⟩
    obtain ⟨t, ht, rfl⟩ := List.mem_map.mp hm
    exact ToolConfig.whole_briefValue (hwhole.tools t ht)
  have hpasses : schema.Passes (defaultDocument blocks processors) := by
    rw [defaultDocument_eq]
    exact hc.passes_members (passes_blocks fun t ht =>
      ToolConfig.passes_briefValue (hc.tools t ht).object)
  refine (ofDocument_eq_ok hb.ascending hb.wellFormed).mpr ⟨_,
    documentValue_line (shows_ofValue hwell hunfractional), hpasses, ?_⟩
  rw [defaultDocument_eq]
  refine hloaded.of_blocks hc fun name t ht => ?_
  have hstorable := hc.tools _ (Keyed.mem_of_lookup ht)
  rw [show blocks.lookup name = some t from ht, Option.getD_some]
  exact ToolConfig.loaded_briefValue hstorable.wellFormed hstorable.plain

theorem registered_blocks {tools : List Tool} (h : ∀ tool ∈ tools,
      tool.defaults.options.WellFormed ∧ ∃ members, tool.defaults.options = .object members) :
    Registered (ToolRegistry.ofList tools).blocks := by
  refine ⟨ascending_blocks tools, fun name t ht => ?_, fun name t ht => ?_⟩ <;>
  obtain ⟨tool, htool, rfl⟩ := lookup_blocks ht
  · exact (h tool htool).1
  · exact (h tool htool).2

/-- A configuration that was loaded for a registry is loaded again from its own document, if
nothing that was merged stood for an embedded value and its options have no fractions. So are the
defaults, both from their own document and from the one that is printed without empty options. -/
theorem reloads_ofDocument (tools : List Tool)
    (htools : ∀ tool ∈ tools, tool.defaults.options.WellFormed ∧
      ∃ members, tool.defaults.options = .object members) :
    (∀ processors other text v c, documentValue text = .ok v →
      Free (ToolRegistry.ofList tools).blocks v →
      ofDocument (ToolRegistry.ofList tools).blocks text processors = .ok c → c.Whole →
        ofDocument (ToolRegistry.ofList tools).blocks c.pretty other = .ok c) ∧
    (Free (ToolRegistry.ofList tools).blocks .emptyObject → ∀ processors other,
      (defaults (ToolRegistry.ofList tools).blocks processors).Whole →
        ofDocument (ToolRegistry.ofList tools).blocks
          (defaults (ToolRegistry.ofList tools).blocks processors).pretty other =
            .ok (defaults (ToolRegistry.ofList tools).blocks processors) ∧
        ∀ w : Workplace, w.tools = ToolRegistry.ofList tools → w.processors = processors →
          ofDocument (ToolRegistry.ofList tools).blocks w.showDefaults.out other =
            .ok (defaults (ToolRegistry.ofList tools).blocks processors)) := by
  have hb := registered_blocks htools
  refine ⟨fun processors other text v c hv hf hc hwhole => ?_,
    fun hf processors other hwhole => ⟨?_, fun w hw hp => ?_⟩⟩
  · obtain ⟨v', hv', hs, hl⟩ := (ofDocument_eq_ok hb.ascending hb.wellFormed).mp hc
    obtain rfl := Except.ok.inj (hv.symm.trans hv')
    exact hl.ofDocument_pretty hb (wellFormed_documentValue hv) hs hf hwhole
  · exact (loaded_defaults hb hf).ofDocument_pretty hb wellFormed_emptyObject passes_emptyObject hf
      hwhole
  · rw [Workplace.showDefaults, hw, hp]
    exact ofDocument_defaultDocument hb hf hwhole

theorem reloads_ofDocument_short :
    (∀ tool ∈ [Tool.whitespace], tool.defaults.options.WellFormed ∧
      ∃ members, tool.defaults.options = .object members) ∧
    Free (ToolRegistry.ofList [.whitespace]).blocks shortValue ∧ shortConfig.Whole ∧
    ofDocument (ToolRegistry.ofList [.whitespace]).blocks shortConfig.pretty 1 = .ok shortConfig ∧
    Free (ToolRegistry.ofList [.whitespace]).blocks .emptyObject ∧
    (defaults (ToolRegistry.ofList [.whitespace]).blocks 4).Whole ∧
    ofDocument (ToolRegistry.ofList [.whitespace]).blocks
      (defaults (ToolRegistry.ofList [.whitespace]).blocks 4).pretty 1 =
        .ok (defaults (ToolRegistry.ofList [.whitespace]).blocks 4) := by
  have htools : ∀ tool ∈ [Tool.whitespace], tool.defaults.options.WellFormed ∧
      ∃ members, tool.defaults.options = .object members := by
    intro tool htool
    obtain rfl := List.mem_singleton.mp htool
    exact ⟨wellFormed_whitespace, _, rfl⟩
  have hb := registered_blocks htools
  have hplain : ∀ name t, (ToolRegistry.ofList [Tool.whitespace]).blocks.lookup name = some t →
      t.options.Plain := by
    intro name t ht
    obtain ⟨tool, htool, rfl⟩ := lookup_blocks ht
    obtain rfl := List.mem_singleton.mp htool
    simp [Tool.whitespace, Value.Plain, Value.everywhere_object, Value.Literal, embeddingKey,
      Value.ofNat]
  have hfree : Free (ToolRegistry.ofList [.whitespace]).blocks shortValue :=
    free_of_plain hb hplain (wellFormed_documentValue documentValue_short) (by
      simp [shortValue, Value.Plain, Value.everywhere_object, Value.Literal, embeddingKey,
        Value.ofNat])
  have hempty := free_of_plain hb hplain wellFormed_emptyObject (by
    simp [Value.emptyObject, Value.Plain, Value.everywhere_object, Value.Literal])
  have hwhole : shortConfig.Whole := by
    constructor <;> simp [shortConfig, Value.Whole, Value.everywhere_object, Value.Unfractional,
      Value.ofNat, Value.emptyObject]
  have hdefaults : (defaults (ToolRegistry.ofList [.whitespace]).blocks 4).Whole := by
    constructor <;> simp [defaults, ToolRegistry.blocks, ToolRegistry.ofList,
      ToolRegistry.register, Keyed.set, Keyed.mapValues, Tool.whitespace, Value.Whole,
      Value.everywhere_object, Value.Unfractional, Value.ofNat]
  obtain ⟨hloaded, hdefault⟩ := reloads_ofDocument [.whitespace] htools
  exact ⟨htools, hfree, hwhole, hloaded 4 1 _ _ _ documentValue_short hfree ofDocument_short
    hwhole, hempty, hdefaults, (hdefault hempty 4 1 hdefaults).1⟩

theorem not_passes_embeddedConfig : ¬ schema.Passes embeddedConfig.toValue := by
  intro h
  have hblock : blockIn? embeddedConfig.toValue "x" =
    some (ToolConfig.toValue { options := .ofNat 1 }) := rfl
  have hpass := passes_blockIn? h hblock
  have hmember : (ToolConfig.toValue { options := .ofNat 1 }).member? "options" =
    some (.ofNat 1) := rfl
  have hoptions : Schema.object.Passes (.ofNat 1) := hpass.field rfl hmember
  obtain ⟨members, hm⟩ := Schema.passes_object.mp hoptions
  contradiction

theorem documentValue_embeddedConfig :
    documentValue embeddedConfig.pretty = .ok embeddedConfig.toValue := by
  have ha : Keyed.Ascending embeddedConfig.tools := List.pairwise_singleton _ _
  apply documentValue_pretty
  apply shows_toDoc ha (by decide)
  · simpa [embeddedConfig] using Value.wellFormed_ofNat (n := 1) (by decide)
  · intro r hr
    obtain rfl := List.mem_singleton.mp hr
    exact ⟨List.Pairwise.nil, by simp, by simp, by simp, by simp⟩
  · constructor <;> simp [embeddedConfig, Value.Whole, Value.Unfractional, Value.ofNat]

/-- A configuration whose options came out of an embedded value is not loaded again. -/
theorem not_reloads_embedding : ∃ c,
    ofDocument (ToolRegistry.ofList []).blocks embeddingText = .ok c ∧
      ofDocument (ToolRegistry.ofList []).blocks c.pretty ≠ .ok c := by
  refine ⟨embeddedConfig, ofDocument_embedding, fun h => ?_⟩
  have hb : Registered (ToolRegistry.ofList []).blocks := registered_blocks (by simp)
  obtain ⟨v, hv, hs, -⟩ := (ofDocument_eq_ok hb.ascending hb.wellFormed).mp h
  rw [documentValue_embeddedConfig] at hv
  obtain rfl := Except.ok.inj hv
  exact not_passes_embeddedConfig hs

end Config

end MetaLint
