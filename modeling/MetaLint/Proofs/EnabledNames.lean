import MetaLint.Proofs.Loading
import MetaLint.Report.Delivery

/-!
# The names of the enabled tools

A run takes its jobs from the registry and from the configuration, while reports are given names
from the configuration alone. The two are the same names when every enabled block is that of a tool
that is registered and can run here, and only then.
-/

set_option autoImplicit false

namespace MetaLint

def ToolRegistry.canRun (r : ToolRegistry) (name : String) : Bool :=
  (r.get? name).elim false Tool.usable

theorem ToolRegistry.Sound.mem_jobs {r : ToolRegistry} (h : r.Sound) {c : Config} {j : Job} :
    j ∈ Job.ofRegistry r c ↔ r.get? j.name = some j.tool ∧ j.config = Job.blockOf c j.tool ∧
      j.config.enabled = true ∧ j.tool.usable = true := by
  have hget : r.get? j.name = some j.tool ↔ (j.name, j.tool) ∈ r :=
    Keyed.lookup_eq_some_iff h.ascending.nodup
  rw [hget, Job.ofRegistry, List.mem_filterMap]
  constructor
  · rintro ⟨tool, htool, hjob⟩
    obtain ⟨p, hp, rfl⟩ := List.mem_map.mp htool
    obtain ⟨hready, hj⟩ := Option.ite_none_right_eq_some.mp hjob
    obtain rfl := Option.some.inj hj
    obtain ⟨he, hu⟩ := Bool.and_eq_true_iff.mp hready
    have hpair : (p.2.name, p.2) ∈ r := by
      rw [← h.named p hp]
      exact hp
    exact ⟨hpair, rfl, he, hu⟩
  · rintro ⟨hpair, hblock, he, hu⟩
    obtain ⟨tool, config⟩ := j
    obtain rfl : config = Job.blockOf c tool := hblock
    exact ⟨tool, List.mem_map.mpr ⟨_, hpair, rfl⟩,
      Option.ite_none_right_eq_some.mpr ⟨Bool.and_eq_true_iff.mpr ⟨he, hu⟩, rfl⟩⟩

namespace Config

/-- There is a block for every registered tool, and blocks are in the order of their names. -/
structure Covers (r : ToolRegistry) (c : Config) : Prop where
  ascending : Keyed.Ascending c.tools
  blocks : ∀ name ∈ Keyed.names r, name ∈ Keyed.names c.tools

section Names
variable {r : ToolRegistry} {c : Config} {name : String} {processors : Nat}

theorem covers_defaults (hr : r.Sound) : Covers r (defaults r.blocks processors) where
  ascending := hr.ascending.mapValues fun _ t => t.defaults
  blocks name hname := by
    rw [defaults, ToolRegistry.blocks, Keyed.names_mapValues]
    exact hname

theorem Loaded.covers {v : Json.Value} (h : Loaded processors r.blocks v c) : Covers r c where
  ascending := h.ascending
  blocks name hname := by
    apply (h.names name).mpr
    rw [ToolRegistry.blocks, Keyed.names_mapValues]
    exact .inl hname

theorem Covers.mem_enabledNames (hc : Covers r c) :
    name ∈ c.enabledNames ↔ ∃ t, c.tool? name = some t ∧ t.enabled = true := by
  rw [enabledNames, List.mem_map]
  constructor
  · rintro ⟨⟨n, t⟩, hmem, rfl⟩
    obtain ⟨hblock, he⟩ := List.mem_filter.mp hmem
    exact ⟨t, (Keyed.lookup_eq_some_iff hc.ascending.nodup).mpr hblock, he⟩
  · rintro ⟨t, hblock, he⟩
    have hmem : (name, t) ∈ c.tools := Keyed.mem_of_lookup hblock
    exact ⟨_, List.mem_filter.mpr ⟨hmem, he⟩, rfl⟩

theorem Covers.ascending_enabledNames (hc : Covers r c) :
    c.enabledNames.Pairwise fun m n => compare m n = .lt :=
  List.pairwise_map.mpr (hc.ascending.filter _)

theorem Covers.exists_blockOf (hr : r.Sound) (hc : Covers r c) {tool : Tool}
    (h : r.get? name = some tool) : ∃ t, c.tool? name = some t ∧ Job.blockOf c tool = t := by
  have hpair : (name, tool) ∈ r := Keyed.mem_of_lookup h
  have hname : name = tool.name := hr.named _ hpair
  obtain ⟨t, ht⟩ : ∃ t, c.tool? name = some t := Option.isSome_iff_exists.mp
    (Keyed.lookup_isSome_iff.mpr (hc.blocks _ (List.mem_map.mpr ⟨_, hpair, rfl⟩)))
  exact ⟨t, ht, by rw [Job.blockOf, ← hname, ht, Option.getD_some]⟩

theorem Covers.mem_names_jobs (hr : r.Sound) (hc : Covers r c) :
    name ∈ (Job.ofRegistry r c).map Job.name ↔
      (∃ t, c.tool? name = some t ∧ t.enabled = true) ∧ r.canRun name = true := by
  rw [List.mem_map]
  constructor
  · rintro ⟨j, hj, rfl⟩
    obtain ⟨hget, hblock, he, hu⟩ := hr.mem_jobs.mp hj
    obtain ⟨t, ht, hblockOf⟩ := hc.exists_blockOf hr hget
    rw [hblock, hblockOf] at he
    exact ⟨⟨t, ht, he⟩, by rw [ToolRegistry.canRun, hget]; exact hu⟩
  · rintro ⟨⟨t, ht, he⟩, hrun⟩
    rw [ToolRegistry.canRun] at hrun
    cases hget : r.get? name with
    | none => rw [hget] at hrun; contradiction
    | some tool =>
      rw [hget] at hrun
      have hname : name = tool.name := hr.named _ (Keyed.mem_of_lookup hget)
      obtain ⟨t', ht', hblockOf⟩ := hc.exists_blockOf hr hget
      obtain rfl := Option.some.inj (ht.symm.trans ht')
      have hget' : r.get? tool.name = some tool := hname ▸ hget
      exact ⟨⟨tool, t⟩, hr.mem_jobs.mpr ⟨hget', hblockOf.symm, he, hrun⟩, hname.symm⟩

theorem Covers.names_jobs (hr : r.Sound) (hc : Covers r c) :
    (Job.ofRegistry r c).map Job.name = c.enabledNames.filter r.canRun := by
  have hjobs : ((Job.ofRegistry r c).map Job.name).Pairwise fun m n => compare m n = .lt := by
    apply List.Pairwise.sublist (ToolRegistry.names_jobs_sublist r c)
    rw [hr.names_eq]
    exact Keyed.ascending_iff.mp hr.ascending
  apply Sorting.eq_of_ascending hjobs (hc.ascending_enabledNames.filter _)
  intro name
  rw [hc.mem_names_jobs hr, List.mem_filter, hc.mem_enabledNames]

/-- What a run and the reports on it make of the blocks of a configuration. -/
structure Enables (r : ToolRegistry) (c : Config) : Prop where
  jobs : (Job.ofRegistry r c).map Job.name = c.enabledNames.filter r.canRun
  shown : ∀ request : DeliveryRequest, request.config = c →
    ∀ rc, (request.context rc).tools = c.enabledNames
  agree : (∀ request : DeliveryRequest, request.config = c →
      ∀ rc, (request.context rc).tools = (Job.ofRegistry r c).map Job.name) ↔
    ∀ name t, c.tool? name = some t → t.enabled = true → r.canRun name = true

theorem Covers.enables (hr : r.Sound) (hc : Covers r c) : Enables r c where
  jobs := hc.names_jobs hr
  shown := by
    rintro request rfl rc
    rfl
  agree := by
    have hsame : (Job.ofRegistry r c).map Job.name = c.enabledNames ↔
        ∀ name ∈ c.enabledNames, r.canRun name = true := by
      rw [hc.names_jobs hr]
      exact List.filter_eq_self
    simp only [hc.mem_enabledNames, forall_exists_index, and_imp] at hsame
    rw [← hsame]
    constructor
    · intro h
      exact (h { registry := [], config := c, project := ⟨""⟩ } rfl { kind := "" }).symm
    · rintro h request rfl rc
      exact h.symm

end Names

/-- With the defaults, and with whatever a document makes of them, the jobs of a run are for the
tools that reports name, unless a block enables a tool that is not registered or cannot run here. -/
theorem enables_loaded (tools : List Tool)
    (hw : ∀ tool ∈ tools, tool.defaults.options.WellFormed) (processors : Nat) (c : Config)
    (hc : c = defaults (ToolRegistry.ofList tools).blocks processors ∨
      ∃ text, ofDocument (ToolRegistry.ofList tools).blocks text processors = .ok c) :
    Enables (ToolRegistry.ofList tools) c := by
  have hr := ToolRegistry.sound_ofList tools
  rcases hc with rfl | ⟨text, htext⟩
  · exact (covers_defaults hr).enables hr
  · have hblocks : ∀ name t, (ToolRegistry.ofList tools).blocks.lookup name = some t →
        t.options.WellFormed := by
      intro name t ht
      obtain ⟨tool, htool, rfl⟩ := lookup_blocks ht
      exact hw tool htool
    obtain ⟨v, -, -, hl⟩ := (ofDocument_eq_ok (ascending_blocks tools) hblocks).mp htext
    exact hl.covers.enables hr

theorem enables_loaded_short :
    (∀ tool ∈ [Tool.whitespace], tool.defaults.options.WellFormed) ∧
    ofDocument (ToolRegistry.ofList [.whitespace]).blocks shortText 4 = .ok shortConfig ∧
    shortConfig.enabledNames = ["whitespace", "x"] ∧
    (Job.ofRegistry (ToolRegistry.ofList [.whitespace]) shortConfig).map Job.name =
      ["whitespace"] := by
  have hw : ∀ tool ∈ [Tool.whitespace], tool.defaults.options.WellFormed := by
    simp [wellFormed_whitespace]
  have h := enables_loaded [.whitespace] hw 4 shortConfig (.inr ⟨shortText, ofDocument_short⟩)
  refine ⟨hw, ofDocument_short, rfl, h.jobs.trans rfl⟩

def strayText : String := "\x7b \"tools\": \x7b \"x\": \x7b\x7d \x7d \x7d"

/-- Reports name a tool that no run has a job for. -/
theorem not_agree_stray : ∃ c, ofDocument (ToolRegistry.ofList []).blocks strayText = .ok c ∧
    ∃ request : DeliveryRequest, request.config = c ∧ ∃ rc, (request.context rc).tools ≠
      (Job.ofRegistry (ToolRegistry.ofList []) c).map Job.name := by
  refine ⟨{ tools := [("x", {})] }, by cbv, { registry := [], config := _, project := ⟨""⟩ }, rfl,
    { kind := "prospector-json" }, ?_⟩
  decide

end Config

end MetaLint
