import MetaLint.Command.Check
import MetaLint.Proofs.EnabledNames

/-!
# Options over a configuration

The options of a check edit the blocks that a configuration has, while a run falls back to the
default block of a tool that has none. As a configuration for a registry has a block for each of its
tools, the jobs of a check with named tools are for these and for no others. What no option
addresses stays.
-/

set_option autoImplicit false

namespace MetaLint

namespace CheckArgs

theorem checkNames_eq_ok_iff {r : ToolRegistry} {names : List String} :
    checkNames r names = .ok () ↔ ∀ name ∈ names, r.canRun name = true := by
  induction names with
  | nil => simp [checkNames]
  | cons name rest ih =>
    rw [List.forall_mem_cons, ← ih, checkNames, ← ToolRegistry.canRun]
    cases r.canRun name <;> simp

variable (a : CheckArgs) (c : Config)

theorem tools_override_of_nil (h : a.tools = []) : (a.override c).tools = c.tools := by
  rw [override, h]
  rfl

theorem tools_override (h : a.tools ≠ []) : (a.override c).tools =
    c.tools.mapValues fun name t => { t with enabled := a.tools.contains name } := by
  have hne : a.tools.isEmpty = false := List.isEmpty_eq_false_iff.mpr h
  rw [override, hne]
  rfl

theorem names_override : Keyed.names (a.override c).tools = Keyed.names c.tools := by
  by_cases h : a.tools = []
  · rw [a.tools_override_of_nil c h]
  · rw [a.tools_override c h, Keyed.names_mapValues]

theorem tool?_override (h : a.tools ≠ []) (name : String) : (a.override c).tool? name =
    (c.tool? name).map fun t => { t with enabled := a.tools.contains name } := by
  rw [Config.tool?, a.tools_override c h, Keyed.lookup_mapValues]
  rfl

end CheckArgs

namespace Config

section Names
variable {r : ToolRegistry} {a : CheckArgs} {c : Config} {name : String}

theorem Covers.override (hc : Covers r c) (a : CheckArgs) : Covers r (a.override c) where
  ascending := by
    rw [Keyed.ascending_iff, a.names_override c]
    exact Keyed.ascending_iff.mp hc.ascending
  blocks name h := by
    rw [a.names_override c]
    exact hc.blocks name h

theorem Covers.exists_tool? (hr : r.Sound) (hc : Covers r c) (h : r.canRun name = true) :
    ∃ t, c.tool? name = some t := by
  rw [ToolRegistry.canRun] at h
  cases hget : r.get? name with
  | none => rw [hget] at h; contradiction
  | some tool =>
    obtain ⟨t, ht, -⟩ := hc.exists_blockOf hr hget
    exact ⟨t, ht⟩

theorem Covers.mem_names_override (hr : r.Sound) (hc : Covers r c) (hne : a.tools ≠ [])
    (hrun : ∀ name ∈ a.tools, r.canRun name = true) :
    name ∈ (Job.ofRegistry r (a.override c)).map Job.name ↔ name ∈ a.tools := by
  rw [(hc.override a).mem_names_jobs hr, a.tool?_override c hne]
  constructor
  · rintro ⟨⟨t, ht, he⟩, -⟩
    obtain ⟨old, -, rfl⟩ := Option.map_eq_some_iff.mp ht
    exact List.contains_iff_mem.mp he
  · intro h
    obtain ⟨t, ht⟩ := hc.exists_tool? hr (hrun name h)
    exact ⟨⟨_, by rw [ht, Option.map_some], List.contains_iff_mem.mpr h⟩, hrun name h⟩

theorem Covers.config_override (hr : r.Sound) (hc : Covers r c) (hne : a.tools ≠ []) {j : Job}
    (h : j ∈ Job.ofRegistry r (a.override c)) :
    ∃ t, c.tool? j.name = some t ∧ j.config = { t with enabled := true } := by
  obtain ⟨hget, hblock, he, -⟩ := hr.mem_jobs.mp h
  obtain ⟨t, ht, hblockOf⟩ := (hc.override a).exists_blockOf hr hget
  rw [a.tool?_override c hne] at ht
  obtain ⟨old, hold, rfl⟩ := Option.map_eq_some_iff.mp ht
  rw [hblock, hblockOf] at he
  refine ⟨old, hold, ?_⟩
  rw [hblock, hblockOf]
  exact congrArg (fun enabled => { old with enabled }) he

end Names

theorem covers_loaded (tools : List Tool) (hw : ∀ tool ∈ tools, tool.defaults.options.WellFormed)
    {processors : Nat} {c : Config}
    (hc : c = defaults (ToolRegistry.ofList tools).blocks processors ∨
      ∃ text, ofDocument (ToolRegistry.ofList tools).blocks text processors = .ok c) :
    Covers (ToolRegistry.ofList tools) c := by
  rcases hc with rfl | ⟨text, htext⟩
  · exact covers_defaults (ToolRegistry.sound_ofList tools)
  · obtain ⟨v, -, -, hl⟩ := (ofDocument_eq_ok (ascending_blocks tools) fun name t ht => by
      obtain ⟨tool, htool, rfl⟩ := lookup_blocks ht
      exact hw tool htool).mp htext
    exact hl.covers

/-- Jobs for the tools of these names, each with its block, which enables it now. -/
structure JobsFor (r : ToolRegistry) (c : Config) (names : List String) (jobs : List Job) :
    Prop where
  ascending : (jobs.map Job.name).Pairwise fun m n => compare m n = .lt
  names : ∀ name, name ∈ jobs.map Job.name ↔ name ∈ names
  registered : ∀ j ∈ jobs, r.get? j.name = some j.tool
  config : ∀ j ∈ jobs, ∃ t, c.tool? j.name = some t ∧ j.config = { t with enabled := true }

/-- What no option addresses is in `d` as it is in `c`. -/
structure Spares (a : CheckArgs) (c d : Config) : Prop where
  exclude : a.excludes = [] → d.exclude = c.exclude
  mergeIssues : a.disableMerge = false → d.mergeIssues = c.mergeIssues
  noqa : a.disableNoqa = false → d.noqa = c.noqa
  workers : a.workers = none → d.workers = c.workers
  reports : a.reports = [] → d.reports = c.reports
  tools : a.tools = [] → d.tools = c.tools
  blocks : d.tools.mapValues (fun _ t => { t with enabled := true }) =
    c.tools.mapValues fun _ t => { t with enabled := true }
  disabled : d.disabled = c.disabled
  noqaExtensions : d.noqaExtensions = c.noqaExtensions
  respectGitignore : d.respectGitignore = c.respectGitignore

theorem spares_override (a : CheckArgs) (c : Config) : Spares a c (a.override c) where
  exclude h := by rw [CheckArgs.override, h]; rfl
  mergeIssues h := by rw [CheckArgs.override, h]; exact Bool.and_true _
  noqa h := by rw [CheckArgs.override, h]; exact Bool.and_true _
  workers h := by rw [CheckArgs.override, h]; rfl
  reports h := by rw [CheckArgs.override, h]; rfl
  tools := a.tools_override_of_nil c
  blocks := by
    by_cases h : a.tools = []
    · rw [a.tools_override_of_nil c h]
    · rw [a.tools_override c h]
      simp [Keyed.mapValues, Function.comp_def]
  disabled := rfl
  noqaExtensions := rfl
  respectGitignore := rfl

/-- What the options of a check make of the configuration that was loaded. -/
structure Overrides (r : ToolRegistry) (a : CheckArgs) (c : Config) : Prop where
  jobs : a.tools ≠ [] → CheckArgs.checkNames r a.tools = .ok () →
    JobsFor r c a.tools (Job.ofRegistry r (a.override c))
  spares : Spares a c (a.override c)

theorem overrides_loaded (tools : List Tool)
    (hw : ∀ tool ∈ tools, tool.defaults.options.WellFormed) (processors : Nat) (c : Config)
    (hc : c = defaults (ToolRegistry.ofList tools).blocks processors ∨
      ∃ text, ofDocument (ToolRegistry.ofList tools).blocks text processors = .ok c)
    (a : CheckArgs) :
    Overrides (ToolRegistry.ofList tools) a c := by
  have hr := ToolRegistry.sound_ofList tools
  have hcovers := covers_loaded tools hw hc
  refine ⟨fun hne hnames => ?_, spares_override a c⟩
  have hrun := CheckArgs.checkNames_eq_ok_iff.mp hnames
  constructor
  · apply List.Pairwise.sublist (ToolRegistry.names_jobs_sublist _ _)
    rw [hr.names_eq]
    exact Keyed.ascending_iff.mp hr.ascending
  · exact fun name => hcovers.mem_names_override hr hne hrun
  · exact fun j hj => (hr.mem_jobs.mp hj).1
  · exact fun j hj => hcovers.config_override hr hne hj

def idleText : String :=
  "\x7b \"tools\": \x7b \"whitespace\": \x7b \"use\": false \x7d \x7d \x7d"

def idleConfig : Config :=
  { workers := 3,
    tools := [("jsonlint", Tool.jsonLint.defaults),
      ("whitespace", { Tool.whitespace.defaults with enabled := false })] }

theorem overrides_idle :
    (∀ tool ∈ [Tool.whitespace, .jsonLint], tool.defaults.options.WellFormed) ∧
    ofDocument (ToolRegistry.ofList [.whitespace, .jsonLint]).blocks idleText 4 =
      .ok idleConfig ∧
    JobsFor (ToolRegistry.ofList [.whitespace, .jsonLint]) idleConfig ["whitespace"]
      (Job.ofRegistry (ToolRegistry.ofList [.whitespace, .jsonLint])
        (CheckArgs.override { tools := ["whitespace"] } idleConfig)) := by
  have hw : ∀ tool ∈ [Tool.whitespace, .jsonLint], tool.defaults.options.WellFormed := by
    simp only [List.forall_mem_cons]
    exact ⟨wellFormed_whitespace,
      Json.Value.everywhere_object.mpr ⟨List.Pairwise.nil, by simp⟩, by simp⟩
  have hc : ofDocument (ToolRegistry.ofList [.whitespace, .jsonLint]).blocks idleText 4 =
      .ok idleConfig := by cbv
  have h := overrides_loaded _ hw 4 idleConfig (.inr ⟨idleText, hc⟩) { tools := ["whitespace"] }
  exact ⟨hw, hc, h.jobs (by simp) rfl⟩

end Config

end MetaLint
