import MetaLint.Proofs.KeyPaths
import MetaLint.Proofs.PrettyReading
import MetaLint.Report.Sarif

/-!
# The table of rules

A log of analysis results is read back from the text of its report. It has one result for each
cleaned issue, in order, and its table lists the rules that its results refer to: each of them once,
in ascending order, and no other one.
-/

set_option autoImplicit false

namespace MetaLint

open Json Jsonc

namespace Sarif

open Value (member?_ofMembers)

def ruleValue (id : String) : Value := .ofMembers [("id", .text id), ("name", .text id)]

def regionValue (r : Result) : Value :=
  .ofMembers (("startLine", .ofNat r.line.toNat) ::
    (r.column.map fun c => ("startColumn", Value.ofNat c.toNat)).toList)

def placeValue (r : Result) : Value :=
  .ofMembers [("physicalLocation", .ofMembers
    [("artifactLocation", .ofMembers [("uri", .text r.path)]), ("region", regionValue r)])]

def Result.toValue (r : Result) : Value :=
  .ofMembers [("ruleId", .text r.ruleId), ("level", .text r.level.name),
    ("message", .ofMembers [("text", .text r.message)]), ("locations", .list [placeValue r])]

def rulesValue (rules : List String) : Members :=
  if rules.isEmpty then [] else [("rules", .list (rules.map ruleValue))]

def driverValue (rules : List String) : Value :=
  .ofMembers ([("name", .text suiteName), ("version", .text suiteVersion)] ++ rulesValue rules)

def Log.runValue (log : Log) : Value :=
  .ofMembers [("tool", .ofMembers [("driver", driverValue log.rules)]),
    ("results", .list (log.results.map Result.toValue))]

def Log.toValue (log : Log) : Value :=
  .ofMembers [("$schema", .text schemaAddress), ("version", .text "2.1.0"),
    ("runs", .list [log.runValue])]

theorem shows_region (r : Result) : Shows (regionDoc r) (regionValue r) := by
  apply shows_object
  refine .cons ⟨rfl, shows_number r.line⟩ ?_
  cases r.column with
  | none => exact .nil
  | some c => exact .cons ⟨rfl, shows_number c⟩ .nil

theorem shows_result (r : Result) : Shows r.toDoc r.toValue := by
  have hplace : Shows (.object [("physicalLocation", .object
      [("artifactLocation", .object [("uri", .text r.path)]), ("region", regionDoc r)])])
      (placeValue r) := by
    refine shows_object (.cons ⟨rfl, shows_object (.cons ⟨rfl, ?_⟩ (.cons ⟨rfl, ?_⟩ .nil))⟩ .nil)
    · exact shows_object (.cons ⟨rfl, shows_text r.path⟩ .nil)
    · exact shows_region r
  apply shows_object
  refine .cons ⟨rfl, shows_text r.ruleId⟩ (.cons ⟨rfl, shows_text r.level.name⟩ ?_)
  refine .cons ⟨rfl, shows_object (.cons ⟨rfl, shows_text r.message⟩ .nil)⟩ ?_
  exact .cons ⟨rfl, shows_list (.cons hplace .nil)⟩ .nil

theorem shows_rule (id : String) : Shows (ruleDoc id) (ruleValue id) :=
  shows_object (.cons ⟨rfl, shows_text id⟩ (.cons ⟨rfl, shows_text id⟩ .nil))

theorem shows_driver (rules : List String) : Shows (driverDoc rules) (driverValue rules) := by
  apply shows_object
  refine .cons ⟨rfl, shows_text suiteName⟩ (.cons ⟨rfl, shows_text suiteVersion⟩ ?_)
  rw [rulesMember, rulesValue]
  split
  · exact .nil
  · exact .cons ⟨rfl, shows_list (forall₂_map_map fun id _ => shows_rule id)⟩ .nil

theorem shows_log (log : Log) : Shows log.toDoc log.toValue := by
  have hrun : Shows (.object [("tool", .object [("driver", driverDoc log.rules)]),
      ("results", .list (log.results.map Result.toDoc))]) log.runValue := by
    refine shows_object (.cons ⟨rfl, shows_object (.cons ⟨rfl, shows_driver log.rules⟩ .nil)⟩ ?_)
    exact .cons ⟨rfl, shows_list (forall₂_map_map fun r _ => shows_result r)⟩ .nil
  apply shows_object
  refine .cons ⟨rfl, shows_text schemaAddress⟩ (.cons ⟨rfl, shows_text "2.1.0"⟩ ?_)
  exact .cons ⟨rfl, shows_list (.cons hrun .nil)⟩ .nil

/-- The level of each severity. -/
inductive Leveled : Severity → String → Prop
  | error : Leveled .error "error"
  | fatal : Leveled .fatal "error"
  | warning : Leveled .warning "warning"
  | refactor : Leveled .refactor "note"
  | convention : Leveled .convention "note"

theorem leveled_ofSeverity (s : Severity) : Leveled s (Level.ofSeverity s).name := by
  cases s with
  | error => exact .error
  | fatal => exact .fatal
  | warning => exact .warning
  | refactor => exact .refactor
  | convention => exact .convention

/-- What a result says of its issue. -/
structure Tells (ctx : ReportContext) (i : Issue) (result : Value) : Prop where
  rule : result.member? "ruleId" =
    some (.text (i.code.elim i.tool fun code => i.tool ++ "/" ++ code))
  level : ∃ level, Leveled i.severity level ∧ result.member? "level" = some (.text level)
  message : result.at? ["message", "text"] = some (.text i.message)
  place : ∃ place, result.member? "locations" = some (.list [place]) ∧
    place.at? ["physicalLocation", "artifactLocation", "uri"] =
      some (.text (i.filename.relativeTo ctx.project)) ∧
    place.at? ["physicalLocation", "region", "startLine"] = some (.ofNat i.line.toNat) ∧
    place.at? ["physicalLocation", "region", "startColumn"] =
      i.character.map fun c => .ofNat c.toNat

theorem ruleId_toValue (r : Result) : r.toValue.member? "ruleId" = some (.text r.ruleId) := by
  simp [Result.toValue, member?_ofMembers, List.lookup_cons]

theorem region_placeValue (r : Result) (key : String) :
    (placeValue r).at? ["physicalLocation", "region", key] = (regionValue r).member? key := by
  simp [placeValue, Value.at?, member?_ofMembers]

theorem startLine_regionValue (r : Result) :
    (regionValue r).member? "startLine" = some (.ofNat r.line.toNat) := by
  cases hc : r.column <;> simp [regionValue, member?_ofMembers, List.lookup_cons, hc]

theorem startColumn_regionValue (r : Result) :
    (regionValue r).member? "startColumn" = r.column.map fun c => .ofNat c.toNat := by
  cases hc : r.column <;> simp [regionValue, member?_ofMembers, List.lookup_cons, hc]

theorem tells_ofIssue (ctx : ReportContext) (i : Issue) :
    Tells ctx i (Result.ofIssue ctx i).toValue where
  rule := ruleId_toValue _
  level := ⟨_, leveled_ofSeverity i.severity, by
    simp [Result.toValue, Result.ofIssue, member?_ofMembers, List.lookup_cons]⟩
  message := by
    simp [Result.toValue, Result.ofIssue, Value.at?, member?_ofMembers, List.lookup_cons]
  place := by
    refine ⟨placeValue (Result.ofIssue ctx i), ?_, ?_, ?_, ?_⟩
    · simp [Result.toValue, member?_ofMembers]
    · simp [placeValue, Result.ofIssue, ReportContext.pathOf, Value.at?, member?_ofMembers,
        List.lookup_cons]
    · rw [region_placeValue, startLine_regionValue]
      rfl
    · rw [region_placeValue, startColumn_regionValue]
      rfl

/-- The table of a run lists these rules, and its results refer to all of them and to no others. -/
structure Tabled (results : List Value) (table : Option Value) (ids : List String) : Prop where
  omitted : table = none ↔ results = []
  listed : ∀ v, table = some v → ∃ rules, v = .list rules ∧
    List.Forall₂ (fun rule id => rule.member? "id" = some (.text id)) rules ids
  ascending : ids.Pairwise fun m n => compare m n = .lt
  referred : ∀ id, id ∈ ids ↔ ∃ result ∈ results, result.member? "ruleId" = some (.text id)
  single : ∀ result ∈ results, ∃ id, result.member? "ruleId" = some (.text id) ∧
    ∃! n : Nat, ids[n]? = some id

section Rules
variable {ctx : ReportContext} {view : List Issue} {id : String}

theorem mem_rules : id ∈ (Log.ofIssues ctx view).rules ↔
    ∃ r ∈ (Log.ofIssues ctx view).results, r.ruleId = id := by
  show id ∈ Keyed.names (Keyed.ofList _) ↔ _
  rw [Keyed.mem_names_ofList]
  simp [Log.ofIssues]

theorem ascending_rules : (Log.ofIssues ctx view).rules.Pairwise fun m n => compare m n = .lt :=
  Keyed.ascending_iff.mp (Keyed.ascending_ofList _)

theorem existsUnique_place (h : id ∈ (Log.ofIssues ctx view).rules) :
    ∃! n : Nat, (Log.ofIssues ctx view).rules[n]? = some id := by
  obtain ⟨n, hn⟩ := List.mem_iff_getElem?.mp h
  refine ⟨n, hn, fun m hm => ?_⟩
  have hlt : m < (Log.ofIssues ctx view).rules.length := (List.getElem?_eq_some_iff.mp hm).1
  have hnodup : (Log.ofIssues ctx view).rules.Nodup := (Keyed.ascending_ofList _).nodup
  exact (List.getElem?_inj hlt hnodup).mp (hm.trans hn.symm)

theorem rules_eq_nil_iff :
    (Log.ofIssues ctx view).rules = [] ↔ (Log.ofIssues ctx view).results = [] := by
  rw [List.eq_nil_iff_forall_not_mem, List.eq_nil_iff_forall_not_mem]
  simp only [mem_rules]
  constructor
  · exact fun h r hr => h r.ruleId ⟨r, hr, rfl⟩
  · rintro h id ⟨r, hr, -⟩
    exact h r hr

end Rules

theorem id_ruleValue (id : String) : (ruleValue id).member? "id" = some (.text id) := by
  simp [ruleValue, member?_ofMembers, List.lookup_cons]

theorem table_runValue (log : Log) : log.runValue.at? ["tool", "driver", "rules"] =
    if log.rules.isEmpty then none else some (.list (log.rules.map ruleValue)) := by
  cases hr : log.rules <;>
    simp [Log.runValue, driverValue, rulesValue, Value.at?, member?_ofMembers, List.lookup_cons, hr]

theorem tabled_ofIssues (ctx : ReportContext) (view : List Issue) :
    Tabled ((Log.ofIssues ctx view).results.map Result.toValue)
      ((Log.ofIssues ctx view).runValue.at? ["tool", "driver", "rules"])
      (Log.ofIssues ctx view).rules := by
  constructor
  · rw [table_runValue, List.map_eq_nil_iff, ← rules_eq_nil_iff]
    simp
  · intro v hv
    rw [table_runValue] at hv
    obtain ⟨-, hv⟩ := Option.ite_none_left_eq_some.mp hv
    refine ⟨_, (Option.some.inj hv).symm, ?_⟩
    rw [List.forall₂_map_left_iff]
    exact List.forall₂_same.mpr fun id _ => id_ruleValue id
  · exact ascending_rules
  · intro id
    simp [mem_rules, ruleId_toValue]
  · intro result hresult
    obtain ⟨r, hr, rfl⟩ := List.mem_map.mp hresult
    exact ⟨r.ruleId, ruleId_toValue r, existsUnique_place (mem_rules.mpr ⟨r, hr, rfl⟩)⟩

def Logs (ctx : ReportContext) (issues : List Issue) (text : String) : Prop :=
  ∃ log run results ids, Config.documentValue text = .ok log ∧
    log.member? "runs" = some (.list [run]) ∧ run.member? "results" = some (.list results) ∧
    List.Forall₂ (Tells ctx) issues results ∧
    Tabled results (run.at? ["tool", "driver", "rules"]) ids

/-- Whatever the collector holds, its log has a result for each cleaned issue, in order, and lists
the rules that they refer to. -/
theorem logs_report (c : Collector) (d : Disk) (ctx : ReportContext) :
    ∃ text, report.render c d ctx = (.ok text, (c.view d).2) ∧
      Logs ctx (c.issues d Issue.defaultOrder).1 text := by
  refine ⟨_, rfl, (Log.ofIssues ctx (c.view d).1).toValue,
    (Log.ofIssues ctx (c.view d).1).runValue, _, _,
    Config.documentValue_line (shows_log _), ?_, ?_, ?_, tabled_ofIssues ctx _⟩
  · simp [Log.toValue, member?_ofMembers]
  · simp [Log.runValue, member?_ofMembers]
  · show List.Forall₂ (Tells ctx) (Issue.sortBy Issue.defaultOrder (c.view d).1) _
    rw [Log.ofIssues, List.map_map, List.forall₂_map_right_iff]
    exact List.forall₂_same.mpr fun i _ => tells_ofIssue ctx i

end Sarif

end MetaLint
