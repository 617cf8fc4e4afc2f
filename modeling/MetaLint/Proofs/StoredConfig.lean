import MetaLint.Proofs.Loading
import MetaLint.Proofs.PrettyReading
import MetaLint.Proofs.TextBytes

/-!
# Stored configurations

The record of a configuration whose options are objects passes the schema, and its document is read
as that record. The options of a report stand beside its other fields, so they must not have their
names.
-/

set_option autoImplicit false

namespace MetaLint

open Json Jsonc

theorem Config.passes_texts (ss : List String) : Config.texts.Passes (.ofTexts ss) := by
  refine Schema.passes_list.mpr ⟨_, rfl, fun v hv => ?_⟩
  obtain ⟨s, -, rfl⟩ := List.mem_map.mp hv
  exact Schema.passes_text.mpr ⟨s, rfl⟩

namespace ReportConfig

/-- The options can be told from the other fields, nothing in them stands for an embedded value, and
the file has a text for its name. -/
structure Storable (r : ReportConfig) : Prop where
  ascending : Keyed.Ascending r.options
  separate : ∀ m ∈ r.options, m.1 ≠ "type" ∧ m.1 ≠ "file"
  wellFormed : ∀ m ∈ r.options, m.2.WellFormed
  plain : ∀ m ∈ r.options, m.2.Plain
  file : ∀ p, r.file = some p → p.raw.IsText

def listed (r : ReportConfig) : Members := ("type", .text r.kind) :: r.fileMember ++ r.options

theorem mem_fileMember {r : ReportConfig} {m : String × Value} :
    m ∈ r.fileMember ↔ ∃ p, r.file = some p ∧ m = ("file", .text p.text) := by
  rw [fileMember]
  cases r.file <;> simp

section Storable
variable {r : ReportConfig} (h : r.Storable)
include h

theorem Storable.lookup_options :
    r.options.lookup "type" = none ∧ r.options.lookup "file" = none := by
  rw [Keyed.lookup_eq_none_iff, Keyed.lookup_eq_none_iff]
  constructor <;>
  · intro hmem
    obtain ⟨m, hm, hname⟩ := List.mem_map.mp hmem
    have hne := h.separate m hm
    simp [hname] at hne

theorem Storable.nodup : (Keyed.names r.listed).Nodup := by
  obtain ⟨htype, hfile⟩ := h.lookup_options
  rw [Keyed.lookup_eq_none_iff] at htype hfile
  have hnodup := h.ascending.nodup
  rw [listed, fileMember]
  cases r.file <;> simp_all [Keyed.names]

theorem Storable.mem_iff {m : String × Value} : m ∈ Keyed.ofList r.listed ↔ m ∈ r.listed :=
  Keyed.mem_ofList_iff h.nodup

theorem Storable.passes : Config.reportSchema.Passes r.toValue := by
  refine Schema.passes_record.mpr ⟨Keyed.ofList r.listed, rfl, ?_, ?_⟩
  · intro name hname
    obtain rfl := List.mem_singleton.mp hname
    exact List.mem_map.mpr ⟨_, h.mem_iff.mpr List.mem_cons_self, rfl⟩
  · intro m hm
    rcases List.mem_cons.mp (h.mem_iff.mp hm) with rfl | hm
    · exact (Schema.passesMember_of_field rfl).mpr (Schema.passes_text.mpr ⟨_, rfl⟩)
    rcases List.mem_append.mp hm with hm | hm
    · obtain ⟨p, -, rfl⟩ := mem_fileMember.mp hm
      exact (Schema.passesMember_of_field rfl).mpr (Schema.passes_text.mpr ⟨_, rfl⟩)
    · obtain ⟨htype, hfile⟩ := h.separate m hm
      apply Schema.passesMember_any
      rw [Keyed.lookup_eq_none_iff]
      simp [Keyed.names, htype, hfile]

theorem Storable.others_eq : others (Keyed.ofList r.listed) = r.options := by
  apply Keyed.Ascending.ext_mem ((Keyed.ascending_ofList _).filter _) h.ascending
  intro m
  rw [List.mem_filter, h.mem_iff, listed, List.cons_append, List.mem_cons, List.mem_append,
    mem_fileMember]
  constructor
  · rintro ⟨rfl | ⟨p, -, rfl⟩ | hm, hne⟩
    · simp at hne
    · simp at hne
    · exact hm
  · intro hm
    exact ⟨.inr (.inr hm), by simpa using h.separate m hm⟩

theorem Storable.loaded : Loaded r.toValue r := by
  have hlookup : ∀ key, r.toValue.member? key = r.listed.lookup key := fun key =>
    Keyed.lookup_ofList_of_nodup h.nodup
  refine ⟨?_, ?_, Keyed.ofList r.listed, rfl, ?_, fun _ => h.others_eq.symm⟩
  · rw [hlookup, listed]
    rfl
  · rw [hlookup, listed, List.cons_append, Keyed.lookup_cons_of_ne (by decide), fileMember]
    cases hp : r.file with
    | none =>
      rw [Option.map_none, Option.toList_none, List.nil_append, h.lookup_options.2]
      rfl
    | some p =>
      have hraw : OsText.ofText p.text = p.raw := OsText.IsText.ofText_shown (h.file p hp)
      exact ⟨p.text, rfl, by rw [hraw]⟩
  · rw [h.others_eq]
    exact membersTakenOver_of_forall _ fun m hm => takenOver_of_plain _ (h.plain m hm)

theorem Storable.shows (hwhole : ∀ m ∈ r.options, m.2.Whole) : Shows r.toDoc r.toValue := by
  have hmembers : ∀ m ∈ r.listed, Shows (Doc.ofValue m.2) m.2 := by
    intro m hm
    rcases List.mem_cons.mp hm with rfl | hm
    · exact shows_ofValue (Value.wellFormed_text _) (Value.whole_text _)
    rcases List.mem_append.mp hm with hm | hm
    · obtain ⟨p, -, rfl⟩ := mem_fileMember.mp hm
      exact shows_ofValue (Value.wellFormed_text _) (Value.whole_text _)
    · exact shows_ofValue (h.wellFormed m hm) (hwhole m hm)
  rw [toDoc, ofMembers_eq_map]
  exact shows_object (forall₂_map_self fun m hm => ⟨rfl, hmembers m hm⟩)

end Storable

end ReportConfig

namespace ToolConfig

/-- The options are an object, and nothing in it stands for an embedded value. -/
structure Storable (t : ToolConfig) : Prop where
  object : ∃ members, t.options = .object members
  wellFormed : t.options.WellFormed
  plain : t.options.Plain

section Storable
variable {t : ToolConfig}

theorem passes_toValue (h : ∃ members, t.options = .object members) :
    Config.toolSchema.Passes t.toValue := by
  refine Schema.passes_record.mpr ⟨t.members, rfl, by simp, ?_⟩
  simp only [members, List.forall_mem_cons]
  exact ⟨(Schema.passesMember_of_field rfl).mpr (Config.passes_texts _),
    (Schema.passesMember_of_field rfl).mpr (Config.passes_texts _),
    (Schema.passesMember_of_field rfl).mpr (Schema.passes_object.mpr h),
    (Schema.passesMember_of_field rfl).mpr (Schema.passes_bool.mpr ⟨_, rfl⟩), by simp⟩

theorem shows_toDoc (hw : t.options.WellFormed) (hwhole : t.options.Whole) :
    Shows t.toDoc t.toValue := by
  have horder : Value.ofMembers [("use", .bool t.enabled), ("filters", .ofTexts t.filters),
      ("disabled", .ofTexts t.disabled), ("options", t.options)] = t.toValue := by
    cbv
  rw [← horder, toDoc]
  refine shows_object (.cons ⟨rfl, ?_⟩ (.cons ⟨rfl, shows_texts _⟩
    (.cons ⟨rfl, shows_texts _⟩ (.cons ⟨rfl, shows_ofValue hw hwhole⟩ .nil))))
  exact shows_ofValue (Value.wellFormed_bool _) (Value.whole_bool _)

end Storable

end ToolConfig

namespace Config

structure Storable (c : Config) : Prop where
  ascending : Keyed.Ascending c.tools
  worker : c.workers ≠ 0
  workers : c.workers < UInt64.size
  tools : ∀ m ∈ c.tools, m.2.Storable
  reports : ∀ r ∈ c.reports, r.Storable

/-- There are no fractions in the options of tools and reports. -/
structure Whole (c : Config) : Prop where
  tools : ∀ m ∈ c.tools, m.2.options.Whole
  reports : ∀ r ∈ c.reports, ∀ m ∈ r.options, m.2.Whole

section Storable
variable {c : Config}

theorem passes_blocks {tools : Keyed ToolConfig} {f : ToolConfig → Value}
    (h : ∀ m ∈ tools, toolSchema.Passes (f m.2)) :
    (Schema.record [] [] (.each toolSchema)).Passes (.object (tools.mapValues fun _ t => f t)) := by
  refine Schema.passes_record.mpr ⟨_, rfl, by simp, fun m hm => ?_⟩
  obtain ⟨t, ht, rfl⟩ := List.mem_map.mp hm
  exact (Schema.passesMember_each rfl).mpr (h t ht)

theorem Storable.passes_members (h : c.Storable) {tools : Value}
    (ht : (Schema.record [] [] (.each toolSchema)).Passes tools) :
    schema.Passes (.object (c.members tools)) := by
  have hreports : (Schema.list reportSchema).Passes
      (.list (c.reports.map ReportConfig.toValue)) := by
    refine Schema.passes_list.mpr ⟨_, rfl, fun v hv => ?_⟩
    obtain ⟨r, hr, rfl⟩ := List.mem_map.mp hv
    exact (h.reports r hr).passes
  have hworkers : (Schema.count 1).Passes (.ofNat c.workers) :=
    Schema.passes_count_ofNat.mpr (Nat.pos_of_ne_zero h.worker)
  refine Schema.passes_record.mpr ⟨_, rfl, by simp, ?_⟩
  simp only [members, List.forall_mem_cons]
  exact ⟨(Schema.passesMember_of_field rfl).mpr (passes_texts _),
    (Schema.passesMember_of_field rfl).mpr (passes_texts _),
    (Schema.passesMember_of_field rfl).mpr (Schema.passes_bool.mpr ⟨_, rfl⟩),
    (Schema.passesMember_of_field rfl).mpr (Schema.passes_bool.mpr ⟨_, rfl⟩),
    (Schema.passesMember_of_field rfl).mpr (passes_texts _),
    (Schema.passesMember_of_field rfl).mpr hreports,
    (Schema.passesMember_of_field rfl).mpr (Schema.passes_bool.mpr ⟨_, rfl⟩),
    (Schema.passesMember_of_field rfl).mpr ht,
    (Schema.passesMember_of_field rfl).mpr hworkers, by simp⟩

theorem Storable.passes (h : c.Storable) : schema.Passes c.toValue :=
  h.passes_members (passes_blocks fun m hm => ToolConfig.passes_toValue (h.tools m hm).object)

theorem shows_toDoc (ha : Keyed.Ascending c.tools) (hworkers : c.workers < UInt64.size)
    (hoptions : ∀ m ∈ c.tools, m.2.options.WellFormed) (hstorable : ∀ r ∈ c.reports, r.Storable)
    (hwhole : c.Whole) : Shows c.toDoc c.toValue := by
  have hbool : ∀ b, Shows (Doc.ofValue (.bool b)) (.bool b) := fun b =>
    shows_ofValue (Value.wellFormed_bool b) (Value.whole_bool b)
  have hreports : Shows (.list (c.reports.map ReportConfig.toDoc))
      (.list (c.reports.map ReportConfig.toValue)) := by
    apply shows_list
    exact forall₂_map_map fun r hr => (hstorable r hr).shows (hwhole.reports r hr)
  have htools : Shows (.object (c.tools.mapValues fun _ t => t.toDoc)) (toolsValue c.tools) := by
    have hvalue : toolsValue c.tools =
        Value.ofMembers (c.tools.mapValues fun _ t => t.toValue) := by
      rw [Value.ofMembers, Keyed.ofList_of_ascending (ha.mapValues _), toolsValue]
    rw [hvalue]
    apply shows_object
    exact forall₂_map_map fun m hm =>
      ⟨rfl, ToolConfig.shows_toDoc (hoptions m hm) (hwhole.tools m hm)⟩
  have horder : Value.ofMembers [("exclude", .ofTexts c.exclude),
      ("merge-issues", .bool c.mergeIssues), ("workers", .ofNat c.workers),
      ("disabled", .ofTexts c.disabled), ("noqa", .bool c.noqa),
      ("noqa-extensions", .ofTexts c.noqaExtensions),
      ("respect-gitignore", .bool c.respectGitignore),
      ("reports", .list (c.reports.map ReportConfig.toValue)),
      ("tools", toolsValue c.tools)] = c.toValue := by
    cbv
  rw [← horder, toDoc]
  exact shows_object (.cons ⟨rfl, shows_texts _⟩ (.cons ⟨rfl, hbool _⟩
    (.cons ⟨rfl, shows_nat hworkers⟩ (.cons ⟨rfl, shows_texts _⟩ (.cons ⟨rfl, hbool _⟩
    (.cons ⟨rfl, shows_texts _⟩ (.cons ⟨rfl, hbool _⟩ (.cons ⟨rfl, hreports⟩
    (.cons ⟨rfl, htools⟩ .nil)))))))))

theorem Storable.shows (h : c.Storable) (hwhole : c.Whole) : Shows c.toDoc c.toValue :=
  shows_toDoc h.ascending h.workers (fun m hm => (h.tools m hm).wellFormed) h.reports hwhole

end Storable

end Config

end MetaLint
