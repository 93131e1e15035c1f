import WebLint.Proofs.Record
import WebLint.Settings.Record

namespace WebLint

namespace Check

variable {α : Type} {rule : Rule α} {fs : List Field} {key : Text} {a b : α}

def Means (rule : Rule α) (default : α) (v? : Option Value) (a : α) : Prop :=
  v?.elim (a = default) fun v => rule v = .ok a

/-- A value that comes before another one is read with what the other means as its default. -/
theorem Means.over {c : α} {v? w? : Option Value} (hw : Means rule a w? b)
    (hv : Means rule b v? c) : Means rule a (v?.or w?) c := by
  cases v? with
  | none =>
    obtain rfl : c = b := hv
    exact hw
  | some v => exact hv

theorem defaulted_eq_ok_iff_means :
    defaulted fs key a rule = .ok b ↔ Means rule a (fieldOf? fs key) b := by
  unfold defaulted
  cases fieldOf? fs key with
  | none =>
    constructor
    · rintro ⟨⟩
      rfl
    · rintro rfl
      rfl
  | some v => exact under_eq_ok_iff

theorem onlyFields_eq_ok_iff {known : List Text} :
    onlyFields fs known = .ok () ↔ ∀ f ∈ fs, f.1 ∈ known := by
  have hnone : (fs.map (·.1)).filter (!known.contains ·) = [] ↔ ∀ f ∈ fs, f.1 ∈ known := by
    simp [List.filter_eq_nil_iff]
  rw [← hnone, onlyFields]
  cases (fs.map (·.1)).filter (!known.contains ·) with
  | nil => exact iff_of_true rfl rfl
  | cons name names =>
    refine iff_of_false ?_ (List.cons_ne_nil name names)
    rintro ⟨⟩

theorem closed_eq_ok_iff {known : List Text} {c : Check α} :
    closed fs known c = .ok a ↔ (∀ f ∈ fs, f.1 ∈ known) ∧ c = .ok a := by
  rw [closed, seq_eq_ok_iff, ← onlyFields_eq_ok_iff]
  simp only [map_eq_ok_iff]
  constructor
  · rintro ⟨g, ⟨a', ha', rfl⟩, ⟨⟩, hfields, rfl⟩
    exact ⟨hfields, ha'⟩
  · rintro ⟨hfields, ha⟩
    exact ⟨_, ⟨a, ha, rfl⟩, (), hfields, rfl⟩

theorem record_eq_ok_iff {fields : List Field → Check α} {v : Value} :
    Rule.record fields v = .ok a ↔ ∃ fs, v = .object fs ∧ fields fs = .ok a := by
  cases v with
  | object fs => simp [Rule.record]
  | _ => simp [Rule.record, problem]

end Check

open Check

/-! ### Sections -/

namespace ReportSettings

variable {value? given? : Text → Option Value} {d s s' : ReportSettings}

/-- The settings of a section, each read from its value, or else from other settings. -/
structure Reads (d : ReportSettings) (value? : Text → Option Value) (s : ReportSettings) :
    Prop where
  dialect : Means Dialect.rule d.dialect (value? "dialect") s.dialect
  tool : Means Tool.rule d.tool (value? "tool") s.tool
  output : Means (Rule.optional Path.rule) d.output (value? "output") s.output

theorem rule_eq_ok_iff {v : Value} :
    rule v = .ok s ↔ ∃ fs, v = .object fs ∧ (∀ f ∈ fs, f.1 ∈ fieldNames) ∧
      Reads {} (fieldOf? fs) s := by
  unfold rule
  simp only [record_eq_ok_iff, closed_eq_ok_iff, seq_eq_ok_iff, Check.map_eq_ok_iff,
    defaulted_eq_ok_iff_means]
  constructor
  · rintro ⟨fs, rfl, hknown, _, ⟨_, ⟨d, hd, rfl⟩, tool, htool, rfl⟩, output, houtput, rfl⟩
    exact ⟨fs, rfl, hknown, hd, htool, houtput⟩
  · rintro ⟨fs, rfl, hknown, hd, htool, houtput⟩
    exact ⟨fs, rfl, hknown, _, ⟨_, ⟨_, hd, rfl⟩, _, htool, rfl⟩, _, houtput, rfl⟩

theorem reads_none_iff : Reads d (fun _ => none) s ↔ s = d := by
  constructor
  · rintro ⟨hd, htool, houtput⟩
    cases s
    cases hd
    cases htool
    cases houtput
    rfl
  · rintro rfl
    exact ⟨rfl, rfl, rfl⟩

theorem Reads.over (h : Reads d value? s) (h' : Reads s given? s') :
    Reads d (fun key => (given? key).or (value? key)) s' :=
  ⟨h.dialect.over h'.dialect, h.tool.over h'.tool, h.output.over h'.output⟩

end ReportSettings

namespace PipelineSettings

variable {value? given? : Text → Option Value} {d s s' : PipelineSettings}

/-- The settings of a section, each read from its value, or else from other settings. -/
structure Reads (d : PipelineSettings) (value? : Text → Option Value) (s : PipelineSettings) :
    Prop where
  stages : Means (Rule.list Rule.text) d.stages (value? "stages") s.stages
  minimize : Means Rule.boolean d.minimize (value? "minimize") s.minimize

theorem rule_eq_ok_iff {v : Value} :
    rule v = .ok s ↔ ∃ fs, v = .object fs ∧ (∀ f ∈ fs, f.1 ∈ fieldNames) ∧
      Reads {} (fieldOf? fs) s := by
  unfold rule
  simp only [record_eq_ok_iff, closed_eq_ok_iff, seq_eq_ok_iff, Check.map_eq_ok_iff,
    defaulted_eq_ok_iff_means]
  constructor
  · rintro ⟨fs, rfl, hknown, _, ⟨stages, hstages, rfl⟩, minimize, hminimize, rfl⟩
    exact ⟨fs, rfl, hknown, hstages, hminimize⟩
  · rintro ⟨fs, rfl, hknown, hstages, hminimize⟩
    exact ⟨fs, rfl, hknown, _, ⟨_, hstages, rfl⟩, _, hminimize, rfl⟩

theorem reads_none_iff : Reads d (fun _ => none) s ↔ s = d := by
  constructor
  · rintro ⟨hstages, hminimize⟩
    cases s
    cases hstages
    cases hminimize
    rfl
  · rintro rfl
    exact ⟨rfl, rfl⟩

theorem Reads.over (h : Reads d value? s) (h' : Reads s given? s') :
    Reads d (fun key => (given? key).or (value? key)) s' :=
  ⟨h.stages.over h'.stages, h.minimize.over h'.minimize⟩

end PipelineSettings

namespace OutputSettings

variable {value? given? : Text → Option Value} {d s s' : OutputSettings}

/-- The settings of a section, each read from its value, or else from other settings. -/
structure Reads (d : OutputSettings) (value? : Text → Option Value) (s : OutputSettings) :
    Prop where
  color : Means Rule.boolean d.color (value? "color") s.color
  emoji : Means Rule.boolean d.emoji (value? "emoji") s.emoji
  quiet : Means Rule.boolean d.quiet (value? "quiet") s.quiet

theorem rule_eq_ok_iff {v : Value} :
    rule v = .ok s ↔ ∃ fs, v = .object fs ∧ (∀ f ∈ fs, f.1 ∈ fieldNames) ∧
      Reads {} (fieldOf? fs) s := by
  unfold rule
  simp only [record_eq_ok_iff, closed_eq_ok_iff, seq_eq_ok_iff, Check.map_eq_ok_iff,
    defaulted_eq_ok_iff_means]
  constructor
  · rintro ⟨fs, rfl, hknown, _, ⟨_, ⟨color, hcolor, rfl⟩, emoji, hemoji, rfl⟩, quiet, hquiet, rfl⟩
    exact ⟨fs, rfl, hknown, hcolor, hemoji, hquiet⟩
  · rintro ⟨fs, rfl, hknown, hcolor, hemoji, hquiet⟩
    exact ⟨fs, rfl, hknown, _, ⟨_, ⟨_, hcolor, rfl⟩, _, hemoji, rfl⟩, _, hquiet, rfl⟩

theorem reads_none_iff : Reads d (fun _ => none) s ↔ s = d := by
  constructor
  · rintro ⟨hcolor, hemoji, hquiet⟩
    cases s
    cases hcolor
    cases hemoji
    cases hquiet
    rfl
  · rintro rfl
    exact ⟨rfl, rfl, rfl⟩

theorem Reads.over (h : Reads d value? s) (h' : Reads s given? s') :
    Reads d (fun key => (given? key).or (value? key)) s' :=
  ⟨h.color.over h'.color, h.emoji.over h'.emoji, h.quiet.over h'.quiet⟩

end OutputSettings

/-! ### Tables -/

namespace Settings

variable {table : List Field} {s : Settings}

def setting? (table : List Field) (section_ key : Text) : Option Value :=
  match fieldOf? table section_ with
  | some (.object fs) => fieldOf? fs key
  | _ => none

def IsTidy (table : List Field) (section_ : Text) (keys : List Text) : Prop :=
  ∀ v, fieldOf? table section_ = some v → ∃ fs, v = .object fs ∧ ∀ f ∈ fs, f.1 ∈ keys

theorem setting?_of_section {section_ : Text} {fs : List Field}
    (h : fieldOf? table section_ = some (.object fs)) : setting? table section_ = fieldOf? fs := by
  funext key
  rw [setting?, h]

theorem means_section_iff (table : List Field) (section_ : Text) {ρ : Type} {rule : Rule ρ}
    {default r : ρ} {keys : List Text} {Reads : (Text → Option Value) → ρ → Prop}
    (hrule : ∀ v, rule v = .ok r ↔
      ∃ fs, v = .object fs ∧ (∀ f ∈ fs, f.1 ∈ keys) ∧ Reads (fieldOf? fs) r)
    (hnone : Reads (fun _ => none) r ↔ r = default) :
    Means rule default (fieldOf? table section_) r ↔
      IsTidy table section_ keys ∧ Reads (setting? table section_) r := by
  unfold IsTidy
  cases hsection : fieldOf? table section_ with
  | none =>
    have hsetting : setting? table section_ = fun _ => none := by
      funext key
      rw [setting?, hsection]
    rw [hsetting, hnone]
    refine ⟨fun h => ⟨fun v hv => ?_, h⟩, And.right⟩
    cases hv
  | some v =>
    refine (hrule v).trans ⟨?_, ?_⟩
    · rintro ⟨fs, rfl, hkeys, hreads⟩
      rw [setting?_of_section hsection]
      refine ⟨fun v hv => ?_, hreads⟩
      cases hv
      exact ⟨fs, rfl, hkeys⟩
    · rintro ⟨htidy, hreads⟩
      obtain ⟨fs, rfl, hkeys⟩ := htidy v rfl
      rw [setting?_of_section hsection] at hreads
      exact ⟨fs, rfl, hkeys, hreads⟩

structure Tidy (table : List Field) : Prop where
  sections : ∀ f ∈ table, f.1 ∈ fieldNames
  report : IsTidy table "report" ReportSettings.fieldNames
  pipeline : IsTidy table "pipeline" PipelineSettings.fieldNames
  output : IsTidy table "output" OutputSettings.fieldNames

structure Reads (table : List Field) (s : Settings) : Prop where
  report : ReportSettings.Reads {} (setting? table "report") s.report
  pipeline : PipelineSettings.Reads {} (setting? table "pipeline") s.pipeline
  output : OutputSettings.Reads {} (setting? table "output") s.output

theorem rule_eq_ok_iff_means : rule (.object table) = .ok s ↔ (∀ f ∈ table, f.1 ∈ fieldNames) ∧
    Means ReportSettings.rule {} (fieldOf? table "report") s.report ∧
    Means PipelineSettings.rule {} (fieldOf? table "pipeline") s.pipeline ∧
    Means OutputSettings.rule {} (fieldOf? table "output") s.output := by
  rw [rule, Rule.record]
  simp only [closed_eq_ok_iff, seq_eq_ok_iff, Check.map_eq_ok_iff, defaulted_eq_ok_iff_means]
  constructor
  · rintro ⟨hknown, _, ⟨_, ⟨r, hr, rfl⟩, p, hp, rfl⟩, o, ho, rfl⟩
    exact ⟨hknown, hr, hp, ho⟩
  · rintro ⟨hknown, hr, hp, ho⟩
    exact ⟨hknown, _, ⟨_, ⟨_, hr, rfl⟩, _, hp, rfl⟩, _, ho, rfl⟩

/-- The rule for settings asks for a tidy table and reads each setting from its own value. -/
theorem rule_eq_ok_iff : rule (.object table) = .ok s ↔ Tidy table ∧ Reads table s := by
  have hreport := means_section_iff table "report"
    (fun _ => ReportSettings.rule_eq_ok_iff) (ReportSettings.reads_none_iff (s := s.report))
  have hpipeline := means_section_iff table "pipeline"
    (fun _ => PipelineSettings.rule_eq_ok_iff) (PipelineSettings.reads_none_iff (s := s.pipeline))
  have houtput := means_section_iff table "output"
    (fun _ => OutputSettings.rule_eq_ok_iff) (OutputSettings.reads_none_iff (s := s.output))
  rw [rule_eq_ok_iff_means, hreport, hpipeline, houtput]
  constructor
  · rintro ⟨hknown, ⟨hrtidy, hr⟩, ⟨hptidy, hp⟩, hotidy, ho⟩
    exact ⟨⟨hknown, hrtidy, hptidy, hotidy⟩, hr, hp, ho⟩
  · rintro ⟨⟨hknown, hrtidy, hptidy, hotidy⟩, hr, hp, ho⟩
    exact ⟨hknown, ⟨hrtidy, hr⟩, ⟨hptidy, hp⟩, hotidy, ho⟩

end Settings

end WebLint
