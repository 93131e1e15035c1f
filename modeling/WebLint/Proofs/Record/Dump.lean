import WebLint.Proofs.Path
import WebLint.Proofs.Record.Session
import WebLint.Proofs.Settings.Tables
import WebLint.Record.Instance

namespace WebLint

open Check

/-! ### What is written of a part -/

section

variable {α : Type} {fs : List Field} {key : Text}

/-- A part that may be absent says what it was written from. -/
theorem says_ofOption {rule : Rule α} {f : α → Value} {o : Option α}
    (hrule : ∀ a, rule (f a) = .ok a) (hnull : ∀ a, f a ≠ .null)
    (h : fieldOf? fs key = some (.ofOption f o)) : Says rule fs key o := by
  cases o with
  | none => exact .null h
  | some a => exact .value h (hnull a) (hrule a)

theorem says_text {o : Option Text} (h : fieldOf? fs key = some (.ofOption .text o)) :
    Says Rule.text fs key o :=
  says_ofOption (f := .text) (fun _ => rfl) (fun _ h => nomatch h) h

theorem says_integer {o : Option Int} (h : fieldOf? fs key = some (.ofOption .int o)) :
    Says Rule.integer fs key o :=
  says_ofOption (f := .int) (fun _ => rfl) (fun _ h => nomatch h) h

end

theorem Rule.list_map {α : Type} {rule : Rule α} {f : α → Value} {as : List α}
    (h : ∀ a ∈ as, rule (f a) = .ok a) : list rule (.list (as.map f)) = .ok as := by
  refine list_eq_ok_iff.mpr ⟨_, rfl, ?_⟩
  rw [List.forall₂_map_left_iff]
  exact List.forall₂_same.mpr h

theorem known_of_keys {fs : List Field} {known : List Text} (h : fs.map (·.1) = known) :
    ∀ f ∈ fs, f.1 ∈ known :=
  fun _ hf => h ▸ List.mem_map_of_mem hf

/-! ### Resources and records of tools -/

namespace Resource

variable {r : Resource} {v : Value}

/-- A text that a resource can be named by: it is not empty, and all of it can be encoded. -/
def IsUri (t : Text) : Prop :=
  t ≠ [] ∧ ∀ c ∈ t, c.isSurrogate = false

theorem uriRule_eq_ok_iff {t : Text} : uriRule v = .ok t ↔ v = .text t ∧ IsUri t := by
  cases v with
  | text s =>
    have hany : s.any Code.isSurrogate = false ↔ ∀ c ∈ s, c.isSurrogate = false := by simp
    rw [uriRule, IsUri, Value.text.injEq]
    split
    · next h =>
      refine iff_of_false (fun h => nomatch h) ?_
      rintro ⟨rfl, -, hs⟩
      exact absurd (hany.mpr hs) (by simp [h])
    · next h =>
      split
      · next hnil =>
        refine iff_of_false (fun h => nomatch h) ?_
        rintro ⟨rfl, hne, -⟩
        exact hne (List.isEmpty_iff.mp hnil)
      · next hne =>
        constructor
        · intro hs
          cases hs
          refine ⟨rfl, ?_, hany.mp (eq_false_of_ne_true h)⟩
          exact fun hnil => hne (List.isEmpty_iff.mpr hnil)
        · rintro ⟨rfl, -⟩
          rfl
  | _ => simp [uriRule, problem]

theorem rule_eq_ok_iff {fs : List Field} : rule (.object fs) = .ok r ↔
    (∃ v, fieldOf? fs "uri" = some v ∧ uriRule v = .ok r.uri) ∧
    (∃ v, fieldOf? fs "type" = some v ∧
      Rule.choice ResourceType.ofName? .unknownMember v = .ok r.type) ∧
    Means Rule.boolean true (fieldOf? fs "minimize") r.minimize := by
  rw [rule, Rule.record]
  simp only [seq_eq_ok_iff, Check.map_eq_ok_iff, required_eq_ok_iff, defaulted_eq_ok_iff_means]
  constructor
  · rintro ⟨_, ⟨_, ⟨uri, huri, rfl⟩, type, htype, rfl⟩, minimize, hminimize, rfl⟩
    exact ⟨huri, htype, hminimize⟩
  · rintro ⟨huri, htype, hminimize⟩
    exact ⟨_, ⟨_, ⟨_, huri, rfl⟩, _, htype, rfl⟩, _, hminimize, rfl⟩

theorem choice_name (k : ResourceType) :
    Rule.choice ResourceType.ofName? .unknownMember (.text k.name) = .ok k := by
  cases k <;> rfl

theorem isUri_of_rule (h : rule v = .ok r) : IsUri r.uri := by
  obtain ⟨fs, rfl, -⟩ := record_eq_ok_iff.mp h
  obtain ⟨⟨v, -, hv⟩, -⟩ := rule_eq_ok_iff.mp h
  exact (uriRule_eq_ok_iff.mp hv).2

/-- What a resource is made of, if it is given by its three parts and the type by its name. -/
theorem rule_parts_eq_ok_iff {uri : Text} {type : ResourceType} {minimize : Value} :
    rule (.object [("uri", .text uri), ("type", .text type.name), ("minimize", minimize)]) =
        .ok r ↔
      r.uri = uri ∧ IsUri uri ∧ r.type = type ∧ Rule.boolean minimize = .ok r.minimize := by
  have huri : uriRule (.text uri) = .ok r.uri ↔ r.uri = uri ∧ IsUri uri := by
    rw [uriRule_eq_ok_iff, Value.text.injEq]
    constructor
    · rintro ⟨rfl, h⟩
      exact ⟨rfl, h⟩
    · rintro ⟨rfl, h⟩
      exact ⟨rfl, h⟩
  have htype : Rule.choice ResourceType.ofName? .unknownMember (.text type.name) = .ok r.type ↔
      r.type = type := by
    rw [choice_name, Check.ok.injEq, eq_comm]
  rw [rule_eq_ok_iff]
  change (∃ v, some (Value.text uri) = some v ∧ _) ∧
    (∃ v, some (Value.text type.name) = some v ∧ _) ∧ Rule.boolean minimize = _ ↔ _
  simp only [Option.some.injEq, exists_eq_left', huri, htype, and_assoc]

theorem rule_toValue (h : IsUri r.uri) : rule r.toValue = .ok r :=
  rule_parts_eq_ok_iff.mpr ⟨rfl, h, rfl, rfl⟩

end Resource

theorem LinterRecord.rule_toValue (r : LinterRecord) : rule r.toValue = .ok r :=
  rule_eq_ok_iff.mpr ⟨says_integer rfl, says_integer rfl, says_text rfl, says_text rfl,
    says_text rfl, says_text rfl⟩

theorem CssRecord.rule_toValue (r : CssRecord) : rule r.toValue = .ok r :=
  rule_eq_ok_iff.mpr ⟨says_integer rfl, says_integer rfl, says_text rfl, says_text rfl,
    says_text rfl, says_text rfl⟩

/-! ### Reports -/

namespace Report

variable {r : Report} {v : Value}

theorem isBlank_path_of_entriesRule {es : List Entry} (h : entriesRule v = .ok es) :
    ∀ e ∈ es, e.path.isBlank = false := by
  obtain ⟨vs, -, hes⟩ := Rule.list_eq_ok_iff.mp h
  intro e he
  obtain ⟨v, hv⟩ := exists_forall₂_left_iff.mp ⟨_, hes.flip⟩ e he
  exact Entry.isBlank_path_of_rule hv

theorem isBlank_path_of_rule (h : rule v = .ok r) : ∀ e ∈ r.entries, e.path.isBlank = false := by
  obtain ⟨fs, -, h⟩ := record_eq_ok_iff.mp h
  obtain ⟨es, hes, rfl⟩ := Check.map_eq_ok_iff.mp h
  rw [defaulted_eq_ok_iff_means] at hes
  cases hfield : fieldOf? fs "entries" with
  | none =>
    rw [hfield] at hes
    obtain rfl : es = [] := hes
    exact fun e he => absurd he List.not_mem_nil
  | some v =>
    rw [hfield] at hes
    exact isBlank_path_of_entriesRule hes

theorem rule_toValue (h : ∀ e ∈ r.entries, e.path.isBlank = false) : rule r.toValue = .ok r := by
  have hentries : entriesRule (.list (r.entries.map Entry.toValue)) = .ok r.entries :=
    Rule.list_map fun e he => Entry.rule_toValue (h e he)
  change mk <$> (entriesRule _).under _ = _
  rw [hentries]
  rfl

end Report

/-! ### Settings -/

/-- Where the output goes is given in normal form. -/
def ReportSettings.IsSound (s : ReportSettings) : Prop :=
  ∀ p ∈ s.output, p.IsNormal

theorem Path.isNormal_of_optional_rule {v : Value} {o : Option Path}
    (h : Rule.optional rule v = .ok o) : ∀ p ∈ o, p.IsNormal := by
  rcases Rule.optional_eq_ok_iff.mp h with ⟨-, rfl⟩ | ⟨-, p, hp, rfl⟩
  · exact fun p hp => nomatch hp
  · rintro _ ⟨⟩
    cases v with
    | text t =>
      cases hp
      exact isNormal_ofText t
    | _ => cases hp

theorem ReportSettings.Reads.isSound {value? : Text → Option Value} {s : ReportSettings}
    (h : Reads {} value? s) : s.IsSound := by
  have houtput := h.output
  cases hvalue : value? "output" with
  | none =>
    rw [hvalue] at houtput
    have hnone : s.output = none := houtput
    rw [IsSound, hnone]
    exact fun p hp => nomatch hp
  | some v =>
    rw [hvalue] at houtput
    exact Path.isNormal_of_optional_rule houtput

theorem ReportSettings.isSound_of_rule {v : Value} {s : ReportSettings} (h : rule v = .ok s) :
    s.IsSound := by
  obtain ⟨fs, -, -, hreads⟩ := rule_eq_ok_iff.mp h
  exact hreads.isSound

theorem ReportSettings.rule_toValue {s : ReportSettings} (h : s.IsSound) :
    rule s.toValue = .ok s := by
  have hdialect : Dialect.rule (.text s.dialect.name) = .ok s.dialect := by
    cases s.dialect <;> rfl
  have htool : Tool.rule (.text s.tool.name) = .ok s.tool := by
    cases s.tool <;> rfl
  have houtput : Rule.optional Path.rule (.ofOption (.text ·.text) s.output) = .ok s.output := by
    cases hs : s.output with
    | none => rfl
    | some p =>
      change (.ok (some (Path.ofText p.text)) : Check (Option Path)) = .ok (some p)
      rw [Path.ofText_text (h p hs)]
  exact rule_eq_ok_iff.mpr ⟨_, rfl, known_of_keys rfl, hdialect, htool, houtput⟩

theorem PipelineSettings.rule_toValue (s : PipelineSettings) : rule s.toValue = .ok s := by
  have hstages : Rule.list Rule.text (.list (s.stages.map .text)) = .ok s.stages :=
    Rule.list_map fun _ _ => rfl
  exact rule_eq_ok_iff.mpr ⟨_, rfl, known_of_keys rfl, hstages, rfl⟩

theorem OutputSettings.rule_toValue (s : OutputSettings) : rule s.toValue = .ok s :=
  rule_eq_ok_iff.mpr ⟨_, rfl, known_of_keys rfl, rfl, rfl, rfl⟩

namespace Settings

variable {s : Settings} {v : Value}

theorem isSound_of_rule (h : rule v = .ok s) : s.report.IsSound := by
  obtain ⟨fs, rfl, -⟩ := record_eq_ok_iff.mp h
  exact (rule_eq_ok_iff.mp h).2.report.isSound

theorem rule_toValue (h : s.report.IsSound) : rule s.toValue = .ok s :=
  rule_eq_ok_iff_means.mpr ⟨known_of_keys rfl, ReportSettings.rule_toValue h,
    PipelineSettings.rule_toValue s.pipeline, OutputSettings.rule_toValue s.output⟩

end Settings

/-! ### Records of any type -/

/-- What holds of every record that was checked. -/
def Instance.IsSound : Instance → Prop
  | resource r => Resource.IsUri r.uri
  | entry e => e.path.isBlank = false
  | report r => ∀ e ∈ r.entries, e.path.isBlank = false
  | reportSettings s => s.IsSound
  | settings s => s.report.IsSound
  | _ => True

theorem RecordType.isSound_of_check {k : RecordType} {v : Value} {x : Instance}
    (h : k.check v = .ok x) : x.type = k ∧ x.IsSound := by
  rw [check, run_eq_ok_iff] at h
  cases k <;> obtain ⟨a, ha, rfl⟩ := Check.map_eq_ok_iff.mp h
  case resource => exact ⟨rfl, Resource.isUri_of_rule ha⟩
  case entry => exact ⟨rfl, Entry.isBlank_path_of_rule ha⟩
  case report => exact ⟨rfl, Report.isBlank_path_of_rule ha⟩
  case reportSettings => exact ⟨rfl, ReportSettings.isSound_of_rule ha⟩
  case settings => exact ⟨rfl, Settings.isSound_of_rule ha⟩
  all_goals exact ⟨rfl, trivial⟩

/-- A record is checked without change if and only if it is one that can come of a check. -/
theorem Instance.check_toValue_iff {x : Instance} :
    x.type.check x.toValue = .ok x ↔ x.IsSound := by
  refine ⟨fun h => (RecordType.isSound_of_check h).2, fun h => ?_⟩
  rw [RecordType.check, run_eq_ok_iff]
  cases x <;> refine Check.map_eq_ok_iff.mpr ⟨_, ?_, rfl⟩
  case resource => exact Resource.rule_toValue h
  case item => exact Item.rule_toValue _
  case entry => exact Entry.rule_toValue h
  case report => exact Report.rule_toValue h
  case linterRecord => exact LinterRecord.rule_toValue _
  case cssRecord => exact CssRecord.rule_toValue _
  case reportSettings => exact ReportSettings.rule_toValue h
  case pipelineSettings => exact PipelineSettings.rule_toValue _
  case outputSettings => exact OutputSettings.rule_toValue _
  case settings => exact Settings.rule_toValue h

end WebLint
