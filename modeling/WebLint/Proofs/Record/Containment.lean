import WebLint.Proofs.Traversal
import WebLint.Record.Instance

namespace WebLint

variable {α β ρ : Type}

/-- Is the fault one of a configuration, or of an input that comes with it? The faults of adapting
an item and of a stage are expected, too, but of their own kinds. -/
def Fault.isConfiguration : Fault → Bool
  | .adaptation .. | .stage .. => false
  | f => f.isExpected

/-- The job stops with a fault that is not one of a configuration. -/
def Escapes (x : Except Fault α) (f : Fault) : Prop :=
  x = .error f ∧ f.isConfiguration = false

/-- Whatever fault stops the job, it is one of a configuration. -/
def Contained (x : Except Fault α) : Prop :=
  ∀ f, x = .error f → f.isConfiguration = true

theorem Contained.ok (a : α) : Contained (.ok a) := by
  intro f h
  cases h

theorem Contained.error {f : Fault} (hf : f.isConfiguration = true) :
    Contained (.error f : Except Fault α) := by
  intro f' h
  cases h
  exact hf

theorem Contained.map {x : Except Fault α} (hx : Contained x) (g : α → β) :
    Contained (x.map g) :=
  fun f h => hx f (map_eq_error_iff.mp h)

theorem Contained.mapM {g : α → Except Fault β} {as : List α} (h : ∀ a ∈ as, Contained (g a)) :
    Contained (as.mapM g) := by
  induction as with
  | nil => exact .ok []
  | cons a as ih =>
    intro f hf
    rw [List.mapM_cons] at hf
    rcases bind_eq_error_iff.mp hf with hf | ⟨b, -, hf⟩
    · exact h a List.mem_cons_self f hf
    · rcases bind_eq_error_iff.mp hf with hf | ⟨bs, -, hf⟩
      · exact ih (fun a ha => h a (List.mem_cons_of_mem _ ha)) f hf
      · cases hf

/-- A fault behind a contained job is one of a job that did what it should. -/
theorem escapes_bind_iff {x : Except Fault α} {g : α → Except Fault β} {f : Fault}
    (hg : ∀ a, x = .ok a → Contained (g a)) : Escapes (x >>= g) f ↔ Escapes x f := by
  constructor
  · rintro ⟨h, hf⟩
    rcases bind_eq_error_iff.mp h with h | ⟨a, ha, h⟩
    · exact ⟨h, hf⟩
    · rw [hg a ha f h] at hf
      cases hf
  · rintro ⟨h, hf⟩
    exact ⟨bind_eq_error_iff.mpr (.inl h), hf⟩

/-! ### Checks -/

/-- Whatever fault stops the check, it is of a kind. -/
def Check.Within (c : Check α) (P : Fault → Prop) : Prop :=
  ∀ f, c = .fault f → P f

/-- The faults of a rule are of a kind, whatever the value. -/
def Rule.Within (rule : Rule α) (P : Fault → Prop) : Prop :=
  ∀ v, (rule v).Within P

variable {P : Fault → Prop}

namespace Check

theorem Within.ok (a : α) : (ok a).Within P := by
  intro f h
  cases h

theorem Within.problems (ps : List Problem) : (problems ps : Check α).Within P := by
  intro f h
  cases h

theorem Within.map {c : Check α} (hc : c.Within P) (g : α → β) : (g <$> c).Within P := by
  cases c with
  | ok a => exact .ok (g a)
  | problems ps => exact .problems ps
  | fault f => exact fun f' h => hc f' (by cases h; rfl)

theorem Within.seq {c : Check (α → β)} {d : Check α} (hc : c.Within P) (hd : d.Within P) :
    (c <*> d).Within P := by
  intro f h
  cases c with
  | fault f' => exact hc f (by cases h; rfl)
  | ok g =>
    cases d with
    | fault f' => exact hd f (by cases h; rfl)
    | _ => cases h
  | problems ps =>
    cases d with
    | fault f' => exact hd f (by cases h; rfl)
    | _ => cases h

theorem Within.under {c : Check α} (hc : c.Within P) (s : Step) : (c.under s).Within P := by
  cases c with
  | ok a => exact .ok a
  | problems ps => exact .problems _
  | fault f => exact hc

theorem within_items {rule : Rule α} (hrule : rule.Within P) (i : Nat) (vs : List Value) :
    (items rule i vs).Within P := by
  induction vs generalizing i with
  | nil => exact .ok []
  | cons v vs ih => exact (((hrule v).under _).map _).seq (ih (i + 1))

variable (fs : List Field)

theorem within_required {rule : Rule α} (hrule : rule.Within P) (name : Text) :
    (required fs name rule).Within P := by
  unfold required
  split
  · exact .problems _
  · next v hv => exact (hrule v).under _

theorem within_defaulted {rule : Rule α} (hrule : rule.Within P) (name : Text) (a : α) :
    (defaulted fs name a rule).Within P := by
  unfold defaulted
  split
  · exact .ok a
  · next v hv => exact (hrule v).under _

theorem within_closed {known : List Text} {c : Check α} (hc : c.Within P) :
    (closed fs known c).Within P := by
  refine (hc.map _).seq ?_
  unfold onlyFields
  split
  · exact .ok ()
  · exact .problems _

end Check

/-! ### Rules -/

open Check

namespace Rule

theorem within_text : Rule.Within text P := by
  intro v
  unfold text
  split
  · exact .ok _
  · exact .problems _

theorem within_optional {rule : Rule α} (h : rule.Within P) : (optional rule).Within P := by
  intro v
  unfold optional
  split
  · exact .ok none
  · exact (h v).map some

theorem within_list {rule : Rule α} (h : rule.Within P) : (list rule).Within P := by
  intro v
  unfold list
  split
  · next vs => exact within_items h 0 vs
  · exact .problems _

theorem within_sequence {rule : Rule α} (h : rule.Within P) : (sequence rule).Within P := by
  intro v
  unfold Rule.sequence
  split
  · next vs => exact within_items h 0 vs
  · exact .problems _

theorem within_integerText (t : Text) : (integerText t).Within P := by
  unfold integerText
  split
  · exact .problems _
  · dsimp only
    split
    · exact .problems _
    · split
      · exact .problems _
      · exact .ok _

theorem within_integer : Rule.Within integer P := by
  intro v
  unfold integer
  split
  · exact .ok _
  · exact .ok _
  · split
    · exact .problems _
    · split
      · exact .problems _
      · split
        · exact .problems _
        · exact .ok _
  · exact within_integerText _
  · exact .problems _

theorem within_boolean : Rule.Within boolean P := by
  intro v
  unfold boolean
  split
  · exact .ok _
  · split
    · exact .ok _
    · split
      · exact .ok _
      · split <;> exact .problems _
  · split
    · split
      · exact .ok _
      · split
        · exact .ok _
        · split <;> exact .problems _
    · exact .problems _
  · split
    · exact .problems _
    · split
      · exact .ok _
      · exact .problems _
  · exact .problems _

theorem within_choice (ofName? : Text → Option α) (k : ProblemKind) :
    (choice ofName? k).Within P := by
  intro v
  unfold choice
  split
  · split
    · exact .ok _
    · exact .problems _
  · exact .problems _

theorem within_record {fields : List Field → Check α}
    (h : ∀ fs, (fields fs).Within P) : (record fields).Within P := by
  intro v
  unfold record
  split
  · next fs => exact h fs
  · exact .problems _

end Rule

theorem within_integerField (fs : List Field) (name : Text) :
    (integerField fs name).Within P :=
  within_defaulted fs (Rule.within_optional Rule.within_integer) name none

theorem within_textField (fs : List Field) (name : Text) : (textField fs name).Within P :=
  within_defaulted fs (Rule.within_optional Rule.within_text) name none

/-! ### Records -/

theorem LinterRecord.within_rule : Rule.Within LinterRecord.rule P := by
  refine Rule.within_record fun fs => ?_
  have hinteger := within_integerField (P := P) fs
  have htext := within_textField (P := P) fs
  exact ((((((hinteger _).map _).seq (hinteger _)).seq (htext _)).seq (htext _)).seq
    (htext _)).seq (htext _)

theorem CssRecord.within_rule : Rule.Within CssRecord.rule P := by
  refine Rule.within_record fun fs => ?_
  have hinteger := within_integerField (P := P) fs
  have htext := within_textField (P := P) fs
  exact ((((((hinteger _).map _).seq (hinteger _)).seq (htext _)).seq (htext _)).seq
    (htext _)).seq (htext _)

theorem Item.within_rule : Rule.Within Item.rule P := by
  refine Rule.within_record fun fs => ?_
  have hinteger := within_integerField (P := P) fs
  have htext := within_textField (P := P) fs
  exact (((((htext _).map _).seq (hinteger _)).seq (hinteger _)).seq (htext _)).seq (htext _)

theorem Entry.within_pathRule : Rule.Within Entry.pathRule P := by
  intro v
  unfold Entry.pathRule
  split
  · split
    · exact .problems _
    · exact .ok _
  · exact .problems _

theorem Entry.within_rule : Rule.Within Entry.rule P := by
  refine Rule.within_record fun fs => ?_
  have hpath := within_required (P := P) fs Entry.within_pathRule "resource_path"
  have hitems := within_defaulted (P := P) fs (Rule.within_sequence Item.within_rule) "items" []
  exact (hpath.map _).seq hitems

theorem Report.within_rule : Rule.Within Report.rule P := by
  refine Rule.within_record fun fs => ?_
  have hentries := within_defaulted (P := P) fs (Rule.within_list Entry.within_rule) "entries" []
  exact hentries.map _

theorem Resource.within_uriRule : Rule.Within Resource.uriRule P := by
  intro v
  unfold Resource.uriRule
  split
  · split
    · exact .problems _
    · split
      · exact .problems _
      · exact .ok _
  · exact .problems _

theorem Resource.within_rule : Rule.Within Resource.rule P := by
  refine Rule.within_record fun fs => ?_
  have huri := within_required (P := P) fs Resource.within_uriRule "uri"
  have htype := within_required (P := P) fs
    (Rule.within_choice ResourceType.ofName? .unknownMember) "type"
  have hminimize := within_defaulted (P := P) fs Rule.within_boolean "minimize" true
  exact ((huri.map _).seq htype).seq hminimize

/-! ### Settings -/

/-- Only an integer of too many digits prevents that an unknown dialect is shown. -/
theorem Dialect.ofValue_eq_error {v : Value} {f : Fault} (h : ofValue v = .error f) :
    f = .unknownDialect v ∨ f = .integerTooLong := by
  unfold ofValue Fault.quoting at h
  dsimp only at h
  split at h
  · cases h
  · split at h <;> cases h
    · exact .inr rfl
    · exact .inl rfl

/-- Of a dialect, only an unknown name is a fault of its own. -/
theorem Dialect.within_rule (hP : ∀ v, P (.unknownDialect v)) : Rule.Within Dialect.rule P := by
  intro v
  unfold Dialect.rule
  split
  · exact .ok _
  · exact .problems _
  · next f hlong hvalue =>
    rcases ofValue_eq_error hvalue with rfl | rfl
    · exact fun f h => by cases h; exact hP v
    · exact absurd rfl hlong

theorem Path.within_rule : Rule.Within Path.rule P := by
  intro v
  unfold Path.rule
  split
  · exact .ok _
  · exact .problems _

theorem ReportSettings.within_rule (hP : ∀ v, P (.unknownDialect v)) :
    Rule.Within ReportSettings.rule P := by
  refine Rule.within_record fun fs => within_closed fs ?_
  have hdialect := within_defaulted fs (Dialect.within_rule hP) "dialect" .checkstyle
  refine ((hdialect.map _).seq (within_defaulted fs ?_ "tool" Tool.linter)).seq
    (within_defaulted fs ?_ "output" none)
  · exact Rule.within_choice Tool.ofName? .unknownChoice
  · exact Rule.within_optional Path.within_rule

theorem PipelineSettings.within_rule : Rule.Within PipelineSettings.rule P := by
  refine Rule.within_record fun fs => within_closed fs ?_
  have hstages := within_defaulted (P := P) fs (Rule.within_list Rule.within_text) "stages"
    ["strip-comments", "trim-lines"]
  have hminimize := within_defaulted (P := P) fs Rule.within_boolean "minimize" true
  exact (hstages.map _).seq hminimize

theorem OutputSettings.within_rule : Rule.Within OutputSettings.rule P := by
  refine Rule.within_record fun fs => within_closed fs ?_
  have hboolean := within_defaulted (P := P) fs Rule.within_boolean
  exact (((hboolean _ _).map _).seq (hboolean _ _)).seq (hboolean _ _)

theorem Settings.within_rule (hP : ∀ v, P (.unknownDialect v)) :
    Rule.Within Settings.rule P := by
  refine Rule.within_record fun fs => within_closed fs ?_
  have hreport := within_defaulted fs (ReportSettings.within_rule hP) "report" {}
  exact ((hreport.map _).seq (within_defaulted fs PipelineSettings.within_rule "pipeline" {})).seq
    (within_defaulted fs OutputSettings.within_rule "output" {})

/-- The check of a record of any type raises no fault but that of an unknown dialect. -/
theorem RecordType.within (type : RecordType) (hP : ∀ v, P (.unknownDialect v)) :
    Rule.Within type.rule P := by
  intro v
  cases type with
  | resource => exact (Resource.within_rule v).map _
  | item => exact (Item.within_rule v).map _
  | entry => exact (Entry.within_rule v).map _
  | report => exact (Report.within_rule v).map _
  | linterRecord => exact (LinterRecord.within_rule v).map _
  | cssRecord => exact (CssRecord.within_rule v).map _
  | reportSettings => exact (ReportSettings.within_rule hP v).map _
  | pipelineSettings => exact (PipelineSettings.within_rule v).map _
  | outputSettings => exact (OutputSettings.within_rule v).map _
  | settings => exact (Settings.within_rule hP v).map _

theorem RecordType.within_rule (type : RecordType) :
    Rule.Within type.rule (·.isConfiguration) :=
  type.within fun _ => rfl

end WebLint
