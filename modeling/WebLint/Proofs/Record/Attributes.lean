import WebLint.Proofs.Record.Dump

namespace WebLint

open Check

def RecordType.isFrozen : RecordType → Bool
  | resource | item | entry | linterRecord | cssRecord => true
  | report | reportSettings | pipelineSettings | outputSettings | settings => false

namespace Instance

variable {α β : Type} {name target : Text} {v : Value} {x y : Instance}

def session (x : Instance) (steps : List (Text × Value)) : Instance :=
  steps.foldl (fun x s => x.assigned s.1 s.2) x

/-- A name that starts with a low line and has no dots names no attribute of any record, unless it
stands for the record as a whole. -/
def IsHidden (target : Text) : Prop :=
  dot ∉ target ∧ target.head? = some '_' ∧
    target ∉ (["__dict__", "__class__", "__weakref__", "__fields_set__"] : List Text)

instance (target : Text) : Decidable (IsHidden target) :=
  inferInstanceAs (Decidable (_ ∧ _))

theorem isPrivate_iff : isPrivate name = true ↔ name.head? = some '_' ∧
    name ∉ (["__dict__", "__class__", "__weakref__", "__fields_set__"] : List Text) := by
  rw [isPrivate, Bool.and_eq_true, beq_iff_eq, Bool.not_eq_true', List.contains_eq_mem,
    decide_eq_false_iff_not]
  rfl

/-! ### One assignment -/

theorem refusal_ne_ok {k : ProblemKind} {a : α} : refusal name k ≠ .ok a :=
  fun h => nomatch h

theorem unknown_ne_ok {a : α} : unknown name ≠ .ok a := by
  unfold unknown
  split
  · exact fun h => nomatch h
  · exact refusal_ne_ok

/-- An assignment that succeeds is one to this field, or one that the fields behind it take. -/
theorem field_or_rest {p : Prop} [Decidable p] {rule : Rule α} {f : α → β} {rest : Check β} {b : β}
    (h : (if p then f <$> checked name rule v else rest) = .ok b) :
    (∃ a, rule v = .ok a ∧ f a = b) ∨ rest = .ok b := by
  split at h
  · obtain ⟨a, ha, rfl⟩ := Check.map_eq_ok_iff.mp h
    exact .inl ⟨a, under_eq_ok_iff.mp ha, rfl⟩
  · exact .inr h

theorem isSound_of_assignReport {s s' : ReportSettings} (hs : s.IsSound)
    (h : assignReport s name v = .ok s') : s'.IsSound := by
  obtain ⟨d, -, rfl⟩ | h := field_or_rest h
  · exact hs
  obtain ⟨tool, -, rfl⟩ | h := field_or_rest h
  · exact hs
  obtain ⟨o, ho, rfl⟩ | h := field_or_rest h
  · exact Path.isNormal_of_optional_rule ho
  · exact absurd h unknown_ne_ok

theorem isSound_of_assignSettings {s s' : Settings} (hs : s.report.IsSound)
    (h : assignSettings s name v = .ok s') : s'.report.IsSound := by
  obtain ⟨r, hr, rfl⟩ | h := field_or_rest h
  · exact ReportSettings.isSound_of_rule hr
  obtain ⟨p, -, rfl⟩ | h := field_or_rest h
  · exact hs
  obtain ⟨o, -, rfl⟩ | h := field_or_rest h
  · exact hs
  · exact absurd h unknown_ne_ok

theorem isBlank_path_of_assignEntries {r r' : Report} (h : assignEntries r name v = .ok r') :
    ∀ e ∈ r'.entries, e.path.isBlank = false := by
  obtain ⟨es, hes, rfl⟩ | h := field_or_rest h
  · exact Report.isBlank_path_of_entriesRule hes
  split at h
  · cases h
  · exact absurd h unknown_ne_ok

/-- An assignment to a record itself gives a record of the same type, as sound as it was. -/
theorem isSound_of_assignField (hx : x.IsSound) (h : assignField name v x = .ok y) :
    y.type = x.type ∧ y.IsSound := by
  unfold assignField at h
  split at h
  · cases h
    exact ⟨rfl, hx⟩
  split at h
  · cases h
  split at h
  · obtain ⟨r, hr, rfl⟩ := Check.map_eq_ok_iff.mp h
    exact ⟨rfl, isBlank_path_of_assignEntries hr⟩
  · obtain ⟨s, hs, rfl⟩ := Check.map_eq_ok_iff.mp h
    exact ⟨rfl, isSound_of_assignReport hx hs⟩
  · obtain ⟨s, -, rfl⟩ := Check.map_eq_ok_iff.mp h
    exact ⟨rfl, trivial⟩
  · obtain ⟨s, -, rfl⟩ := Check.map_eq_ok_iff.mp h
    exact ⟨rfl, trivial⟩
  · obtain ⟨s, hs, rfl⟩ := Check.map_eq_ok_iff.mp h
    exact ⟨rfl, isSound_of_assignSettings hx hs⟩
  · exact absurd h refusal_ne_ok

/-- An assignment to a part of all settings leaves them as sound as they were. -/
theorem isSound_of_assignPart {s s' : Settings} {part : Text} (hs : s.report.IsSound)
    (h : assignPart s part name v = .ok s') : s'.report.IsSound := by
  unfold assignPart at h
  split at h
  · cases h
    exact hs
  split at h
  · cases h
  split at h
  · obtain ⟨r, hr, rfl⟩ := WebLint.map_eq_ok_iff.mp h
    exact isSound_of_assignReport hs (run_eq_ok_iff.mp hr)
  split at h
  · obtain ⟨p, -, rfl⟩ := WebLint.map_eq_ok_iff.mp h
    exact hs
  split at h
  · obtain ⟨o, -, rfl⟩ := WebLint.map_eq_ok_iff.mp h
    exact hs
  · cases h

theorem isSound_of_assign (hx : x.IsSound) (h : x.assign target v = .ok y) :
    y.type = x.type ∧ y.IsSound := by
  unfold assign assignPath at h
  split at h
  · exact isSound_of_assignField hx (run_eq_ok_iff.mp h)
  · obtain ⟨s, hs, rfl⟩ := WebLint.map_eq_ok_iff.mp h
    exact ⟨rfl, isSound_of_assignPart hx hs⟩
  · cases h

theorem assigned_of_error {f : Fault} (h : x.assign target v = .error f) :
    x.assigned target v = x := by
  rw [assigned, h]

theorem assigned_of_ok (h : x.assign target v = .ok y) : x.assigned target v = y := by
  rw [assigned, h]

theorem assign_frozen_eq_ok_iff (hx : x.type.isFrozen = true) :
    x.assign target v = .ok y ↔ IsHidden target ∧ y = x := by
  have hfield : ∀ name, assignField name v x =
      if isPrivate name then .ok x
      else if reserved.contains name then .fault (reservedFault name v)
      else refusal name .frozen := by
    intro name
    cases x <;> first | rfl | cases hx
  rw [IsHidden, ← isPrivate_iff, assign]
  by_cases hdot : dot ∈ target
  · refine iff_of_false (fun h => ?_) fun h => h.1.1 hdot
    unfold assignPath at h
    split at h
    · next hname => exact (Text.splitOn_eq_singleton_iff.mp hname).1 hdot
    · cases hx
    · cases h
  · rw [Text.splitOn_of_not_mem hdot, assignPath, run_eq_ok_iff, hfield]
    split
    · next hprivate =>
      constructor
      · intro h
        cases h
        exact ⟨⟨hdot, hprivate⟩, rfl⟩
      · rintro ⟨-, rfl⟩
        rfl
    · next hprivate =>
      refine iff_of_false (fun h => ?_) fun h => hprivate h.1.2
      split at h
      · cases h
      · exact refusal_ne_ok h

theorem assign_frozen_eq_error_iff (hx : x.type.isFrozen = true) :
    (∃ f, x.assign target v = .error f) ↔ ¬ IsHidden target := by
  cases h : x.assign target v with
  | ok y =>
    obtain ⟨hhidden, -⟩ := (assign_frozen_eq_ok_iff hx).mp h
    exact iff_of_false (fun ⟨f, hf⟩ => nomatch hf) fun hnot => hnot hhidden
  | error f =>
    refine iff_of_true ⟨f, rfl⟩ fun hhidden => ?_
    rw [(assign_frozen_eq_ok_iff hx).mpr ⟨hhidden, rfl⟩] at h
    cases h

/-! ### All assignments -/

theorem isSound_assigned (hx : x.IsSound) (target : Text) (v : Value) :
    (x.assigned target v).type = x.type ∧ (x.assigned target v).IsSound := by
  cases h : x.assign target v with
  | ok y =>
    rw [assigned_of_ok h]
    exact isSound_of_assign hx h
  | error f =>
    rw [assigned_of_error h]
    exact ⟨rfl, hx⟩

theorem isSound_session (hx : x.IsSound) (steps : List (Text × Value)) :
    (x.session steps).type = x.type ∧ (x.session steps).IsSound := by
  induction steps generalizing x with
  | nil => exact ⟨rfl, hx⟩
  | cons s steps ih =>
    obtain ⟨htype, hsound⟩ := isSound_assigned hx s.1 s.2
    obtain ⟨htype', hsound'⟩ := ih hsound
    exact ⟨htype'.trans htype, hsound'⟩

theorem assigned_frozen (hx : x.type.isFrozen = true) (target : Text) (v : Value) :
    x.assigned target v = x := by
  cases h : x.assign target v with
  | ok y =>
    rw [assigned_of_ok h]
    exact ((assign_frozen_eq_ok_iff hx).mp h).2
  | error f => exact assigned_of_error h

theorem session_frozen (hx : x.type.isFrozen = true) (steps : List (Text × Value)) :
    x.session steps = x := by
  induction steps with
  | nil => rfl
  | cons s steps ih =>
    rw [session, List.foldl_cons, assigned_frozen hx]
    exact ih

theorem session_concat (x : Instance) (steps : List (Text × Value)) (target : Text) (v : Value) :
    x.session (steps ++ [(target, v)]) = (x.session steps).assigned target v := by
  rw [session, List.foldl_concat]
  rfl

/-- All that settings can look like when they are written: a dialect and a tool by their names, no
output or the text of a path in normal form, and the names of stages. -/
inductive IsSettings : Value → Prop
  | intro (d : Dialect) (tool : Tool) {output : Value} (stages : List Text)
    (minimize color emoji quiet : Bool)
    (houtput : output = .null ∨ ∃ p : Path, p.IsNormal ∧ Path.ofText p.text = p ∧
      output = .text p.text) :
    IsSettings (.object [
      ("report", .object [
        ("dialect", .text d.name), ("tool", .text tool.name), ("output", output)]),
      ("pipeline", .object [
        ("stages", .list (stages.map .text)), ("minimize", .bool minimize)]),
      ("output", .object [
        ("color", .bool color), ("emoji", .bool emoji), ("quiet", .bool quiet)])])

theorem isSettings_toValue (hx : x.IsSound) (hsettings : x.type = .settings) :
    IsSettings x.toValue := by
  cases x with
  | settings s =>
    refine .intro _ _ _ _ _ _ _ ?_
    cases houtput : s.report.output with
    | none => exact .inl rfl
    | some p =>
      have hnormal : p.IsNormal := hx p houtput
      exact .inr ⟨p, hnormal, Path.ofText_text hnormal, rfl⟩
  | _ => cases hsettings

/-- Whatever is assigned to a record that was checked, in whatever order: the record keeps its type
and is checked again without change, an assignment that fails leaves it as it was, a frozen record
never changes and takes nothing but what is no attribute, and settings stay settings. -/
theorem check_session {k : RecordType} {data : Value} (h : k.check data = .ok x)
    (steps : List (Text × Value)) :
    (x.session steps).type = k ∧
    k.check (x.session steps).toValue = .ok (x.session steps) ∧
    (∀ target v f, (x.session steps).assign target v = .error f →
      x.session (steps ++ [(target, v)]) = x.session steps) ∧
    (k.isFrozen = true → x.session steps = x ∧
      ∀ target v, (∃ f, (x.session steps).assign target v = .error f) ↔ ¬ IsHidden target) ∧
    (k = .settings → IsSettings (x.session steps).toValue) := by
  obtain ⟨rfl, hx⟩ := RecordType.isSound_of_check h
  obtain ⟨htype, hsound⟩ := isSound_session hx steps
  have hcheck := check_toValue_iff.mpr hsound
  rw [htype] at hcheck
  refine ⟨htype, hcheck, fun target v f hf => ?_, fun hfrozen => ?_, fun hsettings => ?_⟩
  · rw [session_concat, assigned_of_error hf]
  · refine ⟨session_frozen hfrozen steps, fun target v => assign_frozen_eq_error_iff ?_⟩
    rwa [htype]
  · exact isSettings_toValue hsound (htype.trans hsettings)

def looseTable : Value :=
  .object [
    ("report", .object [("dialect", .text " Checkstyle "), ("output", .text "a//b/./c")]),
    ("pipeline", .object [("minimize", .text "off")])]

def looseSettings : Instance :=
  .settings {
    report := { output := some ⟨.none, ["a", "b", "c"]⟩ }
    pipeline := { minimize := false } }

def looseSteps : List (Text × Value) :=
  [("report.tool", .text "csslint"), ("report.dialect", .text "nope"), ("output.quiet", .int 1)]

theorem check_session_loose :
    RecordType.settings.check looseTable = .ok looseSettings ∧
      RecordType.settings.check (looseSettings.session looseSteps).toValue =
        .ok (looseSettings.session looseSteps) ∧
      IsSettings (looseSettings.session looseSteps).toValue := by
  have hcheck : RecordType.settings.check looseTable = .ok looseSettings := rfl
  obtain ⟨-, hagain, -, -, hsettings⟩ := check_session hcheck looseSteps
  exact ⟨hcheck, hagain, hsettings rfl⟩

theorem assign_hidden_resource :
    RecordType.resource.check (.object [("uri", .text "a.js"), ("type", .text "js")]) =
        .ok (.resource ⟨"a.js", .js, true⟩) ∧
      (Instance.resource ⟨"a.js", .js, true⟩).assign "_x" (.int 1) =
        .ok (.resource ⟨"a.js", .js, true⟩) :=
  ⟨rfl, rfl⟩

end Instance

end WebLint
