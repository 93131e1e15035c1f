import WebLint.Command
import WebLint.Proofs.Adapter
import WebLint.Proofs.Document.Elements
import WebLint.Proofs.Payload
import WebLint.Proofs.Text.Trim

namespace WebLint

open Xml

/-- The severity that a code tells by its first letter, white space in front of it aside. -/
inductive TellsSeverity : Option Text → Option Text → Prop
  | missing : TellsSeverity none none
  | blank {t : Text} (h : ∀ c ∈ t, c.isBlank = true) : TellsSeverity (some t) none
  | error {lead rest : Text} {c : Code} (hlead : ∀ d ∈ lead, d.isBlank = true)
    (hc : c ∈ [('E' : Code), 'e', 'F', 'f']) :
    TellsSeverity (some (lead ++ c :: rest)) (some "error")
  | warning {lead rest : Text} {c : Code} (hlead : ∀ d ∈ lead, d.isBlank = true)
    (hc : c ∈ [('W' : Code), 'w']) :
    TellsSeverity (some (lead ++ c :: rest)) (some "warning")
  | other {lead rest : Text} {c : Code} (hlead : ∀ d ∈ lead, d.isBlank = true)
    (hblank : c.isBlank = false) (hc : c ∉ [('E' : Code), 'e', 'F', 'f', 'W', 'w']) :
    TellsSeverity (some (lead ++ c :: rest)) none

/-- The integer that a value stands for. A truth value is one or zero, a number with a point has a
whole value below a bound, and a text is a numeral. -/
inductive StandsFor : Value → Int → Prop
  | int (n : Int) : StandsFor (.int n) n
  | true : StandsFor (.bool true) 1
  | false : StandsFor (.bool false) 0
  | float {x : Binary64} {n : Int} (hx : x.toInt? = some n) (hn : n.natAbs < powerOfTwo 63) :
    StandsFor (.float x) n
  | numeral {t : Text} {n : Int} (h : Rule.integerText t = .ok n) : StandsFor (.text t) n

inductive TellsField {α : Type} (tells : Value → α → Prop) (fs : List Field) (key : Text) :
    Option α → Prop
  | missing (h : fieldOf? fs key = none) : TellsField tells fs key none
  | null (h : fieldOf? fs key = some .null) : TellsField tells fs key none
  | value {v : Value} {a : α} (h : fieldOf? fs key = some v) (ha : tells v a) :
    TellsField tells fs key (some a)

def TellsInteger : List Field → Text → Option Int → Prop :=
  TellsField StandsFor

def TellsText : List Field → Text → Option Text → Prop :=
  TellsField fun v t => v = .text t

/-- The fields of a record with the finding that they tell. The fields that the finding leaves out
must be as they should be, too. -/
inductive Tool.Tells : Tool → List Field → Item → Prop
  | linter {fs : List Field} {line character : Option Int}
    {reason evidence raw code severity : Option Text}
    (hline : TellsInteger fs "line" line)
    (hcharacter : TellsInteger fs "character" character)
    (hreason : TellsText fs "reason" reason)
    (hevidence : TellsText fs "evidence" evidence) (hraw : TellsText fs "raw" raw)
    (hcode : TellsText fs "code" code) (hseverity : TellsSeverity code severity) :
    Tells .linter fs {
      severity := severity
      line := line
      column := character
      reason := reason
      evidence := evidence }
  | cssLint {fs : List Field} {line col : Option Int} {message evidence type rule : Option Text}
    (hline : TellsInteger fs "line" line) (hcol : TellsInteger fs "col" col)
    (hmessage : TellsText fs "message" message)
    (hevidence : TellsText fs "evidence" evidence) (htype : TellsText fs "type" type)
    (hrule : TellsText fs "rule" rule) :
    Tells .cssLint fs {
      severity := type
      line := line
      column := col
      reason := message
      evidence := evidence }

inductive Dialect.Has : Dialect → DialectNames → Prop
  | plain : Has .plain { root := "lint", issue := "issue", column := "char", reason := "reason" }
  | checkstyle : Has .checkstyle {
      root := "checkstyle", issue := "error", column := "column", reason := "message" }
  | cssLint : Has .cssLint {
      root := "csslint", issue := "issue", column := "char", reason := "reason" }

/-- The attributes for those parts that are there and not all white space, in order. -/
inductive Carries : List (Text × Option Text) → List Attribute → Prop
  | nil : Carries [] []
  | missing {name : Text} {ps : List (Text × Option Text)} {as : List Attribute}
    (h : Carries ps as) : Carries ((name, none) :: ps) as
  | blank {name t : Text} {ps : List (Text × Option Text)} {as : List Attribute}
    (ht : ∀ c ∈ t, c.isBlank = true) (h : Carries ps as) : Carries ((name, some t) :: ps) as
  | said {name t : Text} {ps : List (Text × Option Text)} {as : List Attribute}
    (ht : ∃ c ∈ t, c.isBlank = false) (h : Carries ps as) :
    Carries ((name, some t) :: ps) ((name, t) :: as)

/-- The element of a record: its attributes are what the finding has to say. An integer is written
in decimal digits, and one with too many of them is not written. -/
inductive IssueElement (tool : Tool) (names : DialectNames) : Value → Element → Prop
  | record {fs : List Field} {i : Item} {as : List Attribute} (hi : tool.Tells fs i)
    (hshort : i.IsWritable)
    (has : Carries [
      (names.column, i.column.map fun n => .ofString (toString n)),
      ("evidence", i.evidence),
      ("line", i.line.map fun n => .ofString (toString n)),
      (names.reason, i.reason),
      ("severity", i.severity)] as) :
    IssueElement tool names (.object fs) (.node names.issue as [])

inductive FileElement (tool : Tool) (names : DialectNames) : Text → List Value → Element → Prop
  | file {path : Text} {vs : List Value} {es : List Element}
    (hpath : ∃ c ∈ path, c.isBlank = false)
    (h : List.Forall₂ (IssueElement tool names) vs es) :
    FileElement tool names path vs (.node "file" [("name", path)] es)

/-- The root element of a payload: one child for each member of an object or entry of a list. -/
inductive RootElement (tool : Tool) (d : Dialect) : Value → Element → Prop
  | object {fs : List Field} {names : DialectNames} {es : List Element} (hnames : d.Has names)
    (h : List.Forall₂ (fun m e => ∃ path vs, m = (path, Value.list vs) ∧
      FileElement tool names path vs e) fs es) :
    RootElement tool d (.object fs) (.node names.root [] es)
  | list {vs : List Value} {names : DialectNames} {es : List Element} (hnames : d.Has names)
    (h : List.Forall₂ (fun v e => ∃ path rs, Payload.IsEntry v path rs ∧
      FileElement tool names path rs e) vs es) :
    RootElement tool d (.list vs) (.node names.root [] es)

/-! ### Fields, severities, names and attributes -/

theorem standsFor_iff {v : Value} {n : Int} : StandsFor v n ↔ Rule.integer v = .ok n := by
  constructor
  · intro h
    cases h with
    | int => rfl
    | true => rfl
    | false => rfl
    | @float x n hx hn =>
      have hfinite : x.isFinite = true := by
        cases x with
        | finite => rfl
        | _ => cases hx
      have hbound : ¬ powerOfTwo 63 ≤ n.natAbs := Nat.not_le.mpr hn
      simp only [Rule.integer, hfinite, hx, hbound, Bool.not_true, Bool.false_eq_true, if_false]
    | numeral h => exact h
  · intro h
    cases v with
    | int =>
      cases h
      exact .int n
    | bool b =>
      cases h
      cases b with
      | true => exact .true
      | false => exact .false
    | float x =>
      rw [Rule.integer] at h
      split at h
      · cases h
      · split at h
        · cases h
        · next m hx =>
          split at h
          · cases h
          · next hn =>
            cases h
            exact .float hx (Nat.not_le.mp hn)
    | text t => exact .numeral h
    | _ => cases h

theorem says_iff_tellsField {α : Type} {rule : Rule α} {tells : Value → α → Prop}
    (hrule : ∀ v a, rule v = .ok a ↔ tells v a) (hnull : ∀ a, ¬ tells .null a) {fs : List Field}
    {key : Text} {o : Option α} : Says rule fs key o ↔ TellsField tells fs key o := by
  constructor
  · intro h
    cases h with
    | missing h => exact .missing h
    | null h => exact .null h
    | value h _ ha => exact .value h ((hrule _ _).mp ha)
  · intro h
    cases h with
    | missing h => exact .missing h
    | null h => exact .null h
    | value h ha =>
      refine .value h ?_ ((hrule _ _).mpr ha)
      rintro rfl
      exact hnull _ ha

theorem says_integer_iff {fs : List Field} {key : Text} {o : Option Int} :
    Says Rule.integer fs key o ↔ TellsInteger fs key o :=
  says_iff_tellsField (fun _ _ => standsFor_iff.symm) fun _ h => by cases h

theorem says_text_iff {fs : List Field} {key : Text} {o : Option Text} :
    Says Rule.text fs key o ↔ TellsText fs key o := by
  refine says_iff_tellsField (fun v t => ?_) nofun
  cases v <;> simp [Rule.text, Check.problem]

theorem ofCode?_append_cons {lead : Text} {c : Code} (hlead : ∀ d ∈ lead, d.isBlank = true)
    (hc : c.isBlank = false) (rest : Text) :
    Severity.ofCode? (lead ++ c :: rest) =
      if c ∈ [('E' : Code), 'e', 'F', 'f'] then some .error
      else if c ∈ [('W' : Code), 'w'] then some .warning else none := by
  simp only [Severity.ofCode?, Text.trim_append_cons hlead hc, List.mem_cons, List.not_mem_nil,
    or_false]

theorem TellsSeverity.eq {code s : Option Text} (h : TellsSeverity code s) :
    (code.bind Severity.ofCode?).map Severity.name = s := by
  have hletter : ∀ c ∈ [('E' : Code), 'e', 'F', 'f', 'W', 'w'], c.isBlank = false := by decide
  cases h with
  | missing => rfl
  | blank h => simp only [Option.bind_some, Severity.ofCode?, Text.trim_of_forall h, Option.map_none]
  | error hlead hc =>
    have hblank := hletter _ (List.mem_append_left [('W' : Code), 'w'] hc)
    rw [Option.bind_some, ofCode?_append_cons hlead hblank, if_pos hc]
    rfl
  | warning hlead hc =>
    have hblank := hletter _ (List.mem_append_right [('E' : Code), 'e', 'F', 'f'] hc)
    have herror : ∀ d ∈ [('W' : Code), 'w'], d ∉ [('E' : Code), 'e', 'F', 'f'] := by decide
    rw [Option.bind_some, ofCode?_append_cons hlead hblank, if_neg (herror _ hc), if_pos hc]
    rfl
  | @other lead rest c hlead hblank hc =>
    have herror : c ∉ [('E' : Code), 'e', 'F', 'f'] := fun h => hc (List.mem_append_left _ h)
    have hwarning : c ∉ [('W' : Code), 'w'] := fun h => hc (List.mem_append_right [_, _, _, _] h)
    rw [Option.bind_some, ofCode?_append_cons hlead hblank, if_neg herror, if_neg hwarning]
    rfl

theorem tellsSeverity_severity (code : Option Text) :
    TellsSeverity code ((code.bind Severity.ofCode?).map Severity.name) := by
  cases code with
  | none => exact .missing
  | some t =>
    obtain h | ⟨lead, c, rest, rfl, hlead, hc⟩ := t.blank_or_exists
    · simp only [Option.bind_some, Severity.ofCode?, Text.trim_of_forall h, Option.map_none]
      exact .blank h
    · rw [Option.bind_some, ofCode?_append_cons hlead hc]
      split
      · next h => exact .error hlead h
      · next h =>
        split
        · next h => exact .warning hlead h
        · next h' => exact .other hlead hc fun hmem => (List.mem_append.mp hmem).elim h h'

theorem tellsSeverity_iff {code s : Option Text} :
    TellsSeverity code s ↔ (code.bind Severity.ofCode?).map Severity.name = s := by
  constructor
  · exact TellsSeverity.eq
  · rintro rfl
    exact tellsSeverity_severity code

theorem Dialect.has_iff {d : Dialect} {names : DialectNames} : d.Has names ↔ d.names = names := by
  constructor
  · intro h
    cases h <;> rfl
  · rintro rfl
    cases d with
    | plain => exact .plain
    | checkstyle => exact .checkstyle
    | cssLint => exact .cssLint

theorem carries_iff {ps : List (Text × Option Text)} {as : List Attribute} :
    Carries ps as ↔ presentAttributes ps = as := by
  constructor
  · intro h
    induction h with
    | nil => rfl
    | missing _ ih => exact ih
    | blank ht _ ih =>
      have hblank := List.all_eq_true.mpr ht
      rw [presentAttributes, List.flatMap_cons, presentAttribute, Text.isBlank, if_pos hblank]
      exact ih
    | said ht _ ih =>
      have hblank := Text.isBlank_eq_false_iff.mpr ht
      rw [presentAttributes, List.flatMap_cons, presentAttribute, hblank]
      exact congrArg _ ih
  · rintro rfl
    induction ps with
    | nil => exact .nil
    | cons p ps ih =>
      obtain ⟨name, o⟩ := p
      cases o with
      | none => exact .missing ih
      | some t =>
        rw [presentAttributes, List.flatMap_cons, presentAttribute]
        cases ht : t.isBlank with
        | true => exact .blank (List.all_eq_true.mp ht) ih
        | false => exact .said (Text.isBlank_eq_false_iff.mp ht) ih

theorem integerText_eq (n : Int) : integerText n = .ofString (toString n) := by
  have hnumeral : ∀ m : Nat, numeral m = .ofString (toString m) := fun m => by
    rw [numeral, Text.ofString, Nat.toString_eq_repr, Nat.repr, String.toList_ofList]
  cases n with
  | ofNat n => exact hnumeral n
  | negSucc n =>
    have hsign : toString (Int.negSucc n) = "-" ++ toString (n + 1) := rfl
    rw [integerText, hnumeral, hsign, Text.ofString, Text.ofString, String.toList_append]
    rfl

theorem Item.parts_eq (names : DialectNames) (i : Item) : i.parts names = [
    (names.column, i.column.map fun n => .ofString (toString n)),
    ("evidence", i.evidence),
    ("line", i.line.map fun n => .ofString (toString n)),
    (names.reason, i.reason),
    ("severity", i.severity)] := by
  rw [parts, funext integerText_eq]

/-! ### Reports -/

def Tool.Reports (tool : Tool) (g : Group RawRecord) (e : Entry) : Prop :=
  g.1 = e.path ∧ e.path.isBlank = false ∧ List.Forall₂ tool.Tells g.2 e.items

theorem tells_linter_iff {fs : List Field} {i : Item} :
    Tool.Tells .linter fs i ↔ ∃ r, LinterRecord.rule (.object fs) = .ok r ∧ r.toItem = i := by
  simp only [LinterRecord.rule_eq_ok_iff, says_integer_iff, says_text_iff]
  constructor
  · intro h
    cases h with
    | @linter _ line character reason evidence raw code severity hline hcharacter hreason hevidence
        hraw hcode hseverity =>
      rw [tellsSeverity_iff] at hseverity
      subst hseverity
      exact ⟨⟨line, character, reason, evidence, raw, code⟩,
        ⟨hline, hcharacter, hreason, hevidence, hraw, hcode⟩, rfl⟩
  · rintro ⟨r, ⟨hline, hcharacter, hreason, hevidence, hraw, hcode⟩, rfl⟩
    exact .linter hline hcharacter hreason hevidence hraw hcode (tellsSeverity_iff.mpr rfl)

theorem tells_cssLint_iff {fs : List Field} {i : Item} :
    Tool.Tells .cssLint fs i ↔ ∃ r, CssRecord.rule (.object fs) = .ok r ∧ r.toItem = i := by
  simp only [CssRecord.rule_eq_ok_iff, says_integer_iff, says_text_iff]
  constructor
  · intro h
    cases h with
    | @cssLint _ line col message evidence type rule hline hcol hmessage hevidence htype hrule =>
      exact ⟨⟨line, col, message, evidence, type, rule⟩,
        ⟨hline, hcol, hmessage, hevidence, htype, hrule⟩, rfl⟩
  · rintro ⟨r, ⟨hline, hcol, hmessage, hevidence, htype, hrule⟩, rfl⟩
    exact .cssLint hline hcol hmessage hevidence htype hrule

theorem load_adapted_eq_ok_iff {ρ : Type} {tool : Tool} {type : RecordType} {rule : Rule ρ}
    {name : Text} {f : ρ → Item}
    (hf : ∀ fs i, tool.Tells fs i ↔ ∃ r, rule (.object fs) = .ok r ∧ f r = i) {t : Text}
    {report : Report} :
    (Payload.loadTyped type rule t >>= fun gs =>
      Command.adaptText.adapted gs (.ofFunction name fun r => .ok (f r))) = .ok report ↔
      ∃ v raw, Payload.decode t = .ok v ∧ Payload.Groups v raw ∧
        List.Forall₂ tool.Reports raw report.entries := by
  have htells : tool.Tells = fun fs i => ∃ r, rule (.object fs) = .ok r ∧ f r = i := by
    funext fs i
    exact propext (hf fs i)
  have hentry : tool.Reports = fun g e => ∃ g' : Group ρ, (g'.1 = g.1 ∧
      List.Forall₂ (fun r a => rule (.object r) = .ok a) g.2 g'.2) ∧
      Adapter.MakesEntry (fun r => .ok (f r)) (.text g'.1, g'.2) e := by
    funext g e
    rw [Tool.Reports, htells, ← exists_forall₂_iff]
    apply propext
    constructor
    · rintro ⟨hpath, hblank, as, has, hitems⟩
      exact ⟨(g.1, as), ⟨rfl, has⟩, congrArg _ hpath, hblank, hitems.imp fun _ _ h => congrArg _ h⟩
    · rintro ⟨⟨path, as⟩, ⟨rfl, has⟩, hpath, hblank, hitems⟩
      exact ⟨Value.text.inj hpath, hblank, as, has, hitems.imp fun _ _ h => Except.ok.inj h⟩
  rw [bind_eq_ok_iff, hentry]
  simp only [Payload.loadTyped_eq_ok_iff, Command.adaptText.adapted,
    Adapter.result_report_eq_ok_iff, List.forall₂_map_left_iff, ← exists_forall₂_iff]
  constructor
  · rintro ⟨gs, ⟨v, raw, hv, hraw, hgs⟩, hes⟩
    exact ⟨v, raw, hv, hraw, gs, hgs, hes⟩
  · rintro ⟨v, raw, hv, hraw, gs, hgs, hes⟩
    exact ⟨gs, ⟨v, raw, hv, hraw, hgs⟩, hes⟩

theorem adaptText_eq_ok_iff {tool : Tool} {t : Text} {report : Report} :
    Command.adaptText tool t = .ok report ↔
      ∃ v raw, Payload.decode t = .ok v ∧ Payload.Groups v raw ∧
        List.Forall₂ tool.Reports raw report.entries := by
  cases tool with
  | linter => exact load_adapted_eq_ok_iff fun _ _ => tells_linter_iff
  | cssLint => exact load_adapted_eq_ok_iff fun _ _ => tells_cssLint_iff

/-! ### Elements -/

theorem forall₂_issueElement_iff {tool : Tool} {names : DialectNames} {vs : List Value}
    {es : List Element} :
    List.Forall₂ (IssueElement tool names) vs es ↔ ∃ rs : List RawRecord, vs = rs.map .object ∧
      ∃ items, List.Forall₂ tool.Tells rs items ∧ (∀ i ∈ items, i.IsWritable) ∧
        items.map (·.element names) = es := by
  have hissue : IssueElement tool names = fun v e => ∃ fs, v = Value.object fs ∧
      ∃ i, tool.Tells fs i ∧ i.IsWritable ∧ i.element names = e := by
    funext v e
    apply propext
    constructor
    · intro h
      cases h with
      | @record fs i as hi hshort has =>
        rw [← Item.parts_eq, carries_iff] at has
        subst has
        exact ⟨fs, rfl, i, hi, hshort, rfl⟩
    · rintro ⟨fs, rfl, i, hi, hshort, rfl⟩
      refine .record hi hshort ?_
      rw [← Item.parts_eq, carries_iff]
      rfl
  have hmap : ∀ rs : List RawRecord,
      List.Forall₂ (fun v fs => v = Value.object fs) vs rs ↔ vs = rs.map .object := by
    intro rs
    rw [← List.forall₂_map_right_iff (R := fun v w => v = w), List.forall₂_eq_eq_eq]
  simp only [hissue, ← exists_forall₂_iff, hmap, forall₂_and_eq_iff]

theorem fileElement_iff {tool : Tool} {names : DialectNames} {path : Text} {vs : List Value}
    {x : Element} :
    FileElement tool names path vs x ↔ ∃ g, (path = g.1 ∧ vs = g.2.map .object) ∧
      ∃ e : Entry, tool.Reports g e ∧ (∀ i ∈ e.items, i.IsWritable) ∧ e.element names = x := by
  constructor
  · intro h
    cases h with
    | file hpath h =>
      obtain ⟨rs, rfl, items, hitems, hshort, rfl⟩ := forall₂_issueElement_iff.mp h
      exact ⟨(path, rs), ⟨rfl, rfl⟩, ⟨path, items⟩,
        ⟨rfl, Text.isBlank_eq_false_iff.mpr hpath, hitems⟩, hshort, rfl⟩
  · rintro ⟨⟨_, rs⟩, ⟨rfl, rfl⟩, ⟨_, items⟩, ⟨rfl, hpath, hitems⟩, hshort, rfl⟩
    exact .file (Text.isBlank_eq_false_iff.mp hpath)
      (forall₂_issueElement_iff.mpr ⟨rs, rfl, items, hitems, hshort, rfl⟩)

theorem forall₂_fileElement_iff {α : Type} {tool : Tool} {d : Dialect}
    {P : α → Text → List Value → Prop} {as : List α} {xs : List Element} :
    List.Forall₂ (fun a x => ∃ path vs, P a path vs ∧ FileElement tool d.names path vs x) as xs ↔
      ∃ raw : List (Group RawRecord),
        List.Forall₂ (fun a g => P a g.1 (g.2.map .object)) as raw ∧
        ∃ report : Report, List.Forall₂ tool.Reports raw report.entries ∧ report.IsWritable ∧
          report.element d = .node d.names.root [] xs := by
  have hgroup : (fun a x => ∃ path vs, P a path vs ∧ FileElement tool d.names path vs x) =
      fun a x => ∃ g : Group RawRecord, P a g.1 (g.2.map .object) ∧ ∃ e : Entry, tool.Reports g e ∧
        (∀ i ∈ e.items, i.IsWritable) ∧ e.element d.names = x := by
    funext a x
    simp only [fileElement_iff, eq_iff_iff]
    constructor
    · rintro ⟨_, _, hP, g, ⟨rfl, rfl⟩, he⟩
      exact ⟨g, hP, he⟩
    · rintro ⟨g, hP, he⟩
      exact ⟨_, _, hP, g, ⟨rfl, rfl⟩, he⟩
  simp only [hgroup, ← exists_forall₂_iff, forall₂_and_eq_iff]
  constructor
  · rintro ⟨raw, hraw, es, hes, hwritable, rfl⟩
    exact ⟨raw, hraw, ⟨es⟩, hes, hwritable, rfl⟩
  · rintro ⟨raw, hraw, report, hes, hwritable, hroot⟩
    cases hroot
    exact ⟨raw, hraw, report.entries, hes, hwritable, rfl⟩

theorem rootElement_iff {tool : Tool} {d : Dialect} {v : Value} {x : Element} :
    RootElement tool d v x ↔ ∃ raw, Payload.Groups v raw ∧ ∃ report : Report,
      List.Forall₂ tool.Reports raw report.entries ∧ report.IsWritable ∧ report.element d = x := by
  constructor
  · intro h
    cases h with
    | object hnames h =>
      cases Dialect.has_iff.mp hnames
      obtain ⟨raw, hraw, hreport⟩ := forall₂_fileElement_iff.mp h
      exact ⟨raw, .object hraw, hreport⟩
    | list hnames h =>
      cases Dialect.has_iff.mp hnames
      obtain ⟨raw, hraw, hreport⟩ := forall₂_fileElement_iff.mp h
      exact ⟨raw, .list hraw, hreport⟩
  · rintro ⟨raw, hgroups, report, hes, hwritable, rfl⟩
    cases hgroups with
    | object hraw =>
      exact .object (Dialect.has_iff.mpr rfl)
        (forall₂_fileElement_iff.mpr ⟨raw, hraw, report, hes, hwritable, rfl⟩)
    | list hraw =>
      exact .list (Dialect.has_iff.mpr rfl)
        (forall₂_fileElement_iff.mpr ⟨raw, hraw, report, hes, hwritable, rfl⟩)

/-- The document of a payload: if loading, adapting and formatting give a root element, then it is
the one of the value that the text denotes, and such an element is given. -/
theorem format_adaptText_iff {tool : Tool} {t : Text} {dialect : Value} {root : Element} :
    (∃ report, Command.adaptText tool t = .ok report ∧
      Subject.format (.report report) dialect = .ok root) ↔
    ∃ d v, Dialect.ofValue dialect = .ok d ∧ Payload.decode t = .ok v ∧
      RootElement tool d v root := by
  have hformat : ∀ report, Subject.format (.report report) dialect = .ok root ↔
      ∃ d, Dialect.ofValue dialect = .ok d ∧ report.IsWritable ∧ report.element d = root := by
    intro report
    simp only [← Report.toElement_eq_ok_iff, ← bind_eq_ok_iff]
    rfl
  simp only [hformat, adaptText_eq_ok_iff, rootElement_iff]
  constructor
  · rintro ⟨report, ⟨v, raw, hv, hraw, hes⟩, d, hd, hroot⟩
    exact ⟨d, v, hd, hv, raw, hraw, report, hes, hroot⟩
  · rintro ⟨d, v, hd, hv, raw, hraw, report, hes, hroot⟩
    exact ⟨report, ⟨v, raw, hv, hraw, hes⟩, d, hd, hroot⟩

end WebLint
