import WebLint.Proofs.Document.Elements
import WebLint.Proofs.Xml.RoundTrip

namespace WebLint

open Xml

def valueOf? (as : List Attribute) (name : Text) : Option Text :=
  as.lookup name

namespace Item

def withoutBlanks (i : Item) : Item :=
  { i with
    severity := i.severity.filter (!·.isBlank)
    reason := i.reason.filter (!·.isBlank)
    evidence := i.evidence.filter (!·.isBlank) }

/-- The integer under a name, if there is one; a text that is no integer cannot be read. -/
def integerOf? (as : List Attribute) (name : Text) : Option (Option Int) :=
  match valueOf? as name with
  | none => some none
  | some t => (looseInteger? t).map some

/-- The finding of an element, with the names of a dialect. -/
def ofElement? (names : DialectNames) : Element → Option Item
  | .node tag as [] =>
    if tag = names.issue then do
      let column ← integerOf? as names.column
      let line ← integerOf? as "line"
      return {
        severity := valueOf? as "severity"
        line := line
        column := column
        reason := valueOf? as names.reason
        evidence := valueOf? as "evidence" }
    else none
  | .node _ _ (_ :: _) => none

theorem valueOf?_attributes {d : Dialect} {i : Item} {k : Text} {o : Option Text}
    (h : (k, o) ∈ i.parts d.names) :
    valueOf? (i.attributes d.names) k = o.filter (!·.isBlank) :=
  lookup_presentAttributes (keys_parts_nodup d i) h

theorem integerOf?_attributes {d : Dialect} {i : Item} {k : Text} {o : Option Int}
    (h : (k, o.map integerText) ∈ i.parts d.names) :
    integerOf? (i.attributes d.names) k = some o := by
  rw [integerOf?, valueOf?_attributes h]
  cases o with
  | none => rfl
  | some n => simp [Option.filter, isBlank_integerText, looseInteger?_integerText]

theorem ofElement?_element (d : Dialect) (i : Item) :
    ofElement? d.names (i.element d.names) = some i.withoutBlanks := by
  have hcolumn := integerOf?_attributes (d := d) (i := i) (o := i.column) (k := d.names.column)
    (by simp [parts])
  have hline := integerOf?_attributes (d := d) (i := i) (o := i.line) (k := "line")
    (by simp [parts])
  have hreason := valueOf?_attributes (d := d) (i := i) (k := d.names.reason) (o := i.reason)
    (by simp [parts])
  have hevidence := valueOf?_attributes (d := d) (i := i) (k := "evidence") (o := i.evidence)
    (by simp [parts])
  have hseverity := valueOf?_attributes (d := d) (i := i) (k := "severity") (o := i.severity)
    (by simp [parts])
  simp only [element, ofElement?, if_true, hcolumn, hline, hreason, hevidence, hseverity]
  rfl

theorem wellNamed_element (d : Dialect) (i : Item) : (i.element d.names).WellNamed := by
  have hissue : IsName d.names.issue := by cases d <;> decide
  have hparts : ∀ k ∈ (i.parts d.names).map (·.1), IsName k := by
    change ∀ k ∈ [d.names.column, "evidence", "line", d.names.reason, "severity"], IsName k
    cases d <;> decide
  refine .node hissue (fun a ha => hparts a.1 ?_) (keys_attributes_nodup d i) (by simp)
  exact (keys_presentAttributes_sublist _).subset (List.mem_map.mpr ⟨a, ha, rfl⟩)

end Item

namespace Entry

def withoutBlanks (e : Entry) : Entry :=
  { e with items := e.items.map Item.withoutBlanks }

def ofElement? (names : DialectNames) : Element → Option Entry
  | .node tag as children =>
    if tag = "file" then do
      let path ← valueOf? as "name"
      let items ← children.mapM (Item.ofElement? names)
      return ⟨path, items⟩
    else none

theorem ofElement?_element (d : Dialect) (e : Entry) :
    ofElement? d.names (e.element d.names) = some e.withoutBlanks := by
  have hitems : (e.items.map (·.element d.names)).mapM (Item.ofElement? d.names) =
      some (e.items.map Item.withoutBlanks) := by
    rw [List.mapM_map]
    exact mapM_eq_some_map fun i _ => Item.ofElement?_element d i
  have hpath : valueOf? [("name", e.path)] "name" = some e.path := List.lookup_cons_self
  simp only [element, ofElement?, if_true, hpath, hitems]
  rfl

theorem wellNamed_element (d : Dialect) (e : Entry) : (e.element d.names).WellNamed := by
  refine .node (by decide) (by simp; decide) (by simp) ?_
  simp only [List.mem_map]
  rintro _ ⟨i, _, rfl⟩
  exact Item.wellNamed_element d i

end Entry

namespace Report

def withoutBlanks (r : Report) : Report :=
  ⟨r.entries.map Entry.withoutBlanks⟩

def ofElement? (d : Dialect) : Element → Option Report
  | .node tag _ children =>
    if tag = d.names.root then Report.mk <$> children.mapM (Entry.ofElement? d.names) else none

theorem ofElement?_element (d : Dialect) (r : Report) :
    ofElement? d (r.element d) = some r.withoutBlanks := by
  have hentries : (r.entries.map (·.element d.names)).mapM (Entry.ofElement? d.names) =
      some (r.entries.map Entry.withoutBlanks) := by
    rw [List.mapM_map]
    exact mapM_eq_some_map fun e _ => Entry.ofElement?_element d e
  simp only [element, ofElement?, if_true, hentries]
  rfl

theorem wellNamed_element (d : Dialect) (r : Report) : (r.element d).WellNamed := by
  have hroot : IsName d.names.root := by cases d <;> decide
  refine .node hroot (by simp) (by simp) ?_
  simp only [List.mem_map]
  rintro _ ⟨e, _, rfl⟩
  exact Entry.wellNamed_element d e

end Report

/-- A document of a report, read as XML and then with the names of its dialect, gives the report
without its blank texts. -/
theorem read_format {r : Report} (hr : r.IsWritable) {v : Value} {d : Dialect}
    (hd : Dialect.ofValue v = .ok d) (indented : Bool) :
    ∃ root, Subject.format (.report r) v = .ok root ∧
      read? (octets indented root) = some root ∧
      Report.ofElement? d root = some r.withoutBlanks := by
  refine ⟨r.element d, ?_, ?_, ?_⟩
  · have hroot : r.toElement d = .ok (r.element d) := Report.toElement_eq_ok_iff.mpr ⟨hr, rfl⟩
    rw [← hroot, Subject.format, hd]
    rfl
  · exact read?_octets (Report.wellNamed_element d r) indented
  · exact Report.ofElement?_element d r

/-- Two entries of one path; a text that looks escaped, a blank one, and half of a surrogate
pair. -/
def Report.escapes : Report :=
  let i : Item := {
    severity := some [Code.ofNat 0xd83d]
    line := some (-7)
    reason := some "&lt;\t\"&#9;\r\n"
    evidence := some " \n" }
  ⟨[⟨"a<b", [i, i]⟩, ⟨"a<b", []⟩]⟩

theorem read_format_escapes :
    Report.escapes.IsWritable ∧ Dialect.ofValue (.text " Checkstyle") = .ok .checkstyle ∧
      ∃ root, Subject.format (.report .escapes) (.text " Checkstyle") = .ok root ∧
        read? (octets true root) = some root ∧
        Report.ofElement? .checkstyle root = some Report.escapes.withoutBlanks := by
  have hr : Report.escapes.IsWritable := by decide
  have hd : Dialect.ofValue (.text " Checkstyle") = .ok .checkstyle := rfl
  exact ⟨hr, hd, read_format hr hd true⟩

end WebLint
