import Mathlib.Data.List.Nodup
import WebLint.Proofs.Document.Elements

namespace WebLint

namespace Xml.Element

mutual

def rename (tag key : Text → Text) : Element → Element
  | .node t as cs => .node (tag t) (as.map fun a => (key a.1, a.2)) (renameAll tag key cs)

def renameAll (tag key : Text → Text) : List Element → List Element
  | [] => []
  | e :: es => rename tag key e :: renameAll tag key es

end

variable {tag key : Text → Text}

theorem renameAll_eq_map (es : List Element) : renameAll tag key es = es.map (rename tag key) := by
  induction es with
  | nil => rfl
  | cons e es ih => rw [renameAll, List.map_cons, ih]

theorem rename_node (t : Text) (as : List Attribute) (cs : List Element) :
    (node t as cs).rename tag key =
      .node (tag t) (as.map fun a => (key a.1, a.2)) (cs.map (rename tag key)) := by
  rw [rename, renameAll_eq_map]

end Xml.Element

open Xml

/-! ### The names of two dialects -/

/-- Some names replaced by others; all that are not listed stay. -/
def replaceName (pairs : List (Text × Text)) (name : Text) : Text :=
  (pairs.lookup name).getD name

namespace Dialect

def tagIn (d d' : Dialect) : Text → Text :=
  replaceName [(d.names.root, d'.names.root), (d.names.issue, d'.names.issue)]

def keyIn (d d' : Dialect) : Text → Text :=
  replaceName [(d.names.column, d'.names.column), (d.names.reason, d'.names.reason)]

def sharedKeys : List Text :=
  ["name", "evidence", "line", "severity"]

/-- The names of one dialect become those of another, and what is in neither list stays. -/
structure Follows (d d' : Dialect) (tag key : Text → Text) : Prop where
  root : tag d.names.root = d'.names.root
  file : tag "file" = "file"
  issue : tag d.names.issue = d'.names.issue
  column : key d.names.column = d'.names.column
  reason : key d.names.reason = d'.names.reason
  shared : ∀ k ∈ sharedKeys, key k = k

theorem follows_in (d d' : Dialect) : Follows d d' (d.tagIn d') (d.keyIn d') := by
  constructor <;> cases d <;> cases d' <;> decide

end Dialect

/-! ### Elements under other names -/

theorem presentAttribute_rename (key : Text → Text) (name : Text) (o : Option Text) :
    (presentAttribute name o).map (fun a => (key a.1, a.2)) = presentAttribute (key name) o := by
  cases o with
  | none => rfl
  | some t => cases h : t.isBlank <;> simp [presentAttribute, h]

theorem presentAttributes_rename (key : Text → Text) (ps : List (Text × Option Text)) :
    (presentAttributes ps).map (fun a => (key a.1, a.2)) =
      presentAttributes (ps.map fun p => (key p.1, p.2)) := by
  simp only [presentAttributes, List.map_flatMap, List.flatMap_map, presentAttribute_rename]

namespace Dialect.Follows

variable {d d' : Dialect} {tag key : Text → Text}

theorem parts (h : Follows d d' tag key) (i : Item) :
    (i.parts d.names).map (fun p => (key p.1, p.2)) = i.parts d'.names := by
  simp only [Item.parts, List.map_cons, List.map_nil, h.column, h.reason,
    h.shared "evidence" (by decide), h.shared "line" (by decide), h.shared "severity" (by decide)]

theorem attributes (h : Follows d d' tag key) (i : Item) :
    (i.attributes d.names).map (fun a => (key a.1, a.2)) = i.attributes d'.names := by
  rw [Item.attributes, presentAttributes_rename, h.parts, Item.attributes]

theorem item (h : Follows d d' tag key) (i : Item) :
    (i.element d.names).rename tag key = i.element d'.names := by
  rw [Item.element, Element.rename_node, h.issue, h.attributes, List.map_nil, Item.element]

theorem entry (h : Follows d d' tag key) (e : Entry) :
    (e.element d.names).rename tag key = e.element d'.names := by
  rw [Entry.element, Element.rename_node, h.file, List.map_singleton, h.shared "name" (by decide),
    List.map_map, Entry.element]
  simp only [Function.comp_def, h.item]

theorem report (h : Follows d d' tag key) (r : Report) :
    (r.element d).rename tag key = r.element d' := by
  rw [Report.element, Element.rename_node, h.root, List.map_nil, List.map_map, Report.element]
  simp only [Function.comp_def, h.entry]

theorem injOn (h : Follows d d' tag key) {i : Item} {a b : Attribute}
    (ha : a ∈ i.attributes d.names) (hb : b ∈ i.attributes d.names) (hab : key a.1 = key b.1) :
    a = b := by
  have hnodup : ((i.attributes d.names).map fun a => key a.1).Nodup := by
    have hkeys := i.keys_attributes_nodup d'
    rwa [← h.attributes, List.map_map] at hkeys
  exact List.inj_on_of_nodup_map hnodup ha hb hab

end Dialect.Follows

/-! ### Reports that cannot be written -/

theorem integerAttribute_eq_error {name : Text} {o : Option Int} {f : Fault}
    (h : integerAttribute name o = .error f) : f = .integerTooLong := by
  cases o with
  | none => cases h
  | some n =>
    rw [integerAttribute] at h
    split at h <;> cases h
    rfl

theorem Item.toElement_eq_error {names : DialectNames} {i : Item} {f : Fault}
    (h : i.toElement names = .error f) : f = .integerTooLong := by
  rw [toElement, bind_eq_error_iff] at h
  obtain h | ⟨_, -, h⟩ := h
  · exact integerAttribute_eq_error h
  · obtain h | ⟨_, -, h⟩ := bind_eq_error_iff.mp h
    · exact integerAttribute_eq_error h
    · cases h

theorem Entry.toElement_eq_error {names : DialectNames} {e : Entry} {f : Fault}
    (h : e.toElement names = .error f) : f = .integerTooLong := by
  rw [toElement, bind_eq_error_iff] at h
  obtain h | ⟨_, -, h⟩ := h
  · obtain ⟨_, i, _, _, -, -, hi⟩ := mapM_eq_error_iff.mp h
    exact Item.toElement_eq_error hi
  · cases h

theorem Report.toElement_eq_error {d : Dialect} {r : Report} {f : Fault}
    (h : r.toElement d = .error f) : f = .integerTooLong := by
  rw [toElement, bind_eq_error_iff] at h
  obtain h | ⟨_, -, h⟩ := h
  · obtain ⟨_, e, _, _, -, -, he⟩ := mapM_eq_error_iff.mp h
    exact Entry.toElement_eq_error he
  · cases h

/-- In every dialect the same reports can be written, and by the same names for all. -/
theorem Report.toElement_rename {d d' : Dialect} {tag key : Text → Text}
    (h : Dialect.Follows d d' tag key) (r : Report) :
    r.toElement d' = (r.toElement d).map (·.rename tag key) := by
  by_cases hr : r.IsWritable
  · rw [toElement_eq_ok_iff.mpr ⟨hr, rfl⟩, toElement_eq_ok_iff.mpr ⟨hr, rfl⟩, Except.map, h.report]
  · have hfails : ∀ d, r.toElement d = .error .integerTooLong := by
      intro d
      cases hd : r.toElement d with
      | ok x => exact absurd (toElement_eq_ok_iff.mp hd).1 hr
      | error f => rw [toElement_eq_error hd]
    rw [hfails, hfails, Except.map]

/-- Formatting a report in two dialects: the one result is the other one under other names, those of
the second dialect for those of the first. If the integers of the report may be written, there is
a document, and no two attributes of a finding in it get the same name. -/
theorem format_rename (r : Report) {v v' : Value} {d d' : Dialect} (hd : Dialect.ofValue v = .ok d)
    (hd' : Dialect.ofValue v' = .ok d') :
    Dialect.Follows d d' (d.tagIn d') (d.keyIn d') ∧
    (Subject.report r).format v' =
      ((Subject.report r).format v).map (·.rename (d.tagIn d') (d.keyIn d')) ∧
    (r.IsWritable → ∃ root, (Subject.report r).format v = .ok root ∧
      ∀ file ∈ root.children, ∀ issue ∈ file.children, ∀ a ∈ issue.attributes,
        ∀ b ∈ issue.attributes, d.keyIn d' a.1 = d.keyIn d' b.1 → a = b) := by
  have hfollows := d.follows_in d'
  rw [Subject.format_report hd, Subject.format_report hd']
  refine ⟨hfollows, r.toElement_rename hfollows, fun hr => ?_⟩
  refine ⟨r.element d, Report.toElement_eq_ok_iff.mpr ⟨hr, rfl⟩, ?_⟩
  intro file hfile issue hissue a ha b hb hab
  obtain ⟨e, -, rfl⟩ := List.mem_map.mp hfile
  obtain ⟨i, -, rfl⟩ := List.mem_map.mp hissue
  exact hfollows.injOn ha hb hab

/-- A report of a finding with all parts, and of one that says nothing. -/
def Report.told : Report :=
  ⟨[⟨"a.js", [⟨some "error", some 3, some 4, some "why", some "x"⟩,
    ⟨none, none, none, some " ", none⟩]⟩]⟩

theorem format_rename_told :
    Dialect.ofValue (.text " PLAIN ") = .ok .plain ∧
    Dialect.ofValue (.text "checkstyle") = .ok .checkstyle ∧ Report.told.IsWritable ∧
    (Subject.report .told).format (.text "checkstyle") =
      ((Subject.report .told).format (.text " PLAIN ")).map
        (·.rename (Dialect.plain.tagIn .checkstyle) (Dialect.plain.keyIn .checkstyle)) ∧
    ∃ root, (Subject.report .told).format (.text " PLAIN ") = .ok root := by
  have hd : Dialect.ofValue (.text " PLAIN ") = .ok .plain := by rfl
  have hd' : Dialect.ofValue (.text "checkstyle") = .ok .checkstyle := by rfl
  have htold : Report.told.IsWritable := by decide
  obtain ⟨-, hrename, hroot⟩ := format_rename .told hd hd'
  obtain ⟨root, hroot, -⟩ := hroot htold
  exact ⟨hd, hd', htold, hrename, root, hroot⟩

end WebLint
