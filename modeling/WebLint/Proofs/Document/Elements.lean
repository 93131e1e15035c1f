import WebLint.Document
import WebLint.Proofs.Numeral
import WebLint.Proofs.Traversal

namespace WebLint

open Xml

def IsShort (n : Int) : Prop :=
  (numeral n.natAbs).length ≤ digitLimit

instance (n : Int) : Decidable (IsShort n) :=
  inferInstanceAs (Decidable (_ ≤ _))

theorem integerAttribute_eq_ok_iff {name : Text} {o : Option Int} {as : List Attribute} :
    integerAttribute name o = .ok as ↔
      (∀ n ∈ o, IsShort n) ∧ presentAttribute name (o.map integerText) = as := by
  cases o with
  | none => simp [integerAttribute, presentAttribute]
  | some n =>
    have hshort : IsShort n ↔ exceedsDigitLimit n = false := exceedsDigitLimit_eq_false_iff.symm
    cases h : exceedsDigitLimit n <;>
      simp [integerAttribute, presentAttribute, isBlank_integerText, hshort, h]

/-- Attributes for those parts that are there and not blank. -/
def presentAttributes (ps : List (Text × Option Text)) : List Attribute :=
  ps.flatMap fun p => presentAttribute p.1 p.2

namespace Item

/-- The attributes that a finding may have, with what it says under each. -/
def parts (names : DialectNames) (i : Item) : List (Text × Option Text) := [
  (names.column, i.column.map integerText), ("evidence", i.evidence),
  ("line", i.line.map integerText), (names.reason, i.reason), ("severity", i.severity)]

def attributes (names : DialectNames) (i : Item) : List Attribute :=
  presentAttributes (i.parts names)

def element (names : DialectNames) (i : Item) : Element :=
  .node names.issue (i.attributes names) []

/-- The integers of the finding may be written. -/
def IsWritable (i : Item) : Prop :=
  (∀ n ∈ i.column, IsShort n) ∧ ∀ n ∈ i.line, IsShort n

instance (i : Item) : Decidable i.IsWritable :=
  inferInstanceAs (Decidable (_ ∧ _))

theorem toElement_eq_ok_iff {names : DialectNames} {i : Item} {e : Element} :
    i.toElement names = .ok e ↔ i.IsWritable ∧ i.element names = e := by
  rw [toElement, bind_eq_ok_iff]
  simp only [bind_eq_ok_iff, integerAttribute_eq_ok_iff, IsWritable]
  constructor
  · rintro ⟨_, ⟨hcolumn, rfl⟩, _, ⟨hline, rfl⟩, h⟩
    cases h
    refine ⟨⟨hcolumn, hline⟩, ?_⟩
    simp [element, attributes, parts, presentAttributes]
  · rintro ⟨⟨hcolumn, hline⟩, rfl⟩
    refine ⟨_, ⟨hcolumn, rfl⟩, _, ⟨hline, rfl⟩, ?_⟩
    simp [element, attributes, parts, presentAttributes, pure, Except.pure]

end Item

namespace Entry

def element (names : DialectNames) (e : Entry) : Element :=
  .node "file" [("name", e.path)] (e.items.map (·.element names))

theorem toElement_eq_ok_iff {names : DialectNames} {e : Entry} {x : Element} :
    e.toElement names = .ok x ↔ (∀ i ∈ e.items, i.IsWritable) ∧ e.element names = x := by
  rw [toElement, bind_eq_ok_iff]
  simp only [mapM_eq_ok_iff_map fun _ _ => Item.toElement_eq_ok_iff]
  constructor
  · rintro ⟨_, ⟨hitems, rfl⟩, h⟩
    cases h
    exact ⟨hitems, rfl⟩
  · rintro ⟨hitems, rfl⟩
    exact ⟨_, ⟨hitems, rfl⟩, rfl⟩

end Entry

namespace Report

def element (d : Dialect) (r : Report) : Element :=
  .node d.names.root [] (r.entries.map (·.element d.names))

/-- All integers of the report may be written. -/
def IsWritable (r : Report) : Prop :=
  ∀ e ∈ r.entries, ∀ i ∈ e.items, i.IsWritable

instance (r : Report) : Decidable r.IsWritable :=
  inferInstanceAs (Decidable (∀ e ∈ r.entries, ∀ i ∈ e.items, i.IsWritable))

theorem toElement_eq_ok_iff {d : Dialect} {r : Report} {x : Element} :
    r.toElement d = .ok x ↔ r.IsWritable ∧ r.element d = x := by
  rw [toElement, bind_eq_ok_iff]
  simp only [mapM_eq_ok_iff_map fun _ _ => Entry.toElement_eq_ok_iff]
  constructor
  · rintro ⟨_, ⟨hentries, rfl⟩, h⟩
    cases h
    exact ⟨hentries, rfl⟩
  · rintro ⟨hentries, rfl⟩
    exact ⟨_, ⟨hentries, rfl⟩, rfl⟩

end Report

theorem Subject.format_report {r : Report} {v : Value} {d : Dialect}
    (hd : Dialect.ofValue v = .ok d) : format (.report r) v = r.toElement d := by
  rw [format, hd]
  rfl

/-! ### Attributes under their names -/

theorem lookup_presentAttribute (name : Text) (o : Option Text) :
    (presentAttribute name o).lookup name = o.filter (!·.isBlank) := by
  cases o with
  | none => rfl
  | some t => cases h : t.isBlank <;> simp [presentAttribute, h, Option.filter]

theorem keys_presentAttribute_sublist (name : Text) (o : Option Text) :
    ((presentAttribute name o).map (·.1)).Sublist [name] := by
  cases o with
  | none => exact List.nil_sublist _
  | some t => cases h : t.isBlank <;> simp [presentAttribute, h]

theorem keys_presentAttributes_sublist (ps : List (Text × Option Text)) :
    ((presentAttributes ps).map (·.1)).Sublist (ps.map (·.1)) := by
  induction ps with
  | nil => exact List.Sublist.refl []
  | cons p ps ih =>
    rw [presentAttributes, List.flatMap_cons, List.map_append, List.map_cons]
    exact (keys_presentAttribute_sublist p.1 p.2).append ih

theorem lookup_eq_none_of_sublist {as : List Attribute} {keys : List Text} {k : Text}
    (h : (as.map (·.1)).Sublist keys) (hk : k ∉ keys) : as.lookup k = none := by
  rw [List.lookup_eq_none_iff]
  intro a ha
  have hmem : a.1 ∈ keys := h.subset (List.mem_map_of_mem ha)
  simp only [bne_iff_ne, ne_eq]
  rintro rfl
  exact hk hmem

/-- What stands under the name of a part. -/
theorem lookup_presentAttributes {ps : List (Text × Option Text)} (hnodup : (ps.map (·.1)).Nodup)
    {k : Text} {o : Option Text} (hm : (k, o) ∈ ps) :
    (presentAttributes ps).lookup k = o.filter (!·.isBlank) := by
  induction ps with
  | nil => cases hm
  | cons p ps ih =>
    rw [List.map_cons, List.nodup_cons] at hnodup
    rw [presentAttributes, List.flatMap_cons, List.lookup_append]
    rcases List.mem_cons.mp hm with rfl | hm
    · have hrest := lookup_eq_none_of_sublist (keys_presentAttributes_sublist ps) hnodup.1
      rw [presentAttributes] at hrest
      rw [lookup_presentAttribute, hrest, Option.or_none]
    · have hk : k ∉ [p.1] := by
        rw [List.mem_singleton]
        rintro rfl
        exact hnodup.1 (List.mem_map.mpr ⟨_, hm, rfl⟩)
      rw [lookup_eq_none_of_sublist (keys_presentAttribute_sublist p.1 p.2) hk, Option.none_or]
      exact ih hnodup.2 hm

namespace Item

theorem keys_parts_nodup (d : Dialect) (i : Item) : ((i.parts d.names).map (·.1)).Nodup := by
  change [d.names.column, "evidence", "line", d.names.reason, "severity"].Nodup
  cases d <;> decide

theorem keys_attributes_nodup (d : Dialect) (i : Item) :
    ((i.attributes d.names).map (·.1)).Nodup :=
  (keys_parts_nodup d i).sublist (keys_presentAttributes_sublist _)

end Item

end WebLint
