import WebLint.Proofs.Display.Summary
import WebLint.Proofs.Document.Elements

namespace WebLint

namespace Xml.Element

mutual

/-- The tags of an element and of all that are in it, in the order of the document. -/
def tags : Element → List Text
  | .node t _ cs => t :: tagsOfAll cs

def tagsOfAll : List Element → List Text
  | [] => []
  | e :: es => tags e ++ tagsOfAll es

end

theorem tagsOfAll_eq_flatMap (es : List Element) : tagsOfAll es = es.flatMap tags := by
  induction es with
  | nil => rfl
  | cons e es ih => rw [tagsOfAll, List.flatMap_cons, ih]

theorem tags_node (t : Text) (as : List Attribute) (cs : List Element) :
    (node t as cs).tags = t :: cs.flatMap tags := by
  rw [tags, tagsOfAll_eq_flatMap]

def count (e : Element) (tag : Text) : Nat :=
  e.tags.count tag

end Xml.Element

open Xml

/-! ### The elements of a document -/

theorem Item.tags_element (names : DialectNames) (i : Item) :
    (i.element names).tags = [names.issue] := by
  rw [element, Element.tags_node]
  rfl

theorem Entry.tags_element (names : DialectNames) (e : Entry) :
    (e.element names).tags = ("file" : Text) :: List.replicate e.items.length names.issue := by
  have hitems : e.items.flatMap (fun i => (i.element names).tags) =
      List.replicate e.items.length names.issue := by
    simp only [Item.tags_element, ← List.map_eq_flatMap, List.map_const']
  rw [element, Element.tags_node, List.flatMap_map, hitems]

theorem Dialect.names_apart (d : Dialect) :
    d.names.root ≠ "file" ∧ d.names.issue ≠ "file" ∧ d.names.root ≠ d.names.issue := by
  cases d <;> decide

namespace Report

theorem tags_element (d : Dialect) (r : Report) : (r.element d).tags =
    d.names.root :: r.entries.flatMap fun e =>
      ("file" : Text) :: List.replicate e.items.length d.names.issue := by
  rw [element, Element.tags_node, List.flatMap_map]
  simp only [Entry.tags_element]

theorem count_file (d : Dialect) (r : Report) :
    (r.element d).count "file" = r.entries.length := by
  obtain ⟨hroot, hissue, -⟩ := d.names_apart
  rw [Element.count, tags_element, List.count_cons_of_ne hroot]
  induction r.entries with
  | nil => rfl
  | cons e es ih =>
    rw [List.flatMap_cons, List.count_append, ih, List.count_cons_self, List.count_replicate,
      if_neg (by simpa using hissue), List.length_cons]
    omega

theorem count_issue (d : Dialect) (r : Report) :
    (r.element d).count d.names.issue = r.totalItems := by
  obtain ⟨-, hissue, hroot⟩ := d.names_apart
  rw [Element.count, tags_element, List.count_cons_of_ne hroot, totalItems]
  induction r.entries with
  | nil => rfl
  | cons e es ih =>
    rw [List.flatMap_cons, List.count_append, ih, List.count_cons_of_ne hissue.symm,
      List.count_replicate_self, List.foldr_cons]

theorem totalItems_eq_zero_iff {r : Report} :
    r.totalItems = 0 ↔ ∀ e ∈ r.entries, e.items = [] := by
  rw [totalItems]
  induction r.entries with
  | nil => simp
  | cons e es ih =>
    rw [List.foldr_cons, Nat.add_eq_zero_iff, ih, List.forall_mem_cons, List.length_eq_zero_iff]

/-! ### The three places -/

/-- The document of a report and its table tell the same numbers, entry by entry: of entries, and of
the findings of each. -/
structure Agrees (d : Dialect) (r : Report) (root : Element) (table : Table) : Prop where
  files : ∀ x ∈ root.children, x.tag = "file"
  issues : ∀ x ∈ root.children, ∀ y ∈ x.children, y.tag = d.names.issue ∧ y.children = []
  all_files : root.count "file" = root.children.length
  all_issues : root.count d.names.issue = r.totalItems
  entries : r.entries.length = root.children.length
  rows : table.rows.length = root.children.length
  items : r.entries.map (·.items.length) = root.children.map (·.children.length)
  numbers : table.rows.map (·.2) = root.children.map fun x => numeral x.children.length

variable {d : Dialect} {r : Report} {s : OutputSettings} {v : Value} {screen : Text}

theorem agrees_of_rendered {emoji : Bool} {rows : List (Text × Text)}
    (h : List.Forall₂ (Renders emoji) r.entries rows) :
    Agrees d r (r.element d) ⟨heading, rows⟩ := by
  have hchildren : (r.element d).children = r.entries.map (·.element d.names) := rfl
  have hitems : ∀ e : Entry, (e.element d.names).children.length = e.items.length :=
    fun e => List.length_map _
  refine ⟨?_, ?_, ?_, count_issue d r, ?_, ?_, ?_, ?_⟩
  · rw [hchildren, List.forall_mem_map]
    exact fun e _ => rfl
  · rw [hchildren, List.forall_mem_map]
    intro e _ y hy
    obtain ⟨i, -, rfl⟩ := List.mem_map.mp hy
    exact ⟨rfl, rfl⟩
  · rw [count_file, hchildren, List.length_map]
  · rw [hchildren, List.length_map]
  · rw [hchildren, List.length_map]
    exact h.length_eq.symm
  · rw [hchildren, List.map_map]
    exact List.map_congr_left fun e _ => (hitems e).symm
  · rw [hchildren, List.map_map, numbers_of_rendered h]
    exact List.map_congr_left fun e _ => congrArg numeral (hitems e).symm

theorem exists_table_of_summary (hquiet : s.quiet = false) (h : r.summary s = .ok screen) :
    ∃ rows, List.Forall₂ (Renders s.emoji) r.entries rows ∧
      screen = (if r.entries.isEmpty then [] else (Table.mk heading rows).text) ++
        r.totalsLine s.emoji := by
  by_cases hentries : r.entries = []
  · rw [summary_of_no_entries hquiet hentries] at h
    cases h
    exact ⟨[], by rw [hentries]; exact .nil, by rw [hentries]; rfl⟩
  · rw [summary_of_entries hquiet hentries] at h
    obtain ⟨table, htable, rfl⟩ := map_eq_ok_iff.mp h
    obtain ⟨rows, hrows, rfl⟩ := summaryTable_eq_ok_iff.mp htable
    have hempty : r.entries.isEmpty = false := List.isEmpty_eq_false_iff.mpr hentries
    exact ⟨rows, hrows, by rw [hempty]; rfl⟩

def Marks (root : Element) (n : Notice) : Prop :=
  (n = .success ∧ ∀ x ∈ root.children, x.children = []) ∨
    (n = .warning ∧ ∃ x ∈ root.children, x.children ≠ [])

theorem marks_totals (d : Dialect) (r : Report) :
    Marks (r.element d) (if r.totalItems = 0 then .success else .warning) := by
  have hnone : (∀ x ∈ (r.element d).children, x.children = []) ↔ r.totalItems = 0 := by
    rw [totalItems_eq_zero_iff]
    change (∀ x ∈ r.entries.map (·.element d.names), x.children = []) ↔ _
    rw [List.forall_mem_map]
    exact forall₂_congr fun e _ => List.map_eq_nil_iff
  split
  · next h => exact .inl ⟨rfl, hnone.mpr h⟩
  · next h =>
    rw [← hnone] at h
    push Not at h
    exact .inr ⟨rfl, h⟩

/-- Whenever the summary of a report is printed, its document, its table and its totals tell the
same numbers, and the symbol of success stands in front if and only if no file has an issue. -/
theorem summary_agrees (hwritable : r.IsWritable) (hd : Dialect.ofValue v = .ok d)
    (hquiet : s.quiet = false) (hscreen : r.summary s = .ok screen) :
    ∃ root table n, Subject.format (.report r) v = .ok root ∧
      r.summaryTable s.emoji = .ok table ∧ Agrees d r root table ∧ Marks root n ∧
      screen = (if root.children.isEmpty then [] else table.text) ++
        (symbol n.mark s.emoji ++ numeral (root.count d.names.issue) ++ " issue(s) across " ++
          numeral (root.count "file") ++ " resource(s)\n") := by
  obtain ⟨rows, hrows, rfl⟩ := exists_table_of_summary hquiet hscreen
  have hformat : Subject.format (.report r) v = .ok (r.element d) := by
    rw [Subject.format_report hd]
    exact toElement_eq_ok_iff.mpr ⟨hwritable, rfl⟩
  have hchildren : (r.element d).children.isEmpty = r.entries.isEmpty := List.isEmpty_map
  refine ⟨_, _, _, hformat, summaryTable_eq_ok_iff.mpr ⟨rows, hrows, rfl⟩, agrees_of_rendered hrows,
    marks_totals d r, ?_⟩
  rw [hchildren, count_issue, count_file]
  rfl

/-- A path that is mentioned twice, once without findings, and a finding that says nothing. -/
def mixedReport : Report :=
  ⟨[⟨"a.js", [{ line := some 3 }, {}]⟩, ⟨"a.js", []⟩, ⟨"b.css", [{ reason := some " " }]⟩]⟩

theorem summary_agrees_mixed :
    mixedReport.IsWritable ∧ Dialect.ofValue (.text "lint") = .ok .plain ∧
      ∃ screen root table n, mixedReport.summary {} = .ok screen ∧
        Subject.format (.report mixedReport) (.text "lint") = .ok root ∧
        mixedReport.summaryTable true = .ok table ∧ Agrees .plain mixedReport root table ∧
        Marks root n := by
  have hwritable : mixedReport.IsWritable := by decide +kernel
  have hdialect : Dialect.ofValue (.text "lint") = .ok .plain := by rfl
  have hprinted : ((mixedReport.summary {}).toOption).isSome = true := by decide +kernel
  cases hscreen : mixedReport.summary {} with
  | error f =>
    rw [hscreen] at hprinted
    cases hprinted
  | ok screen =>
    obtain ⟨root, table, n, hformat, htable, hagrees, hmarks, -⟩ :=
      summary_agrees hwritable hdialect rfl hscreen
    exact ⟨hwritable, hdialect, screen, root, table, n, rfl, hformat, htable, hagrees, hmarks⟩

end Report

end WebLint
