import WebLint.Proofs.Display.Markup
import WebLint.Proofs.Display.Table
import WebLint.Summary

namespace WebLint

open Markup Table Text

theorem isVisible_numeral (n : Nat) : (numeral n).IsVisible := by
  intro c hc
  have hdigit := Code.isAsciiDigit_iff.mp (isDigits_numeral n c hc)
  exact ⟨by omega, by omega⟩

theorem countP_isMark_numeral (n : Nat) : (numeral n).countP isMark = 0 := by
  rw [List.countP_eq_zero]
  intro c hc
  have hdigit := isDigits_numeral n c hc
  have hopening : c ≠ opening := ne_of_isAsciiDigit hdigit rfl
  have hbackslash : c ≠ backslash := ne_of_isAsciiDigit hdigit rfl
  have hcolon : c ≠ Emoji.colon := ne_of_isAsciiDigit hdigit rfl
  simp [isMark, hopening, hbackslash, hcolon]

namespace Report

variable {r : Report} {s : OutputSettings}

def heading : Text × Text :=
  ("Resource", "Issues")

/-- A screen that shows every resource of a report as it is: a row for each entry, in their order,
between the header of the table and the line with the totals. -/
inductive ShownOn (r : Report) (s : OutputSettings) : Text → Prop
  | nothing (h : r.entries = []) : ShownOn r s (r.totalsLine s.emoji)
  | rows {w₁ w₂ : Nat} {header : List Text} {rows : List (List Text)} (h : r.entries ≠ [])
    (hheader : RowShows w₁ w₂ heading.1 heading.2 header)
    (hrows : List.Forall₂
      (fun e lines => RowShows w₁ w₂ e.path (numeral e.items.length) lines) r.entries rows) :
    ShownOn r s
      ((header ++ [List.replicate (w₁ + w₂ + 5) Table.lines.dash] ++ rows.flatten).flatMap
        (· ++ [lineFeed]) ++ r.totalsLine s.emoji)

def pathMarks (es : List Entry) : Nat :=
  (es.map fun e => e.path.countP isMark).sum

theorem countP_lines (lines : List Text) :
    (lines.flatMap (· ++ [lineFeed])).countP isMark = lines.flatten.countP isMark := by
  induction lines with
  | nil => rfl
  | cons l lines ih =>
    rw [List.flatMap_cons, List.flatten_cons, List.countP_append, List.countP_append,
      List.countP_append, ih]
    rfl

theorem countP_dashes (n : Nat) : (List.replicate n Table.lines.dash).countP isMark = 0 := by
  rw [List.countP_replicate]
  rfl

theorem countP_rows {w₁ w₂ : Nat} {es : List Entry} {rows : List (List Text)}
    (h : List.Forall₂
      (fun e lines => RowShows w₁ w₂ e.path (numeral e.items.length) lines) es rows) :
    rows.flatten.flatten.countP isMark = pathMarks es := by
  induction h with
  | nil => rfl
  | @cons e lines es rows hrow _ ih =>
    have hlines := hrow.countP_eq (p := isMark) (by decide)
    rw [countP_isMark_numeral, Nat.add_zero] at hlines
    rw [List.flatten_cons, List.flatten_append, List.countP_append, hlines, ih, pathMarks,
      pathMarks, List.map_cons, List.sum_cons]

theorem ShownOn.countP_eq {screen : Text} (h : ShownOn r s screen) :
    screen.countP isMark = pathMarks r.entries + (r.totalsLine s.emoji).countP isMark := by
  cases h with
  | nothing h => rw [h, pathMarks, List.map_nil, List.sum_nil, Nat.zero_add]
  | rows _ hheader hrows =>
    have hlines := hheader.countP_eq (p := isMark) (by decide)
    have hnames : heading.1.countP isMark + heading.2.countP isMark = 0 := by decide
    rw [List.countP_append, countP_lines, List.flatten_append, List.flatten_append,
      List.countP_append, List.countP_append, List.flatten_singleton, countP_dashes, hlines, hnames,
      countP_rows hrows, Nat.zero_add]

/-! ### The table of a report -/

def Renders (emoji : Bool) (e : Entry) (row : Text × Text) : Prop :=
  Markup.render emoji e.path = .ok row.1 ∧ row.2 = numeral e.items.length

theorem summaryTable_eq_ok_iff {emoji : Bool} {table : Table} :
    r.summaryTable emoji = .ok table ↔
      ∃ rows, List.Forall₂ (Renders emoji) r.entries rows ∧
        ⟨heading, rows⟩ = table := by
  have hrow : ∀ (e : Entry) (row : Text × Text),
      (do return (← Markup.render emoji e.path, numeral e.items.length)) =
        (Except.ok row : Except Fault (Text × Text)) ↔ Renders emoji e row := by
    intro e row
    rw [bind_eq_ok_iff]
    constructor
    · rintro ⟨t, ht, h⟩
      cases h
      exact ⟨ht, rfl⟩
    · rintro ⟨ht, hnumber⟩
      refine ⟨row.1, ht, ?_⟩
      rw [← hnumber]
      rfl
  rw [summaryTable, bind_eq_ok_iff]
  simp only [mapM_eq_ok_iff, hrow]
  exact exists_congr fun rows => and_congr_right fun _ => ⟨Except.ok.inj, congrArg Except.ok⟩

theorem summary_of_entries (hquiet : s.quiet = false) (hentries : r.entries ≠ []) :
    r.summary s = (r.summaryTable s.emoji).map fun table =>
      table.text ++ r.totalsLine s.emoji := by
  have hempty : r.entries.isEmpty = false := List.isEmpty_eq_false_iff.mpr hentries
  simp only [summary, hquiet, hempty]
  cases r.summaryTable s.emoji <;> rfl

theorem summary_of_no_entries (hquiet : s.quiet = false) (hentries : r.entries = []) :
    r.summary s = .ok (r.totalsLine s.emoji) := by
  simp only [summary, hquiet, hentries]
  rfl

/-- The marks of a row are at most those of its path, and fewer if the path has any meaning as
marked text. -/
theorem Renders.countP_le {emoji : Bool} {e : Entry} {row : Text × Text} (h : Renders emoji e row) :
    row.1.countP isMark ≤ e.path.countP isMark :=
  countP_render_le spares_isMark h.1

theorem Renders.isSolid {emoji : Bool} {e : Entry} {row : Text × Text} (h : Renders emoji e row)
    (hpath : e.path.IsVisible) : row.1.IsSolid := by
  have hblank := countP_render_le spares_isBlank h.1
  rw [List.countP_eq_zero.mpr fun c hc => ne_true_of_eq_false (hpath.isSolid c hc)] at hblank
  intro c hc
  exact Bool.eq_false_iff.mpr (List.countP_eq_zero.mp (Nat.le_zero.mp hblank) c hc)

theorem countP_rendered_le {emoji : Bool} {es : List Entry} {rows : List (Text × Text)}
    (h : List.Forall₂ (Renders emoji) es rows) :
    (rows.map fun row => row.1.countP isMark).sum ≤ pathMarks es := by
  induction h with
  | nil => exact Nat.le_refl _
  | cons hrow _ ih => exact Nat.add_le_add hrow.countP_le ih

theorem countP_rendered_lt {emoji : Bool} {es : List Entry} {rows : List (Text × Text)}
    (h : List.Forall₂ (Renders emoji) es rows) {e : Entry} (he : e ∈ es)
    (hpath : e.path.IsVisible) (hliteral : ¬ IsLiteral emoji e.path) :
    (rows.map fun row => row.1.countP isMark).sum < pathMarks es := by
  induction h with
  | nil => cases he
  | @cons e' row es rows hrow hrows ih =>
    obtain rfl | he := List.mem_cons.mp he
    · have hlost := countP_render_lt hrow.1 hpath.isSolid hliteral
      exact Nat.add_lt_add_of_lt_of_le hlost (countP_rendered_le hrows)
    · exact Nat.add_lt_add_of_le_of_lt hrow.countP_le (ih he)

theorem numeral_length_le {n : Nat} (h : n < 10 ^ 74) : (numeral n).length ≤ 74 :=
  (numeral_length_le_iff (by decide)).mpr h

theorem numbers_of_rendered {emoji : Bool} {es : List Entry} {rows : List (Text × Text)}
    (h : List.Forall₂ (Renders emoji) es rows) :
    rows.map (·.2) = es.map fun e => numeral e.items.length := by
  induction h with
  | nil => rfl
  | cons hrow _ ih => rw [List.map_cons, List.map_cons, hrow.2, ih]

/-- The columns of the table have room for something of a path and for all numbers. -/
theorem widths_of_rendered {emoji : Bool} {es : List Entry} {rows : List (Text × Text)}
    (h : List.Forall₂ (Renders emoji) es rows) (hcounts : ∀ e ∈ es, e.items.length < 10 ^ 74) :
    0 < (Table.mk heading rows).widths.1 ∧ heading.2.length ≤ (Table.mk heading rows).widths.2 ∧
      ∀ e ∈ es, (numeral e.items.length).length ≤ (Table.mk heading rows).widths.2 := by
  have hresource : 0 < lineWidth heading.1 := by
    rw [lineWidth_of_isVisible (by decide)]
    decide
  have hnumbers : ∀ n ∈ heading.2 :: rows.map (·.2), n.IsVisible ∧ n.length ≤ 74 := by
    rw [numbers_of_rendered h, List.forall_mem_cons, List.forall_mem_map]
    exact ⟨by decide, fun e he => ⟨isVisible_numeral _, numeral_length_le (hcounts e he)⟩⟩
  obtain ⟨hfirst, hfits⟩ := widths_spec hresource hnumbers
  rw [numbers_of_rendered h, List.forall_mem_cons, List.forall_mem_map] at hfits
  exact ⟨hfirst, hfits⟩

theorem countP_rowLines_rendered {emoji : Bool} (w₁ : Nat) {w₂ : Nat} {es : List Entry}
    {rows : List (Text × Text)} (h : List.Forall₂ (Renders emoji) es rows)
    (hpaths : ∀ e ∈ es, e.path.IsVisible)
    (hfits : ∀ e ∈ es, (numeral e.items.length).length ≤ w₂) :
    (rows.flatMap (rowLines w₁ w₂)).flatten.countP isMark ≤
      (rows.map fun row => row.1.countP isMark).sum := by
  induction h with
  | nil => exact Nat.le_refl _
  | @cons e row es rows hrow _ ih =>
    obtain ⟨hpath, hpaths⟩ := List.forall_mem_cons.mp hpaths
    obtain ⟨hfit, hfits⟩ := List.forall_mem_cons.mp hfits
    have hlines : (rowLines w₁ w₂ (row.1, numeral e.items.length)).flatten.countP isMark ≤
        row.1.countP isMark + (numeral e.items.length).countP isMark :=
      countP_rowLines_le (by decide) (hrow.isSolid hpath) (isVisible_numeral _) hfit
    rw [countP_isMark_numeral, ← hrow.2] at hlines
    rw [List.flatMap_cons, List.flatten_append, List.countP_append]
    exact Nat.add_le_add hlines (ih hpaths hfits)

/-- The table of a report has no other marks than those of its rows. -/
theorem countP_text_le {emoji : Bool} {es : List Entry} {rows : List (Text × Text)}
    (h : List.Forall₂ (Renders emoji) es rows) (hpaths : ∀ e ∈ es, e.path.IsVisible)
    (hcounts : ∀ e ∈ es, e.items.length < 10 ^ 74) :
    (Table.mk heading rows).text.countP isMark ≤
      (rows.map fun row => row.1.countP isMark).sum := by
  obtain ⟨-, hissues, hfits⟩ := widths_of_rendered h hcounts
  have hresource : heading.1.IsVisible := by decide
  have hnames : heading.1.countP isMark + heading.2.countP isMark = 0 := by decide
  have hheader : (rowLines (Table.mk heading rows).widths.1 (Table.mk heading rows).widths.2
      heading).flatten.countP isMark ≤ heading.1.countP isMark + heading.2.countP isMark :=
    countP_rowLines_le (by decide) hresource.isSolid (by decide) hissues
  rw [hnames] at hheader
  rw [Table.text, countP_lines, Table.lines]
  dsimp only
  rw [List.flatten_append, List.flatten_append, List.countP_append, List.countP_append,
    List.flatten_singleton, countP_dashes, Nat.add_zero]
  have hrows := countP_rowLines_rendered (Table.mk heading rows).widths.1 h hpaths hfits
  exact Nat.le_trans (Nat.add_le_add hheader hrows) (Nat.le_of_eq (Nat.zero_add _))

theorem renders_of_isLiteral {emoji : Bool} {es : List Entry} (hpaths : ∀ e ∈ es, e.path.IsVisible)
    (hliteral : ∀ e ∈ es, IsLiteral emoji e.path) :
    List.Forall₂ (Renders emoji) es (es.map fun e => (e.path, numeral e.items.length)) := by
  rw [List.forall₂_map_right_iff, List.forall₂_same]
  intro e he
  have hsignal : ∀ c ∈ e.path, c.isSignal = false := fun c hc => (hpaths e he c hc).isSignal
  exact ⟨render_of_isLiteral (hliteral e he) (hpaths e he).isSolid hsignal, rfl⟩

def plainTable (r : Report) : Table :=
  ⟨heading, r.entries.map fun e => (e.path, numeral e.items.length)⟩

theorem shownOn_text (hentries : r.entries ≠ []) (hpaths : ∀ e ∈ r.entries, e.path.IsVisible)
    (hfirst : 0 < r.plainTable.widths.1) (hissues : heading.2.length ≤ r.plainTable.widths.2)
    (hfits : ∀ e ∈ r.entries, (numeral e.items.length).length ≤ r.plainTable.widths.2) :
    r.ShownOn s (r.plainTable.text ++ r.totalsLine s.emoji) := by
  have hheader := rowShows_rowLines (t := heading.1) (by decide) hfirst (by decide) hissues
  have hrows : List.Forall₂ (fun e lines => RowShows r.plainTable.widths.1 r.plainTable.widths.2
      e.path (numeral e.items.length) lines) r.entries
      (r.entries.map fun e => rowLines r.plainTable.widths.1 r.plainTable.widths.2
        (e.path, numeral e.items.length)) := by
    rw [List.forall₂_map_right_iff, List.forall₂_same]
    exact fun e he =>
      rowShows_rowLines (hpaths e he) hfirst (isVisible_numeral e.items.length) (hfits e he)
  have hlines : r.plainTable.rows.flatMap
      (rowLines r.plainTable.widths.1 r.plainTable.widths.2) =
      (r.entries.map fun e => rowLines r.plainTable.widths.1 r.plainTable.widths.2
        (e.path, numeral e.items.length)).flatten := by
    rw [plainTable, List.flatMap_map, List.flatMap_def]
  rw [Table.text, Table.lines]
  dsimp only
  rw [hlines]
  exact .rows hentries hheader hrows

/-- A summary that is printed does not show a path that means anything else as marked text. -/
theorem not_shownOn {screen : Text} (h : r.summary s = .ok screen) (hquiet : s.quiet = false)
    (hpaths : ∀ e ∈ r.entries, e.path.IsVisible)
    (hcounts : ∀ e ∈ r.entries, e.items.length < 10 ^ 74) {e : Entry} (he : e ∈ r.entries)
    (hliteral : ¬ IsLiteral s.emoji e.path) : ¬ r.ShownOn s screen := by
  intro hshown
  rw [summary_of_entries hquiet (List.ne_nil_of_mem he)] at h
  obtain ⟨table, htable, rfl⟩ := map_eq_ok_iff.mp h
  obtain ⟨rows, hrows, rfl⟩ := summaryTable_eq_ok_iff.mp htable
  -- The screen has the marks of the rows only, and some marks are lost in the rows.
  have hmarks := hshown.countP_eq
  have htext := countP_text_le hrows hpaths hcounts
  have hlost := countP_rendered_lt hrows he (hpaths e he) hliteral
  rw [List.countP_append] at hmarks
  omega

/-- The summary of a report shows the visible paths of all resources as they are if and only if none
of them means anything else as marked text. (Numbers of up to 74 digits leave room for the
paths.) -/
theorem summary_shows_iff (hquiet : s.quiet = false) (hpaths : ∀ e ∈ r.entries, e.path.IsVisible)
    (hcounts : ∀ e ∈ r.entries, e.items.length < 10 ^ 74) :
    (∃ screen, r.summary s = .ok screen ∧ r.ShownOn s screen) ↔
      ∀ e ∈ r.entries, IsLiteral s.emoji e.path := by
  constructor
  · rintro ⟨screen, hscreen, hshown⟩ e he
    by_contra hliteral
    exact not_shownOn hscreen hquiet hpaths hcounts he hliteral hshown
  · intro hliteral
    by_cases hentries : r.entries = []
    · exact ⟨_, summary_of_no_entries hquiet hentries, .nothing hentries⟩
    · have hrows := renders_of_isLiteral hpaths hliteral
      have htable := summaryTable_eq_ok_iff.mpr ⟨_, hrows, rfl⟩
      obtain ⟨hfirst, hissues, hfits⟩ := widths_of_rendered hrows hcounts
      refine ⟨_, ?_, shownOn_text hentries hpaths hfirst hissues hfits⟩
      rw [summary_of_entries hquiet hentries, htable]
      rfl

theorem summary_shows_plain :
    ∃ screen, summary ⟨[⟨"src/a.js", [{}]⟩]⟩ {} = .ok screen ∧
      ShownOn ⟨[⟨"src/a.js", [{}]⟩]⟩ {} screen := by
  refine (summary_shows_iff rfl (by decide) (by decide)).mpr ?_
  intro e he
  obtain rfl := List.mem_singleton.mp he
  exact isLiteral_of_not_isMark (by decide) true

def bracketsReport : Report :=
  ⟨[⟨"src/[id]/p.js", [{}]⟩]⟩

theorem not_shown_brackets :
    (∀ e ∈ bracketsReport.entries, e.path.IsVisible) ∧
      (Markup.render false "src/[id]/p.js").toOption = some "src//p.js" ∧
      ¬ ∃ screen, bracketsReport.summary { color := false, emoji := false } = .ok screen ∧
        bracketsReport.ShownOn { color := false, emoji := false } screen := by
  refine ⟨by decide, by decide +kernel, ?_⟩
  rintro ⟨screen, hscreen, hshown⟩
  have hliteral : ¬ IsLiteral false "src/[id]/p.js" := by
    intro h
    have hbody : IsTag "id" := ⟨'i', "d", rfl, rfl, by decide, by decide⟩
    exact h.untagged "id" hbody ⟨"src/", "/p.js", rfl⟩
  exact not_shownOn hscreen rfl (by decide) (by decide) List.mem_cons_self hliteral hshown

end Report

end WebLint
