import Mathlib
import WebLint.Proofs.Utf8
import WebLint.Settings.Load

namespace WebLint.Settings

variable {fs fs' : Files} {base root : Path} {named : Option Path} {s s' : Source}
  {fields table : List Field}

def ownPath (root : Path) : Path :=
  root.append (.ofText fileName)

def projectPath (root : Path) : Path :=
  root.append (.ofText projectName)

/-- The file that settings come from: the one that is named, or else the file of their own in the
root directory, or else the project file there, or else none. -/
inductive Chooses (fs : Files) (base root : Path) : Option Path → Option Source → Prop
  | named {p : Path} {o : Octets} (h : fs.content? base p = some o) :
    Chooses fs base root (some p) (some ⟨p, o, p.name == projectName⟩)
  | own {o : Octets} (h : fs.content? base (ownPath root) = some o) :
    Chooses fs base root none (some ⟨ownPath root, o, false⟩)
  | project {o : Octets} (hown : fs.content? base (ownPath root) = none)
    (h : fs.content? base (projectPath root) = some o) :
    Chooses fs base root none (some ⟨projectPath root, o, true⟩)
  | nothing (hown : fs.content? base (ownPath root) = none)
    (h : fs.content? base (projectPath root) = none) : Chooses fs base root none none

theorem source?_eq_ok_iff {c : Option Source} :
    source? fs base root named = .ok c ↔ Chooses fs base root named c := by
  constructor
  · intro h
    cases named with
    | some p =>
      rw [source?] at h
      split at h <;> cases h
      next o ho => exact .named ho
    | none =>
      rw [source?, sourceIn?] at h
      cases hown : fs.content? base (root.append (.ofText fileName)) with
      | some o =>
        simp only [hown] at h
        cases h
        exact .own hown
      | none =>
        simp only [hown] at h
        cases hproject : fs.content? base (root.append (.ofText projectName)) with
        | some o =>
          simp only [hproject] at h
          cases h
          exact .project hown hproject
        | none =>
          simp only [hproject] at h
          cases h
          exact .nothing hown hproject
  · intro h
    cases h with
    | named h => simp only [source?, h]
    | own h =>
      rw [ownPath] at h
      simp only [source?, sourceIn?, h, ownPath]
    | project hown h =>
      rw [ownPath] at hown
      rw [projectPath] at h
      simp only [source?, sourceIn?, hown, h, projectPath, Option.map_some]
    | nothing hown h =>
      rw [ownPath] at hown
      rw [projectPath] at h
      simp only [source?, sourceIn?, hown, h, Option.map_none]

/-- Either some file is chosen, or none is needed, or one is named that is not there. -/
theorem chooses_or_missing (fs : Files) (base root : Path) (named : Option Path) :
    (∃ c, Chooses fs base root named c) ∨
      ∃ p, named = some p ∧ fs.content? base p = none ∧
        load fs base root named = .error (.settingsMissing p.text) := by
  cases named with
  | some p =>
    cases h : fs.content? base p with
    | some o => exact .inl ⟨_, .named h⟩
    | none =>
      refine .inr ⟨p, rfl, h, ?_⟩
      simp only [load, source?, h]
      rfl
  | none => exact .inl ⟨_, source?_eq_ok_iff.mp rfl⟩

theorem name_append (root : Path) {t : Text} (ht : (Path.ofText t).root = .none)
    (hne : (Path.ofText t).parts ≠ []) : (root.append (.ofText t)).name = (Path.ofText t).name := by
  rw [Path.append, if_pos ht, Path.name, Path.name, List.getLast?_append_of_ne_nil _ hne]

/-- Settings are in a section of a file if the file has the name of project files. -/
theorem Chooses.isProject (h : Chooses fs base root named (some s)) :
    s.isProject = (s.path.name == projectName) := by
  cases h with
  | named => rfl
  | own =>
    have hname : (ownPath root).name = fileName := name_append root rfl (by decide)
    rw [hname]
    rfl
  | project =>
    have hname : (projectPath root).name = projectName := name_append root rfl (by decide)
    rw [hname]
    rfl

/-! ### What is loaded -/

theorem load_of_chooses {c : Option Source} (h : Chooses fs base root named c) :
    load fs base root named = c.elim (.ok {}) Source.settings := by
  rw [load, source?_eq_ok_iff.mpr h]
  cases c <;> rfl

theorem settings_of_table (h : s.table = .ok fields) :
    s.settings = ofTable s.path (if s.isProject then section_ fields else fields) := by
  rw [Source.settings, h]
  rfl

def HasSection (fields table : List Field) : Prop :=
  ∃ tools, fieldOf? fields "tool" = some (.object tools) ∧
    fieldOf? tools "assetqa" = some (.object table)

theorem section_eq (h : HasSection fields table) : section_ fields = table := by
  obtain ⟨tools, htools, htable⟩ := h
  simp only [section_, htools, htable]

theorem section_eq_nil (h : ∀ table, ¬ HasSection fields table) : section_ fields = [] := by
  unfold section_
  split
  · next tools htools =>
    split
    · next table htable => exact absurd ⟨tools, htools, htable⟩ (h table)
    · rfl
  · rfl

/-- Files with settings that come to the same: the settings, the problems with them, or the fault that
ends the check of them, whatever the paths of the files are. -/
inductive SameSettings (p p' : Path) : Except Fault Settings → Except Fault Settings → Prop
  | settings (c : Settings) : SameSettings p p' (.ok c) (.ok c)
  | invalid (ps : List Problem) :
    SameSettings p p' (.error (.settingsInvalid p.text ps)) (.error (.settingsInvalid p'.text ps))
  | fault (f : Fault) : SameSettings p p' (.error f) (.error f)

theorem sameSettings_ofTable (p p' : Path) (table : List Field) :
    SameSettings p p' (ofTable p table) (ofTable p' table) := by
  unfold ofTable
  cases rule (.object table) with
  | ok c => exact .settings c
  | problems ps => exact .invalid ps
  | fault f => exact .fault f

theorem settings_of_hasSection (hs : s.isProject = true) (hfields : s.table = .ok fields)
    (htable : HasSection fields table) : s.settings = ofTable s.path table := by
  rw [settings_of_table hfields, if_pos hs, section_eq htable]

theorem settings_of_whole (hs : s.isProject = false) (htable : s.table = .ok table) :
    s.settings = ofTable s.path table := by
  rw [settings_of_table htable, hs]
  rfl

theorem settings_of_no_section (hs : s.isProject = true) (hfields : s.table = .ok fields)
    (hnone : ∀ table, ¬ HasSection fields table) : s.settings = .ok {} := by
  rw [settings_of_table hfields, if_pos hs, section_eq_nil hnone]
  rfl

/-- The table that settings are read from: a whole file, a section of a project file, or nothing. -/
inductive Configures (fs : Files) (base root : Path) (named : Option Path) : List Field → Prop
  | nothing (h : Chooses fs base root named none) : Configures fs base root named []
  | whole {s : Source} {table : List Field} (h : Chooses fs base root named (some s))
    (hs : s.isProject = false) (htable : s.table = .ok table) : Configures fs base root named table
  | part {s : Source} {fields : List Field} (h : Chooses fs base root named (some s))
    (hs : s.isProject = true) (hfields : s.table = .ok fields) :
    Configures fs base root named (section_ fields)

theorem load_of_configures (h : Configures fs base root named table) {c : Settings}
    (hc : rule (.object table) = .ok c) : load fs base root named = .ok c := by
  have htable : ∀ p, ofTable p table = .ok c := by
    intro p
    rw [ofTable, hc]
  cases h with
  | nothing h =>
    rw [load_of_chooses h]
    exact htable base
  | whole h hs hwhole =>
    rw [load_of_chooses h]
    exact (settings_of_whole hs hwhole).trans (htable _)
  | part h hs hfields =>
    rw [load_of_chooses h]
    refine (settings_of_table hfields).trans ?_
    rw [if_pos hs]
    exact htable _

/-- A file that is named decides alone and must be there. Without a name the first of the two files
in the root directory decides, and without them the defaults hold; what any other file holds makes
no difference. A table means the same as the section of a project file, whatever else is in that, as
it does as the whole of a file of another name. A project file without such a section gives the
defaults. -/
theorem load_chosen (base root : Path) :
    (∀ fs named,
      (∃ c, Chooses fs base root named c ∧
        load fs base root named = c.elim (.ok {}) Source.settings ∧
        ∀ fs' root', Chooses fs' base root' named c →
          load fs' base root' named = load fs base root named) ∨
      ∃ p, named = some p ∧ fs.content? base p = none ∧
        load fs base root named = .error (.settingsMissing p.text)) ∧
    (∀ fs named s fields table, Chooses fs base root named (some s) → s.path.name = projectName →
      s.table = .ok fields → HasSection fields table →
      ∀ fs' root' named' s', Chooses fs' base root' named' (some s') → s'.path.name ≠ projectName →
        s'.table = .ok table →
        SameSettings s.path s'.path (load fs base root named) (load fs' base root' named')) ∧
    ∀ fs named s fields, Chooses fs base root named (some s) → s.path.name = projectName →
      s.table = .ok fields → (∀ table, ¬ HasSection fields table) →
      load fs base root named = .ok {} := by
  refine ⟨fun fs named => ?_, ?_, ?_⟩
  · refine (chooses_or_missing fs base root named).imp_left ?_
    rintro ⟨c, h⟩
    refine ⟨c, h, load_of_chooses h, fun fs' root' h' => ?_⟩
    rw [load_of_chooses h, load_of_chooses h']
  · intro fs named s fields table h hname hfields htable fs' root' named' s' h' hname' htable'
    have hproject : s.isProject = true := h.isProject.trans (beq_iff_eq.mpr hname)
    have hwhole : s'.isProject = false := h'.isProject.trans (beq_eq_false_iff_ne.mpr hname')
    rw [load_of_chooses h, load_of_chooses h', Option.elim_some, Option.elim_some,
      settings_of_hasSection hproject hfields htable, settings_of_whole hwhole htable']
    exact sameSettings_ofTable s.path s'.path table
  · intro fs named s fields h hname hfields hnone
    rw [load_of_chooses h, Option.elim_some]
    exact settings_of_no_section (h.isProject.trans (beq_iff_eq.mpr hname)) hfields hnone

/-! The same settings in a file of their own and in a section of a project file. -/

def cssTable : List Field :=
  [("report", .object [("tool", .text "csslint")])]

def cssText : Text := "[report]\ntool = \"csslint\"\n"

def cssSection : Text := "[project]\n\n[tool.assetqa.report]\ntool = \"csslint\"\n"

def cssFiles : Files :=
  ⟨[([fileName], .file (Utf8.encode cssText))]⟩

def cssProject : Files :=
  ⟨[([projectName], .file (Utf8.encode cssSection))]⟩

theorem table_of_encode {p : Path} {t : Text} {isProject : Bool}
    (ht : ∀ c ∈ t, c.isSurrogate = false) (h : Toml.read t = .ok fields) :
    (Source.mk p (Utf8.encode t) isProject).table = .ok fields := by
  rw [Source.table, Utf8.decode_encode ht]
  simp only [Except.mapError, bind, Except.bind, h]
  rfl

theorem load_chosen_css :
    SameSettings (projectPath (.ofText "/")) (ownPath (.ofText "/"))
      (load cssProject (.ofText "/") (.ofText "/") none)
      (load cssFiles (.ofText "/") (.ofText "/") none) := by
  have hsection : Toml.read cssSection =
      .ok [("project", .object []), ("tool", .object [("assetqa", .object cssTable)])] := by
    cbv
  have hwhole : Toml.read cssText = .ok cssTable := by
    cbv
  exact (load_chosen (.ofText "/") (.ofText "/")).2.1 _ _ _ _ _ (.project rfl rfl) rfl
    (table_of_encode (by decide) hsection) ⟨_, rfl, rfl⟩ _ _ _ _ (.own rfl) (by decide)
    (table_of_encode (by decide) hwhole)

theorem not_chosen_missing :
    cssFiles.content? (.ofText "/") (.ofText "absent.toml") = none ∧
      (load cssFiles (.ofText "/") (.ofText "/") none).toOption =
        some { report := { tool := .cssLint } } ∧
      load cssFiles (.ofText "/") (.ofText "/") (some (.ofText "absent.toml")) =
        .error (.settingsMissing "absent.toml") :=
  ⟨rfl, by decide +kernel, rfl⟩

end WebLint.Settings
