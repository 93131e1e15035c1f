import Mathlib.Algebra.GroupWithZero.Nat
import WebLint.Proofs.Act
import WebLint.Proofs.Record
import WebLint.Proofs.Traversal
import WebLint.Record.Session

namespace WebLint

theorem Entry.ofParts_eq_ok_iff {path : Value} {vs : List Value} {e : Entry} :
    ofParts path vs = .ok e ↔ path = .text e.path ∧ e.path.isBlank = false ∧
      List.Forall₂ (fun v i => Item.rule v = .ok i) vs e.items := by
  change mk <$> (pathRule path).under _ <*> (Check.items Item.rule 0 vs).under _ = _ ↔ _
  simp only [Check.seq_eq_ok_iff, Check.map_eq_ok_iff, Check.under_eq_ok_iff, pathRule_eq_ok_iff,
    Check.items_eq_ok_iff]
  constructor
  · rintro ⟨_, ⟨t, ⟨rfl, hblank⟩, rfl⟩, items, hitems, rfl⟩
    exact ⟨rfl, hblank, hitems⟩
  · rintro ⟨rfl, hblank, hitems⟩
    exact ⟨_, ⟨e.path, ⟨rfl, hblank⟩, rfl⟩, e.items, hitems, rfl⟩

/-! ### Records that were made before -/

theorem Rule.optional_ofOption {α : Type} {rule : Rule α} {f : α → Value}
    (hrule : ∀ a, rule (f a) = .ok a) (hnull : ∀ a, f a ≠ .null) (o : Option α) :
    optional rule (.ofOption f o) = .ok o := by
  rw [optional_eq_ok_iff]
  cases o with
  | none => exact .inl ⟨rfl, rfl⟩
  | some a => exact .inr ⟨hnull a, a, hrule a, rfl⟩

theorem Item.rule_toValue (i : Item) : rule i.toValue = .ok i := by
  have htext : ∀ o, Rule.optional Rule.text (.ofOption .text o) = .ok o :=
    Rule.optional_ofOption (fun _ => rfl) fun _ h => nomatch h
  have hinteger : ∀ o, Rule.optional Rule.integer (.ofOption .int o) = .ok o :=
    Rule.optional_ofOption (fun _ => rfl) fun _ h => nomatch h
  change mk <$> (Rule.optional Rule.text _).under _ <*> (Rule.optional Rule.integer _).under _ <*>
    (Rule.optional Rule.integer _).under _ <*> (Rule.optional Rule.text _).under _ <*>
    (Rule.optional Rule.text _).under _ = _
  simp only [htext, hinteger]
  rfl

theorem Check.items_map_toValue (items : List Item) (i : Nat) :
    Check.items Item.rule i (items.map Item.toValue) = .ok items := by
  rw [items_eq_ok_iff, List.forall₂_map_left_iff]
  exact List.forall₂_same.mpr fun i _ => Item.rule_toValue i

theorem Entry.ofParts_map_toValue (path : Value) (items : List Item) :
    ofParts path (items.map Item.toValue) = make path items := by
  change mk <$> (pathRule path).under _ <*> (Check.items Item.rule 0 _).under _ = _
  rw [Check.items_map_toValue, make]
  cases pathRule path <;> rfl

theorem Entry.rule_toValue {e : Entry} (h : e.path.isBlank = false) : rule e.toValue = .ok e := by
  change ofParts (.text e.path) (e.items.map Item.toValue) = .ok e
  rw [ofParts_map_toValue, make, pathRule, h]
  rfl

namespace Report

theorem assign_eq_ok_iff {v : Value} {r : Report} :
    assign v = .ok r ↔
      ∃ vs, v = .list vs ∧ List.Forall₂ (fun v e => Entry.rule v = .ok e) vs r.entries := by
  rw [assign, Check.run_eq_ok_iff, Check.map_eq_ok_iff]
  simp only [Check.under_eq_ok_iff, entriesRule, Rule.list_eq_ok_iff]
  constructor
  · rintro ⟨es, hes, rfl⟩
    exact hes
  · intro h
    exact ⟨r.entries, h, rfl⟩

/-- What holds of a report at any time. -/
structure Sound (r : Report) : Prop where
  isBlank_path : ∀ e ∈ r.entries, e.path.isBlank = false
  reports : r.reports = r.entries
  totalItems : r.totalItems = (r.entries.map fun e => e.items.length).sum

theorem totalItems_eq_sum (r : Report) :
    r.totalItems = (r.entries.map fun e => e.items.length).sum := by
  rw [totalItems, List.sum_eq_foldr, List.foldr_map]

theorem totalItems_push (r : Report) (e : Entry) :
    (r.push e).totalItems = r.totalItems + e.items.length := by
  simp [totalItems_eq_sum, push]

theorem sound_of_isBlank_path {r : Report} (h : ∀ e ∈ r.entries, e.path.isBlank = false) :
    r.Sound :=
  ⟨h, rfl, totalItems_eq_sum r⟩

/-! ### One edit -/

namespace Edit

theorem act_add (path : Value) (items : Iterable) (r : Report) :
    (add path items).act r =
      match items.members >>= fun vs => (Entry.ofParts path vs).run .entry with
      | .ok e => ⟨.ok (some e), r.push e, []⟩
      | .error f => ⟨.error f, r, []⟩ := by
  cases hvs : items.members with
  | error f =>
    exact Act.map_of_error (Act.ofResult_bind_of_error hvs r)
  | ok vs =>
    cases he : (Entry.ofParts path vs).run .entry with
    | error f =>
      have haddition : addition path items r = ⟨.error f, r, []⟩ :=
        (Act.ofResult_bind_of_ok hvs r).trans (Act.ofResult_bind_of_error he r)
      rw [act, Act.map_of_error haddition]
      simp only [bind, Except.bind, he]
    | ok e =>
      have haddition : addition path items r = ⟨.ok e, r.push e, []⟩ :=
        (Act.ofResult_bind_of_ok hvs r).trans (Act.ofResult_bind_of_ok he r)
      rw [act, Act.map_of_ok haddition]
      simp only [bind, Except.bind, he]

theorem act_assign (v : Value) (r : Report) :
    (assign v).act r =
      match Report.assign v with
      | .ok r' => ⟨.ok none, r', []⟩
      | .error f => ⟨.error f, r, []⟩ := by
  cases hv : Report.assign v with
  | error f => exact Act.map_of_error (Act.ofResult_bind_of_error hv r)
  | ok r' => exact Act.map_of_ok (Act.ofResult_bind_of_ok hv r)

theorem act_add_map_toValue (path : Value) (items : List Item) (r : Report) :
    (add path (.given (items.map Item.toValue) none)).act r =
      match r.add path items with
      | .ok (r', e) => ⟨.ok (some e), r', []⟩
      | .error f => ⟨.error f, r, []⟩ := by
  rw [act_add]
  simp only [Iterable.members, bind, Except.bind, Entry.ofParts_map_toValue, Report.add]
  cases (Entry.make path items).run .entry <;> rfl

theorem act_add_text {path : Text} (hpath : path.isBlank = false) (items : List Item) (r : Report) :
    (add (.text path) (.given (items.map Item.toValue) none)).act r =
      ⟨.ok (some ⟨path, items⟩), r.push ⟨path, items⟩, []⟩ := by
  have hadd : r.add (.text path) items = .ok (r.push ⟨path, items⟩, ⟨path, items⟩) := by
    rw [Report.add, Entry.make, Entry.pathRule, hpath]
    rfl
  rw [act_add_map_toValue, hadd]

theorem act_assign_map_toValue {es : List Entry} (hes : ∀ e ∈ es, e.path.isBlank = false)
    (r : Report) : (assign (.list (es.map Entry.toValue))).act r = ⟨.ok none, ⟨es⟩, []⟩ := by
  have hassign : Report.assign (.list (es.map Entry.toValue)) = .ok ⟨es⟩ := by
    refine assign_eq_ok_iff.mpr ⟨_, rfl, ?_⟩
    rw [List.forall₂_map_left_iff]
    exact List.forall₂_same.mpr fun e he => Entry.rule_toValue (hes e he)
  rw [act_assign, hassign]

/-- The causes for which an edit fails. -/
inductive IsBad : Edit → Prop
  | blankPath {t : Text} {items : Iterable} (h : t.isBlank = true) : IsBad (.add (.text t) items)
  | noText {path : Value} {items : Iterable} (h : ∀ t, path ≠ .text t) : IsBad (.add path items)
  | stopped {path : Value} {items : Iterable} {f : Fault} (h : items.members = .error f) :
    IsBad (.add path items)
  | badItem {path : Value} {items : Iterable} {vs : List Value} {v : Value}
    (hvs : items.members = .ok vs) (hv : v ∈ vs) (h : ∀ i, Item.rule v ≠ .ok i) :
    IsBad (.add path items)
  | noList {entries : Value} (h : ∀ vs, entries ≠ .list vs) : IsBad (.assign entries)
  | badEntry {vs : List Value} {v : Value} (hv : v ∈ vs) (h : ∀ e, Entry.rule v ≠ .ok e) :
    IsBad (.assign (.list vs))

theorem isBad_add_iff {path : Value} {items : Iterable} :
    IsBad (.add path items) ↔
      ¬∃ vs, items.members = .ok vs ∧ ∃ e, Entry.ofParts path vs = .ok e := by
  constructor
  · rintro h ⟨vs, hvs, e, he⟩
    obtain ⟨hpath, hblank, hitems⟩ := Entry.ofParts_eq_ok_iff.mp he
    cases h with
    | blankPath h =>
      cases hpath
      cases h.symm.trans hblank
    | noText h => exact h _ hpath
    | stopped h => cases h.symm.trans hvs
    | badItem hvs' hv h =>
      cases hvs'.symm.trans hvs
      obtain ⟨i, hi⟩ := exists_forall₂_left_iff.mp ⟨_, hitems⟩ _ hv
      exact h i hi
  · intro h
    cases hvs : items.members with
    | error f => exact .stopped hvs
    | ok vs =>
      by_contra hbad
      apply h
      have hpath : ∃ t, path = .text t := by
        by_contra hpath
        exact hbad (.noText fun t ht => hpath ⟨t, ht⟩)
      obtain ⟨t, rfl⟩ := hpath
      have hblank : t.isBlank = false := eq_false_of_ne_true fun ht => hbad (.blankPath ht)
      have hitems : ∃ is, List.Forall₂ (fun v i => Item.rule v = .ok i) vs is := by
        refine exists_forall₂_left_iff.mpr fun v hv => ?_
        by_contra hi
        exact hbad (.badItem hvs hv fun i h => hi ⟨i, h⟩)
      obtain ⟨is, his⟩ := hitems
      exact ⟨vs, hvs, ⟨t, is⟩, Entry.ofParts_eq_ok_iff.mpr ⟨rfl, hblank, his⟩⟩

theorem isBad_assign_iff {v : Value} :
    IsBad (.assign v) ↔ ¬∃ r, Report.assign v = .ok r := by
  constructor
  · rintro h ⟨r, hr⟩
    obtain ⟨vs, rfl, hentries⟩ := assign_eq_ok_iff.mp hr
    cases h with
    | noList h => exact h vs rfl
    | badEntry hv h =>
      obtain ⟨e, he⟩ := exists_forall₂_left_iff.mp ⟨_, hentries⟩ _ hv
      exact h e he
  · intro h
    by_contra hbad
    apply h
    have hlist : ∃ vs, v = .list vs := by
      by_contra hlist
      exact hbad (.noList fun vs hvs => hlist ⟨vs, hvs⟩)
    obtain ⟨vs, rfl⟩ := hlist
    have hentries : ∃ es, List.Forall₂ (fun v e => Entry.rule v = .ok e) vs es := by
      refine exists_forall₂_left_iff.mpr fun v hv => ?_
      by_contra he
      exact hbad (.badEntry hv fun e h => he ⟨e, h⟩)
    obtain ⟨es, hes⟩ := hentries
    exact ⟨⟨es⟩, assign_eq_ok_iff.mpr ⟨vs, rfl, hes⟩⟩

/-- All that an edit may do to a report. -/
inductive Leads (r : Report) : Edit → Outcome Report (Option Entry) → Prop
  | added {items : Iterable} {vs : List Value} {e : Entry} {r' : Report}
    (hvs : items.members = .ok vs) (hblank : e.path.isBlank = false)
    (hitems : List.Forall₂ (fun v i => Item.rule v = .ok i) vs e.items)
    (hentries : r'.entries = r.entries ++ [e])
    (htotal : r'.totalItems = r.totalItems + vs.length) :
    Leads r (.add (.text e.path) items) ⟨.ok (some e), r', []⟩
  | assigned {vs : List Value} {r' : Report}
    (h : List.Forall₂ (fun v e => Entry.rule v = .ok e) vs r'.entries) :
    Leads r (.assign (.list vs)) ⟨.ok none, r', []⟩
  | failed {d : Edit} {f : Fault} (h : d.IsBad) : Leads r d ⟨.error f, r, []⟩

theorem leads_act (d : Edit) (r : Report) : Leads r d (d.act r) := by
  cases d with
  | add path items =>
    rw [act_add]
    cases hvs : items.members with
    | error f => exact .failed (.stopped hvs)
    | ok vs =>
      cases he : (Entry.ofParts path vs).run .entry with
      | error f =>
        simp only [bind, Except.bind, he]
        refine .failed (isBad_add_iff.mpr ?_)
        rintro ⟨vs', hvs', e, he'⟩
        cases hvs.symm.trans hvs'
        cases he.symm.trans (Check.run_eq_ok_iff.mpr he')
      | ok e =>
        simp only [bind, Except.bind, he]
        obtain ⟨rfl, hblank, hitems⟩ := Entry.ofParts_eq_ok_iff.mp (Check.run_eq_ok_iff.mp he)
        refine .added hvs hblank hitems rfl ?_
        rw [totalItems_push, hitems.length_eq]
  | assign v =>
    rw [act_assign]
    cases hv : Report.assign v with
    | error f =>
      refine .failed (isBad_assign_iff.mpr ?_)
      rintro ⟨r', hr'⟩
      cases hv.symm.trans hr'
    | ok r' =>
      obtain ⟨vs, rfl, hentries⟩ := assign_eq_ok_iff.mp hv
      exact .assigned hentries

/-- An edit fails for no cause but these, and for each of them. -/
theorem isBad_iff_of_leads {r : Report} {d : Edit} {o : Outcome Report (Option Entry)}
    (h : Leads r d o) : d.IsBad ↔ ∃ f, o.result = .error f := by
  cases h with
  | added hvs hblank hitems =>
    refine ⟨fun hbad => ?_, fun ⟨f, hf⟩ => nomatch hf⟩
    exact absurd ⟨_, hvs, _, Entry.ofParts_eq_ok_iff.mpr ⟨rfl, hblank, hitems⟩⟩
      (isBad_add_iff.mp hbad)
  | @assigned vs r' hentries =>
    refine ⟨fun hbad => ?_, fun ⟨f, hf⟩ => nomatch hf⟩
    exact absurd ⟨r', assign_eq_ok_iff.mpr ⟨vs, rfl, hentries⟩⟩ (isBad_assign_iff.mp hbad)
  | failed hbad => exact ⟨fun _ => ⟨_, rfl⟩, fun _ => hbad⟩

/-! ### All edits -/

theorem sound_of_leads {r : Report} {d : Edit} {o : Outcome Report (Option Entry)}
    (hr : r.Sound) (h : Leads r d o) : o.memory.Sound := by
  apply sound_of_isBlank_path
  cases h with
  | @added items vs e r' hvs hblank hitems hentries =>
    intro e' he'
    rw [hentries, List.mem_append, List.mem_singleton] at he'
    obtain he' | rfl := he'
    · exact hr.isBlank_path e' he'
    · exact hblank
  | assigned hentries =>
    intro e he
    obtain ⟨v, hv⟩ := exists_forall₂_left_iff.mp ⟨_, hentries.flip⟩ e he
    exact Entry.isBlank_path_of_rule hv
  | failed => exact hr.isBlank_path

end Edit

theorem sound_after (edits : List Edit) : (after edits).Sound := by
  have hfold : ∀ r : Report, r.Sound → (edits.foldl (fun r d => (d.act r).memory) r).Sound := by
    induction edits with
    | nil => exact fun r hr => hr
    | cons d edits ih => exact fun r hr => ih _ (Edit.sound_of_leads hr (Edit.leads_act d r))
  exact hfold empty (sound_of_isBlank_path fun e he => absurd he List.not_mem_nil)

theorem after_concat (before : List Edit) (d : Edit) :
    after (before ++ [d]) = (d.act (after before)).memory := by
  rw [after, List.foldl_concat]
  rfl

/-- Whatever the edits before were, the report is sound, and the next edit adds one entry, puts the
checked entries in place of all, or fails for one of the causes and leaves the report as it was.
Findings and entries that are records already are stored as they are, so that a report may be given
its own entries. -/
theorem sound_after_and_leads_act (before : List Edit) (d : Edit) :
    (after before).Sound ∧ (after (before ++ [d])).Sound ∧
      after (before ++ [d]) = (d.act (after before)).memory ∧
      Edit.Leads (after before) d (d.act (after before)) ∧
      (d.IsBad ↔ ∃ f, (d.act (after before)).result = .error f) ∧
      (∀ (path : Text) (items : List Item), path.isBlank = false →
        (Edit.add (.text path) (.given (items.map Item.toValue) none)).act (after before) =
          ⟨.ok (some ⟨path, items⟩), ⟨(after before).entries ++ [⟨path, items⟩]⟩, []⟩) ∧
      (∀ es : List Entry, (∀ e ∈ es, e.path.isBlank = false) →
        (Edit.assign (.list (es.map Entry.toValue))).act (after before) = ⟨.ok none, ⟨es⟩, []⟩) ∧
      (Edit.assign (.list ((after before).reports.map Entry.toValue))).act (after before) =
        ⟨.ok none, after before, []⟩ := by
  have hsound : (after before).Sound := sound_after before
  have hleads : Edit.Leads (after before) d (d.act (after before)) := Edit.leads_act d (after before)
  refine ⟨hsound, sound_after (before ++ [d]), after_concat before d, hleads,
    Edit.isBad_iff_of_leads hleads, fun path items hpath => ?_, fun es hes => ?_, ?_⟩
  · exact Edit.act_add_text hpath items (after before)
  · exact Edit.act_assign_map_toValue hes (after before)
  · exact Edit.act_assign_map_toValue hsound.isBlank_path (after before)

example : (after [.add (.text "b.css") (.value (.list [.object [("line", .text "3")]])),
    .add (.text " ") (.value (.list [])), .assign (.list [.null])]).reports =
      [⟨"b.css", [{line := some 3}]⟩] := by
  decide +kernel

end Report

end WebLint
