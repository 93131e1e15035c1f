import WebLint.Proofs.Payload
import WebLint.Proofs.Record.Containment

namespace WebLint.Payload

variable {ρ : Type}

/-- What is wrong with the value that stands for the records of a path: it is no list, or a list
that holds something else than objects, the first of which is shown. -/
inductive RefusesRecords (path : Text) : Value → Fault → Prop
  | notList {v : Value} (h : ∀ vs, v ≠ .list vs) : RefusesRecords path v (.recordsNotList path)
  | notObject (rs : List RawRecord) {v : Value} (h : ∀ fs, v ≠ .object fs) (more : List Value) :
    RefusesRecords path (.list (rs.map .object ++ v :: more))
      (.quoting v (.recordNotObject path v))

/-- What is wrong with an entry of a list: it is no object, it names no path, or something is wrong
with the value under the first of the keys of records. -/
inductive RefusesEntry (index : Nat) : Value → Fault → Prop
  | notObject {v : Value} (h : ∀ fs, v ≠ .object fs) :
    RefusesEntry index v (.entryNotObject index)
  | unnamed {fs : List Field}
    (h : ∀ path, FirstPresent fs pathKeys (.text path) → path.isBlank = true) :
    RefusesEntry index (.object fs) (.entryUnnamed index)
  | records {fs : List Field} {path : Text} {v : Value} {f : Fault}
    (hpath : FirstPresent fs pathKeys (.text path)) (hblank : path.isBlank = false)
    (hv : FirstPresent fs recordKeys v) (hfalsy : v.isFalsy = false)
    (h : RefusesRecords path v f) : RefusesEntry index (.object fs) f

/-- The groups that a payload yields before it ends or fails, and the fault of the first member or
entry that is malformed. -/
inductive Yields : Value → List (Group RawRecord) → Option Fault → Prop
  | all {v : Value} {gs : List (Group RawRecord)} (h : Groups v gs) : Yields v gs none
  | member {before : List Field} {m : Field} {gs : List (Group RawRecord)} {f : Fault}
    (h : Groups (.object before) gs) (hm : RefusesRecords m.1 m.2 f) (after : List Field) :
    Yields (.object (before ++ m :: after)) gs (some f)
  | entry {before : List Value} {v : Value} {gs : List (Group RawRecord)} {f : Fault}
    (h : Groups (.list before) gs) (hv : RefusesEntry before.length v f) (after : List Value) :
    Yields (.list (before ++ v :: after)) gs (some f)
  | shape {v : Value} (hobject : ∀ fs, v ≠ .object fs) (hlist : ∀ vs, v ≠ .list vs) :
    Yields v [] (some .payloadShape)

def Checked (rule : Rule ρ) (g : Group RawRecord) (g' : Group ρ) : Prop :=
  g'.1 = g.1 ∧ List.Forall₂ (fun r a => rule (.object r) = .ok a) g.2 g'.2

/-- What is told of a record that is invalid: its problems, or the fault that its check raises. -/
inductive Invalid (type : RecordType) (rule : Rule ρ) (path : Text) (r : RawRecord) : Fault → Prop
  | problems {ps : List Problem} (h : rule (.object r) = .problems ps) :
    Invalid type rule path r (.recordInvalid type path ps)
  | fault {f : Fault} (h : rule (.object r) = .fault f) : Invalid type rule path r f

inductive Loads (type : RecordType) (rule : Rule ρ) (v : Value) :
    Except Fault (List (Group ρ)) → Prop
  | checked {gs : List (Group RawRecord)} {gs' : List (Group ρ)} (h : Yields v gs none)
    (hgs : List.Forall₂ (Checked rule) gs gs') : Loads type rule v (.ok gs')
  | malformed {gs : List (Group RawRecord)} {f : Fault} (h : Yields v gs (some f)) :
    Loads type rule v (.error f)
  | invalid {before after : List (Group RawRecord)} {done : List (Group ρ)} {path : Text}
    {rs more : List RawRecord} {r : RawRecord} {as : List ρ} {f : Fault}
    (h : Yields v (before ++ (path, rs ++ r :: more) :: after) none)
    (hbefore : List.Forall₂ (Checked rule) before done)
    (hrs : List.Forall₂ (fun r a => rule (.object r) = .ok a) rs as)
    (hr : Invalid type rule path r f) : Loads type rule v (.error f)

/-! ### Malformed entries -/

theorem objects_of_ne {path : Text} {v : Value} (h : ∀ fs, v ≠ .object fs) (vs : List Value) :
    objects path (v :: vs) = .error (.quoting v (.recordNotObject path v)) := by
  cases v with
  | object fs => exact absurd rfl (h fs)
  | _ => rfl

theorem objects_eq_error_iff {path : Text} {vs : List Value} {f : Fault} :
    objects path vs = .error f ↔ ∃ (rs : List RawRecord) (v : Value) (more : List Value),
      vs = rs.map .object ++ v :: more ∧ (∀ fs, v ≠ .object fs) ∧
        .quoting v (.recordNotObject path v) = f := by
  constructor
  · intro h
    induction vs with
    | nil => cases h
    | cons v vs ih =>
      by_cases hobject : ∃ fs, v = .object fs
      · obtain ⟨fs, rfl⟩ := hobject
        rw [objects, map_eq_error_iff] at h
        obtain ⟨rs, w, more, rfl, hw, hf⟩ := ih h
        exact ⟨fs :: rs, w, more, rfl, hw, hf⟩
      · have hv : ∀ fs, v ≠ .object fs := not_exists.mp hobject
        rw [objects_of_ne hv] at h
        exact ⟨[], v, vs, rfl, hv, Except.error.inj h⟩
  · rintro ⟨rs, v, more, rfl, hv, rfl⟩
    induction rs with
    | nil => exact objects_of_ne hv more
    | cons fs rs ih => exact map_eq_error_iff.mpr ih

theorem records_eq_error_iff {path : Text} {v : Value} {f : Fault} :
    records path v = .error f ↔ RefusesRecords path v f := by
  constructor
  · intro h
    unfold records at h
    split at h
    · obtain ⟨rs, w, more, rfl, hw, rfl⟩ := objects_eq_error_iff.mp h
      exact .notObject rs hw more
    · next hlist =>
      cases h
      exact .notList hlist
  · intro h
    cases h with
    | notList hlist =>
      unfold records
      split
      · exact absurd rfl (hlist _)
      · rfl
    | notObject rs hv more => exact objects_eq_error_iff.mpr ⟨rs, _, more, rfl, hv, rfl⟩

theorem groupOfMember_eq_error_iff {m : Field} {f : Fault} :
    groupOfMember m = .error f ↔ RefusesRecords m.1 m.2 f := by
  rw [groupOfMember, map_eq_error_iff, records_eq_error_iff]

theorem firstPresent_eq_text_iff {fs : List Field} {ks : List Text} {t : Text} :
    firstPresent fs ks = .text t ↔ FirstPresent fs ks (.text t) := by
  rw [firstPresent_eq_iff]
  constructor
  · rintro (h | ⟨h, -⟩)
    · exact h
    · cases h
  · exact .inl

theorem firstPresent_of_not_isFalsy {fs : List Field} {ks : List Text}
    (h : (firstPresent fs ks).isFalsy = false) : FirstPresent fs ks (firstPresent fs ks) := by
  rcases firstPresent_eq_iff.mp (rfl : firstPresent fs ks = _) with hv | ⟨hnull, -⟩
  · exact hv
  · rw [hnull] at h
    cases h

theorem groupOfEntry_eq_error_iff {i : Nat} {v : Value} {f : Fault} :
    groupOfEntry i v = .error f ↔ RefusesEntry i v f := by
  constructor
  · intro h
    unfold groupOfEntry at h
    split at h
    · next fs =>
      split at h
      · next path hpath =>
        have hpath := firstPresent_eq_text_iff.mp hpath
        split at h
        · next hblank =>
          cases h
          refine .unnamed fun path' hpath' => ?_
          have heq := (firstPresent_eq_text_iff.mpr hpath).symm.trans
            (firstPresent_eq_text_iff.mpr hpath')
          rw [← Value.text.inj heq]
          exact hblank
        · next hblank =>
          rw [map_eq_error_iff] at h
          split at h
          · cases h
          · next hfalsy =>
            have hfalsy := eq_false_of_ne_true hfalsy
            exact .records hpath (eq_false_of_ne_true hblank) (firstPresent_of_not_isFalsy hfalsy)
              hfalsy (records_eq_error_iff.mp h)
      · next hpath =>
        cases h
        exact .unnamed fun path hpath' => absurd (firstPresent_eq_text_iff.mpr hpath') (hpath path)
    · next hobject =>
      cases h
      exact .notObject hobject
  · intro h
    cases h with
    | notObject hobject =>
      unfold groupOfEntry
      split
      · exact absurd rfl (hobject _)
      · rfl
    | unnamed h =>
      unfold groupOfEntry
      dsimp only
      split
      · next hpath => rw [if_pos (h _ (firstPresent_eq_text_iff.mp hpath))]
      · rfl
    | records hpath hblank hv hfalsy h =>
      simp only [groupOfEntry, firstPresent_eq_text_iff.mpr hpath, hblank,
        firstPresent_eq_iff.mpr (.inl hv), hfalsy, Bool.false_eq_true, if_false]
      exact map_eq_error_iff.mpr (records_eq_error_iff.mpr h)

/-! ### Up to the first that is malformed -/

theorem groups_object_eq_some_iff {fs : List Field} {gs : List (Group RawRecord)} {f : Fault} :
    groups (.object fs) = (gs, some f) ↔ ∃ before m after, fs = before ++ m :: after ∧
      Groups (.object before) gs ∧ RefusesRecords m.1 m.2 f := by
  rw [groups, untilFault_eq_some_iff]
  simp only [← groups_eq_none_iff, ← groupOfMember_eq_error_iff, groups]
  constructor
  · rintro ⟨_, _, h, hbefore⟩
    obtain ⟨before, fs, rfl, rfl, hfs⟩ := List.map_eq_append_iff.mp h
    obtain ⟨m, after, rfl, hm, rfl⟩ := List.map_eq_cons_iff.mp hfs
    exact ⟨before, m, after, rfl, hbefore, hm⟩
  · rintro ⟨before, m, after, rfl, hbefore, hm⟩
    exact ⟨_, after.map groupOfMember, by rw [List.map_append, List.map_cons, hm], hbefore⟩

theorem groups_list_eq_some_iff {vs : List Value} {gs : List (Group RawRecord)} {f : Fault} :
    groups (.list vs) = (gs, some f) ↔ ∃ before v after, vs = before ++ v :: after ∧
      Groups (.list before) gs ∧ RefusesEntry before.length v f := by
  rw [groups, untilFault_eq_some_iff]
  simp only [← groups_eq_none_iff, ← groupOfEntry_eq_error_iff, groups]
  constructor
  · rintro ⟨_, _, h, hbefore⟩
    obtain ⟨before, vs, rfl, rfl, hvs⟩ := List.mapIdx_eq_append_iff.mp h
    obtain ⟨v, after, rfl, hv, rfl⟩ := List.mapIdx_eq_cons_iff.mp hvs
    rw [Nat.zero_add] at hv
    exact ⟨before, v, after, rfl, hbefore, hv⟩
  · rintro ⟨before, v, after, rfl, hbefore, hv⟩
    refine ⟨_, after.mapIdx fun i => groupOfEntry (i + 1 + before.length), ?_, hbefore⟩
    rw [List.mapIdx_append, List.mapIdx_cons, Nat.zero_add, hv]

theorem groups_eq_iff_yields {v : Value} {gs : List (Group RawRecord)} {f : Option Fault} :
    groups v = (gs, f) ↔ Yields v gs f := by
  constructor
  · intro h
    cases f with
    | none => exact .all (groups_eq_none_iff.mp h)
    | some f =>
      cases v with
      | object fs =>
        obtain ⟨before, m, after, rfl, hbefore, hm⟩ := groups_object_eq_some_iff.mp h
        exact .member hbefore hm after
      | list vs =>
        obtain ⟨before, v, after, rfl, hbefore, hv⟩ := groups_list_eq_some_iff.mp h
        exact .entry hbefore hv after
      | _ =>
        cases h
        exact .shape (by simp) (by simp)
  · intro h
    cases h with
    | all h => exact groups_eq_none_iff.mpr h
    | member h hm after => exact groups_object_eq_some_iff.mpr ⟨_, _, after, rfl, h, hm⟩
    | entry h hv after => exact groups_list_eq_some_iff.mpr ⟨_, _, after, rfl, h, hv⟩
    | shape hobject hlist =>
      unfold groups
      split
      · exact absurd rfl (hobject _)
      · exact absurd rfl (hlist _)
      · rfl

/-! ### Up to the first that is invalid -/

variable {type : RecordType} {rule : Rule ρ}

theorem checkAll_eq_error_iff {g : Group RawRecord} {rs : List RawRecord} {f : Fault} :
    checkGroup.checkAll type rule g rs = .error f ↔ ∃ before r more as,
      rs = before ++ r :: more ∧ List.Forall₂ (fun r a => rule (.object r) = .ok a) before as ∧
        Invalid type rule g.1 r f := by
  constructor
  · intro h
    induction rs with
    | nil => cases h
    | cons r rs ih =>
      rw [checkGroup.checkAll] at h
      split at h
      · next a hr =>
        obtain ⟨before, r', more, as, rfl, hbefore, hr'⟩ := ih (map_eq_error_iff.mp h)
        exact ⟨r :: before, r', more, a :: as, rfl, .cons hr hbefore, hr'⟩
      · next ps hr =>
        cases h
        exact ⟨[], r, rs, [], rfl, .nil, .problems hr⟩
      · next f hr =>
        cases h
        exact ⟨[], r, rs, [], rfl, .nil, .fault hr⟩
  · rintro ⟨before, r, more, as, rfl, hbefore, hr⟩
    induction hbefore with
    | nil =>
      rw [List.nil_append, checkGroup.checkAll]
      cases hr with
      | problems h | fault h => rw [h]
    | cons ha _ ih =>
      rw [List.cons_append, checkGroup.checkAll, ha]
      exact map_eq_error_iff.mpr ih

theorem checkGroup_eq_error_iff {g : Group RawRecord} {f : Fault} :
    checkGroup type rule g = .error f ↔ ∃ before r more as,
      g.2 = before ++ r :: more ∧ List.Forall₂ (fun r a => rule (.object r) = .ok a) before as ∧
        Invalid type rule g.1 r f := by
  rw [checkGroup, map_eq_error_iff, checkAll_eq_error_iff]

theorem mapM_checkGroup_eq_ok_iff {gs : List (Group RawRecord)} {gs' : List (Group ρ)} :
    gs.mapM (checkGroup type rule) = .ok gs' ↔ List.Forall₂ (Checked rule) gs gs' := by
  rw [mapM_eq_ok_iff]
  simp only [checkGroup_eq_ok_iff]
  rfl

theorem mapM_checkGroup_eq_error_iff {gs : List (Group RawRecord)} {f : Fault} :
    gs.mapM (checkGroup type rule) = .error f ↔ ∃ before path rs r more after done as,
      gs = before ++ (path, rs ++ r :: more) :: after ∧
        List.Forall₂ (Checked rule) before done ∧
        List.Forall₂ (fun r a => rule (.object r) = .ok a) rs as ∧ Invalid type rule path r f := by
  rw [mapM_eq_error_iff]
  simp only [checkGroup_eq_ok_iff, checkGroup_eq_error_iff]
  constructor
  · rintro ⟨before, ⟨path, _⟩, after, done, rfl, hbefore, rs, r, more, as, rfl, hrs, hr⟩
    exact ⟨before, path, rs, r, more, after, done, as, rfl, hbefore, hrs, hr⟩
  · rintro ⟨before, path, rs, r, more, after, done, as, rfl, hbefore, hrs, hr⟩
    exact ⟨before, (path, rs ++ r :: more), after, done, rfl, hbefore, rs, r, more, as, rfl, hrs,
      hr⟩

variable {v : Value} {t : Text}

theorem load_eq_of_decode (h : decode t = .ok v) : load t = allGroups v := by
  rw [load, h]
  rfl

theorem loads_of_allGroups {x : Except Fault (List (Group ρ))}
    (h : (allGroups v >>= List.mapM (checkGroup type rule)) = x) : Loads type rule v x := by
  cases x with
  | ok gs' =>
    obtain ⟨gs, hgs, h⟩ := bind_eq_ok_iff.mp h
    exact .checked (.all (allGroups_eq_ok_iff.mp hgs)) (mapM_checkGroup_eq_ok_iff.mp h)
  | error f =>
    rcases bind_eq_error_iff.mp h with h | ⟨gs, hgs, h⟩
    · obtain ⟨gs, hgs⟩ := allGroups_eq_error_iff.mp h
      exact .malformed (groups_eq_iff_yields.mp hgs)
    · obtain ⟨before, path, rs, r, more, after, done, as, rfl, hbefore, hrs, hr⟩ :=
        mapM_checkGroup_eq_error_iff.mp h
      exact .invalid (.all (allGroups_eq_ok_iff.mp hgs)) hbefore hrs hr

theorem allGroups_of_loads {x : Except Fault (List (Group ρ))} (h : Loads type rule v x) :
    (allGroups v >>= List.mapM (checkGroup type rule)) = x := by
  cases h with
  | checked h hgs =>
    rw [allGroups, groups_eq_iff_yields.mpr h]
    exact mapM_checkGroup_eq_ok_iff.mpr hgs
  | malformed h =>
    rw [allGroups, groups_eq_iff_yields.mpr h]
    rfl
  | invalid h hbefore hrs hr =>
    rw [allGroups, groups_eq_iff_yields.mpr h]
    exact mapM_checkGroup_eq_error_iff.mpr ⟨_, _, _, _, _, _, _, _, rfl, hbefore, hrs, hr⟩

/-- The loading of a payload: which groups it yields and where that ends, and what is told then. No
check of a record that a tool gives raises a fault, so such a record is invalid by problems only. -/
theorem loadTyped_eq_iff_loads (v : Value) :
    (∀ gs f, groups v = (gs, f) ↔ Yields v gs f) ∧
    (∀ t, decode t = .ok v → (∀ gs, load t = .ok gs ↔ Yields v gs none) ∧
      (∀ f, load t = .error f ↔ ∃ gs, Yields v gs (some f)) ∧
      ∀ (type : RecordType) (rule : Rule ρ) (x : Except Fault (List (Group ρ))),
        loadTyped type rule t = x ↔ Loads type rule v x) ∧
    (∀ w f, LinterRecord.rule w ≠ .fault f) ∧ ∀ w f, CssRecord.rule w ≠ .fault f := by
  refine ⟨fun _ _ => groups_eq_iff_yields, fun t ht => ?_, ?_, ?_⟩
  · have hload := load_eq_of_decode ht
    refine ⟨fun gs => ?_, fun f => ?_, fun type rule x => ?_⟩
    · rw [hload, allGroups_eq_ok_iff, ← groups_eq_none_iff, groups_eq_iff_yields]
    · rw [hload, allGroups_eq_error_iff]
      simp only [groups_eq_iff_yields]
    · rw [loadTyped, hload]
      exact ⟨loads_of_allGroups, allGroups_of_loads⟩
  · exact fun w => LinterRecord.within_rule (P := fun _ => False) w
  · exact fun w => CssRecord.within_rule (P := fun _ => False) w

def misfits : Value :=
  .list [.object [("file", .text "a.css"), ("errors", .list [.object [("line", .text "x")]])],
    .null]

def misfitsText : Text :=
  "[\x7b\"file\": \"a.css\", \"errors\": [\x7b\"line\": \"x\"\x7d]\x7d, null]"

theorem loadTyped_misfits :
    decode misfitsText = .ok misfits ∧
      (∃ ps, CssRecord.rule (.object [("line", .text "x")]) = .problems ps) ∧
      loadTyped .cssRecord CssRecord.rule misfitsText = .error (.entryNotObject 1) := by
  have hdecode : decode misfitsText = .ok misfits := by
    cbv
  have hgroups : (groups misfits).2 = some (.entryNotObject 1) := by
    rfl
  obtain ⟨hyields, hloads, -⟩ := loadTyped_eq_iff_loads (ρ := CssRecord) misfits
  refine ⟨hdecode, ⟨_, rfl⟩, ((hloads _ hdecode).2.2 .cssRecord CssRecord.rule _).mpr ?_⟩
  exact .malformed ((hyields _ _).mp (Prod.ext rfl hgroups))

end WebLint.Payload
