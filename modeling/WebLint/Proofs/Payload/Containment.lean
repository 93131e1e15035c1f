import WebLint.Proofs.Json.Limit
import WebLint.Proofs.Json.Prefix
import WebLint.Proofs.Payload
import WebLint.Proofs.Record.Containment

namespace WebLint.Payload

open Check

variable {ρ : Type}

/-! ### Groups -/

theorem contained_objects (path : Text) {vs : List Value}
    (hvs : ∀ v ∈ vs, v.exceedsDigitLimit = false) : Contained (objects path vs) := by
  fun_induction objects path vs with
  | case1 => exact .ok []
  | case2 fs vs ih => exact (ih (List.forall_mem_cons.mp hvs).2).map _
  | case3 v vs hv =>
    have hexceeds := (List.forall_mem_cons.mp hvs).1
    refine .error ?_
    rw [Fault.quoting, hexceeds]
    rfl

theorem contained_records (path : Text) {v : Value} (hv : v.exceedsDigitLimit = false) :
    Contained (records path v) := by
  unfold records
  split
  · next vs => exact contained_objects path (Value.anyExceeds_eq_false_iff.mp hv)
  · exact .error rfl

theorem contained_groupOfMember {m : Field} (hm : m.2.exceedsDigitLimit = false) :
    Contained (groupOfMember m) :=
  (contained_records m.1 hm).map _

theorem exceeds_of_fieldOf? {fs : List Field} {name : Text} {v : Value}
    (hfs : (Value.object fs).exceedsDigitLimit = false) (h : fieldOf? fs name = some v) :
    v.exceedsDigitLimit = false := by
  rw [Value.exceedsDigitLimit, Value.anyFieldExceeds_eq_false_iff] at hfs
  obtain ⟨m, hm, rfl⟩ := Option.map_eq_some_iff.mp h
  exact hfs m (List.mem_of_find?_eq_some hm)

theorem exceeds_firstPresent {fs : List Field} (hfs : (Value.object fs).exceedsDigitLimit = false)
    (keys : List Text) : (firstPresent fs keys).exceedsDigitLimit = false := by
  unfold firstPresent
  cases h : keys.findSome? (fieldOf? fs) with
  | none => rfl
  | some v =>
    obtain ⟨key, -, hkey⟩ := List.exists_of_findSome?_eq_some h
    exact exceeds_of_fieldOf? hfs hkey

theorem contained_groupOfEntry (index : Nat) {v : Value} (hv : v.exceedsDigitLimit = false) :
    Contained (groupOfEntry index v) := by
  unfold groupOfEntry
  split
  · next fs =>
    split
    · split
      · exact .error rfl
      · refine (contained_records _ ?_).map _
        split
        · rfl
        · exact exceeds_firstPresent hv recordKeys
    · exact .error rfl
  · exact .error rfl

theorem contained_allGroups {v : Value} (hv : v.exceedsDigitLimit = false) :
    Contained (allGroups v) := by
  intro f h
  obtain ⟨gs, hgroups⟩ := allGroups_eq_error_iff.mp h
  cases v with
  | object fs =>
    obtain ⟨before, after, hsplit, -⟩ := untilFault_eq_some_iff.mp hgroups
    obtain ⟨m, hm, hf⟩ := List.mem_map.mp (hsplit ▸ List.mem_append_cons_self)
    exact contained_groupOfMember (Value.anyFieldExceeds_eq_false_iff.mp hv m hm) f hf
  | list vs =>
    obtain ⟨before, after, hsplit, -⟩ := untilFault_eq_some_iff.mp hgroups
    obtain ⟨i, hi, hf⟩ := List.mem_mapIdx.mp (hsplit ▸ List.mem_append_cons_self)
    exact contained_groupOfEntry i
      (Value.anyExceeds_eq_false_iff.mp hv _ (List.getElem_mem hi)) f hf
  | _ =>
    cases hgroups
    rfl

/-! ### Checked records -/

theorem contained_checkGroup (type : RecordType) {rule : Rule ρ}
    (hrule : rule.Within (·.isConfiguration)) (g : Group RawRecord) :
    Contained (checkGroup type rule g) := by
  refine Contained.map ?_ _
  induction g.2 with
  | nil => exact .ok []
  | cons r rs ih =>
    unfold checkGroup.checkAll
    split
    · exact ih.map _
    · exact .error rfl
    · next f hf => exact .error (hrule _ f hf)

/-! ### Documents -/

/-- An integer of too many digits stands where, without it and all that follows, a value would be
missing. -/
def LongIntegerIn (t : Text) (n : Nat) : Prop :=
  ∃ before rest, t = before ++ rest ∧ Json.read before = .error (.malformed .expectingValue []) ∧
    Json.StartsLong rest n

theorem escapes_decode_iff {t : Text} {f : Fault} :
    Escapes (decode t) f ↔ ∃ n, f = .numeralTooLong n ∧ LongIntegerIn t.trim n := by
  constructor
  · rintro ⟨h, hf⟩
    unfold decode at h
    dsimp only at h
    split at h
    · cases h
    · split at h
      · cases h
      · cases h
        cases hf
      · next n hread =>
        cases h
        exact ⟨n, rfl, Json.read_eq_longInteger_iff.mp hread⟩
  · rintro ⟨n, rfl, h⟩
    have hread := Json.read_eq_longInteger_iff.mpr h
    have hne : t.trim.isEmpty = false := by
      cases ht : t.trim with
      | nil =>
        rw [ht] at hread
        cases hread
      | cons => rfl
    refine ⟨?_, rfl⟩
    simp only [decode, hne, hread, Bool.false_eq_true, if_false]

theorem exceeds_of_decode {t : Text} {v : Value} (h : decode t = .ok v) :
    v.exceedsDigitLimit = false := by
  unfold decode at h
  dsimp only at h
  split at h
  · cases h
    rfl
  · split at h
    · next hread =>
      cases h
      exact Json.exceedsDigitLimit_of_read hread
    · cases h
    · cases h

theorem exceeds_of_lists {fs : List Field} {vs : List Value}
    (hfs : (Value.object fs).exceedsDigitLimit = false) (h : Lists fs vs) :
    (Value.list vs).exceedsDigitLimit = false := by
  rw [← lists_iff.mp h]
  split
  · rfl
  · exact exceeds_firstPresent hfs recordKeys

theorem exceeds_of_load {t : Text} {gs : List (Group RawRecord)} (h : load t = .ok gs) :
    ∀ g ∈ gs, ∀ r ∈ g.2, (Value.object r).exceedsDigitLimit = false := by
  have hrecords : ∀ g : Group RawRecord,
      (Value.list (g.2.map .object)).exceedsDigitLimit = false →
        ∀ r ∈ g.2, (Value.object r).exceedsDigitLimit = false :=
    fun g hg r hr => Value.anyExceeds_eq_false_iff.mp hg _ (List.mem_map_of_mem hr)
  obtain ⟨v, hv, hgroups⟩ := bind_eq_ok_iff.mp h
  have hexceeds := exceeds_of_decode hv
  cases allGroups_eq_ok_iff.mp hgroups with
  | object hgs =>
    refine forall_mem_of_forall₂ hgs (Value.anyFieldExceeds_eq_false_iff.mp hexceeds) ?_
    rintro m g hm rfl
    exact hrecords g hm
  | list hgs =>
    refine forall_mem_of_forall₂ hgs (Value.anyExceeds_eq_false_iff.mp hexceeds) ?_
    rintro v g hv ⟨-, -, hlists⟩
    exact hrecords g (exceeds_of_lists hv hlists)

theorem escapes_load {t : Text} {f : Fault} : Escapes (load t) f ↔ Escapes (decode t) f :=
  escapes_bind_iff fun _ hv => contained_allGroups (exceeds_of_decode hv)

theorem escapes_loadTyped {type : RecordType} {rule : Rule ρ}
    (hrule : rule.Within (·.isConfiguration)) {t : Text} {f : Fault} :
    Escapes (loadTyped type rule t) f ↔ Escapes (load t) f :=
  escapes_bind_iff fun _ _ => Contained.mapM fun g _ => contained_checkGroup type hrule g

/-- The faults that escape from the loading of a payload, with or without a record type: only an
integer of too many digits stops it otherwise than with a fault of a configuration. -/
theorem escapes_load_iff (t : Text) (f : Fault) :
    (Escapes (load t) f ↔ ∃ n, f = .numeralTooLong n ∧ LongIntegerIn t.trim n) ∧
      ∀ type : RecordType, Escapes (loadTyped type type.rule t) f ↔
        ∃ n, f = .numeralTooLong n ∧ LongIntegerIn t.trim n := by
  have hload := escapes_load.trans (escapes_decode_iff (t := t) (f := f))
  exact ⟨hload, fun type => (escapes_loadTyped type.within_rule).trans hload⟩

/-- As many ones as make an integer that is too long by one digit. -/
def ones : Text :=
  List.replicate (digitLimit + 1) '1'

theorem longIntegerIn_ones : LongIntegerIn ones.trim (digitLimit + 1) := by
  have hdigit : ∀ c ∈ ones, c.isAsciiDigit = true := by
    intro c hc
    rw [(List.mem_replicate.mp hc).2]
    rfl
  have htrim : ones.trim = ones :=
    Text.trimWhile_of_forall_not fun c hc => isBlank_digit (hdigit c hc)
  have hlength : ones.length = digitLimit + 1 := List.length_replicate
  have hwhole : Json.IsWhole ones :=
    ⟨hdigit, List.cons_ne_nil _ _, fun h => absurd h (by decide)⟩
  have hdigit' : Json.NoDigit [] := by simp [Json.NoDigit]
  have hlong := Json.StartsLong.intro false hwhole (by omega) hdigit' rfl rfl
  rw [List.append_nil, hlength] at hlong
  exact ⟨[], ones, htrim, rfl, hlong⟩

/-- Loading a document that is nothing but such an integer stops with a fault that escapes. -/
theorem escapes_load_ones :
    Escapes (load ones) (.numeralTooLong 4301) ∧
      ∀ type : RecordType, Escapes (loadTyped type type.rule ones) (.numeralTooLong 4301) := by
  have hload := escapes_load.mpr (escapes_decode_iff.mpr ⟨_, rfl, longIntegerIn_ones⟩)
  exact ⟨hload, fun type => (escapes_loadTyped type.within_rule).mpr hload⟩

end WebLint.Payload
