import WebLint.Proofs.Payload

namespace WebLint.Payload

/-! ### Records under several keys -/

def ListsUnder (fs : List Field) (r : RawRecord) (k : Text) : Prop :=
  ∃ vs, fieldOf? fs k = some (.list vs) ∧ Value.object r ∈ vs

/-- The first of some keys that is there does not list the record, although a later one does. -/
inductive Hides (fs : List Field) (r : RawRecord) : List Text → Prop
  | here {k : Text} {ks : List Text} (hk : fieldOf? fs k ≠ none) (hr : ¬ ListsUnder fs r k)
    (hlater : ∃ k ∈ ks, ListsUnder fs r k) : Hides fs r (k :: ks)
  | later {k : Text} {ks : List Text} (hk : fieldOf? fs k = none) (h : Hides fs r ks) :
    Hides fs r (k :: ks)

variable {fs : List Field} {r : RawRecord} {k : Text} {ks : List Text} {v : Value}

theorem not_listsUnder_of_none (hk : fieldOf? fs k = none) : ¬ ListsUnder fs r k := by
  rintro ⟨vs, hvs, -⟩
  cases hk.symm.trans hvs

theorem listsUnder_iff_of_some (hk : fieldOf? fs k = some v) :
    ListsUnder fs r k ↔ ∃ vs, v = .list vs ∧ Value.object r ∈ vs := by
  simp only [ListsUnder, hk, Option.some.injEq]

theorem FirstPresent.mem_iff (h : FirstPresent fs ks v) :
    (∃ vs, v = .list vs ∧ Value.object r ∈ vs) ↔
      (∃ k ∈ ks, ListsUnder fs r k) ∧ ¬ Hides fs r ks := by
  induction h with
  | @here k ks v hk =>
    rw [← listsUnder_iff_of_some hk]
    constructor
    · intro hr
      refine ⟨⟨k, List.mem_cons_self, hr⟩, fun hhides => ?_⟩
      cases hhides with
      | here _ hr' _ => exact hr' hr
      | later hk' _ => cases hk.symm.trans hk'
    · rintro ⟨⟨k', hk', hr⟩, hhides⟩
      by_contra hr'
      rcases List.mem_cons.mp hk' with rfl | hk'
      · exact hr' hr
      · exact hhides (.here (by simp [hk]) hr' ⟨k', hk', hr⟩)
  | @later k ks v hk _ ih =>
    rw [ih]
    refine and_congr ?_ (not_congr ⟨.later hk, fun hhides => ?_⟩)
    · simp only [List.mem_cons, exists_eq_or_imp]
      exact (or_iff_right (not_listsUnder_of_none hk)).symm
    · cases hhides with
      | here hk' _ _ => exact absurd hk hk'
      | later _ hhides => exact hhides

theorem Lists.mem_iff {vs : List Value} (h : Lists fs vs) :
    Value.object r ∈ vs ↔ (∃ k ∈ recordKeys, ListsUnder fs r k) ∧ ¬ Hides fs r recordKeys := by
  cases h with
  | missing h =>
    refine iff_of_false List.not_mem_nil ?_
    rintro ⟨⟨k, hk, hr⟩, -⟩
    exact not_listsUnder_of_none (h k hk) hr
  | falsy h hv =>
    refine iff_of_false List.not_mem_nil fun hr => ?_
    obtain ⟨vs, rfl, hr⟩ := h.mem_iff.mpr hr
    rw [Value.isFalsy, List.isEmpty_iff] at hv
    rw [hv] at hr
    cases hr
  | list h =>
    refine Iff.trans ?_ h.mem_iff
    simp

/-- The records that are given for an entry of an accepted list are those that one of its keys
lists, without the ones that a key in front hides. -/
theorem mem_group_iff_not_hides {vs : List Value} {gs : List (Group RawRecord)}
    (h : groups (.list vs) = (gs, none)) :
    List.Forall₂ (fun v g => ∃ fs, v = .object fs ∧ ∀ r : RawRecord,
      r ∈ g.2 ↔ (∃ k ∈ recordKeys, ListsUnder fs r k) ∧ ¬ Hides fs r recordKeys) vs gs := by
  have hgroups : Groups (.list vs) gs := by
    rw [← allGroups_eq_ok_iff, allGroups, h]
  cases hgroups with
  | list hentries =>
    refine hentries.imp fun v g hentry => ?_
    cases hentry with
    | object _ _ hvs =>
      refine ⟨_, rfl, fun r => ?_⟩
      rw [← hvs.mem_iff, List.mem_map_of_injective]
      exact fun r r' h => Value.object.inj h

/-- An entry with a warning, and with an empty list in place of errors. -/
def warned : List Field := [
  ("file", .text "a.js"), ("errors", .list []), ("warnings", .list [.object [("line", .int 1)]])]

theorem mem_group_iff_not_hides_warned :
    groups (.list [.object warned]) = ([(("a.js" : Text), [])], none) ∧
      List.Forall₂ (fun v g => ∃ fs, v = .object fs ∧ ∀ r : RawRecord,
          r ∈ g.2 ↔ (∃ k ∈ recordKeys, ListsUnder fs r k) ∧ ¬ Hides fs r recordKeys)
        [Value.object warned] [(("a.js" : Text), [])] :=
  ⟨rfl, @mem_group_iff_not_hides _ [(("a.js" : Text), [])] rfl⟩

theorem not_mem_group_warned :
    groups (.list [.object warned]) = ([(("a.js" : Text), [])], none) ∧
      ListsUnder warned [("line", .int 1)] "warnings" :=
  ⟨rfl, _, rfl, List.mem_singleton.mpr rfl⟩

/-! ### Members and entries -/

/-- The entry of a list that says the same as a member of an object. -/
def entryOf (m : Field) : Value :=
  .object [("file", .text m.1), ("errors", m.2)]

def IsVoid (v : Value) : Prop :=
  v.isFalsy = true ∧ ∀ vs, v ≠ .list vs

theorem groupOfMember_of_isVoid {m : Field} (h : IsVoid m.2) :
    groupOfMember m = .error (.recordsNotList m.1) := by
  obtain ⟨path, v⟩ := m
  cases v with
  | list vs => exact absurd rfl (h.2 vs)
  | _ => rfl

theorem groupOfEntry_entryOf (i : Nat) {m : Field} (hpath : m.1.isBlank = false) :
    groupOfEntry i (entryOf m) =
      (records m.1 (if m.2.isFalsy then .list [] else m.2)).map (m.1, ·) := by
  have hpresent : firstPresent [("file", .text m.1), ("errors", m.2)] pathKeys = .text m.1 := rfl
  have hlisted : firstPresent [("file", .text m.1), ("errors", m.2)] recordKeys = m.2 := rfl
  simp only [entryOf, groupOfEntry, hpresent, hlisted, hpath, Bool.false_eq_true, if_false]

theorem groupOfEntry_of_isVoid (i : Nat) {m : Field} (hpath : m.1.isBlank = false)
    (h : IsVoid m.2) : groupOfEntry i (entryOf m) = .ok (m.1, []) := by
  rw [groupOfEntry_entryOf i hpath, if_pos h.1]
  rfl

theorem groupOfEntry_of_not_isVoid (i : Nat) {m : Field} (hpath : m.1.isBlank = false)
    (h : ¬ IsVoid m.2) : groupOfEntry i (entryOf m) = groupOfMember m := by
  rw [groupOfEntry_entryOf i hpath, groupOfMember]
  split
  · next hfalsy =>
    obtain ⟨path, v⟩ := m
    cases v with
    | list vs =>
      rw [Value.isFalsy, List.isEmpty_iff] at hfalsy
      rw [hfalsy]
    | _ => exact absurd ⟨hfalsy, by simp⟩ h
  · rfl

/-! ### Up to the first fault -/

theorem untilFault_none_or {α β : Type} (f : α → Except Fault β) (as : List α) :
    (∃ bs, untilFault (as.map f) = (bs, none)) ∨
      ∃ before a after bs e, as = before ++ a :: after ∧
        untilFault (before.map f) = (bs, none) ∧ f a = .error e := by
  induction as with
  | nil => exact .inl ⟨[], rfl⟩
  | cons a as ih =>
    cases ha : f a with
    | error e => exact .inr ⟨[], a, as, [], e, rfl, rfl, ha⟩
    | ok b =>
      rcases ih with ⟨bs, hbs⟩ | ⟨before, a', after, bs, e, rfl, hbs, he⟩
      · exact .inl ⟨b :: bs, by rw [List.map_cons, ha, untilFault, hbs]⟩
      · refine .inr ⟨a :: before, a', after, b :: bs, e, rfl, ?_, he⟩
        rw [List.map_cons, ha, untilFault, hbs]

theorem mapIdx_eq_map {α β : Type} {f : Nat → α → β} {g : α → β} {as : List α}
    (h : ∀ a ∈ as, ∀ i, f i a = g a) : as.mapIdx f = as.map g := by
  refine List.ext_getElem (by simp) fun i hi _ => ?_
  simp [h]

variable {ms : List Field}

theorem groups_map_entryOf (hms : ∀ m ∈ ms, m.1.isBlank = false) :
    groups (.list (ms.map entryOf)) = untilFault (ms.map fun m => groupOfEntry 0 (entryOf m)) := by
  have hmap : (ms.map entryOf).mapIdx groupOfEntry = (ms.map entryOf).map (groupOfEntry 0) := by
    refine mapIdx_eq_map fun v hv i => ?_
    obtain ⟨m, hm, rfl⟩ := List.mem_map.mp hv
    rw [groupOfEntry_entryOf i (hms m hm), groupOfEntry_entryOf 0 (hms m hm)]
  rw [groups, hmap, List.map_map]
  rfl

theorem untilFault_entryOf {gs : List (Group RawRecord)} (hms : ∀ m ∈ ms, m.1.isBlank = false)
    (h : groups (.object ms) = (gs, none)) :
    untilFault (ms.map fun m => groupOfEntry 0 (entryOf m)) = (gs, none) := by
  rw [groups, untilFault_eq_none_iff, List.forall₂_map_left_iff] at h
  rw [untilFault_eq_none_iff, List.forall₂_map_left_iff]
  refine ((List.forall₂_and_left _ _).mpr ⟨hms, h⟩).imp fun m g hmg => ?_
  obtain ⟨hm, hg⟩ := hmg
  rw [groupOfEntry_of_not_isVoid 0 hm, hg]
  intro hvoid
  cases (groupOfMember_of_isVoid hvoid).symm.trans hg

/-- A list of entries and the object that says the same agree if and only if the first member that
is refused, if there is one, does not hold something empty that is no list. If it does, its entry is
read as one without records. -/
theorem groups_entryOf_eq_iff (hms : ∀ m ∈ ms, m.1.isBlank = false) :
    (groups (.list (ms.map entryOf)) = groups (.object ms) ↔
      ∀ before m after gs, ms = before ++ m :: after → groups (.object before) = (gs, none) →
        ¬ IsVoid m.2) ∧
    ∀ before m after gs, ms = before ++ m :: after → groups (.object before) = (gs, none) →
      IsVoid m.2 → groups (.object ms) = (gs, some (.recordsNotList m.1)) ∧
        ∃ gs' f, groups (.list (ms.map entryOf)) = (gs ++ (m.1, []) :: gs', f) := by
  have hvoid : ∀ before m after gs, ms = before ++ m :: after →
      groups (.object before) = (gs, none) → IsVoid m.2 →
      groups (.object ms) = (gs, some (.recordsNotList m.1)) ∧
        ∃ gs' f, groups (.list (ms.map entryOf)) = (gs ++ (m.1, []) :: gs', f) := by
    rintro before m after gs rfl hbefore hm
    have hblank := List.forall_mem_append.mp hms
    have hentries := untilFault_entryOf hblank.1 hbefore
    have hentry := groupOfEntry_of_isVoid 0 (hblank.2 m List.mem_cons_self) hm
    refine ⟨?_, ?_⟩
    · rw [groups, List.map_append, untilFault_append hbefore, List.map_cons,
        groupOfMember_of_isVoid hm, untilFault, List.append_nil]
    · rw [groups_map_entryOf hms, List.map_append, untilFault_append hentries, List.map_cons,
        hentry, untilFault]
      exact ⟨_, _, rfl⟩
  refine ⟨⟨fun heq before m after gs hsplit hbefore hm => ?_, fun h => ?_⟩, hvoid⟩
  · obtain ⟨hobject, gs', f, hlist⟩ := hvoid before m after gs hsplit hbefore hm
    rw [hobject, hlist] at heq
    have hgs := congrArg List.length (Prod.mk.inj heq).1
    rw [List.length_append, List.length_cons] at hgs
    omega
  · rw [groups_map_entryOf hms]
    rcases untilFault_none_or groupOfMember ms with
      ⟨gs, hgs⟩ | ⟨before, m, after, gs, f, rfl, hbefore, hm⟩
    · rw [untilFault_entryOf hms hgs, groups, hgs]
    · have hblank := List.forall_mem_append.mp hms
      have hentry := groupOfEntry_of_not_isVoid 0 (hblank.2 m List.mem_cons_self)
        (h before m after gs rfl hbefore)
      rw [List.map_append, untilFault_append (untilFault_entryOf hblank.1 hbefore), List.map_cons,
        hentry, hm, groups, List.map_append, untilFault_append hbefore, List.map_cons, hm]
      rfl

def refused : List Field :=
  [("a.css", .list []), ("b.css", .int 1), ("c.css", .bool false)]

theorem groups_entryOf_eq_refused :
    (∀ m ∈ refused, m.1.isBlank = false) ∧
      groups (.list (refused.map entryOf)) = groups (.object refused) := by
  have hms : ∀ m ∈ refused, m.1.isBlank = false := by decide +kernel
  refine ⟨hms, (groups_entryOf_eq_iff hms).1.mpr fun before m after gs hsplit hbefore hm => ?_⟩
  match before with
  | [] =>
    obtain ⟨rfl, -⟩ := List.cons.inj hsplit
    exact hm.2 [] rfl
  | [_] =>
    obtain ⟨rfl, -⟩ := List.cons.inj (List.cons.inj hsplit).2
    exact absurd hm.1 (by decide)
  | _ :: _ :: before =>
    obtain ⟨rfl, htail⟩ := List.cons.inj hsplit
    obtain ⟨rfl, -⟩ := List.cons.inj htail
    cases hbefore

theorem groups_entryOf_ne_bool :
    groups (.object [("a.js", .bool false)]) = ([], some (.recordsNotList "a.js")) ∧
      groups (.list [entryOf ("a.js", .bool false)]) = ([(("a.js" : Text), [])], none) :=
  ⟨rfl, rfl⟩

end WebLint.Payload
