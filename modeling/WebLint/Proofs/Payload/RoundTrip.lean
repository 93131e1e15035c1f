import WebLint.Proofs.Json.RoundTrip
import WebLint.Proofs.Payload.Precedence
import WebLint.Proofs.Payload.Shapes
import WebLint.Proofs.Text.Trim

namespace WebLint

namespace Payload

/-- The member of an object that stands for a group. -/
def memberOf (g : Group RawRecord) : Field :=
  (g.1, .list (g.2.map .object))

theorem decode_padded {pre post t : Text} {c d : Code} {v : Value} (hpre : pre.isBlank = true)
    (hpost : post.isBlank = true) (hc : c.isBlank = false) (hd : d.isBlank = false)
    (h : Json.read (c :: (t ++ [d])) = .ok v) :
    decode (pre ++ (c :: (t ++ [d])) ++ post) = .ok v := by
  have htrim : (pre ++ (c :: (t ++ [d])) ++ post).trim = c :: (t ++ [d]) :=
    Text.trimWhile_padded (List.all_eq_true.mp hpre) (List.all_eq_true.mp hpost) hc hd
  simp only [decode, htrim, h, List.isEmpty_cons, Bool.false_eq_true, if_false]

variable {gs : List (Group RawRecord)}

/-- A group as it is read: surrogates of its path that belong together are one code point. -/
def joined (g : Group RawRecord) : Group RawRecord :=
  (Json.joinSurrogates g.1, g.2)

theorem joined_of_unpaired {g : Group RawRecord} (h : Json.Unpaired g.1) : joined g = g := by
  rw [joined, Json.joinSurrogates_of_unpaired h]

theorem rendersField_memberOf {g : Group RawRecord} (h : ∀ r ∈ g.2, (Value.object r).Lasts) :
    Json.RendersField (memberOf g) (memberOf (joined g)) := by
  refine ⟨rfl, Json.renders_list (List.forall₂_map_left_iff.mpr ?_)⟩
  exact List.forall₂_map_right_iff.mpr (List.forall₂_same.mpr fun r hr => (h r hr).renders)

theorem renders_entryOf {g : Group RawRecord} (h : ∀ r ∈ g.2, (Value.object r).Lasts) :
    Json.Renders (Json.write (entryOf (memberOf g))) (entryOf (memberOf (joined g))) := by
  have hkey : ∀ key ∈ (["file", "errors"] : List Text), key = Json.joinSurrogates key := by
    intro key hkey
    refine (Json.joinSurrogates_of_unpaired (Json.unpaired_of_forall_not_isSurrogate ?_)).symm
    revert key
    decide
  have hfile : Json.RendersField ("file", .text g.1) ("file", .text (Json.joinSurrogates g.1)) :=
    ⟨hkey _ (by simp), Json.renders_text g.1⟩
  have herrors : Json.RendersField ("errors", (memberOf g).2) ("errors", (memberOf g).2) :=
    ⟨hkey _ (by simp), (rendersField_memberOf h).2⟩
  have hfields : ∀ v w, putFields [] [("file", v), ("errors", w)] =
      ([("file", v), ("errors", w)] : List Field) :=
    fun _ _ => rfl
  have hobject := Json.renders_object (.cons hfile (.cons herrors .nil))
  rwa [hfields] at hobject

theorem firstPresent_file (m : Field) :
    FirstPresent [("file", .text m.1), ("errors", m.2)] pathKeys (.text m.1) :=
  .here rfl

theorem path_of_isEntry {m : Field} {path : Text} {vs : List Value}
    (h : IsEntry (entryOf m) path vs) : m.1 = path := by
  cases h with
  | object hpath =>
    have heq := (firstPresent_eq_text_iff.mpr (firstPresent_file m)).symm.trans
      (firstPresent_eq_text_iff.mpr hpath)
    exact Value.text.inj heq

theorem isEntry_entryOf {g : Group RawRecord} (hblank : g.1.isBlank = false) :
    IsEntry (entryOf (memberOf g)) g.1 (g.2.map .object) :=
  .object (firstPresent_file _) hblank (.list (.here rfl))

theorem groups_entries_iff (hblank : ∀ g ∈ gs, g.1.isBlank = false) :
    Groups (.list (gs.map fun g => entryOf (memberOf (joined g)))) gs ↔
      ∀ g ∈ gs, Json.Unpaired g.1 := by
  constructor
  · intro h g hg
    cases h with
    | list h =>
      have hg := List.forall₂_same.mp (List.forall₂_map_left_iff.mp h) g hg
      exact Json.joinSurrogates_eq_self_iff.mp (path_of_isEntry hg)
  · intro h
    refine .list (List.forall₂_map_left_iff.mpr (List.forall₂_same.mpr fun g hg => ?_))
    rw [joined_of_unpaired (h g hg)]
    exact isEntry_entryOf (hblank g hg)

theorem groups_members_iff (hnodup : (gs.map (·.1)).Nodup) :
    Groups (.object (putFields [] (gs.map fun g => memberOf (joined g)))) gs ↔
      ∀ g ∈ gs, Json.Unpaired g.1 := by
  constructor
  · intro h g hg
    cases h with
    | object h =>
      have hkeys : ∀ m ∈ putFields [] (gs.map fun g => memberOf (joined g)), Json.Unpaired m.1 := by
        intro m hm
        obtain ⟨g, -, rfl⟩ := List.mem_map.mp ((mem_putFields hm).resolve_left List.not_mem_nil)
        exact Json.unpaired_joinSurrogates g.1
      refine forall_mem_of_forall₂ (q := fun g => Json.Unpaired g.1) h hkeys ?_ g hg
      rintro m g hm rfl
      exact hm
  · intro h
    have hjoined : gs.map (fun g => memberOf (joined g)) = gs.map memberOf :=
      List.map_congr_left fun g hg => congrArg memberOf (joined_of_unpaired (h g hg))
    have hkeys : ((gs.map memberOf).map (·.1)).Nodup := by
      rwa [List.map_map]
    rw [hjoined, putFields_of_nodup hkeys]
    exact .object (List.forall₂_map_left_iff.mpr (List.forall₂_same.mpr fun _ _ => rfl))

theorem load_padded_eq_ok_iff {pre post t : Text} {c d : Code} {v : Value}
    (hpre : pre.isBlank = true) (hpost : post.isBlank = true) (hc : c.isBlank = false)
    (hd : d.isBlank = false) (h : Json.Renders (c :: (t ++ [d])) v) :
    load (pre ++ (c :: (t ++ [d])) ++ post) = .ok gs ↔ Groups v gs := by
  rw [load_eq_of_decode (decode_padded hpre hpost hc hd h.read), allGroups_eq_ok_iff]

theorem load_eq_ok_iff_of_renders {t : Text} {c d : Code} {v : Value} (hc : c.isBlank = false)
    (hd : d.isBlank = false) (h : Json.Renders (c :: (t ++ [d])) v) :
    load (c :: (t ++ [d])) = .ok gs ↔ Groups v gs := by
  have hnil : Text.isBlank [] = true := rfl
  have hpadded : load ([] ++ (c :: (t ++ [d])) ++ []) = .ok gs ↔ _ :=
    load_padded_eq_ok_iff hnil hnil hc hd h
  rwa [List.nil_append, List.append_nil] at hpadded

/-- Loading groups that were written as a payload, with white space around it: they come back if and
only if no path holds surrogates that belong together. -/
theorem load_write_eq_ok_iff (hblank : ∀ g ∈ gs, g.1.isBlank = false)
    (hrecords : ∀ g ∈ gs, ∀ r ∈ g.2, (Value.object r).Lasts) {pre post : Text}
    (hpre : pre.isBlank = true) (hpost : post.isBlank = true) :
    (load (pre ++ Json.write (.list (gs.map fun g => entryOf (memberOf g))) ++ post) = .ok gs ↔
      ∀ g ∈ gs, Json.Unpaired g.1) ∧
    ((gs.map (·.1)).Nodup →
      (load (pre ++ Json.write (.object (gs.map memberOf)) ++ post) = .ok gs ↔
        ∀ g ∈ gs, Json.Unpaired g.1)) := by
  constructor
  · rw [← groups_entries_iff hblank]
    refine load_padded_eq_ok_iff hpre hpost (by decide) (by decide) (Json.renders_list ?_)
    refine List.forall₂_map_left_iff.mpr (List.forall₂_map_right_iff.mpr ?_)
    exact List.forall₂_same.mpr fun g hg => renders_entryOf (hrecords g hg)
  · intro hnodup
    rw [← groups_members_iff hnodup]
    refine load_padded_eq_ok_iff hpre hpost (by decide) (by decide) (Json.renders_object ?_)
    refine List.forall₂_map_left_iff.mpr (List.forall₂_map_right_iff.mpr ?_)
    exact List.forall₂_same.mpr fun g hg => rendersField_memberOf (hrecords g hg)

/-- A group whose record holds values of several kinds, one inside the other. -/
def nested : Group RawRecord :=
  ("a.css", [[("line", .int (-3)), ("found", .list [.text [Code.ofNat 0x1f600], .bool true, .null]),
    ("more", .object [("\"", .list [])])]])

theorem lasts_nested : ∀ r ∈ nested.2, (Value.object r).Lasts := by
  have hunpaired : ∀ t : Text, t.all (!·.isSurrogate) = true → Json.Unpaired t := by
    intro t ht
    refine Json.unpaired_of_forall_not_isSurrogate fun c hc => ?_
    simpa using List.all_eq_true.mp ht c hc
  have hfound : ∀ v ∈ ([.text [Code.ofNat 0x1f600], .bool true, .null] : List Value), v.Lasts :=
    List.forall_mem_cons.mpr ⟨.text (hunpaired _ rfl),
      List.forall_mem_cons.mpr ⟨.bool true, List.forall_mem_singleton.mpr .null⟩⟩
  have hmore : (Value.object [("\"", .list [])]).Lasts :=
    .object (by decide) (List.forall_mem_singleton.mpr (hunpaired _ rfl))
      (List.forall_mem_singleton.mpr (.list (by simp)))
  refine List.forall_mem_singleton.mpr (.object (by decide) ?_ ?_)
  · exact List.forall_mem_cons.mpr ⟨hunpaired _ rfl,
      List.forall_mem_cons.mpr ⟨hunpaired _ rfl, List.forall_mem_singleton.mpr (hunpaired _ rfl)⟩⟩
  · exact List.forall_mem_cons.mpr ⟨.int (by decide),
      List.forall_mem_cons.mpr ⟨.list hfound, List.forall_mem_singleton.mpr hmore⟩⟩

theorem load_write_nested :
    (∀ r ∈ nested.2, (Value.object r).Lasts) ∧
      load (Text.ofString " \n" ++ Json.write (.list [entryOf (memberOf nested)]) ++
        Text.ofString "\t") = .ok [nested] ∧
      load (Text.ofString " \n" ++ Json.write (.object [memberOf nested]) ++
        Text.ofString "\t") = .ok [nested] := by
  have hblank : ∀ g ∈ [nested], g.1.isBlank = false := by decide
  have hrecords : ∀ g ∈ [nested], ∀ r ∈ g.2, (Value.object r).Lasts :=
    List.forall_mem_singleton.mpr lasts_nested
  have hpaths : ∀ g ∈ [nested], Json.Unpaired g.1 := by
    refine List.forall_mem_singleton.mpr (Json.unpaired_of_forall_not_isSurrogate ?_)
    decide
  have hpre : (Text.ofString " \n").isBlank = true := rfl
  have hpost : (Text.ofString "\t").isBlank = true := rfl
  obtain ⟨hlist, hobject⟩ := load_write_eq_ok_iff hblank hrecords hpre hpost
  exact ⟨lasts_nested, hlist.mpr hpaths, (hobject (by decide)).mpr hpaths⟩

def halves : Text :=
  [Code.ofNat 0xd83d, Code.ofNat 0xde00]

theorem load_write_halves :
    halves.isBlank = false ∧
      load (Json.write (.list [entryOf (memberOf (halves, []))])) ≠ .ok [(halves, [])] ∧
      load (Json.write (.object [memberOf (halves, [])])) ≠ .ok [(halves, [])] := by
  have hjoined : joined (halves, []) = ([Code.ofNat 0x1f600], []) := rfl
  have hlist : load (Json.write (.list [entryOf (memberOf (halves, []))])) =
      .ok [joined (halves, [])] :=
    (load_eq_ok_iff_of_renders (by decide) (by decide)
      (Json.renders_list (.cons (renders_entryOf (by simp)) .nil))).mpr
      (.list (.cons (isEntry_entryOf (by decide)) .nil))
  have hobject : load (Json.write (.object [memberOf (halves, [])])) =
      .ok [joined (halves, [])] :=
    (load_eq_ok_iff_of_renders (by decide) (by decide)
      (Json.renders_object (.cons (rendersField_memberOf (by simp)) .nil))).mpr
      (.object (.cons rfl .nil))
  have hne : ([Code.ofNat 0x1f600] : Text) ≠ halves := by decide
  rw [hlist, hobject, hjoined]
  exact ⟨rfl, by simp [hne], by simp [hne]⟩

end Payload

end WebLint
