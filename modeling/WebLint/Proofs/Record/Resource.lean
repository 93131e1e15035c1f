import WebLint.Proofs.Path.NormalForm
import WebLint.Proofs.Record.Dump

namespace WebLint

theorem ResourceType.ofName?_eq_some_iff {t : Text} {k : ResourceType} :
    ofName? t = some k ↔ t = k.name := by
  constructor
  · intro h
    have hname := List.find?_some h
    exact (beq_iff_eq.mp hname).symm
  · rintro rfl
    cases k <;> rfl

namespace Path

variable {name s : Text}

theorem exists_last_dot (h : dot ∈ name) : ∃ stem s, name = stem ++ dot :: s ∧ dot ∉ s := by
  obtain ⟨s, stem, hname, hs⟩ := List.eq_append_cons_of_mem (List.mem_reverse.mpr h)
  refine ⟨stem.reverse, s.reverse, ?_, fun hmem => hs (List.mem_reverse.mp hmem)⟩
  rw [← List.reverse_reverse name, hname]
  simp

theorem forall_reverse_ne_dot (h : dot ∉ s) : ∀ c ∈ s.reverse, decide (c ≠ dot) = true := by
  intro c hc
  rw [decide_eq_true_iff]
  rintro rfl
  exact h (List.mem_reverse.mp hc)

theorem suffixOfName?_append (hs : dot ∉ s) (stem : Text) :
    suffixOfName? (stem ++ dot :: s) = if s = [] ∨ stem = [] then none else some s := by
  have hsuffix : ((stem ++ dot :: s).reverse.takeWhile (· ≠ dot)).reverse = s := by
    rw [List.reverse_append, List.reverse_cons, List.append_assoc,
      List.takeWhile_append_of_pos (forall_reverse_ne_dot hs), List.singleton_append,
      List.takeWhile_cons_of_neg (by decide), List.append_nil, List.reverse_reverse]
  have hshort : (stem ++ dot :: s).length ≤ s.length + 1 ↔ stem = [] := by
    rw [List.length_append, List.length_cons, ← List.length_eq_zero_iff]
    omega
  simp only [suffixOfName?, hsuffix, hshort, Bool.or_eq_true, List.isEmpty_iff, decide_eq_true_iff]

theorem suffixOfName?_of_not_mem (h : dot ∉ name) : suffixOfName? name = none := by
  have hsuffix : (name.reverse.takeWhile (· ≠ dot)).reverse = name := by
    rw [List.takeWhile_eq_self_iff.mpr (forall_reverse_ne_dot h), List.reverse_reverse]
  rw [suffixOfName?, hsuffix, if_pos (by simp)]

/-- The suffix of a name stands behind its last dot, and neither it nor what stands before the dot is
empty. -/
theorem suffixOfName?_eq_some_iff : suffixOfName? name = some s ↔
    s ≠ [] ∧ dot ∉ s ∧ ∃ stem, stem ≠ [] ∧ name = stem ++ dot :: s := by
  constructor
  · intro h
    by_cases hdot : dot ∈ name
    · obtain ⟨stem, s', rfl, hs'⟩ := exists_last_dot hdot
      rw [suffixOfName?_append hs'] at h
      split at h
      · cases h
      · next hne =>
        cases h
        rw [not_or] at hne
        exact ⟨hne.1, hs', stem, hne.2, rfl⟩
    · rw [suffixOfName?_of_not_mem hdot] at h
      cases h
  · rintro ⟨hne, hs, stem, hstem, rfl⟩
    rw [suffixOfName?_append hs, if_neg (not_or.mpr ⟨hne, hstem⟩)]

end Path

namespace Resource

variable {path : Text} {type : ResourceType} {minimize : Value} {r : Resource}

/-- The last component of a path text has something before its last dot, and behind it, in any case,
the name of a type. -/
def NamesType (path : Text) (type : ResourceType) : Prop :=
  ∃ stem suffix, (Path.components path).getLast? = some (stem ++ dot :: suffix) ∧
    stem ≠ [] ∧ dot ∉ suffix ∧ Text.lower suffix = type.name

theorem NamesType.components_ne_nil (h : NamesType path type) : Path.components path ≠ [] := by
  obtain ⟨stem, suffix, hlast, -⟩ := h
  intro hnil
  rw [hnil] at hlast
  cases hlast

theorem typeOfPath?_eq_some_iff :
    typeOfPath? (.ofText path) = some type ↔ NamesType path type := by
  have hname : (Path.ofText path).name = (Path.components path).getLast?.getD [] := by
    rw [Path.name, Path.parts_ofText]
  rw [typeOfPath?, Path.suffix?, hname, Option.bind_eq_some_iff]
  simp only [Path.suffixOfName?_eq_some_iff, ResourceType.ofName?_eq_some_iff]
  constructor
  · rintro ⟨suffix, ⟨-, hdot, stem, hstem, hlast⟩, hlower⟩
    cases hcomponents : (Path.components path).getLast? with
    | none =>
      rw [hcomponents] at hlast
      simp at hlast
    | some name =>
      rw [hcomponents, Option.getD_some] at hlast
      exact ⟨stem, suffix, hlast ▸ hcomponents, hstem, hdot, hlower⟩
  · rintro ⟨stem, suffix, hlast, hstem, hdot, hlower⟩
    refine ⟨suffix, ⟨?_, hdot, stem, hstem, by rw [hlast, Option.getD_some]⟩, hlower⟩
    rintro rfl
    cases type <;> cases hlower

theorem ofPath_eq_ok_iff : ofPath path minimize = .ok r ↔
    NamesType path r.type ∧ r.uri = (Path.ofText path).text ∧ IsUri r.uri ∧
      Rule.boolean minimize = .ok r.minimize := by
  rw [← typeOfPath?_eq_some_iff, ofPath]
  cases htype : typeOfPath? (.ofText path) with
  | none => simp
  | some type =>
    dsimp only
    rw [Check.run_eq_ok_iff, rule_parts_eq_ok_iff, Option.some.injEq]
    constructor
    · rintro ⟨huri, hfit, rfl, hminimize⟩
      exact ⟨rfl, huri, huri ▸ hfit, hminimize⟩
    · rintro ⟨rfl, huri, hfit, hminimize⟩
      exact ⟨huri, huri ▸ hfit, rfl, hminimize⟩

theorem ofPath_text (path : Text) (minimize : Value) :
    ofPath (Path.ofText path).text minimize = ofPath path minimize := by
  rw [ofPath, Path.ofText_text (Path.isNormal_ofText path), ofPath]

theorem isUri_text (h : Path.components path ≠ []) :
    IsUri (Path.ofText path).text ↔ ∀ c ∈ path, c.isSurrogate = false := by
  have hcomponents := Path.components_text_ofText path
  constructor
  · rintro ⟨-, htext⟩
    exact Path.isSurrogate_of_components_eq hcomponents.symm htext
  · intro hpath
    refine ⟨fun hnil => h ?_, Path.isSurrogate_of_components_eq hcomponents hpath⟩
    rw [← hcomponents, hnil]
    rfl

/-- A path that can be encoded leads to a resource if and only if its last component has the suffix
of a type; the resource has this type and is named by the normal form of the path, and the normal
form leads to the same resource. A path with a half of a surrogate pair cannot be encoded and leads
to none. -/
theorem ofPath_normalizes (path : Text) (minimize : Bool) :
    ((∃ r, ofPath path (.bool minimize) = .ok r) ↔
      (∀ c ∈ path, c.isSurrogate = false) ∧ ∃ type, NamesType path type) ∧
    (∀ r, ofPath path (.bool minimize) = .ok r ↔ (∀ c ∈ path, c.isSurrogate = false) ∧
      NamesType path r.type ∧ Path.IsNormalForm path r.uri ∧ r.minimize = minimize) ∧
    ∀ r, ofPath path (.bool minimize) = .ok r → ofPath r.uri (.bool minimize) = .ok r := by
  have hminimize : ∀ b, Rule.boolean (.bool minimize) = .ok b ↔ b = minimize := by
    intro b
    rw [Rule.boolean, Check.ok.injEq, eq_comm]
  have hresource : ∀ r, ofPath path (.bool minimize) = .ok r ↔
      (∀ c ∈ path, c.isSurrogate = false) ∧
      NamesType path r.type ∧ Path.IsNormalForm path r.uri ∧ r.minimize = minimize := by
    intro r
    rw [ofPath_eq_ok_iff, hminimize, and_left_comm (a := ∀ c ∈ path, _)]
    refine and_congr_right fun htype => ?_
    have hne := htype.components_ne_nil
    rw [Path.isNormalForm_iff hne, ← isUri_text hne]
    constructor
    · rintro ⟨huri, hfit, hr⟩
      exact ⟨huri ▸ hfit, huri, hr⟩
    · rintro ⟨hfit, huri, hr⟩
      exact ⟨huri, huri ▸ hfit, hr⟩
  refine ⟨⟨?_, ?_⟩, hresource, ?_⟩
  · rintro ⟨r, hr⟩
    obtain ⟨hpath, htype, -⟩ := (hresource r).mp hr
    exact ⟨hpath, r.type, htype⟩
  · rintro ⟨hpath, type, htype⟩
    refine ⟨⟨(Path.ofText path).text, type, minimize⟩, (hresource _).mpr ⟨hpath, htype, ?_, rfl⟩⟩
    exact Path.isNormalForm_text htype.components_ne_nil
  · intro r hr
    rw [(ofPath_eq_ok_iff.mp hr).2.1, ofPath_text, hr]

theorem ofPath_normalizes_roundabout :
    ofPath "//a//./../x..CSS/" (.bool true) = .ok ⟨"//a/../x..CSS", .css, true⟩ ∧
      ofPath "//a/../x..CSS" (.bool true) = .ok ⟨"//a/../x..CSS", .css, true⟩ := by
  have h : ofPath "//a//./../x..CSS/" (.bool true) = .ok ⟨"//a/../x..CSS", .css, true⟩ := rfl
  exact ⟨h, (ofPath_normalizes "//a//./../x..CSS/" true).2.2 _ h⟩

example : ofPath "a/./.css" (.bool true) = .error (.unknownSuffix "a/.css") := rfl

end Resource

end WebLint
