import WebLint.Files

namespace WebLint.Files

variable {fs fs' : Files}

theorem node?_put_self {place : Place} (hplace : place ≠ []) (n : Node) :
    (fs.put place n).node? place = some n := by
  have hne : place.isEmpty = false := List.isEmpty_eq_false_iff.mpr hplace
  simp [node?, put, hne]

theorem lookup_filter_ne {place q : Place} (hq : q ≠ place) (nodes : List (Place × Node)) :
    (nodes.filter (·.1 ≠ place)).lookup q = nodes.lookup q := by
  induction nodes with
  | nil => rfl
  | cons entry nodes ih =>
    obtain ⟨p, n⟩ := entry
    by_cases hp : p = place
    · have hqp : q ≠ p := hp ▸ hq
      rw [List.filter_cons_of_neg (by simpa using hp), ih, List.lookup_cons,
        beq_false_of_ne hqp]
    · rw [List.filter_cons_of_pos (by simpa using hp), List.lookup_cons, List.lookup_cons, ih]

theorem node?_put_of_ne {place q : Place} (hq : q ≠ place) (n : Node) :
    (fs.put place n).node? q = fs.node? q := by
  have hlookup : (fs.put place n).nodes.lookup q = fs.nodes.lookup q := by
    rw [put, List.lookup_cons, beq_false_of_ne hq]
    exact lookup_filter_ne hq fs.nodes
  rw [node?, node?, hlookup]

/-- The way to a place that is no directory stays, whatever is put there: it leads through
directories only. -/
theorem walk_put {place : Place} (hplace : fs.node? place ≠ some .directory) (n : Node)
    {from_ : Place} {cs : List Text} (h : fs.walk from_ cs = .ok place) :
    (fs.put place n).walk from_ cs = .ok place := by
  induction cs generalizing from_ with
  | nil => exact h
  | cons c cs ih =>
    cases hnode : fs.node? from_ with
    | none => simp [walk, hnode] at h
    | some node =>
      cases node with
      | file content => simp [walk, hnode] at h
      | directory =>
        have hne : from_ ≠ place := by
          rintro rfl
          exact hplace hnode
        simp only [walk, hnode] at h
        simp only [walk, node?_put_of_ne hne, hnode]
        exact ih h

theorem content?_of_write {base p : Path} {content : Octets}
    (h : fs.write base p content = .ok fs') : fs'.content? base p = some content := by
  have hnul : hasNul p = false := by
    cases hnul : hasNul p with
    | false => rfl
    | true => simp [write, hnul] at h
  cases hlocate : fs.locate base p with
  | error e => simp [write, hnul, hlocate] at h
  | ok place =>
    have hplace : fs.node? place ≠ some .directory := by
      intro hnode
      simp [write, hnul, hlocate, hnode] at h
    have hput : fs.put place (.file content) = fs' := by
      simp only [write, hnul, hlocate] at h
      exact Except.ok.inj h
    have hne : place ≠ [] := by
      rintro rfl
      exact hplace rfl
    subst hput
    have hlocate' : (fs.put place (.file content)).locate base p = .ok place :=
      walk_put hplace _ hlocate
    rw [content?, find?, hlocate']
    simp only [node?_put_self hne]

theorem leaving_ok (fs fs' : Files) : fs.leaving (.ok fs') = .ok fs' :=
  rfl

theorem leaving_error (fs : Files) (f : Fault) : fs.leaving (.error f) = .error (f, fs) :=
  rfl

theorem leaving_eq_ok_iff {r : Except Fault Files} : fs.leaving r = .ok fs' ↔ r = .ok fs' := by
  cases r with
  | ok fs₁ => rw [leaving_ok, Except.ok.injEq, Except.ok.injEq]
  | error f =>
    rw [leaving_error]
    exact ⟨nofun, nofun⟩

theorem leaving_eq_error_iff {r : Except Fault Files} {f : Fault} :
    fs.leaving r = .error (f, fs') ↔ r = .error f ∧ fs = fs' := by
  cases r with
  | ok fs₁ =>
    rw [leaving_ok]
    exact ⟨nofun, nofun⟩
  | error f₁ => rw [leaving_error, Except.error.injEq, Except.error.injEq, Prod.mk.injEq]

/-- A file that was saved is there and holds what was to be saved. -/
theorem content?_of_save {base p : Path} {content : Octets}
    (h : fs.save base p content = .ok fs') : fs'.content? base p = some content := by
  rw [save] at h
  split at h
  · cases h
  · split at h
    · exact content?_of_write (leaving_eq_ok_iff.mp h)
    · cases h

end WebLint.Files
