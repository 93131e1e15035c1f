import WebLint.Proofs.Files

namespace WebLint.Files

variable {ε : Type} {fs fs' : Files} {way : List Place} {base p : Path} {place from_ : Place}
  {cs : List Text}

def putAll (fs : Files) (ws : List (Place × Node)) : Files :=
  ws.foldl (fun fs w => fs.put w.1 w.2) fs

theorem putAll_append (fs : Files) (ws vs : List (Place × Node)) :
    fs.putAll (ws ++ vs) = (fs.putAll ws).putAll vs :=
  List.foldl_append

/-- File systems with the same directories, and on the way somewhere also with the same files,
whatever is in them. -/
structure Alike (way : List Place) (fs fs' : Files) : Prop where
  directory : ∀ p, fs.node? p = some .directory ↔ fs'.node? p = some .directory
  missing : ∀ p ∈ way, fs.node? p = none ↔ fs'.node? p = none

theorem Alike.put (h : Alike way fs fs') (place : Place) (n : Node) :
    Alike way (fs.put place n) (fs'.put place n) := by
  have hnode : ∀ p, (fs.put place n).node? p = fs.node? p ∧ (fs'.put place n).node? p = fs'.node? p ∨
      (fs.put place n).node? p = (fs'.put place n).node? p := by
    intro p
    by_cases hp : p = place
    · subst hp
      by_cases htop : p = []
      · subst htop
        exact .inr rfl
      · exact .inr ((node?_put_self htop n).trans (node?_put_self htop n).symm)
    · exact .inl ⟨node?_put_of_ne hp n, node?_put_of_ne hp n⟩
  constructor
  · intro p
    obtain ⟨hp, hp'⟩ | hp := hnode p
    · rw [hp, hp']
      exact h.directory p
    · rw [hp]
  · intro p hway
    obtain ⟨hp, hp'⟩ | hp := hnode p
    · rw [hp, hp']
      exact h.missing p hway
    · rw [hp]

theorem Alike.putAll (h : Alike way fs fs') (ws : List (Place × Node)) :
    Alike way (fs.putAll ws) (fs'.putAll ws) := by
  induction ws generalizing fs fs' with
  | nil => exact h
  | cons w ws ih => exact ih (h.put w.1 w.2)

/-- The content of a file makes no difference, nor whether it is there unless it is on the way. -/
theorem alike_put (hplace : fs.node? place ≠ some .directory)
    (hway : place ∈ way → fs.node? place ≠ none) (content : Octets) :
    Alike way fs (fs.put place (.file content)) := by
  have hne : place ≠ [] := by
    rintro rfl
    exact hplace rfl
  constructor
  · intro p
    by_cases hp : p = place
    · subst hp
      rw [node?_put_self hne]
      simp [hplace]
    · rw [node?_put_of_ne hp]
  · intro p hp
    by_cases hplace : p = place
    · subst hplace
      rw [node?_put_self hne]
      simp [hway hp]
    · rw [node?_put_of_ne hplace]

/-! ### Walking -/

theorem visited_ne_nil (from_ : Place) (cs : List Text) : visited from_ cs ≠ [] := by
  cases cs <;> exact List.cons_ne_nil _ _

theorem mem_visited_of_walk (h : fs.walk from_ cs = .ok place) : place ∈ visited from_ cs := by
  induction cs generalizing from_ with
  | nil =>
    cases h
    exact List.mem_singleton_self _
  | cons c cs ih =>
    rw [walk] at h
    split at h
    · cases h
    · cases h
    · exact List.mem_cons_of_mem _ (ih h)

theorem walk_congr (h : Alike way fs fs')
    (hway : ∀ p ∈ (visited from_ cs).dropLast, p ∈ way) : fs.walk from_ cs = fs'.walk from_ cs := by
  induction cs generalizing from_ with
  | nil => rfl
  | cons c cs ih =>
    rw [visited, List.dropLast_cons_of_ne_nil (visited_ne_nil _ cs)] at hway
    obtain ⟨hfrom, hway⟩ := List.forall_mem_cons.mp hway
    have hdirectory := h.directory from_
    have hmissing := h.missing from_ hfrom
    have hnext := ih hway
    cases hnode : fs.node? from_ with
    | none =>
      have hnode' := hmissing.mp hnode
      simp only [walk, hnode, hnode']
    | some n =>
      cases n with
      | directory =>
        have hnode' := hdirectory.mp hnode
        simp only [walk, hnode, hnode', hnext]
      | file o =>
        -- The other file system has a file there as well, perhaps another one.
        cases hnode' : fs'.node? from_ with
        | none => simp [hnode, hnode'] at hmissing
        | some n' =>
          cases n' with
          | directory => simp [hnode, hnode'] at hdirectory
          | file o' => simp only [walk, hnode, hnode']

theorem visited_dropLast (from_ : Place) (hcs : cs ≠ []) :
    visited from_ cs.dropLast = (visited from_ cs).dropLast := by
  induction cs generalizing from_ with
  | nil => exact absurd rfl hcs
  | cons c cs ih =>
    rw [visited, List.dropLast_cons_of_ne_nil (visited_ne_nil _ cs)]
    cases cs with
    | nil => rfl
    | cons d cs =>
      rw [List.dropLast_cons_of_ne_nil (List.cons_ne_nil d cs), visited, ih _ (List.cons_ne_nil d cs)]

/-- The places that lead to the directory of a path, this one included. -/
def wayTo (base p : Path) : List Place :=
  visited [] (base.append p.parent).parts

theorem parts_append_parent (base : Path) (hp : p.parts ≠ []) :
    (base.append p.parent).parts = (base.append p).parts.dropLast := by
  unfold Path.append
  split
  · next hroot =>
    rw [if_pos (show p.root = .none from hroot)]
    exact (List.dropLast_append_of_ne_nil hp).symm
  · next hroot =>
    rw [if_neg (show p.root ≠ .none from hroot)]
    rfl

theorem parts_append_ne_nil (base : Path) (hp : p.parts ≠ []) : (base.append p).parts ≠ [] := by
  unfold Path.append
  split
  · exact List.append_ne_nil_of_right_ne_nil _ hp
  · exact hp

theorem parent_eq_self (hp : p.parts = []) : p.parent = p := by
  cases p
  cases hp
  rfl

theorem visited_dropLast_subset_wayTo (base p : Path) :
    ∀ q ∈ (visited [] (base.append p).parts).dropLast, q ∈ wayTo base p := by
  intro q hq
  rw [wayTo]
  by_cases hp : p.parts = []
  · rw [parent_eq_self hp]
    exact List.dropLast_subset _ hq
  · rw [parts_append_parent base hp, visited_dropLast [] (parts_append_ne_nil base hp)]
    exact hq

/-! ### Writing -/

/-- Two results that come from the same writes, or are the same error. -/
inductive SameWrites (fs fs' : Files) : Except ε Files → Except ε Files → Prop
  | error (e : ε) : SameWrites fs fs' (.error e) (.error e)
  | ok (ws : List (Place × Node)) : SameWrites fs fs' (.ok (fs.putAll ws)) (.ok (fs'.putAll ws))

theorem SameWrites.put (fs fs' : Files) (place : Place) (n : Node) :
    SameWrites (ε := ε) fs fs' (.ok (fs.put place n)) (.ok (fs'.put place n)) :=
  .ok [(place, n)]

theorem SameWrites.none (fs fs' : Files) : SameWrites (ε := ε) fs fs' (.ok fs) (.ok fs') :=
  .ok []

/-- Two ends of a job, after the same writes. -/
inductive SameEnds (fs fs' : Files) : Except (ε × Files) Files → Except (ε × Files) Files → Prop
  | error (e : ε) (ws : List (Place × Node)) :
    SameEnds fs fs' (.error (e, fs.putAll ws)) (.error (e, fs'.putAll ws))
  | ok (ws : List (Place × Node)) : SameEnds fs fs' (.ok (fs.putAll ws)) (.ok (fs'.putAll ws))

theorem SameWrites.leaving {r r' : Except Fault Files} (h : SameWrites fs fs' r r') :
    SameEnds fs fs' (fs.leaving r) (fs'.leaving r') := by
  cases h with
  | error e => exact .error e []
  | ok ws => exact .ok ws

theorem SameEnds.after {ws : List (Place × Node)} {r r' : Except (ε × Files) Files}
    (h : SameEnds (fs.putAll ws) (fs'.putAll ws) r r') : SameEnds fs fs' r r' := by
  cases h with
  | error e vs =>
    rw [← putAll_append, ← putAll_append]
    exact .error e (ws ++ vs)
  | ok vs =>
    rw [← putAll_append, ← putAll_append]
    exact .ok (ws ++ vs)

theorem locate_congr (h : Alike way fs fs')
    (hway : ∀ q ∈ (visited [] (base.append p).parts).dropLast, q ∈ way) :
    fs.locate base p = fs'.locate base p :=
  walk_congr h hway

theorem find?_eq_directory_iff (h : Alike way fs fs')
    (hway : ∀ q ∈ (visited [] (base.append p).parts).dropLast, q ∈ way) :
    fs.find? base p = some .directory ↔ fs'.find? base p = some .directory := by
  rw [find?, find?, ← locate_congr h hway]
  cases fs.locate base p with
  | error e => rfl
  | ok place => exact h.directory place

theorem sameWrites_makeDirectory (h : Alike way fs fs')
    (hway : ∀ q ∈ visited [] (base.append p).parts, q ∈ way) :
    SameWrites fs fs' (fs.makeDirectory base p) (fs'.makeDirectory base p) := by
  unfold makeDirectory
  rw [← locate_congr h fun q hq => hway q (List.dropLast_subset _ hq)]
  cases hlocate : fs.locate base p with
  | error e => exact .error e
  | ok place =>
    have hmissing := h.missing place (hway place (mem_visited_of_walk hlocate))
    cases hnode : fs.node? place with
    | none =>
      simp only [hnode, hmissing.mp hnode]
      exact .put fs fs' place .directory
    | some n =>
      obtain ⟨n', hnode'⟩ := Option.ne_none_iff_exists'.mp fun hnone =>
        Option.some_ne_none n (hnode.symm.trans (hmissing.mpr hnone))
      simp only [hnode, hnode']
      exact .error FileTrouble.alreadyExists

theorem sameWrites_ensureDirectory (h : Alike way fs fs')
    (hway : ∀ q ∈ visited [] (base.append p).parts, q ∈ way) :
    SameWrites fs fs' (fs.ensureDirectory base p) (fs'.ensureDirectory base p) := by
  have hfind := find?_eq_directory_iff h fun q hq => hway q (List.dropLast_subset _ hq)
  rw [ensureDirectory, ensureDirectory]
  generalize hmake : fs.makeDirectory base p = r
  generalize hmake' : fs'.makeDirectory base p = r'
  have hsame : SameWrites fs fs' r r' := hmake ▸ hmake' ▸ sameWrites_makeDirectory h hway
  cases hsame with
  | ok ws => exact .ok ws
  | error e =>
    by_cases hdirectory : fs.find? base p = some .directory
    · simp only [if_pos hdirectory, if_pos (hfind.mp hdirectory)]
      exact .none fs fs'
    · simp only [if_neg hdirectory, if_neg (hdirectory ∘ hfind.mpr)]
      exact .error _

theorem visited_parent_subset (base p : Path) :
    ∀ q ∈ visited [] (base.append p.parent).parts, q ∈ visited [] (base.append p).parts := by
  intro q hq
  by_cases hp : p.parts = []
  · rw [parent_eq_self hp] at hq
    exact hq
  · rw [parts_append_parent base hp, visited_dropLast [] (parts_append_ne_nil base hp)] at hq
    exact List.dropLast_subset _ hq

theorem sameEnds_ensureDirectories (h : Alike way fs fs') (base p : Path)
    (hway : ∀ q ∈ visited [] (base.append p).parts, q ∈ way) :
    SameEnds fs fs' (fs.ensureDirectories base p) (fs'.ensureDirectories base p) := by
  have hensure := (sameWrites_ensureDirectory h hway).leaving
  induction hn : p.parts.length using Nat.strongRecOn generalizing p with
  | _ n ih =>
    rw [ensureDirectories.eq_def fs, ensureDirectories.eq_def fs']
    generalize hmake : fs.makeDirectory base p = r
    generalize hmake' : fs'.makeDirectory base p = r'
    have hsame : SameWrites fs fs' r r' := hmake ▸ hmake' ▸ sameWrites_makeDirectory h hway
    cases hsame with
    | ok ws => exact hensure
    | error e =>
      cases e with
      | notFound =>
        by_cases hp : p.parts = []
        · simp only [dif_pos hp]
          exact .error _ []
        · -- The directory above is made first, and then this one in what that gave.
          have hlt : p.parent.parts.length < n := by
            have hlength := List.length_pos_iff.mpr hp
            rw [← hn, Path.parent, List.length_dropLast]
            omega
          have hup : ∀ q ∈ visited [] (base.append p.parent).parts, q ∈ way :=
            fun q hq => hway q (visited_parent_subset base p q hq)
          have hparent := ih _ hlt p.parent hup (sameWrites_ensureDirectory h hup).leaving rfl
          simp only [dif_neg hp]
          generalize fs.ensureDirectories base p.parent = u at hparent
          generalize fs'.ensureDirectories base p.parent = u' at hparent
          cases hparent with
          | error f ws => exact .error f ws
          | ok ws => exact (sameWrites_ensureDirectory (h.putAll ws) hway).leaving.after
      | isDirectory => exact hensure
      | alreadyExists => exact hensure
      | notDirectory => exact hensure

theorem write_eq_ok {content : Octets} (hnul : hasNul p = false)
    (hlocate : fs.locate base p = .ok place) (hplace : fs.node? place ≠ some .directory) :
    fs.write base p content = .ok (fs.put place (.file content)) := by
  simp only [write, hnul, hlocate, Bool.false_eq_true, if_false]

theorem write_eq_error {content : Octets} (hnul : hasNul p = false)
    (hlocate : fs.locate base p = .ok place) (hplace : fs.node? place = some .directory) :
    fs.write base p content = .error (.file .isDirectory p.text) := by
  simp only [write, hnul, hlocate, hplace, Bool.false_eq_true, if_false]

theorem sameWrites_write (h : Alike way fs fs')
    (hway : ∀ q ∈ (visited [] (base.append p).parts).dropLast, q ∈ way) (content : Octets) :
    SameWrites fs fs' (fs.write base p content) (fs'.write base p content) := by
  have hlocate' := locate_congr h hway
  cases hnul : hasNul p with
  | true =>
    simp only [write, hnul, if_true]
    exact .error _
  | false =>
    cases hlocate : fs.locate base p with
    | error e =>
      simp only [write, hnul, ← hlocate', hlocate, Bool.false_eq_true, if_false]
      exact .error _
    | ok place =>
      rw [hlocate] at hlocate'
      have hdirectory := h.directory place
      by_cases hnode : fs.node? place = some .directory
      · rw [write_eq_error hnul hlocate hnode,
          write_eq_error hnul hlocate'.symm (hdirectory.mp hnode)]
        exact .error _
      · rw [write_eq_ok hnul hlocate hnode, write_eq_ok hnul hlocate'.symm (hnode ∘ hdirectory.mpr)]
        exact .put fs fs' place (.file content)

/-- Saving a file makes the same writes in file systems that are alike on the way to it, whether it
succeeds or fails. -/
theorem sameEnds_save (h : Alike (wayTo base p) fs fs') (content : Octets) :
    SameEnds fs fs' (fs.save base p content) (fs'.save base p content) := by
  have hdirectories := sameEnds_ensureDirectories h base p.parent fun _ hq => hq
  unfold save
  split
  · exact .error _ []
  · generalize fs.ensureDirectories base p.parent = u at hdirectories
    generalize fs'.ensureDirectories base p.parent = u' at hdirectories
    cases hdirectories with
    | error f ws => exact .error f ws
    | ok ws =>
      have hwrite := sameWrites_write (h.putAll ws) (visited_dropLast_subset_wayTo base p) content
      exact hwrite.leaving.after

end WebLint.Files
