import WebLint.Command
import WebLint.Proofs.Files
import WebLint.Proofs.Traversal

namespace WebLint

variable {α β : Type}

/-- Whatever fault stops the job, it is not one that is expected. -/
def Unforeseen (x : Except Fault α) : Prop :=
  ∀ f, x = .error f → f.isExpected = false

theorem unforeseen_ok (a : α) : Unforeseen (.ok a) := by
  intro f h
  cases h

theorem unforeseen_error {f : Fault} (hf : f.isExpected = false) :
    Unforeseen (.error f : Except Fault α) := by
  intro f' h
  cases h
  exact hf

theorem unforeseen_bind {x : Except Fault α} {g : α → Except Fault β} (hx : Unforeseen x)
    (hg : ∀ a, Unforeseen (g a)) : Unforeseen (x >>= g) := by
  intro f h
  rcases bind_eq_error_iff.mp h with h | ⟨a, -, h⟩
  · exact hx f h
  · exact hg a f h

theorem unforeseen_map {x : Except Fault α} (hx : Unforeseen x) (g : α → β) :
    Unforeseen (g <$> x) := by
  cases x with
  | error f => exact unforeseen_error (hx f rfl)
  | ok a => exact unforeseen_ok (g a)

theorem unforeseen_mapM {g : α → Except Fault β} (hg : ∀ a, Unforeseen (g a)) (as : List α) :
    Unforeseen (as.mapM g) := by
  induction as with
  | nil => exact unforeseen_ok []
  | cons a as ih =>
    rw [List.mapM_cons]
    exact unforeseen_bind (hg a) fun b => unforeseen_bind ih fun bs => unforeseen_ok (b :: bs)

/-! ### Sources and elements -/

theorem unforeseen_decode (o : Octets) :
    Unforeseen ((Utf8.decode o).mapError Fault.undecodable) := by
  cases Utf8.decode o with
  | error m => exact unforeseen_error rfl
  | ok t => exact unforeseen_ok t

theorem unforeseen_sourceText (fs : Files) (base : Path) (source : Text) :
    Unforeseen (Command.sourceText fs base source) := by
  simp only [Command.sourceText]
  split
  · exact unforeseen_error rfl
  · next o _ => exact unforeseen_bind (unforeseen_decode o) fun _ => unforeseen_ok _

theorem unforeseen_integerAttribute (name : Text) (o : Option Int) :
    Unforeseen (integerAttribute name o) := by
  unfold integerAttribute
  split
  · exact unforeseen_ok []
  · split
    · exact unforeseen_error rfl
    · exact unforeseen_ok _

theorem Report.unforeseen_toElement (d : Dialect) (r : Report) : Unforeseen (r.toElement d) := by
  refine unforeseen_bind (unforeseen_mapM (fun e => ?_) r.entries) fun _ => unforeseen_ok _
  refine unforeseen_bind (unforeseen_mapM (fun i => ?_) e.items) fun _ => unforeseen_ok _
  exact unforeseen_bind (unforeseen_integerAttribute _ _) fun _ =>
    unforeseen_bind (unforeseen_integerAttribute _ _) fun _ => unforeseen_ok _

/-! ### Files -/

namespace Files

theorem unforeseen_ensureDirectory (fs : Files) (base p : Path) :
    Unforeseen (fs.ensureDirectory base p) := by
  unfold ensureDirectory
  split
  · exact unforeseen_ok _
  · split
    · exact unforeseen_ok fs
    · exact unforeseen_error rfl

theorem unforeseen_write (fs : Files) (base p : Path) (content : Octets) :
    Unforeseen (fs.write base p content) := by
  unfold write
  split
  · exact unforeseen_error rfl
  · split
    · exact unforeseen_error rfl
    · split
      · exact unforeseen_error rfl
      · exact unforeseen_ok _

variable {fs fs' : Files} {base p : Path} {f : Fault}

theorem unforeseen_of_leaving {r : Except Fault Files} (hr : Unforeseen r)
    (h : fs.leaving r = .error (f, fs')) : f.isExpected = false :=
  hr f (leaving_eq_error_iff.mp h).1

theorem unforeseen_of_ensureDirectories (h : fs.ensureDirectories base p = .error (f, fs')) :
    f.isExpected = false := by
  fun_induction ensureDirectories fs base p with
  | case1 =>
    cases h
    rfl
  | case2 p _ _ _ fs₁ _ _ =>
    exact unforeseen_of_leaving (unforeseen_ensureDirectory fs₁ base p) h
  | case3 p _ _ _ e he ih =>
    cases h
    exact ih he
  | case4 p => exact unforeseen_of_leaving (unforeseen_ensureDirectory fs base p) h

theorem unforeseen_of_save {content : Octets} (h : fs.save base p content = .error (f, fs')) :
    f.isExpected = false := by
  unfold save at h
  split at h
  · cases h
    rfl
  · split at h
    · next fs₁ _ => exact unforeseen_of_leaving (unforeseen_write fs₁ base p content) h
    · next e he =>
      cases h
      exact unforeseen_of_ensureDirectories he

end Files

/-! ### What is shown of a report -/

theorem Markup.unforeseen_plainText (emoji : Bool) (opened : List Text) (ps : List Piece) :
    Unforeseen (plainText emoji opened ps) := by
  induction ps generalizing opened with
  | nil => exact unforeseen_ok []
  | cons p ps ih =>
    cases p with
    | plain t => exact unforeseen_map (ih opened) _
    | tag position body =>
      simp only [plainText]
      split
      · exact ih opened
      · split
        -- A closing tag without a name closes the one that was opened last.
        · split
          · split
            · exact unforeseen_error rfl
            · exact ih _
          · split
            · exact ih _
            · exact unforeseen_error rfl
        · exact ih _

theorem Markup.unforeseen_render (emoji : Bool) (t : Text) : Unforeseen (render emoji t) :=
  unforeseen_map (unforeseen_plainText emoji [] _) _

theorem Section.unforeseen_heading (color : Bool) (title : Text) :
    Unforeseen (heading color title) := by
  cases color with
  | false =>
    simp only [heading]
    exact unforeseen_bind (Markup.unforeseen_render true _) fun _ => unforeseen_ok _
  | true =>
    simp only [heading, if_true]
    split
    · exact unforeseen_ok _
    · exact unforeseen_bind (unforeseen_map (Markup.unforeseen_render true title) _)
        fun _ => unforeseen_ok _

theorem Report.unforeseen_summaryTable (r : Report) (emoji : Bool) :
    Unforeseen (r.summaryTable emoji) := by
  refine unforeseen_bind (unforeseen_mapM (fun e => ?_) r.entries) fun _ => unforeseen_ok _
  exact unforeseen_bind (Markup.unforeseen_render emoji e.path) fun _ => unforeseen_ok _

theorem Report.unforeseen_summary (r : Report) (s : OutputSettings) : Unforeseen (r.summary s) := by
  simp only [summary]
  split
  · exact unforeseen_ok []
  · split
    · exact unforeseen_ok _
    · exact unforeseen_bind (unforeseen_map (r.unforeseen_summaryTable s.emoji) _)
        fun _ => unforeseen_ok _

end WebLint
