import WebLint.Proofs.Chain.Course
import WebLint.Proofs.Traversal

namespace WebLint

namespace Builtin

/-- A text names a stage: without the white space around it and in small letters it is its name. -/
def Names (t : Text) (b : Builtin) : Prop :=
  t.trim.lower = b.name

theorem find?_name (b : Builtin) : all.find? (fun b' => b'.name == b.name) = some b := by
  cases b <;> decide

theorem ofName?_of_names {t : Text} {b : Builtin} (h : Names t b) : ofName? t = some b := by
  rw [ofName?, h]
  exact find?_name b

theorem ofName?_of_unnamed {t : Text} (h : ∀ b, ¬ Names t b) : ofName? t = none := by
  apply List.find?_eq_none.mpr
  intro b _ hb
  exact h b (beq_iff_eq.mp hb).symm

theorem ofValue_of_names {t : Text} {b : Builtin} (h : Names t b) : ofValue (.text t) = .ok b := by
  simp only [ofValue, ofName?_of_names h]

theorem ofValue_of_unnamed {t : Text} (h : ∀ b, ¬ Names t b) :
    ofValue (.text t) = .error (.unknownStage (.text t)) := by
  simp only [ofValue, ofName?_of_unnamed h]
  rfl

/-! ### What a stage does -/

/-- The stage is meant for resources of this type and, if it makes texts smaller, for this one. -/
def worksOn (r : Resource) (b : Builtin) : Bool :=
  b.supported.contains r.type && (!b.minimizing || r.minimize)

def turned (r : Resource) (t : Text) (b : Builtin) : Text :=
  if b.worksOn r then b.transform r.type t else t

theorem process_stage {σ : Type} (b : Builtin) (r : Resource) (t : Text) (m : σ) :
    b.stage.process r t m = ⟨.ok (.text (b.turned r t)), m, []⟩ := by
  rw [turned]
  cases hworks : b.worksOn r <;> simp only [worksOn] at hworks <;>
    simp only [stage, Stage.gated, hworks] <;> rfl

def turn {σ : Type} (r : Resource) (t : Text) (m : σ) (b : Builtin) : Turn σ :=
  ⟨b.stage, t, m, b.turned r t, m, []⟩

theorem passes_turn {σ : Type} (r : Resource) (t : Text) (m : σ) (b : Builtin) :
    (b.turn r t m).Passes r :=
  ⟨m, [], [], rfl, process_stage b r t m, rfl⟩

/-- The transformations of the stages that work on the resource, from left to right. -/
def transformAll (r : Resource) (bs : List Builtin) (t : Text) : Text :=
  (bs.filter (·.worksOn r)).foldl (fun t b => b.transform r.type t) t

theorem foldl_turned (r : Resource) (bs : List Builtin) (t : Text) :
    bs.foldl (turned r) t = transformAll r bs t := by
  rw [transformAll, List.foldl_filter]
  rfl

theorem transformAll_filter (r : Resource) (bs : List Builtin) (t : Text) :
    transformAll r (bs.filter (·.worksOn r)) t = transformAll r bs t := by
  simp only [transformAll, List.filter_filter, Bool.and_self]

/-- The names of the stages that leave every text of a resource as it is. -/
def idleNames (type : ResourceType) (minimize : Bool) : List Text :=
  let byType : List Text := match type with
    | .css => ["semicolon-append"]
    | .js => ["collapse-whitespace"]
  let byUse : List Text := if minimize then [] else ["strip-comments", "collapse-whitespace"]
  byType ++ byUse

def isBusyName (r : Resource) (t : Text) : Bool :=
  !(idleNames r.type r.minimize).contains t.trim.lower

theorem isBusyName_eq {t : Text} {b : Builtin} (h : Names t b) (r : Resource) :
    isBusyName r t = b.worksOn r := by
  rw [isBusyName, worksOn, h]
  cases b <;> cases r.type <;> cases r.minimize <;> decide

theorem names_filter {names : List Text} {bs : List Builtin} (h : List.Forall₂ Names names bs)
    (r : Resource) :
    List.Forall₂ Names (names.filter (isBusyName r)) (bs.filter (·.worksOn r)) := by
  induction h with
  | nil => exact .nil
  | @cons t b _ _ hname _ ih =>
    have hbusy := isBusyName_eq hname r
    cases hworks : b.worksOn r with
    | true =>
      rw [List.filter_cons_of_pos hworks, List.filter_cons_of_pos (hbusy.trans hworks)]
      exact .cons hname ih
    | false =>
      rw [hworks] at hbusy
      rw [List.filter_cons_of_neg (ne_true_of_eq_false hworks),
        List.filter_cons_of_neg (ne_true_of_eq_false hbusy)]
      exact ih

end Builtin

namespace Chain

open Builtin

variable {σ : Type}

def ofBuiltins (bs : List Builtin) : Chain σ :=
  ⟨bs.map Builtin.stage⟩

theorem ofNames_of_names {names : List Text} {bs : List Builtin}
    (h : List.Forall₂ Names names bs) :
    ofNames (some (names.map .text)) = .ok (ofBuiltins (σ := σ) bs) := by
  have hmapM : (names.map Value.text).mapM Builtin.ofValue = .ok bs := by
    rw [mapM_eq_ok_iff, List.forall₂_map_left_iff]
    exact h.imp fun _ _ => ofValue_of_names
  rw [ofNames, hmapM]
  rfl

theorem ofNames_of_unnamed {before : List Text} {bs : List Builtin} {t : Text}
    (hbefore : List.Forall₂ Names before bs) (ht : ∀ b, ¬ Names t b) (behind : List Text) :
    ofNames (σ := σ) (some ((before ++ t :: behind).map .text)) =
      .error (.unknownStage (.text t)) := by
  have hmapM : ((before ++ t :: behind).map Value.text).mapM Builtin.ofValue =
      .error (.unknownStage (.text t)) := by
    induction hbefore with
    | nil => rw [List.nil_append, List.map_cons, List.mapM_cons, ofValue_of_unnamed ht]; rfl
    | cons hname _ ih =>
      rw [List.cons_append, List.map_cons, List.mapM_cons, ofValue_of_names hname, ih]
      rfl
  rw [ofNames, hmapM]
  rfl

theorem names_or_unnamed (names : List Text) :
    (∃ bs, List.Forall₂ Names names bs) ∨
      ∃ before bs t behind, names = before ++ t :: behind ∧ List.Forall₂ Names before bs ∧
        ∀ b, ¬ Names t b := by
  induction names with
  | nil => exact .inl ⟨[], .nil⟩
  | cons t names ih =>
    by_cases ht : ∃ b, Names t b
    · obtain ⟨b, hb⟩ := ht
      obtain ⟨bs, hbs⟩ | ⟨before, bs, t', behind, rfl, hbefore, ht'⟩ := ih
      · exact .inl ⟨b :: bs, .cons hb hbs⟩
      · exact .inr ⟨t :: before, b :: bs, t', behind, rfl, .cons hb hbefore, ht'⟩
    · exact .inr ⟨[], [], t, names, rfl, .nil, fun b hb => ht ⟨b, hb⟩⟩

theorem runFrom_builtins (r : Resource) (bs : List Builtin) (k : Nat) (t : Text) (m : σ) :
    ∃ log, runFrom r k (bs.map Builtin.stage) t m = ⟨.ok (bs.foldl (turned r) t), m, log⟩ := by
  induction bs generalizing k t with
  | nil => exact ⟨[], rfl⟩
  | cons b bs ih =>
    obtain ⟨log, hrun⟩ := ih (k + 1) (b.turned r t)
    have hpasses := runFrom_of_passes (passes_turn r t m b) k (bs.map Builtin.stage)
    exact ⟨_, hpasses.trans (by rw [turn, hrun]; rfl)⟩

theorem run_ofBuiltins (r : Resource) (bs : List Builtin) (t : Text) (m : σ) :
    ∃ log, (ofBuiltins bs).run r t m = ⟨.ok (transformAll r bs t), m, log⟩ := by
  rw [← foldl_turned]
  exact runFrom_builtins r bs 0 t m

theorem messageWith_unknownStage (w : Fault.Wording) (t : Text) :
    (Fault.unknownStage (.text t)).messageWith w = "unknown processor " ++ t.quoted ++
      " (known: " ++ Text.join ", " (Builtin.all.map Builtin.name) ++ ")" := by
  have hknown : (" (known: " : Text) ++ Text.join ", " (Builtin.all.map Builtin.name) ++ ")" =
      " (known: collapse-whitespace, semicolon-append, strip-comments, trim-lines)" := by
    decide +kernel
  rw [List.append_assoc _ _ (")" : Text), List.append_assoc, ← List.append_assoc (" (known: " : Text),
    hknown]
  rfl

/-- Names make a chain unless some of them names no stage, and then the fault shows the first of
those. The chain gives for every text what the stages that work on the resource make of it, and so
does the chain of the names without those of the others. -/
theorem ofNames_process (names : List Text) :
    (∃ before bs t behind, names = before ++ t :: behind ∧ List.Forall₂ Names before bs ∧
      (∀ b, ¬ Names t b) ∧
      ofNames (σ := σ) (some (names.map .text)) = .error (.unknownStage (.text t)) ∧
      ∀ w, (Fault.unknownStage (.text t)).messageWith w = "unknown processor " ++ t.quoted ++
        " (known: " ++ Text.join ", " (Builtin.all.map Builtin.name) ++ ")") ∨
    (∃ bs, List.Forall₂ Names names bs ∧
      ofNames (σ := σ) (some (names.map .text)) = .ok (ofBuiltins bs) ∧
      ∀ (r : Resource) (t : Text) (m : σ), ∃ c log log',
        (ofBuiltins bs).process (some r) (some t) m = ⟨.ok (transformAll r bs t), m, log⟩ ∧
        ofNames (some ((names.filter (isBusyName r)).map .text)) = .ok c ∧
        c.process (some r) (some t) m = ⟨.ok (transformAll r bs t), m, log'⟩) := by
  obtain ⟨bs, hbs⟩ | ⟨before, bs, t, behind, rfl, hbefore, ht⟩ := names_or_unnamed names
  · refine .inr ⟨bs, hbs, ofNames_of_names hbs, fun r t m => ?_⟩
    obtain ⟨log, hrun⟩ := run_ofBuiltins r bs t m
    obtain ⟨log', hrun'⟩ := run_ofBuiltins r (bs.filter (·.worksOn r)) t m
    rw [transformAll_filter] at hrun'
    exact ⟨_, log, log', hrun, ofNames_of_names (names_filter hbs r), hrun'⟩
  · exact .inl ⟨before, bs, t, behind, rfl, hbefore, ht, ofNames_of_unnamed hbefore ht behind,
      fun w => messageWith_unknownStage w t⟩

end Chain

end WebLint
