import WebLint.Chain
import WebLint.Proofs.Act
import WebLint.Stage.Memory

namespace WebLint

variable {σ α β : Type}

namespace Act

/-- The memories of a kind are all the same to the act, and it leaves one of that kind. -/
structure Steady (P : σ → Prop) (x : Act σ α) : Prop where
  kept {m : σ} (h : P m) : P (x m).memory
  same {m m' : σ} (h : P m) (h' : P m') :
    (x m).result = (x m').result ∧ (x m).log = (x m').log

variable {P : σ → Prop}

theorem Steady.bind {x : Act σ α} {f : α → Act σ β} (hx : x.Steady P)
    (hf : ∀ a, (f a).Steady P) : (x >>= f).Steady P where
  kept {m} h := by
    have hkept := hx.kept h
    rcases hm : x m with ⟨e | a, m₁, log⟩
    · rw [hm] at hkept
      rwa [bind_of_error hm]
    · rw [hm] at hkept
      rw [bind_of_ok hm]
      exact (hf a).kept hkept
  same {m m'} h h' := by
    have hkept := hx.kept h
    have hkept' := hx.kept h'
    obtain ⟨hresult, hlog⟩ := hx.same h h'
    rcases hm : x m with ⟨e | a, m₁, log⟩ <;> rcases hm' : x m' with ⟨e' | a', m₁', log'⟩ <;>
      rw [hm, hm'] at hresult hlog <;> cases hresult <;> cases hlog
    · rw [bind_of_error hm, bind_of_error hm']
      exact ⟨rfl, rfl⟩
    · rw [hm] at hkept
      rw [hm'] at hkept'
      obtain ⟨hresult, hlog⟩ := (hf a).same hkept hkept'
      rw [bind_of_ok hm, bind_of_ok hm']
      exact ⟨hresult, congrArg (log ++ ·) hlog⟩

theorem steady_of_eq {x : Act σ α} {r : Except Fault α} {log : List Event}
    (h : ∀ m, x m = ⟨r, m, log⟩) : x.Steady P where
  kept {m} hm := by rwa [h m]
  same {m m'} _ _ := by rw [h m, h m']; exact ⟨rfl, rfl⟩

theorem steady_done (a : α) : (done a : Act σ α).Steady P :=
  steady_of_eq fun _ => rfl

theorem steady_note (e : Event) : (note e : Act σ Unit).Steady P :=
  steady_of_eq fun _ => rfl

theorem steady_ofResult (x : Except Fault α) : (ofResult x : Act σ α).Steady P := by
  cases x <;> exact steady_of_eq fun _ => rfl

theorem Steady.map {x : Act σ α} (hx : x.Steady P) (f : α → β) : (f <$> x).Steady P :=
  hx.bind fun a => steady_done (f a)

theorem Steady.mapFault {x : Act σ α} (hx : x.Steady P) (g : Fault → Fault) :
    (x.mapFault g).Steady P where
  kept h := hx.kept h
  same h h' := by
    obtain ⟨hresult, hlog⟩ := hx.same h h'
    exact ⟨congrArg (Except.mapError g) hresult, hlog⟩

end Act

/-- Neither to prepare the stage nor to run it makes a difference between memories of a kind. -/
structure Stage.Steady (P : σ → Prop) (s : Stage σ) : Prop where
  prepare : s.prepare.Steady P
  process (r : Resource) (t : Text) : (s.process r t).Steady P

variable {P : σ → Prop}

open Act

theorem Stage.steady_gated {name : Text} {minimizing : Bool} {supports : ResourceType → Bool}
    {transform : ResourceType → Text → Act σ Text} {preparation : Option (Act σ Unit)}
    (htransform : ∀ type t, (transform type t).Steady P)
    (hprepare : ∀ x ∈ preparation, x.Steady P) :
    (gated name minimizing supports transform preparation).Steady P where
  prepare := by
    cases preparation with
    | none => exact steady_done ()
    | some x => exact hprepare x rfl
  process r t := by
    rw [gated]
    dsimp only
    split
    · exact (htransform r.type t).map _
    · exact steady_done _

theorem Builtin.steady_stage (b : Builtin) : (b.stage : Stage σ).Steady P :=
  Stage.steady_gated (fun _ _ => steady_done _) (by simp)

namespace Chain

theorem steady_runFrom {ss : List (Stage σ)} (h : ∀ s ∈ ss, s.Steady P) (r : Resource) (k : Nat)
    (t : Text) : (runFrom r k ss t).Steady P := by
  induction ss generalizing k t with
  | nil => exact steady_done t
  | cons s ss ih =>
    obtain ⟨hprepare, hprocess⟩ := h s List.mem_cons_self
    have hinvoke := hprepare.bind fun _ => hprocess r t
    rw [runFrom]
    refine (steady_note _).bind fun _ => (hinvoke.mapFault _).bind fun v => ?_
    refine (steady_ofResult _).bind fun t' => (steady_note _).bind fun _ => ?_
    exact ih (fun s hs => h s (List.mem_cons_of_mem _ hs)) (k + 1) t'

theorem steady_stage {ss : List (Stage σ)} (h : ∀ s ∈ ss, s.Steady P) :
    (Chain.mk ss).stage.Steady P where
  prepare := steady_done ()
  process r t := (steady_runFrom h r 0 t).map Value.text

theorem steady_process {ss : List (Stage σ)} (h : ∀ s ∈ ss, s.Steady P) (r : Option Resource)
    (t : Option Text) : ((Chain.mk ss).process r t).Steady P := by
  rcases r with _ | r
  · exact steady_of_eq fun _ => rfl
  · rcases t with _ | t
    · exact steady_of_eq fun _ => rfl
    · exact steady_runFrom h r 0 t

end Chain

/-! ### Instances that share a memory -/

/-- An instance: a stage that is known by name, the replacing stage at a place, or a chain. -/
inductive Part (n : Nat)
  | builtin (b : Builtin)
  | replacing (place : Fin n)
  | chain (parts : List (Part n))

/-- A call on an instance. -/
inductive Use (n : Nat)
  | prepare (p : Part n)
  | process (p : Part n) (r : Resource) (t : Text)
  | processChain (ps : List (Part n)) (r : Option Resource) (t : Option Text)

variable (xs : List Replacing)

mutual

def Part.stage : Part xs.length → Stage StageMemory
  | .builtin b => b.stage
  | .replacing i => xs[i].stage (StageMemory.pattern i)
  | .chain ps => (Chain.mk (stages ps)).stage

def Part.stages : List (Part xs.length) → List (Stage StageMemory)
  | [] => []
  | p :: ps => p.stage :: stages ps

end

def Use.act : Use xs.length → Act StageMemory Value
  | .prepare p => (fun _ => .null) <$> (p.stage xs).prepare
  | .process p r t => (p.stage xs).process r t
  | .processChain ps r t => .text <$> (Chain.mk (Part.stages xs ps)).process r t

namespace StageMemory

def fresh : StageMemory :=
  xs.foldl (fun m _ => m.addPattern.1) {}

def after (us : List (Use xs.length)) : StageMemory :=
  us.foldl (fun m u => (u.act xs m).memory) (fresh xs)

/-- What is remembered at a place is the compiled pattern of the stage that has the place. -/
def IsSound (m : StageMemory) : Prop :=
  ∀ (i : Fin xs.length) (c : Pattern.Compiled), (pattern i).get m = some c → xs[i].compile = .ok c

theorem get_set_pattern (i j : Nat) (c : Option Pattern.Compiled) (m : StageMemory) :
    (pattern j).get ((pattern i).set c m) =
      if i = j ∧ j < m.patterns.length then c else (pattern j).get m := by
  by_cases hij : i = j
  · subst hij
    by_cases hi : i < m.patterns.length <;> simp [pattern, hi]
  · simp [pattern, hij]

variable {xs}

theorem patterns_foldl (m : StageMemory) :
    (xs.foldl (fun m _ => m.addPattern.1) m).patterns = m.patterns ++ xs.map fun _ => none := by
  induction xs generalizing m with
  | nil => simp
  | cons x xs ih =>
    rw [List.foldl_cons, ih, addPattern, List.append_assoc]
    rfl

theorem isSound_fresh : (fresh xs).IsSound xs := by
  intro i c h
  have hpatterns : (fresh xs).patterns = [] ++ xs.map fun _ => none := patterns_foldl {}
  rw [pattern] at h
  dsimp only at h
  rw [hpatterns] at h
  simp at h

variable {m : StageMemory}

theorem IsSound.set (h : m.IsSound xs) {i : Fin xs.length} {c : Pattern.Compiled}
    (hc : xs[i].compile = .ok c) : ((pattern i).set (some c) m).IsSound xs := by
  intro j d hd
  rw [get_set_pattern] at hd
  split at hd
  · next hij =>
    cases hd
    rw [← Fin.ext hij.1]
    exact hc
  · exact h j d hd

/-- The pattern that a stage works with is the one that it would compile anew. -/
theorem IsSound.exists_remembered (h : m.IsSound xs) (i : Fin xs.length) :
    ∃ m', xs[i].remembered (pattern i) m = ⟨xs[i].compile, m', []⟩ ∧ m'.IsSound xs := by
  unfold Replacing.remembered
  split
  · next c hc => exact ⟨m, by rw [h i c hc], h⟩
  · next hnone =>
    split
    · next c hc => exact ⟨_, by rw [hc], h.set hc⟩
    · next f hf => exact ⟨m, by rw [hf], h⟩

theorem steady_remembered (i : Fin xs.length) :
    (xs[i].remembered (pattern i)).Steady (IsSound xs) where
  kept h := by
    obtain ⟨m', hm, hsound⟩ := h.exists_remembered i
    rwa [hm]
  same h h' := by
    obtain ⟨_, hm, -⟩ := h.exists_remembered i
    obtain ⟨_, hm', -⟩ := h'.exists_remembered i
    rw [hm, hm']
    exact ⟨rfl, rfl⟩

theorem steady_replacing (i : Fin xs.length) :
    (xs[i].stage (pattern i)).Steady (IsSound xs) := by
  refine Stage.steady_gated (fun _ t => ?_) fun x hx => ?_
  · exact (steady_remembered i).bind fun c => steady_ofResult _
  · cases hx
    exact (steady_remembered i).bind fun _ => steady_done ()

mutual

theorem steady_stage (p : Part xs.length) : (p.stage xs).Steady (IsSound xs) := by
  cases p with
  | builtin b =>
    rw [Part.stage]
    exact b.steady_stage
  | replacing i =>
    rw [Part.stage]
    exact steady_replacing i
  | chain ps =>
    rw [Part.stage]
    exact Chain.steady_stage (steady_stages ps)

theorem steady_stages (ps : List (Part xs.length)) :
    ∀ s ∈ Part.stages xs ps, s.Steady (IsSound xs) := by
  cases ps with
  | nil =>
    rw [Part.stages]
    simp
  | cons p ps =>
    rw [Part.stages, List.forall_mem_cons]
    exact ⟨steady_stage p, steady_stages ps⟩

end

theorem steady_act (u : Use xs.length) : (u.act xs).Steady (IsSound xs) := by
  cases u with
  | prepare p => exact (steady_stage p).prepare.map _
  | process p r t => exact (steady_stage p).process r t
  | processChain ps r t => exact (Chain.steady_process (steady_stages ps) r t).map _

theorem isSound_foldl (h : m.IsSound xs) (us : List (Use xs.length)) :
    (us.foldl (fun m u => (u.act xs m).memory) m).IsSound xs := by
  induction us generalizing m with
  | nil => exact h
  | cons u us ih => exact ih ((steady_act u).kept h)

/-- After any calls, those that failed included, what is remembered of a pattern is nothing or the
pattern compiled anew, and the next call ends as it would end if it were the first. -/
theorem act_after (us : List (Use xs.length)) :
    (∀ i : Fin xs.length, (pattern i).get (after xs us) = none ∨
      ∃ c, xs[i].compile = .ok c ∧ (pattern i).get (after xs us) = some c) ∧
    ∀ u : Use xs.length, (u.act xs (after xs us)).result = (u.act xs (fresh xs)).result ∧
      (u.act xs (after xs us)).log = (u.act xs (fresh xs)).log := by
  have hsound : (after xs us).IsSound xs := isSound_foldl isSound_fresh us
  refine ⟨fun i => ?_, fun u => (steady_act u).same hsound isSound_fresh⟩
  cases hget : (pattern i).get (after xs us) with
  | none => exact .inl rfl
  | some c => exact .inr ⟨c, hsound i c hget, rfl⟩

end StageMemory

end WebLint
