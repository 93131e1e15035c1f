import WebLint.Act

namespace WebLint.Act

variable {σ α β : Type}

theorem bind_of_ok {x : Act σ α} {f : α → Act σ β} {s s' : σ} {a : α} {log : List Event}
    (h : x s = ⟨.ok a, s', log⟩) :
    (x >>= f) s = ⟨(f a s').result, (f a s').memory, log ++ (f a s').log⟩ := by
  change andThen x f s = _
  rw [andThen, h]

theorem bind_of_error {x : Act σ α} {f : α → Act σ β} {s s' : σ} {e : Fault} {log : List Event}
    (h : x s = ⟨.error e, s', log⟩) : (x >>= f) s = ⟨.error e, s', log⟩ := by
  change andThen x f s = _
  rw [andThen, h]

theorem map_of_ok {x : Act σ α} {f : α → β} {s s' : σ} {a : α} {log : List Event}
    (h : x s = ⟨.ok a, s', log⟩) : (f <$> x) s = ⟨.ok (f a), s', log⟩ := by
  change (x >>= fun a => pure (f a)) s = _
  rw [bind_of_ok h]
  simp [pure, done]

theorem map_of_error {x : Act σ α} {f : α → β} {s s' : σ} {e : Fault} {log : List Event}
    (h : x s = ⟨.error e, s', log⟩) : (f <$> x) s = ⟨.error e, s', log⟩ := by
  change (x >>= fun a => pure (f a)) s = _
  rw [bind_of_error h]

theorem result_bind_eq_ok_iff {x : Act σ α} {f : α → Act σ β} {s : σ} {b : β} :
    ((x >>= f) s).result = .ok b ↔
      ∃ a, (x s).result = .ok a ∧ (f a (x s).memory).result = .ok b := by
  rcases h : x s with ⟨_ | a, s', log⟩
  · simp [bind_of_error h]
  · simp [bind_of_ok h]

theorem result_ofResult (x : Except Fault α) (s : σ) : (ofResult x s).result = x := by
  cases x <;> rfl

theorem ofResult_bind_of_ok {x : Except Fault α} {f : α → Act σ β} {a : α} (h : x = .ok a) (s : σ) :
    (ofResult x >>= f) s = f a s := by
  have hx : ofResult x s = ⟨.ok a, s, []⟩ := by rw [h, ofResult, done]
  rw [bind_of_ok hx, List.nil_append]

theorem ofResult_bind_of_error {x : Except Fault α} {f : α → Act σ β} {e : Fault}
    (h : x = .error e) (s : σ) : (ofResult x >>= f) s = ⟨.error e, s, []⟩ := by
  have hx : ofResult x s = ⟨.error e, s, []⟩ := by rw [h, ofResult, fail]
  exact bind_of_error hx

theorem ofStep_of_eq {f : σ → Except Fault α × σ} {s s' : σ} {x : Except Fault α}
    (h : f s = (x, s')) : ofStep f s = ⟨x, s', []⟩ := by
  rw [ofStep, h]

theorem note_bind (e : Event) (f : Unit → Act σ β) (s : σ) :
    (note e >>= f) s = ⟨(f () s).result, (f () s).memory, e :: (f () s).log⟩ :=
  rfl

theorem mapFault_of_ok {g : Fault → Fault} {x : Act σ α} {s s' : σ} {a : α} {log : List Event}
    (h : x s = ⟨.ok a, s', log⟩) : mapFault g x s = ⟨.ok a, s', log⟩ := by
  rw [mapFault, h]
  rfl

theorem mapFault_of_error {g : Fault → Fault} {x : Act σ α} {s s' : σ} {e : Fault}
    {log : List Event} (h : x s = ⟨.error e, s', log⟩) :
    mapFault g x s = ⟨.error (g e), s', log⟩ := by
  rw [mapFault, h]
  rfl

theorem result_mapFault_eq_ok_iff {g : Fault → Fault} {x : Act σ α} {s : σ} {a : α} :
    (mapFault g x s).result = .ok a ↔ (x s).result = .ok a := by
  rcases h : x s with ⟨_ | a, s', log⟩
  · simp [mapFault_of_error h]
  · simp [mapFault_of_ok h]

end WebLint.Act
