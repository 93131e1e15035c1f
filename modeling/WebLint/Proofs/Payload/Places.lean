import WebLint.Proofs.Json.Places
import WebLint.Proofs.Payload.Precedence
import WebLint.Proofs.Text.Trim

namespace WebLint

namespace Payload

/-- A payload is rejected, with or without a type for its records. -/
inductive Rejects (t : Text) (f : Fault) : Prop
  | raw (h : load t = .error f)
  | typed (type : RecordType) (h : loadTyped type type.rule t = .error f)

/-- A payload that is no document: behind its white space `lead`, and `before` behind that, stands
what the reader complains about. -/
inductive BreaksOff (why : Json.Complaint) : Text → Text → Text → Prop
  | intro {lead before rest trail : Text} (hlead : ∀ c ∈ lead, c.isBlank = true)
    (htrail : ∀ c ∈ trail, c.isBlank = true) (hne : before ++ rest ≠ [])
    (htrim : (lead ++ (before ++ rest) ++ trail).trim = before ++ rest)
    (hread : Json.read (before ++ rest) = .error (.malformed why rest)) :
    BreaksOff why (lead ++ (before ++ rest) ++ trail) lead before

variable {t lead before : Text} {why : Json.Complaint} {p : Json.Place}

/-! ### Faults of a broken payload -/

theorem refusesRecords_ne {path : Text} {v : Value} :
    ¬ RefusesRecords path v (.payloadMalformed why p) := by
  generalize hf : Fault.payloadMalformed why p = f
  rintro (_ | _)
  · cases hf
  · unfold Fault.quoting at hf
    split at hf <;> cases hf

theorem refusesEntry_ne {i : Nat} {v : Value} :
    ¬ RefusesEntry i v (.payloadMalformed why p) := by
  generalize hf : Fault.payloadMalformed why p = f
  rintro (_ | _ | ⟨_, _, _, _, h⟩)
  · cases hf
  · cases hf
  · exact refusesRecords_ne (hf ▸ h)

theorem allGroups_ne (v : Value) : allGroups v ≠ .error (.payloadMalformed why p) := by
  intro h
  obtain ⟨gs, hgs⟩ := allGroups_eq_error_iff.mp h
  cases groups_eq_iff_yields.mp hgs with
  | member _ hm _ => exact refusesRecords_ne hm
  | entry _ hv _ => exact refusesEntry_ne hv

theorem checkGroups_ne (type : RecordType) (gs : List (Group RawRecord)) :
    gs.mapM (checkGroup type type.rule) ≠ .error (.payloadMalformed why p) := by
  intro h
  obtain ⟨_, _, _, _, _, _, _, _, -, -, -, hr⟩ := mapM_checkGroup_eq_error_iff.mp h
  cases hr with
  | fault h =>
    exact type.within (P := fun f => f ≠ .payloadMalformed why p) (fun _ h => by cases h) _ _ h rfl

theorem rejects_iff_decode : Rejects t (.payloadMalformed why p) ↔
    decode t = .error (.payloadMalformed why p) := by
  have hload : load t = .error (.payloadMalformed why p) ↔
      decode t = .error (.payloadMalformed why p) := by
    rw [load, bind_eq_error_iff, or_iff_left]
    rintro ⟨v, -, h⟩
    exact allGroups_ne v h
  constructor
  · rintro (h | ⟨type, h⟩)
    · exact hload.mp h
    · rcases bind_eq_error_iff.mp h with h | ⟨gs, -, h⟩
      · exact hload.mp h
      · exact absurd h (checkGroups_ne type gs)
  · exact fun h => .raw (hload.mpr h)

theorem decode_eq_malformed_iff : decode t = .error (.payloadMalformed why p) ↔
    t.trim ≠ [] ∧ ∃ rest, Json.read t.trim = .error (.malformed why rest) ∧
      p = .of t.trim rest := by
  unfold decode
  dsimp only
  split
  · next hempty => simp [List.isEmpty_iff.mp hempty]
  · next hempty =>
    have hne : t.trim ≠ [] := fun h => hempty (List.isEmpty_iff.mpr h)
    split
    · next h => simp [h]
    · next why' rest h =>
      constructor
      · intro heq
        cases heq
        exact ⟨hne, rest, h, rfl⟩
      · rintro ⟨-, rest', h', rfl⟩
        cases h.symm.trans h'
        rfl
    · next h => simp [h]

theorem rejects_iff_breaksOff : Rejects t (.payloadMalformed why p) ↔
    ∃ lead before, BreaksOff why t lead before ∧ p = .behind before := by
  rw [rejects_iff_decode, decode_eq_malformed_iff]
  constructor
  · rintro ⟨hne, rest, hread, rfl⟩
    obtain ⟨lead, trail, ht, hlead, htrail⟩ := Text.exists_trim t
    obtain ⟨before, hbody⟩ := Json.rest_suffix_of_read hread
    rw [← hbody] at hread hne ht ⊢
    refine ⟨lead, before, ?_, Json.Place.of_append before rest⟩
    rw [ht]
    exact .intro hlead htrail hne (by rw [← ht, hbody]) hread
  · rintro ⟨lead, before, h, rfl⟩
    obtain ⟨hlead, htrail, hne, htrim, hread⟩ := h
    rw [htrim]
    exact ⟨hne, _, hread, (Json.Place.of_append before _).symm⟩

/-- The place that is told of a broken payload, beside the place in the text that was given. The
text in which the place is counted lacks the white space in front, so the offset is too small by
all of it, the line by its line feeds, and the column, in the first line that is left, by what
stands behind the last of these. All three are right, and so is the message, for a text that starts
with no white space, and for no other one. -/
theorem place_of_rejects {reported : Json.Place} (h : Rejects t (.payloadMalformed why reported)) :
    ∃ lead before actual, BreaksOff why t lead before ∧ reported = .behind before ∧
      actual = .behind (lead ++ before) ∧ actual = (Json.Place.behind lead).shift reported ∧
      (reported.offset = actual.offset ↔ lead = []) ∧
      (reported.line = actual.line ↔ Code.ofNat 0xa ∉ lead) ∧
      (reported.column = actual.column ↔
        Code.ofNat 0xa ∈ before ∨ ∀ c ∈ lead.getLast?, c = Code.ofNat 0xa) ∧
      ∀ w, (Fault.payloadMalformed why reported).messageWith w =
        (Fault.payloadMalformed why actual).messageWith w ↔ lead = [] := by
  obtain ⟨lead, before, hbreaks, rfl⟩ := rejects_iff_breaksOff.mp h
  refine ⟨lead, before, _, hbreaks, rfl, rfl, Json.Place.behind_append lead before,
    Json.Place.offset_eq_iff, Json.Place.line_eq_iff, Json.Place.column_eq_iff,
    fun w => ⟨fun hmessage => ?_, ?_⟩⟩
  · simp only [Fault.messageWith, List.append_cancel_left_eq] at hmessage
    have hplace := Json.Place.message_injective hmessage
    exact Json.Place.offset_eq_iff.mp (congrArg Json.Place.offset hplace)
  · rintro rfl
    rfl

def brokenText : Text :=
  "\n\n[1 2]"

theorem rejects_brokenText :
    Rejects brokenText (.payloadMalformed .expectingComma ⟨1, 4, 3⟩) :=
  rejects_iff_decode.mpr rfl

theorem place_of_rejects_brokenText :
    Rejects brokenText (.payloadMalformed .expectingComma ⟨1, 4, 3⟩) ∧
      ∃ lead before, BreaksOff .expectingComma brokenText lead before ∧
        ⟨1, 4, 3⟩ = Json.Place.behind before ∧
        (3 = (Json.Place.behind (lead ++ before)).offset ↔ lead = []) := by
  obtain ⟨lead, before, _, hbreaks, hbefore, rfl, -, hoffset, -⟩ :=
    place_of_rejects rejects_brokenText
  exact ⟨rejects_brokenText, lead, before, hbreaks, hbefore, hoffset⟩

theorem misplaced_brokenText :
    Rejects brokenText (.payloadMalformed .expectingComma ⟨1, 4, 3⟩) ∧
      BreaksOff .expectingComma brokenText "\n\n" "[1 " ∧
      Json.Place.behind (("\n\n" : Text) ++ "[1 ") = ⟨3, 4, 5⟩ := by
  refine ⟨rejects_brokenText, ?_, by decide⟩
  exact @BreaksOff.intro .expectingComma "\n\n" "[1 " "2]" [] (by decide) (by decide) (by decide)
    rfl rfl

end Payload

end WebLint
