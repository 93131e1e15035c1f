import WebLint.Proofs.Json.Step

namespace WebLint.Json

variable {fuel : Nat} {i : Inside} {key t : Text} {v : Value}

/-! ### Values that are read -/

def Denotes (c : Text) (v : Value) : Prop :=
  ∀ u fuel, Ends u → 2 * (c ++ u).length + 1 ≤ fuel → value fuel (c ++ u) = .ok (v, u)

/-- The text is read as the rest of a list or an object, whatever follows. -/
def Completes (i : Inside) (c : Text) (v : Value) : Prop :=
  ∀ u fuel, 2 * (c ++ u).length + 2 ≤ fuel → i.read fuel (c ++ u) = .ok (v, u)

variable {c sp sp' p hd : Text}

theorem denotes_quote {s : Text} (h : Spells c s) : Denotes ('"' :: c) (.text s) := by
  intro u fuel _ hfuel
  cases fuel with
  | zero => omega
  | succ fuel => exact value_quote fuel h u

theorem denotes_scalar (hstart : ∀ d ∈ c.head?, d ≠ '"' ∧ ∀ i, ¬ Opens d i) (hc : c ≠ [])
    (h : ∀ u, Ends u → scalar (c ++ u) = .ok (v, u)) : Denotes c v := by
  intro u fuel hu hfuel
  obtain ⟨d, c, rfl⟩ := List.exists_cons_of_ne_nil hc
  obtain ⟨hquote, hopens⟩ := hstart d rfl
  cases fuel with
  | zero => omega
  | succ fuel => exact (value_scalar hquote hopens fuel (c ++ u)).trans (h u hu)

theorem denotes_empty {d : Code} (h : Opens d i) (hsp : Blanks sp) :
    Denotes (d :: (sp ++ [i.close])) i.value := by
  intro u fuel _ hfuel
  cases fuel with
  | zero => omega
  | succ fuel =>
    rw [List.cons_append, List.append_assoc, value_opened h]
    exact opened_empty fuel hsp u

theorem Completes.denotes {d : Code} (h : Completes i p v) (hopens : Opens d i) (hsp : Blanks sp)
    (hp : p ≠ []) (hspace : NoSpace p) (hclose : p.head? ≠ some i.close) :
    Denotes (d :: (sp ++ p)) v := by
  intro u fuel _ hfuel
  cases fuel with
  | zero => omega
  | succ fuel =>
    have hclose' : (p ++ u).head? ≠ some i.close := by rwa [List.head?_append_of_ne_nil _ hp]
    rw [List.cons_append, List.append_assoc, value_opened hopens,
      opened_filled fuel hsp (hspace.append hp u) hclose']
    refine h u fuel ?_
    simp only [List.cons_append, List.length_cons, List.length_append] at hfuel ⊢
    omega

theorem Denotes.item_more (h : Denotes c v) (hsp : Blanks sp) (hsp' : Blanks sp') {w : Text}
    (hw : NoSpace w) (i : Inside) (key : Text)
    (hfuel : 2 * (c ++ (sp ++ (',' : Code) :: (sp' ++ w))).length + 1 ≤ fuel) :
    item fuel i key (c ++ (sp ++ (',' : Code) :: (sp' ++ w))) = (i.add key v).read fuel w := by
  rw [item, h _ fuel (hsp.ends ends_comma) hfuel]
  dsimp only
  rw [skipSpace_append hsp (noSpace_comma _)]
  dsimp only
  rw [if_neg i.close_ne_comma.symm, if_pos rfl, skipSpace_append hsp' hw]

theorem Denotes.completes_last (h : Denotes c v) (hhead : Head i hd key) (hc : c ≠ [])
    (hspace : NoSpace c) (hsp : Blanks sp) :
    Completes i (hd ++ (c ++ (sp ++ [i.close]))) (i.add key v).value := by
  intro u fuel hfuel
  cases fuel with
  | zero => omega
  | succ fuel =>
    simp only [List.append_assoc, List.singleton_append, List.length_append] at hfuel ⊢
    rw [read_head hhead (hspace.append hc _), item, h _ fuel (hsp.ends i.ends_close)]
    · dsimp only
      rw [skipSpace_append hsp (i.noSpace_close u)]
      exact if_pos rfl
    · simp only [List.length_append]
      omega

theorem Denotes.completes_more (h : Denotes c v) (hhead : Head i hd key) (hc : c ≠ [])
    (hspace : NoSpace c) (hsp : Blanks sp) (hsp' : Blanks sp') {v' : Value}
    (hrest : Completes (i.add key v) p v') (hp : p ≠ []) (hspace' : NoSpace p) :
    Completes i (hd ++ (c ++ (sp ++ (',' : Code) :: (sp' ++ p)))) v' := by
  intro u fuel hfuel
  cases fuel with
  | zero => omega
  | succ fuel =>
    simp only [List.append_assoc, List.cons_append, List.length_append, List.length_cons]
      at hfuel ⊢
    rw [read_head hhead (hspace.append hc _), h.item_more hsp hsp' (hspace'.append hp u)]
    · refine hrest u fuel ?_
      simp only [List.length_append]
      omega
    · simp only [List.length_append, List.length_cons]
      omega

/-- Values are cut off from what follows them, as far as the fuel goes. -/
def CutsValues (fuel : Nat) : Prop :=
  ∀ t v rest, value fuel t = .ok (v, rest) → ∃ c, t = c ++ rest ∧ c ≠ [] ∧ Denotes c v

def CutsInside (fuel : Nat) : Prop :=
  ∀ i t v rest, NoSpace t → i.read fuel t = .ok (v, rest) →
    ∃ c, t = c ++ rest ∧ c ≠ [] ∧ Completes i c v

theorem CutsInside.values (h : CutsInside fuel) : CutsValues (fuel + 1) := by
  intro t v rest hvalue
  have hreads := value_reads fuel t
  generalize value (fuel + 1) t = x at hreads hvalue
  cases hreads with
  | missing | broken => cases hvalue
  | text hs =>
    cases hvalue
    exact ⟨_, rfl, List.cons_ne_nil _ _, denotes_quote hs⟩
  | @opened d i t hopens =>
    have hreads := opened_reads fuel i t
    generalize opened fuel i t = x at hreads hvalue
    cases hreads with
    | empty hsp =>
      cases hvalue
      exact ⟨_, by simp, List.cons_ne_nil _ _, denotes_empty hopens hsp⟩
    | filled hsp hw hclose =>
      obtain ⟨p, rfl, hp, hcompletes⟩ := h i _ v rest hw hvalue
      rw [List.head?_append_of_ne_nil _ hp] at hclose
      exact ⟨_, by simp, List.cons_ne_nil _ _,
        hcompletes.denotes hopens hsp hp hw.of_append hclose⟩
  | @scalar d t hquote hopens =>
    obtain ⟨c, ht, hc, happend⟩ := scalar_append hvalue
    refine ⟨c, ht, hc, denotes_scalar ?_ hc happend⟩
    obtain ⟨d, c, rfl⟩ := List.exists_cons_of_ne_nil hc
    obtain ⟨rfl, -⟩ := List.cons.inj ht
    intro d hd
    cases hd
    exact ⟨hquote, hopens⟩

theorem CutsValues.inside (h : CutsValues fuel) (h' : CutsInside fuel) :
    CutsInside (fuel + 1) := by
  intro i t v rest ht hread
  have hreads := read_reads fuel i ht
  generalize i.read (fuel + 1) t = x at hreads hread
  cases hreads with
  | broken => cases hread
  | @item hd key w hhead hw =>
    have hreads := item_reads fuel i key w
    generalize item fuel i key w = x at hreads hread
    cases hreads with
    | failed | broken => cases hread
    | last hv hsp =>
      cases hread
      obtain ⟨c, rfl, hc, hdenotes⟩ := h _ _ _ hv
      exact ⟨_, by simp, by simp [hc], hdenotes.completes_last hhead hc hw.of_append hsp⟩
    | more hv hsp hsp' hw' =>
      obtain ⟨c, rfl, hc, hdenotes⟩ := h _ _ _ hv
      obtain ⟨p, rfl, hp, hcompletes⟩ := h' _ _ _ _ hw' hread
      exact ⟨_, by simp, by simp [hc], hdenotes.completes_more hhead hc hw.of_append hsp hsp'
        hcompletes hp hw'.of_append⟩

theorem cuts (fuel : Nat) : CutsValues fuel ∧ CutsInside fuel := by
  induction fuel with
  | zero =>
    refine ⟨fun t v rest h => ?_, fun i t v rest _ h => ?_⟩
    · rw [value] at h
      cases h
    · obtain ⟨e, he⟩ := read_zero i t
      cases he.symm.trans h
  | succ fuel ih => exact ⟨ih.2.values, ih.1.inside ih.2⟩

/-! ### Where reading stops -/

/-- The failures with which reading can stop where a value is to stand. -/
inductive AtValue : Failure → Prop
  | missing : AtValue (.malformed .expectingValue [])
  | long (n : Nat) : AtValue (.longInteger n)

/-- The text stops reading where a value is to stand: there is none, or an integer of too many
digits. -/
inductive Stops : Text → Failure → Prop
  | missing : Stops [] (.malformed .expectingValue [])
  | long {t : Text} {n : Nat} (h : StartsLong t n) : Stops t (.longInteger n)

def Leads (p : Text) : Prop :=
  ∀ u e fuel, Stops u e → 2 * (p ++ u).length + 1 ≤ fuel → value fuel (p ++ u) = .error e

/-- Behind the text a value is to stand, in a list or an object. -/
def LeadsInside (i : Inside) (p : Text) : Prop :=
  ∀ u e fuel, Stops u e → 2 * (p ++ u).length + 2 ≤ fuel → i.read fuel (p ++ u) = .error e

theorem startsNumber_of_startsLong {n : Nat} (h : StartsLong t n) : startsNumber t = true :=
  startsNumber_of_number? (number?_eq_error_iff.mpr ⟨n, rfl, h⟩)

theorem Stops.head {u : Text} {e : Failure} (h : Stops u e) :
    ∀ d ∈ u.head?, d = '-' ∨ d.isAsciiDigit = true := by
  intro d hd
  cases h with
  | missing => cases hd
  | long h =>
    obtain ⟨u, rfl⟩ := List.head?_eq_some_iff.mp (Option.mem_def.mp hd)
    have hstart := startsNumber_of_startsLong h
    rw [startsNumber] at hstart
    split at hstart
    · next hminus => exact .inl hminus
    · exact .inr hstart

theorem Stops.head_append {u : Text} {e : Failure} (h : Stops u e) {P : Code → Prop}
    (hp : ∀ d ∈ p.head?, P d) (hminus : P '-') (hdigit : ∀ d : Code, d.isAsciiDigit = true → P d) :
    ∀ d ∈ (p ++ u).head?, P d := by
  cases p with
  | cons d p => exact hp
  | nil =>
    intro d hd
    rcases h.head d hd with rfl | hd
    · exact hminus
    · exact hdigit d hd

theorem isSpace_digit {d : Code} (h : d.isAsciiDigit = true) : isSpace d = false := by
  rw [Code.isAsciiDigit_iff] at h
  simp only [isSpace, Bool.or_eq_false_iff, beq_eq_false_iff_ne]
  omega

theorem NoSpace.append_stops {u : Text} {e : Failure} (h : NoSpace p) (hu : Stops u e) :
    NoSpace (p ++ u) :=
  hu.head_append h (by decide) fun _ => isSpace_digit

theorem leads_nil : Leads [] := by
  intro u e fuel hu hfuel
  cases fuel with
  | zero => omega
  | succ fuel =>
    cases hu with
    | missing =>
      rw [List.append_nil, value]
    | @long u n h =>
      have hstart : ∀ d ∈ u.head?, d ≠ '"' ∧ ∀ i, ¬ Opens d i := by
        refine (Stops.long h).head_append (p := []) (by simp) ⟨by decide, ?_⟩ fun d hd => ⟨?_, ?_⟩
        · rintro i ⟨⟩
        · exact ne_of_isAsciiDigit hd (by decide)
        · rintro i ⟨⟩ <;> cases hd
      have hnumber := number?_eq_error_iff.mpr ⟨n, rfl, h⟩
      cases u with
      | nil => cases hnumber
      | cons d u =>
        obtain ⟨hquote, hopens⟩ := hstart d rfl
        exact (value_scalar hquote hopens fuel u).trans (scalar_of_number? hnumber)

theorem LeadsInside.leads {d : Code} (h : LeadsInside i p) (hopens : Opens d i) (hsp : Blanks sp)
    (hspace : NoSpace p) (hclose : p.head? ≠ some i.close) : Leads (d :: (sp ++ p)) := by
  intro u e fuel hu hfuel
  cases fuel with
  | zero => omega
  | succ fuel =>
    have hhead : ∀ d ∈ (p ++ u).head?, d ≠ i.close := by
      refine hu.head_append (fun d hd he => hclose ?_) ?_ fun d hd => ?_
      · rw [← he]
        exact hd
      · rcases i.close_eq with h | h <;> rw [h] <;> decide
      · rcases i.close_eq with h | h <;> rw [h] <;> exact ne_of_isAsciiDigit hd (by decide)
    rw [List.cons_append, List.append_assoc, value_opened hopens,
      opened_filled fuel hsp (hspace.append_stops hu) fun h => hhead _ h rfl]
    refine h u e fuel hu ?_
    simp only [List.cons_append, List.length_cons, List.length_append] at hfuel ⊢
    omega

theorem Leads.inside (h : Leads p) (hhead : Head i hd key) (hspace : NoSpace p) :
    LeadsInside i (hd ++ p) := by
  intro u e fuel hu hfuel
  cases fuel with
  | zero => omega
  | succ fuel =>
    rw [List.append_assoc, read_head hhead (hspace.append_stops hu), item, h u e fuel hu]
    simp only [List.append_assoc, List.length_append] at hfuel ⊢
    omega

theorem LeadsInside.behind (h : LeadsInside (i.add key v) p) (hspace : NoSpace p)
    (hc : Denotes c v) (hhead : Head i hd key) (hne : c ≠ []) (hspace' : NoSpace c)
    (hsp : Blanks sp) (hsp' : Blanks sp') :
    LeadsInside i (hd ++ (c ++ (sp ++ (',' : Code) :: (sp' ++ p)))) := by
  intro u e fuel hu hfuel
  cases fuel with
  | zero => omega
  | succ fuel =>
    simp only [List.append_assoc, List.cons_append, List.length_append, List.length_cons]
      at hfuel ⊢
    rw [read_head hhead (hspace'.append hne _), hc.item_more hsp hsp' (hspace.append_stops hu)]
    · refine h u e fuel hu ?_
      simp only [List.length_append]
      omega
    · simp only [List.length_append, List.length_cons]
      omega

/-- If reading stops where a value is to stand, what stands in front leads to that, as far as the
fuel goes. -/
def LeadsToValues (fuel : Nat) : Prop :=
  ∀ t e, value fuel t = .error e → AtValue e → 2 * t.length + 1 ≤ fuel →
    ∃ p u, t = p ++ u ∧ Stops u e ∧ Leads p

def LeadsToInside (fuel : Nat) : Prop :=
  ∀ i t e, NoSpace t → i.read fuel t = .error e → AtValue e → 2 * t.length + 2 ≤ fuel →
    ∃ p u, t = p ++ u ∧ Stops u e ∧ LeadsInside i p

theorem LeadsToInside.values (h : LeadsToInside fuel) : LeadsToValues (fuel + 1) := by
  intro t e hvalue he hfuel
  have hreads := value_reads fuel t
  generalize value (fuel + 1) t = x at hreads hvalue
  cases hreads with
  | text => cases hvalue
  | missing =>
    cases hvalue
    exact ⟨[], [], rfl, .missing, leads_nil⟩
  | broken hwhy =>
    cases hvalue
    cases he
    exact absurd rfl hwhy
  | @opened d i t hopens =>
    have hreads := opened_reads fuel i t
    generalize opened fuel i t = x at hreads hvalue
    cases hreads with
    | empty => cases hvalue
    | @filled sp w hsp hw hclose =>
      have hfuel' : 2 * w.length + 2 ≤ fuel := by
        simp only [List.length_cons, List.length_append] at hfuel
        omega
      obtain ⟨p, u, rfl, hu, hp⟩ := h i w e hw hvalue he hfuel'
      refine ⟨d :: (sp ++ p), u, by simp, hu, hp.leads hopens hsp hw.of_append ?_⟩
      cases p with
      | nil => simp
      | cons d p => exact hclose
  | scalar =>
    rcases scalar_eq_error hvalue with rfl | ⟨n, rfl, hlong⟩
    · cases he
    · exact ⟨[], _, rfl, .long hlong, leads_nil⟩

theorem LeadsToValues.inside (h : LeadsToValues fuel) (h' : LeadsToInside fuel) :
    LeadsToInside (fuel + 1) := by
  intro i t e ht hread he hfuel
  have hreads := read_reads fuel i ht
  generalize i.read (fuel + 1) t = x at hreads hread
  cases hreads with
  | broken hwhy =>
    cases hread
    cases he
    exact absurd rfl hwhy
  | @item hd key w hhead hw =>
    have hreads := item_reads fuel i key w
    generalize item fuel i key w = x at hreads hread
    cases hreads with
    | last => cases hread
    | broken =>
      cases hread
      cases he
    | failed hv =>
      cases hread
      have hfuel' : 2 * w.length + 1 ≤ fuel := by
        rw [List.length_append] at hfuel
        omega
      obtain ⟨p, u, rfl, hu, hp⟩ := h w e hv he hfuel'
      exact ⟨hd ++ p, u, by simp, hu, hp.inside hhead hw.of_append⟩
    | @more v sp sp' w' hv hsp hsp' hw' =>
      -- reading went past this value, so the text of it is one whatever follows the comma
      obtain ⟨c, rfl, hc, hdenotes⟩ := (cuts fuel).1 _ _ _ hv
      have hfuel' : 2 * w'.length + 2 ≤ fuel := by
        simp only [List.length_cons, List.length_append] at hfuel
        omega
      obtain ⟨p, u, rfl, hu, hp⟩ := h' _ w' e hw' hread he hfuel'
      exact ⟨_, u, by simp, hu, hp.behind hw'.of_append hdenotes hhead hc hw.of_append hsp hsp'⟩

theorem leadsTo (fuel : Nat) : LeadsToValues fuel ∧ LeadsToInside fuel := by
  induction fuel with
  | zero => exact ⟨fun t e _ _ hfuel => by omega, fun i t e _ _ _ hfuel => by omega⟩
  | succ fuel ih => exact ⟨ih.2.values, ih.1.inside ih.2⟩

/-! ### Whole documents -/

def NoMark (t : Text) : Prop :=
  ∀ c ∈ t.head?, c.val ≠ 0xfeff

theorem read_of_leads {u : Text} {e : Failure} (hp : Leads p) (hsp : Blanks sp) (hspace : NoSpace p)
    (hmark : NoMark (sp ++ p)) (hu : Stops u e) : Json.read (sp ++ (p ++ u)) = .error e := by
  have hmark' : NoMark ((sp ++ p) ++ u) := by
    refine hu.head_append hmark (by decide) fun d hd => ?_
    rw [Code.isAsciiDigit_iff] at hd
    omega
  have hskip := skipSpace_append hsp (hspace.append_stops hu)
  rw [List.append_assoc] at hmark'
  cases ht : sp ++ (p ++ u) with
  | nil =>
    obtain ⟨rfl, rfl⟩ := List.append_eq_nil_iff.mp (List.append_eq_nil_iff.mp ht).2
    cases hu with
    | missing => rfl
    | long h => cases startsNumber_of_startsLong h
  | cons c t =>
    rw [ht] at hskip hmark'
    have hlength : (p ++ u).length ≤ (c :: t).length := by
      simp only [← ht, List.length_append]
      omega
    rw [Json.read, if_neg (hmark' c rfl), hskip, hp u e _ hu (by omega)]

theorem exists_leads_of_read {e : Failure} (h : Json.read t = .error e) (he : AtValue e) :
    ∃ sp p u, t = sp ++ (p ++ u) ∧ Blanks sp ∧ NoSpace p ∧ NoMark (sp ++ p) ∧ Stops u e ∧
      Leads p := by
  obtain ⟨sp, hsp, ht⟩ := exists_blanks t
  cases t with
  | nil =>
    cases h
    exact ⟨[], [], [], rfl, by simp [Blanks], by simp [NoSpace], by simp [NoMark], .missing,
      leads_nil⟩
  | cons c t =>
    rw [Json.read] at h
    split at h
    · cases h
      cases he
    · next hmark =>
      split at h
      · next hvalue =>
        cases h
        have hlength : (skipSpace (c :: t)).length ≤ (c :: t).length := by
          rw [congrArg List.length ht, List.length_append]
          omega
        obtain ⟨p, u, hpu, hu, hp⟩ := (leadsTo _).1 _ e hvalue he (by omega)
        have hspace := noSpace_skipSpace (c :: t)
        rw [hpu] at ht hspace
        refine ⟨sp, p, u, ht, hsp, hspace.of_append, ?_, hu, hp⟩
        intro d hd
        have hhead := congrArg List.head? ht
        rw [← List.append_assoc, List.head?_append, Option.mem_def.mp hd] at hhead
        cases hhead
        exact hmark
      · split at h
        · cases h
        · cases h
          cases he

/-- Reading stops at an integer of too many digits if and only if one stands where, without it and
all that follows, a value would be missing. -/
theorem read_eq_longInteger_iff {n : Nat} :
    Json.read t = .error (.longInteger n) ↔ ∃ before rest, t = before ++ rest ∧
      Json.read before = .error (.malformed .expectingValue []) ∧ StartsLong rest n := by
  constructor
  · intro h
    obtain ⟨sp, p, u, rfl, hsp, hspace, hmark, hu, hp⟩ := exists_leads_of_read h (.long n)
    cases hu with
    | long hlong =>
      have hbefore := read_of_leads hp hsp hspace hmark .missing
      rw [List.append_nil] at hbefore
      exact ⟨sp ++ p, u, (List.append_assoc _ _ _).symm, hbefore, hlong⟩
  · rintro ⟨before, rest, rfl, hbefore, hlong⟩
    obtain ⟨sp, p, u, rfl, hsp, hspace, hmark, hu, hp⟩ := exists_leads_of_read hbefore .missing
    cases hu
    rw [List.append_nil, List.append_assoc]
    exact read_of_leads hp hsp hspace hmark (.long hlong)

end WebLint.Json
