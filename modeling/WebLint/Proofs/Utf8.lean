import WebLint.Text.Utf8

namespace WebLint.Utf8

theorem octet_toNat {n : Nat} (h : n < 0x100) : (octet n).toNat = n := by
  simp only [octet, UInt8.toNat_ofNat']
  exact Nat.mod_eq_of_lt h

theorem continuation_octet {n lo hi acc read b : Nat} {bs : Octets} (hb : b < 0x100)
    (hlo : lo ≤ b) (hhi : b ≤ hi) :
    continuation (n + 1) lo hi acc read (octet b :: bs) =
      continuation n 0x80 0xbf (acc * 0x40 + (b - 0x80)) (read + 1) bs := by
  have ho := octet_toNat hb
  simp only [continuation, ho, hlo, hhi, and_self, if_true]

theorem continuation_bits {n acc read k : Nat} {bs : Octets} (hk : k < 0x40) :
    continuation (n + 1) 0x80 0xbf acc read (octet (0x80 + k) :: bs) =
      continuation n 0x80 0xbf (acc * 0x40 + k) (read + 1) bs := by
  rw [continuation_octet (by omega) (by omega) (by omega)]
  rw [Nat.add_sub_cancel_left]

theorem decodeFrom_lead {position n lo hi acc b v : Nat} {bs rest : Octets} (hb : b < 0x100)
    (hl : lead b = some (n, lo, hi, acc)) (hc : continuation n lo hi acc 1 bs = .ok (v, rest)) :
    decodeFrom position (octet b :: bs) =
      (decodeFrom (position + n + 1) rest).map (Code.ofNat v :: ·) := by
  rw [decodeFrom, octet_toNat hb, hl]
  dsimp only
  split
  · next h => rw [hc] at h; cases h
  · next h => rw [hc] at h; cases h; rfl

theorem decodeFrom_one (position : Nat) (bs : Octets) {n : Nat} (h : n < 0x80) :
    decodeFrom position (octet n :: bs) =
      (decodeFrom (position + 1) bs).map (Code.ofNat n :: ·) := by
  have hl : lead n = some (0, 0, 0, n) := by simp only [lead, h, if_true]
  exact decodeFrom_lead (by omega) hl rfl

theorem decodeFrom_two (position : Nat) (bs : Octets) {n : Nat} (hlo : 0x80 ≤ n)
    (hhi : n < 0x800) :
    decodeFrom position (octet (0xc0 + n / 0x40) :: octet (0x80 + n % 0x40) :: bs) =
      (decodeFrom (position + 2) bs).map (Code.ofNat n :: ·) := by
  have hl : lead (0xc0 + n / 0x40) = some (1, 0x80, 0xbf, n / 0x40) := by
    rw [lead, if_neg (by omega), if_pos (by omega)]
    simp
  refine decodeFrom_lead (by omega) hl ?_
  rw [continuation_bits (Nat.mod_lt _ (by omega)), continuation]
  congr 2
  omega

/-- The lead of three octets: what it contributes, and the range that it leaves to the octet behind
it if `n` is no surrogate. -/
theorem lead_three {n : Nat} (hlo : 0x800 ≤ n) (hhi : n < 0x10000)
    (hs : ¬ (0xd800 ≤ n ∧ n ≤ 0xdfff)) :
    ∃ lo hi, lead (0xe0 + n / 0x1000) = some (2, lo, hi, n / 0x1000) ∧
      lo ≤ 0x80 + n / 0x40 % 0x40 ∧ 0x80 + n / 0x40 % 0x40 ≤ hi := by
  unfold lead
  rw [if_neg (by omega), if_neg (by omega)]
  by_cases h0 : n / 0x1000 = 0
  · refine ⟨0xa0, 0xbf, ?_, by omega, by omega⟩
    rw [if_pos (by omega), h0]
  · rw [if_neg (by omega)]
    by_cases hd : n / 0x1000 = 0xd
    · refine ⟨0x80, 0x9f, ?_, by omega, by omega⟩
      rw [if_pos (by omega), hd]
    · refine ⟨0x80, 0xbf, ?_, by omega, by omega⟩
      rw [if_neg (by omega), if_pos (by omega), Nat.add_sub_cancel_left]

theorem decodeFrom_three (position : Nat) (bs : Octets) {n : Nat} (hlo : 0x800 ≤ n)
    (hhi : n < 0x10000) (hs : ¬ (0xd800 ≤ n ∧ n ≤ 0xdfff)) :
    decodeFrom position (octet (0xe0 + n / 0x1000) :: octet (0x80 + n / 0x40 % 0x40) ::
        octet (0x80 + n % 0x40) :: bs) =
      (decodeFrom (position + 3) bs).map (Code.ofNat n :: ·) := by
  obtain ⟨lo, hi, hl, hl1, hl2⟩ := lead_three hlo hhi hs
  refine decodeFrom_lead (by omega) hl ?_
  rw [continuation_octet (by omega) hl1 hl2, continuation_bits (Nat.mod_lt _ (by omega)),
    continuation]
  congr 2
  omega

theorem lead_four {n : Nat} (hlo : 0x10000 ≤ n) (hhi : n < 0x110000) :
    ∃ lo hi, lead (0xf0 + n / 0x40000) = some (3, lo, hi, n / 0x40000) ∧
      lo ≤ 0x80 + n / 0x1000 % 0x40 ∧ 0x80 + n / 0x1000 % 0x40 ≤ hi := by
  unfold lead
  rw [if_neg (by omega), if_neg (by omega), if_neg (by omega), if_neg (by omega),
    if_neg (by omega)]
  by_cases h0 : n / 0x40000 = 0
  · refine ⟨0x90, 0xbf, ?_, by omega, by omega⟩
    rw [if_pos (by omega), h0]
  · rw [if_neg (by omega)]
    by_cases h4 : n / 0x40000 = 4
    · refine ⟨0x80, 0x8f, ?_, by omega, by omega⟩
      rw [if_neg (by omega), if_pos (by omega), h4]
    · refine ⟨0x80, 0xbf, ?_, by omega, by omega⟩
      rw [if_pos (by omega), Nat.add_sub_cancel_left]

theorem decodeFrom_four (position : Nat) (bs : Octets) {n : Nat} (hlo : 0x10000 ≤ n)
    (hhi : n < 0x110000) :
    decodeFrom position (octet (0xf0 + n / 0x40000) :: octet (0x80 + n / 0x1000 % 0x40) ::
        octet (0x80 + n / 0x40 % 0x40) :: octet (0x80 + n % 0x40) :: bs) =
      (decodeFrom (position + 4) bs).map (Code.ofNat n :: ·) := by
  obtain ⟨lo, hi, hl, hl1, hl2⟩ := lead_four hlo hhi
  refine decodeFrom_lead (by omega) hl ?_
  rw [continuation_octet (by omega) hl1 hl2, continuation_bits (Nat.mod_lt _ (by omega)),
    continuation_bits (Nat.mod_lt _ (by omega)), continuation]
  congr 2
  omega

theorem decodeFrom_encodeCode {c : Code} (hs : c.isSurrogate = false) (position : Nat)
    (bs : Octets) :
    decodeFrom position (encodeCode c ++ bs) =
      (decodeFrom (position + (encodeCode c).length) bs).map (c :: ·) := by
  have hn : ¬ (0xd800 ≤ c.val ∧ c.val ≤ 0xdfff) := by
    simpa [Code.isSurrogate, Decidable.imp_iff_not_or] using hs
  have hlt := c.val_lt
  unfold encodeCode
  split
  · next h1 => simpa using decodeFrom_one position bs h1
  · next h1 =>
    split
    · next h2 => simpa using decodeFrom_two position bs (by omega) h2
    · next h2 =>
      split
      · next h3 =>
        simpa using decodeFrom_three position bs (by omega) h3 hn
      · next h3 => simpa using decodeFrom_four position bs (by omega) hlt

theorem decodeFrom_encode {t : Text} (h : ∀ c ∈ t, c.isSurrogate = false) (position : Nat) :
    decodeFrom position (encode t) = .ok t := by
  induction t generalizing position with
  | nil => simp [encode, decodeFrom]
  | cons c t ih =>
    have hc := decodeFrom_encodeCode (h c (by simp)) position (encode t)
    rw [ih (fun d hd => h d (by simp [hd]))] at hc
    rw [encode, List.flatMap_cons]
    exact hc

theorem decode_encode {t : Text} (h : ∀ c ∈ t, c.isSurrogate = false) :
    decode (encode t) = .ok t :=
  decodeFrom_encode h 0

/-! ### Octets read and written back -/

theorem octet_of_toNat {b : UInt8} {n : Nat} (h : b.toNat = n) : octet n = b := by
  rw [octet, ← h, UInt8.ofNat_toNat]

theorem octet_tail {b : UInt8} (h : 0x80 ≤ b.toNat) : octet (0x80 + (b.toNat - 0x80)) = b :=
  octet_of_toNat (by omega)

theorem continuation_eq_ok {n lo hi acc read v : Nat} {bs rest : Octets}
    (h : continuation (n + 1) lo hi acc read bs = .ok (v, rest)) :
    ∃ b bs', bs = b :: bs' ∧ lo ≤ b.toNat ∧ b.toNat ≤ hi ∧
      continuation n 0x80 0xbf (acc * 0x40 + (b.toNat - 0x80)) (read + 1) bs' = .ok (v, rest) := by
  cases bs with
  | nil => cases h
  | cons b bs =>
    rw [continuation] at h
    split at h
    · next hb => exact ⟨b, bs, rfl, hb.1, hb.2, h⟩
    · cases h

theorem encodeCode_two {x y : Nat} (hlo : 2 ≤ x) (hhi : x < 0x20) (hy : y < 0x40) :
    encodeCode (Code.ofNat (x * 0x40 + y)) = [octet (0xc0 + x), octet (0x80 + y)] := by
  have hval : (Code.ofNat (x * 0x40 + y)).val = x * 0x40 + y := Code.val_ofNat (by omega)
  have hx : (x * 0x40 + y) / 0x40 = x := by omega
  have hy : (x * 0x40 + y) % 0x40 = y := by omega
  rw [encodeCode, hval, if_neg (by omega), if_pos (by omega), hx, hy]

theorem encodeCode_three {x y z : Nat} (hx : x < 0x10) (hy : y < 0x40) (hz : z < 0x40)
    (hlo : 0x800 ≤ (x * 0x40 + y) * 0x40 + z) :
    encodeCode (Code.ofNat ((x * 0x40 + y) * 0x40 + z)) =
      [octet (0xe0 + x), octet (0x80 + y), octet (0x80 + z)] := by
  generalize hn : (x * 0x40 + y) * 0x40 + z = n at hlo ⊢
  have hval : (Code.ofNat n).val = n := Code.val_ofNat (by omega)
  have hx : n / 0x1000 = x := by omega
  have hy : n / 0x40 % 0x40 = y := by omega
  have hz : n % 0x40 = z := by omega
  rw [encodeCode, hval, if_neg (by omega), if_neg (by omega), if_pos (by omega), hx, hy, hz]

theorem encodeCode_four {x y z u : Nat} (hy : y < 0x40) (hz : z < 0x40) (hu : u < 0x40)
    (hlo : 0x10000 ≤ ((x * 0x40 + y) * 0x40 + z) * 0x40 + u)
    (hhi : ((x * 0x40 + y) * 0x40 + z) * 0x40 + u < 0x110000) :
    encodeCode (Code.ofNat (((x * 0x40 + y) * 0x40 + z) * 0x40 + u)) =
      [octet (0xf0 + x), octet (0x80 + y), octet (0x80 + z), octet (0x80 + u)] := by
  generalize hn : ((x * 0x40 + y) * 0x40 + z) * 0x40 + u = n at hlo hhi ⊢
  have hval : (Code.ofNat n).val = n := Code.val_ofNat hhi
  have hx : n / 0x40000 = x := by omega
  have hy : n / 0x1000 % 0x40 = y := by omega
  have hz : n / 0x40 % 0x40 = z := by omega
  have hu : n % 0x40 = u := by omega
  rw [encodeCode, hval, if_neg (by omega), if_neg (by omega), if_neg (by omega), hx, hy, hz, hu]

theorem isSurrogate_ofNat {n : Nat} (hn : n < 0x110000) (h : ¬ (0xd800 ≤ n ∧ n ≤ 0xdfff)) :
    (Code.ofNat n).isSurrogate = false := by
  rw [Code.isSurrogate, Code.val_ofNat hn]
  simpa [Decidable.imp_iff_not_or] using h

/-- What the lead of a sequence asks for: how many octets, and numbers that need as many. -/
theorem lead_eq_some {b n lo hi acc : Nat} (h : lead b = some (n, lo, hi, acc)) :
    (n = 0 ∧ b < 0x80 ∧ acc = b) ∨
    (n = 1 ∧ lo = 0x80 ∧ hi = 0xbf ∧ b = 0xc0 + acc ∧ 2 ≤ acc ∧ acc < 0x20) ∨
    (n = 2 ∧ 0x80 ≤ lo ∧ hi ≤ 0xbf ∧ b = 0xe0 + acc ∧ acc < 0x10 ∧
      (acc = 0 → 0xa0 ≤ lo) ∧ (acc = 0xd → hi ≤ 0x9f)) ∨
    (n = 3 ∧ 0x80 ≤ lo ∧ hi ≤ 0xbf ∧ b = 0xf0 + acc ∧ acc < 5 ∧
      (acc = 0 → 0x90 ≤ lo) ∧ (acc = 4 → hi ≤ 0x8f)) := by
  unfold lead at h
  repeat' split at h
  all_goals
    simp only [Option.some.injEq, Prod.mk.injEq, reduceCtorEq] at h
    try omega

theorem continuation_eq_ok_zero {lo hi acc read v : Nat} {bs rest : Octets}
    (h : continuation 0 lo hi acc read bs = .ok (v, rest)) : v = acc ∧ rest = bs := by
  rw [continuation] at h
  exact ⟨(congrArg Prod.fst (Except.ok.inj h)).symm, (congrArg Prod.snd (Except.ok.inj h)).symm⟩

/-- What a sequence is read as is written as the same sequence. -/
theorem encodeCode_of_lead {b : UInt8} {n lo hi acc v : Nat} {bs rest : Octets}
    (hl : lead b.toNat = some (n, lo, hi, acc))
    (hc : continuation n lo hi acc 1 bs = .ok (v, rest)) :
    (Code.ofNat v).isSurrogate = false ∧ encodeCode (Code.ofNat v) ++ rest = b :: bs := by
  obtain ⟨rfl, hb, rfl⟩ | ⟨rfl, rfl, rfl, hb, hlo, hhi⟩ | ⟨rfl, hlo, hhi, hb, hacc, h0, hd⟩ |
    ⟨rfl, hlo, hhi, hb, hacc, h0, h4⟩ := lead_eq_some hl
  · obtain ⟨rfl, rfl⟩ := continuation_eq_ok_zero hc
    have hval : (Code.ofNat b.toNat).val = b.toNat := Code.val_ofNat (by omega)
    refine ⟨isSurrogate_ofNat (by omega) (by omega), ?_⟩
    rw [encodeCode, hval, if_pos hb, octet_of_toNat rfl]
    rfl
  · obtain ⟨b₁, bs, rfl, hlo₁, hhi₁, hc⟩ := continuation_eq_ok hc
    obtain ⟨hv, hrest⟩ := continuation_eq_ok_zero hc
    rw [hv, hrest]
    refine ⟨isSurrogate_ofNat (by omega) (by omega), ?_⟩
    rw [encodeCode_two hlo hhi (by omega), octet_of_toNat hb, octet_tail hlo₁]
    rfl
  · obtain ⟨b₁, bs, rfl, hlo₁, hhi₁, hc⟩ := continuation_eq_ok hc
    obtain ⟨b₂, bs, rfl, hlo₂, hhi₂, hc⟩ := continuation_eq_ok hc
    obtain ⟨hv, hrest⟩ := continuation_eq_ok_zero hc
    rw [hv, hrest]
    refine ⟨isSurrogate_ofNat (by omega) (by omega), ?_⟩
    rw [encodeCode_three hacc (by omega) (by omega) (by omega), octet_of_toNat hb,
      octet_tail (Nat.le_trans hlo hlo₁), octet_tail hlo₂]
    rfl
  · obtain ⟨b₁, bs, rfl, hlo₁, hhi₁, hc⟩ := continuation_eq_ok hc
    obtain ⟨b₂, bs, rfl, hlo₂, hhi₂, hc⟩ := continuation_eq_ok hc
    obtain ⟨b₃, bs, rfl, hlo₃, hhi₃, hc⟩ := continuation_eq_ok hc
    obtain ⟨hv, hrest⟩ := continuation_eq_ok_zero hc
    rw [hv, hrest]
    refine ⟨isSurrogate_ofNat (by omega) (by omega), ?_⟩
    rw [encodeCode_four (by omega) (by omega) (by omega) (by omega) (by omega),
      octet_of_toNat hb, octet_tail (Nat.le_trans hlo hlo₁), octet_tail hlo₂, octet_tail hlo₃]
    rfl

theorem encode_decodeFrom {position : Nat} {bs : Octets} {t : Text}
    (h : decodeFrom position bs = .ok t) :
    (∀ c ∈ t, c.isSurrogate = false) ∧ encode t = bs := by
  fun_induction decodeFrom position bs generalizing t with
  | case1 =>
    cases h
    exact ⟨by simp, rfl⟩
  | case2 => cases h
  | case3 => cases h
  | case4 position b bs n lo hi acc hl v rest hc _ ih =>
    cases hrest : decodeFrom (position + n + 1) rest with
    | error e =>
      rw [hrest] at h
      cases h
    | ok t' =>
      rw [hrest] at h
      obtain rfl : Code.ofNat v :: t' = t := Except.ok.inj h
      obtain ⟨hplain, hencode⟩ := ih hrest
      obtain ⟨hcode, hoctets⟩ := encodeCode_of_lead hl hc
      refine ⟨List.forall_mem_cons.mpr ⟨hcode, hplain⟩, ?_⟩
      rw [encode, List.flatMap_cons, ← encode, hencode, hoctets]

theorem encode_decode {bs : Octets} {t : Text} (h : decode bs = .ok t) :
    (∀ c ∈ t, c.isSurrogate = false) ∧ encode t = bs :=
  encode_decodeFrom h

/-- An octet for ASCII stands for the code point of its number, and for no other. -/
theorem mem_encodeCode_iff {b : UInt8} {c : Code} (hb : b.toNat < 0x80) :
    b ∈ encodeCode c ↔ b.toNat = c.val := by
  have hlt := c.val_lt
  have hoctet {n : Nat} (hn : n < 0x100) : b = octet n ↔ b.toNat = n := by
    rw [← UInt8.toNat_inj, octet_toNat hn]
  have htail {n : Nat} : b ≠ octet (0x80 + n % 0x40) := by
    rw [Ne, hoctet (by omega)]
    omega
  unfold encodeCode
  split
  · next h1 => rw [List.mem_singleton, hoctet (by omega)]
  · next h1 =>
    have hne : b.toNat ≠ c.val := by omega
    split
    · next h2 =>
      have hlead : b ≠ octet (0xc0 + c.val / 0x40) := by
        rw [Ne, hoctet (by omega)]
        omega
      simp [hlead, htail, hne]
    · next h2 =>
      split
      · next h3 =>
        have hlead : b ≠ octet (0xe0 + c.val / 0x1000) := by
          rw [Ne, hoctet (by omega)]
          omega
        simp [hlead, htail, hne]
      · next h3 =>
        have hlead : b ≠ octet (0xf0 + c.val / 0x40000) := by
          rw [Ne, hoctet (by omega)]
          omega
        simp [hlead, htail, hne]

/-- An octet for ASCII is in an encoded text just if the text has its code point. -/
theorem mem_encode_iff {b : UInt8} {t : Text} (hb : b.toNat < 0x80) :
    b ∈ encode t ↔ ∃ c ∈ t, b.toNat = c.val := by
  simp only [encode, List.mem_flatMap, mem_encodeCode_iff hb]

end WebLint.Utf8
