import WebLint.Text

namespace WebLint

abbrev Octets := List UInt8

inductive Malformation
  | startByte
  | continuationByte
  | truncated
deriving DecidableEq

/-- The first octet that cannot be decoded and, if the sequence broke off after several octets,
how many of them were read. -/
structure Malformed where
  reason : Malformation
  first : UInt8
  position : Nat
  count : Nat
deriving DecidableEq

namespace Utf8

def octet (n : Nat) : UInt8 :=
  UInt8.ofNat n

def encodeCode (c : Code) : Octets :=
  if c.val < 0x80 then [octet c.val]
  else if c.val < 0x800 then [octet (0xc0 + c.val / 0x40), octet (0x80 + c.val % 0x40)]
  else if c.val < 0x10000 then
    [octet (0xe0 + c.val / 0x1000), octet (0x80 + c.val / 0x40 % 0x40), octet (0x80 + c.val % 0x40)]
  else
    [octet (0xf0 + c.val / 0x40000), octet (0x80 + c.val / 0x1000 % 0x40),
      octet (0x80 + c.val / 0x40 % 0x40), octet (0x80 + c.val % 0x40)]

def encode (t : Text) : Octets :=
  t.flatMap encodeCode

/-- What a first octet asks for: how many octets follow, which values the next may take, and the
bits that it contributes itself. -/
def lead (b : Nat) : Option (Nat × Nat × Nat × Nat) :=
  if b < 0x80 then some (0, 0, 0, b)
  else if 0xc2 ≤ b ∧ b ≤ 0xdf then some (1, 0x80, 0xbf, b - 0xc0)
  else if b = 0xe0 then some (2, 0xa0, 0xbf, 0)
  else if b = 0xed then some (2, 0x80, 0x9f, 0xd)
  else if 0xe1 ≤ b ∧ b ≤ 0xef then some (2, 0x80, 0xbf, b - 0xe0)
  else if b = 0xf0 then some (3, 0x90, 0xbf, 0)
  else if 0xf1 ≤ b ∧ b ≤ 0xf3 then some (3, 0x80, 0xbf, b - 0xf0)
  else if b = 0xf4 then some (3, 0x80, 0x8f, 4)
  else none

def continuation : (n lo hi acc read : Nat) → Octets → Except (Malformation × Nat) (Nat × Octets)
  | 0, _, _, acc, _, bs => .ok (acc, bs)
  | _ + 1, _, _, _, read, [] => .error (.truncated, read)
  | n + 1, lo, hi, acc, read, b :: bs =>
    if lo ≤ b.toNat ∧ b.toNat ≤ hi then
      continuation n 0x80 0xbf (acc * 0x40 + (b.toNat - 0x80)) (read + 1) bs
    else .error (.continuationByte, read)

theorem continuation_length {n lo hi acc read : Nat} {bs rest : Octets} {v : Nat}
    (h : continuation n lo hi acc read bs = .ok (v, rest)) : rest.length ≤ bs.length := by
  induction n generalizing lo hi acc read bs with
  | zero => simp [continuation] at h; simp [h.2]
  | succ n ih =>
    cases bs with
    | nil => simp [continuation] at h
    | cons b bs =>
      simp only [continuation] at h
      split at h
      · exact Nat.le_succ_of_le (ih h)
      · simp at h

def decodeFrom (position : Nat) : Octets → Except Malformed Text
  | [] => .ok []
  | b :: bs =>
    match lead b.toNat with
    | none => .error ⟨.startByte, b, position, 1⟩
    | some (n, lo, hi, acc) =>
      match h : continuation n lo hi acc 1 bs with
      | .error (why, read) => .error ⟨why, b, position, read⟩
      | .ok (v, rest) =>
        have := continuation_length h
        (decodeFrom (position + n + 1) rest).map (Code.ofNat v :: ·)
  termination_by bs => bs.length
  decreasing_by simp; omega

def decode (bs : Octets) : Except Malformed Text :=
  decodeFrom 0 bs

end Utf8

end WebLint
