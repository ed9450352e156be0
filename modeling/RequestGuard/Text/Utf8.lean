/-!
# UTF-8

Characters as bytes.  `decode` reads as many characters as it can; at the first
bytes that start no character it says where they are and how many of them could
not go on, or that the text ends within a character.
-/

namespace RequestGuard
namespace Text
namespace Utf8

/-- Why bytes are no text. -/
inductive Fault where
  /-- The bytes at `start` start no character; `count` of them are at fault. -/
  | invalid (count start : Nat)
  /-- The bytes end within the character at `start`. -/
  | incomplete (start : Nat)
  deriving DecidableEq, Repr

/-- What is wrong with the bytes, in words. -/
def Fault.message : Fault → String
  | .invalid count start =>
    s!"invalid utf-8 sequence of {count} bytes from index {start}"
  | .incomplete start => s!"incomplete utf-8 byte sequence from index {start}"

section Encode

/-- The bytes of a character. -/
def encodeChar (c : Char) : List UInt8 :=
  let n := c.toNat
  if n < 0x80 then [UInt8.ofNat n]
  else if n < 0x800 then [UInt8.ofNat (0xC0 + n / 64), UInt8.ofNat (0x80 + n % 64)]
  else if n < 0x10000 then
    [UInt8.ofNat (0xE0 + n / 4096), UInt8.ofNat (0x80 + n / 64 % 64),
      UInt8.ofNat (0x80 + n % 64)]
  else
    [UInt8.ofNat (0xF0 + n / 262144), UInt8.ofNat (0x80 + n / 4096 % 64),
      UInt8.ofNat (0x80 + n / 64 % 64), UInt8.ofNat (0x80 + n % 64)]

/-- The bytes of a text. -/
def encode (cs : List Char) : List UInt8 :=
  cs.flatMap encodeChar

/-- The bytes of a text. -/
def bytes (s : String) : List UInt8 :=
  encode s.toList

end Encode

section Decode

/-- A byte that goes on a character. -/
def isTail (b : UInt8) : Bool :=
  0x80 ≤ b && b ≤ 0xBF

/-- A second byte that may follow this first byte of a character of three bytes. -/
def secondOfThree (first second : UInt8) : Bool :=
  if first == 0xE0 then 0xA0 ≤ second && second ≤ 0xBF
  else if first == 0xED then 0x80 ≤ second && second ≤ 0x9F
  else isTail second

/-- A second byte that may follow this first byte of a character of four bytes. -/
def secondOfFour (first second : UInt8) : Bool :=
  if first == 0xF0 then 0x90 ≤ second && second ≤ 0xBF
  else if first == 0xF4 then 0x80 ≤ second && second ≤ 0x8F
  else isTail second

/-- The character of a first byte's low bits and the bytes after it. -/
def charOf (high : Nat) (tail : List UInt8) : Char :=
  Char.ofNat (tail.foldl (fun n b => 64 * n + (b.toNat - 0x80)) high)

/-- The first character, the number of its bytes and the bytes after it. -/
def next (start : Nat) : List UInt8 → Except Fault (Char × Nat × List UInt8)
  | [] => .error (.incomplete start)
  | b :: rest =>
    if b < 0x80 then .ok (Char.ofNat b.toNat, 1, rest)
    else if 0xC2 ≤ b ∧ b ≤ 0xDF then
      match rest with
      | [] => .error (.incomplete start)
      | c :: rest =>
        if isTail c then .ok (charOf (b.toNat - 0xC0) [c], 2, rest)
        else .error (.invalid 1 start)
    else if 0xE0 ≤ b ∧ b ≤ 0xEF then
      match rest with
      | [] => .error (.incomplete start)
      | c :: rest =>
        if !secondOfThree b c then .error (.invalid 1 start)
        else
          match rest with
          | [] => .error (.incomplete start)
          | d :: rest =>
            if isTail d then .ok (charOf (b.toNat - 0xE0) [c, d], 3, rest)
            else .error (.invalid 2 start)
    else if 0xF0 ≤ b ∧ b ≤ 0xF4 then
      match rest with
      | [] => .error (.incomplete start)
      | c :: rest =>
        if !secondOfFour b c then .error (.invalid 1 start)
        else
          match rest with
          | [] => .error (.incomplete start)
          | d :: rest =>
            if !isTail d then .error (.invalid 2 start)
            else
              match rest with
              | [] => .error (.incomplete start)
              | e :: rest =>
                if isTail e then .ok (charOf (b.toNat - 0xF0) [c, d, e], 4, rest)
                else .error (.invalid 3 start)
    else .error (.invalid 1 start)

/-- A character takes at least one byte. -/
theorem length_next {start n : Nat} {bs rest : List UInt8} {c : Char}
    (h : next start bs = .ok (c, n, rest)) : rest.length < bs.length := by
  unfold next at h
  repeat' split at h
  all_goals first
    | (simp only [reduceCtorEq] at h)
    | (simp only [Except.ok.injEq, Prod.mk.injEq] at h
       obtain ⟨_, _, rfl⟩ := h
       simp only [List.length_cons]
       omega)

/-- The characters of bytes that start at a position. -/
def decodeFrom (start : Nat) (bs : List UInt8) : Except Fault (List Char) :=
  if bs.isEmpty then .ok []
  else
    match _h : next start bs with
    | .error fault => .error fault
    | .ok (c, n, rest) =>
      match decodeFrom (start + n) rest with
      | .error fault => .error fault
      | .ok cs => .ok (c :: cs)
termination_by bs.length
decreasing_by exact length_next _h

/-- The characters of a text written in bytes. -/
def decode (bs : List UInt8) : Except Fault (List Char) :=
  decodeFrom 0 bs

end Decode

end Utf8
end Text
end RequestGuard
