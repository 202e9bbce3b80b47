import ParameterExpansion.Text

/-!
# UTF-8

Reading octets as UTF-8. The reader is a small machine: inside a character it knows the octets still
owed and the least and the greatest value of the next one, which keeps out overlong forms,
surrogates and code points beyond the last plane. A failure names the octets of the character that
cannot be read, from its first octet to the last one that fitted.
-/

namespace ParameterExpansion.Text.Utf8

/-- Why octets are no UTF-8. -/
inductive Reason where
  /-- An octet starts no character. -/
  | invalidStart
  /-- An octet inside a character cannot follow the ones before it. -/
  | invalidContinuation
  /-- The octets end inside a character. -/
  | unexpectedEnd
  deriving DecidableEq

/-- The wording of a reason. -/
def Reason.message : Reason → Text
  | .invalidStart => "invalid start byte".toList
  | .invalidContinuation => "invalid continuation byte".toList
  | .unexpectedEnd => "unexpected end of data".toList

/-- Octets that are no UTF-8: those of the character that cannot be read, where they start, and why. -/
structure Failure where
  /-- The offset of the first octet. -/
  start : Nat
  /-- The first octet. -/
  octet : UInt8
  /-- How many octets belong to it. -/
  count : Nat
  /-- Why they cannot be read. -/
  reason : Reason
  deriving DecidableEq

/-- The text of a failure. -/
def Failure.message (f : Failure) : Text :=
  "'utf-8' codec can't decode byte".toList ++
    (if f.count = 1 then
      " 0x".toList ++ hexadecimal 2 f.octet.toNat ++ " in position ".toList ++ ofNat f.start
    else
      "s in position ".toList ++ ofNat f.start ++ ['-'] ++ ofNat (f.start + f.count - 1)) ++
    ": ".toList ++ f.reason.message

/-- A character of which some octets have been read. -/
structure Pending where
  /-- The first octet. -/
  octet : UInt8
  /-- How many octets have been read. -/
  count : Nat
  /-- The value of the bits read so far. -/
  bits : Nat
  /-- How many octets are still owed, less one. -/
  owed : Nat
  /-- The least value of the next octet. -/
  least : Nat
  /-- The greatest value of the next octet. -/
  greatest : Nat

/-- What the first octet of a character starts: a character of one octet, the beginning of a longer
one, or nothing. -/
def start (octet : UInt8) : Option (Char ⊕ Pending) :=
  let b := octet.toNat
  if b < 0x80 then some (.inl (Char.ofNat b))
  else if b < 0xC2 then none
  else if b < 0xE0 then some (.inr ⟨octet, 1, b - 0xC0, 0, 0x80, 0xBF⟩)
  else if b < 0xF0 then
    some (.inr ⟨octet, 1, b - 0xE0, 1, if b = 0xE0 then 0xA0 else 0x80,
      if b = 0xED then 0x9F else 0xBF⟩)
  else if b < 0xF5 then
    some (.inr ⟨octet, 1, b - 0xF0, 2, if b = 0xF0 then 0x90 else 0x80,
      if b = 0xF4 then 0x8F else 0xBF⟩)
  else none

/-- The failure of a character that cannot be read on, at offset `position` behind its octets. -/
def Pending.fail (p : Pending) (position : Nat) (reason : Reason) : Failure :=
  ⟨position - p.count, p.octet, p.count, reason⟩

/-- Reads on at offset `position`, inside the character `pending` or between two characters. -/
def decodeFrom (position : Nat) : Option Pending → List UInt8 → Except Failure Text
  | none, [] => .ok []
  | some p, [] => .error (p.fail position .unexpectedEnd)
  | none, octet :: rest =>
    match start octet with
    | none => .error ⟨position, octet, 1, .invalidStart⟩
    | some (.inl c) => (decodeFrom (position + 1) none rest).map (c :: ·)
    | some (.inr p) => decodeFrom (position + 1) (some p) rest
  | some p, octet :: rest =>
    let b := octet.toNat
    if b < p.least || p.greatest < b then .error (p.fail position .invalidContinuation)
    else match p.owed with
      | 0 => (decodeFrom (position + 1) none rest).map (Char.ofNat (p.bits * 64 + (b - 0x80)) :: ·)
      | owed + 1 =>
        decodeFrom (position + 1)
          (some ⟨p.octet, p.count + 1, p.bits * 64 + (b - 0x80), owed, 0x80, 0xBF⟩) rest

/-- `decode octets` is the text that the octets write, or what keeps them from being UTF-8. -/
def decode (octets : List UInt8) : Except Failure Text := decodeFrom 0 none octets

end ParameterExpansion.Text.Utf8
