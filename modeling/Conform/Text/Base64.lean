/-!
# Base 64

Four characters of an alphabet of 64 stand for three octets. Characters outside the alphabet are
passed over. An equals sign fills up the last group, and what follows a group that has been
filled up is not read; a group that is neither complete nor filled up is refused.
-/

namespace Conform.Text

/-- The six bits of a character. -/
def sixBits? (c : Char) : Option Nat :=
  if 'A' ≤ c ∧ c ≤ 'Z' then some (c.toNat - 65)
  else if 'a' ≤ c ∧ c ≤ 'z' then some (c.toNat - 71)
  else if '0' ≤ c ∧ c ≤ '9' then some (c.toNat + 4)
  else if c = '+' then some 62
  else if c = '/' then some 63
  else none

/-- The octets of the rest of a text. `place` characters of a group have been read, `bits` are
those of the last of them that no octet has used yet, and `filled` signs have been seen since. -/
def octetsFrom (place bits filled : Nat) : List Char → Option (List UInt8)
  | [] => if place = 0 then some [] else none
  | c :: cs =>
    if c = '=' then
      if place < 2 then octetsFrom place bits filled cs
      else if 4 ≤ place + filled + 1 then some []
      else octetsFrom place bits (filled + 1) cs
    else
      match sixBits? c with
      | none => octetsFrom place bits filled cs
      | some b =>
        match place with
        | 0 => octetsFrom 1 b 0 cs
        | 1 => (octetsFrom 2 (b % 16) 0 cs).map ((bits * 4 + b / 16).toUInt8 :: ·)
        | 2 => (octetsFrom 3 (b % 4) 0 cs).map ((bits * 16 + b / 4).toUInt8 :: ·)
        | _ => (octetsFrom 0 0 0 cs).map ((bits * 64 + b).toUInt8 :: ·)

/-- **The octets that a text in base 64 spells.** -/
def octetsOfBase64? (cs : List Char) : Option (List UInt8) := octetsFrom 0 0 0 cs

end Conform.Text
