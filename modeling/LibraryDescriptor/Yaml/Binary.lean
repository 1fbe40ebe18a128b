/-!
# Binary scalars

A binary scalar spells bytes in base 64: each character of the alphabet stands for six bits, and
four characters for three bytes. Characters outside the alphabet, such as line ends, count for
nothing. Equals signs fill the last group of four up; what follows a full group of this kind is not
read.
-/

namespace LibraryDescriptor

namespace Yaml

namespace Binary

def sextet? (c : Char) : Option Nat :=
  if 'A' ≤ c ∧ c ≤ 'Z' then some (c.toNat - 65)
  else if 'a' ≤ c ∧ c ≤ 'z' then some (c.toNat - 71)
  else if '0' ≤ c ∧ c ≤ '9' then some (c.toNat + 4)
  else if c = '+' then some 62
  else if c = '/' then some 63
  else none

/-- The byte that a sextet completes, given its position in the group and the bits left over. -/
def byteAt (position left sextet : Nat) : UInt8 :=
  UInt8.ofNat (left * Nat.pow 4 position + sextet / Nat.pow 4 (3 - position))

/-- The bytes of the rest of a scalar. The group so far has `position` characters and `pads` equals
signs, and `left` holds the bits that are in no byte yet. A group that is not filled up has no
bytes. -/
def bytesFrom? (position left pads : Nat) : List Char → Option (List UInt8)
  | [] => if position = 0 then some [] else none
  | c :: rest =>
    match c == '=', sextet? c with
    | true, _ =>
      if position < 2 then bytesFrom? position left pads rest
      else if position + pads < 3 then bytesFrom? position left (pads + 1) rest
      else some []
    | false, none => bytesFrom? position left pads rest
    | false, some sextet =>
      let remainder := sextet % Nat.pow 4 (3 - position)
      if position = 0 then bytesFrom? 1 remainder 0 rest
      else do
        let bytes ← bytesFrom? ((position + 1) % 4) remainder 0 rest
        return byteAt position left sextet :: bytes

/-- The bytes that a scalar spells. Only plain characters can be in one. -/
def bytes? (spelling : List Char) : Option (List UInt8) :=
  if spelling.all (·.toNat < 0x80) then bytesFrom? 0 0 0 spelling else none

end Binary

end Yaml

end LibraryDescriptor
