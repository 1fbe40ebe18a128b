/-!
# Blanks

The characters that separate tokens: those of Unicode with the property White_Space or one of the
bidirectional classes WS, B and S, which adds the four information separators.
-/

namespace LibraryDescriptor

def isBlank (c : Char) : Bool :=
  let n := c.toNat
  (9 ≤ n && n ≤ 13) || (0x1C ≤ n && n ≤ 0x20) || n == 0x85 || n == 0xA0 || n == 0x1680 ||
    (0x2000 ≤ n && n ≤ 0x200A) || n == 0x2028 || n == 0x2029 || n == 0x202F || n == 0x205F ||
    n == 0x3000

/-- Whether a character is an ASCII blank: a space, tab, line feed, vertical tab, form feed or
carriage return. -/
def isAsciiBlank (c : Char) : Bool :=
  (9 ≤ c.toNat && c.toNat ≤ 13) || c == ' '

end LibraryDescriptor
