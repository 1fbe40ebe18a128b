import LibraryDescriptor.Text.Basic
import LibraryDescriptor.Text.Printable

/-!
# Text quoted in a message

A message quotes a text so that it stands on one line: between single quotes, or between double
quotes when it holds a single quote and no double one; a backslash, the quote itself and every
character that is not printable is escaped.
-/

namespace LibraryDescriptor

namespace Text

def hexDigits (width n : Nat) : Text :=
  let digits := Nat.toDigits 16 n
  (List.replicate (width - digits.length) '0' ++ digits).map .scalar

/-- The shortest of the escapes with two, four and eight digits that can hold `n`. -/
def numericEscape (n : Nat) : Text :=
  if n < 0x100 then ofString "\\x" ++ hexDigits 2 n
  else if n < 0x10000 then ofString "\\u" ++ hexDigits 4 n
  else ofString "\\U" ++ hexDigits 8 n

def quotedPoint (quote : Char) : CodePoint → Text
  | .scalar '\\' => "\\\\"
  | .scalar '\n' => "\\n"
  | .scalar '\r' => "\\r"
  | .scalar '\t' => "\\t"
  | .scalar c =>
    if c = quote then [.scalar '\\', .scalar quote]
    else if isPrintable c then [.scalar c]
    else numericEscape c.toNat
  | .surrogate offset => numericEscape (0xD800 + offset.val)

def quoted (t : Text) : Text :=
  let quote := if t.any (·.is '\'') && !t.any (·.is '"') then '"' else '\''
  .scalar quote :: t.flatMap (quotedPoint quote) ++ [.scalar quote]

end Text

end LibraryDescriptor
