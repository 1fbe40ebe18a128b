import LibraryDescriptor.Syntax.Outline
import LibraryDescriptor.Text.Quoted

/-!
# Descriptions

Errors describe the tree they are about by the text of its outline. How an outline is written is not
for the compiler to say: it is left to a serializer, which may also refuse an outline. So the checks
that make such errors, and all that runs them, are given a serializer.

* `Serializer` — what writes outlines.
* `Serializer.indented` — the serializer that the command runs with.
-/

namespace LibraryDescriptor

/-- What writes outlines. It gives no text for an outline that it refuses. -/
class Serializer where
  describe? : Outline → Option Text

/-! ## Indented text -/

namespace Outline

/-- Positional from a hundred-thousandth up to sixteen places, exponents with a sign and as many
digits as they need. -/
def numberStyle : DecimalStyle := ⟨-5, 16, 1⟩

/-- One code point of a quoted text; `none` for a surrogate, which has no encoding. -/
def describePoint? : CodePoint → Option Text
  | .scalar '"' => some "\\\""
  | .scalar '\\' => some "\\\\"
  | .scalar '\n' => some "\\n"
  | .scalar '\r' => some "\\r"
  | .scalar '\t' => some "\\t"
  | .scalar '\x08' => some "\\b"
  | .scalar '\x0c' => some "\\f"
  | .scalar c =>
    some (if c.toNat < 0x20 then Text.ofString "\\u" ++ Text.hexDigits 4 c.toNat
      else [.scalar c])
  | .surrogate _ => none

def describeText? (t : Text) : Option Text :=
  (t.mapM describePoint?).map fun parts => .scalar '"' :: parts.flatten ++ [.scalar '"']

/-- A number; those that are not finite are written as `null`. -/
def describeNumber : Number → Text
  | .integer n => .ofInt n
  | .real x =>
    match x.view with
    | .finite negative significand exponent => numberStyle.write negative significand exponent
    | _ => "null"

def describeLiteral? : Literal → Option Text
  | .string value => describeText? value
  | .number value => some (describeNumber value)
  | .boolean true => some "true"
  | .boolean false => some "false"
  | .null => some "null"

/-- A line break followed by the indentation of a level: two spaces each. -/
def lineBreak (level : Nat) : Text := .scalar '\n' :: List.replicate (2 * level) (.scalar ' ')

def enclose (opening closing : Char) (level : Nat) : List Text → Text
  | [] => [.scalar opening, .scalar closing]
  | item :: items =>
    .scalar opening :: lineBreak (level + 1) ++ item ++
      items.flatMap (fun item => .scalar ',' :: lineBreak (level + 1) ++ item) ++
      lineBreak level ++ [.scalar closing]

def describeField (name : String) (value : Text) : Text :=
  .join ["\"", name, "\": ", value]

mutual

def describeAt? : Outline → Nat → Option Text
  | .null, _ => some "null"
  | .flag true, _ => some "true"
  | .flag false, _ => some "false"
  | .text value, _ => describeText? value
  | .literal value, _ => describeLiteral? value
  | .list items, level => (describeItems? items (level + 1)).map (enclose '[' ']' level)
  | .node kind fields, level => do
    let kindText ← describeText? kind
    let items ← describeFields? fields (level + 1)
    some (enclose '{' '}' level (describeField "kind" kindText :: items))

def describeItems? : List Outline → Nat → Option (List Text)
  | [], _ => some []
  | o :: os, level => do
    let item ← o.describeAt? level
    let items ← describeItems? os level
    some (item :: items)

def describeFields? : List (String × Outline) → Nat → Option (List Text)
  | [], _ => some []
  | (name, o) :: fields, level => do
    let item ← o.describeAt? level
    let items ← describeFields? fields level
    some (describeField name item :: items)

end

end Outline

-- An instance, so that a command can be run; where another serializer is given, that one counts.
/-- Two spaces for each level. An outline with a surrogate in it is refused. -/
instance Serializer.indented : Serializer := ⟨fun o => o.describeAt? 0⟩

end LibraryDescriptor
