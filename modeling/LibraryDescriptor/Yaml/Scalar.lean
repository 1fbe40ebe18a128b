import LibraryDescriptor.Number.Spelled
import LibraryDescriptor.Yaml.Binary
import LibraryDescriptor.Yaml.Tag

/-!
# YAML scalars

* `Scalar` — what a scalar says.
* `Scalar.read` — what a text says under a tag.
* `Scalar.same` — whether two scalars are the same key.

A scalar with a tag of its own need not be spelled like one that is recognised without: under the
tag of a number, everything counts that spells a number as free text.
-/

namespace LibraryDescriptor

namespace Yaml

inductive Scalar where
  | null
  | boolean (value : Bool)
  | integer (value : Int)
  | real (value : Binary64)
  | timestamp (value : Timestamp)
  | binary (bytes : List UInt8)
  | text (value : Text)
  deriving DecidableEq

namespace Scalar

/-! ## Numbers -/

def withoutUnderscores (t : Text) : Text := t.filter fun p => !p.is '_'

/-- The value of an integer without its sign: binary after `0b`, hexadecimal after `0x`, octal after
another zero, and else decimal, where a colon separates sixtieths. -/
def magnitude? (t : Text) : Option Int :=
  match t with
  | .scalar '0' :: .scalar 'b' :: digits => Spelled.integer? 2 digits
  | .scalar '0' :: .scalar 'x' :: digits => Spelled.integer? 16 digits
  | .scalar '0' :: _ => Spelled.integer? 8 t
  | _ => do
    let parts ← (t.split ':').mapM (Spelled.integer? 10)
    return parts.foldl (fun n part => 60 * n + part) 0

def readInteger (t : Text) : Except YamlError Int :=
  let (negative, rest) := Spelled.signed (withoutUnderscores t)
  if rest.isEmpty then .error (.unfit .emptyNumber)
  else
    match magnitude? rest with
    | some n => .ok (if negative then -n else n)
    | none => .error (.unfit .notNumber)

/-- The greatest number of parts between colons that a real number can hold. -/
def maxParts : Nat := 174

/-- The sum of parts, the least first, each of which counts sixty times as much as the one
before. -/
def sumOfSixtieths (parts : List Binary64) : Binary64 :=
  let weights := (List.range parts.length).map fun k => Binary64.ofRatio (Nat.pow 60 k) 1
  let weighted := parts.zipWith (fun x w => Float.ofBits x.bits * Float.ofBits w.bits) weights
  ⟨(weighted.foldl (· + ·) 0).toBits⟩

def readMagnitude (t : Text) : Except YamlError Binary64 :=
  if t = Text.ofString ".inf" then .ok .infinity
  else if t = Text.ofString ".nan" then .ok .notNumber
  else
    match (t.split ':').mapM Spelled.real? with
    | none => .error (.unfit .notNumber)
    | some [x] => .ok x
    | some parts =>
      if maxParts < parts.length then .error (.unfit .hugeNumber)
      else .ok (sumOfSixtieths parts.reverse)

/-- A text in lower case, as far as the letters of numbers go. -/
def lowerCase (t : Text) : Text :=
  t.map fun
    | .scalar c => .scalar c.toLower
    | p => p

def readReal (t : Text) : Except YamlError Binary64 := do
  let spelling := lowerCase (withoutUnderscores t)
  if spelling.isEmpty then throw (.unfit .emptyNumber)
  let (negative, rest) := Spelled.signed spelling
  let x ← readMagnitude rest
  return if negative then x.negate else x

/-! ## Other scalars -/

def readBoolean (t : Text) : Except YamlError Bool :=
  match booleanSpellings.find? fun (word, _) => Text.ofString word = lowerCase t with
  | some (_, value) => .ok value
  | none => .error (.unfit .notBoolean)

/-- The timestamp that a text spells; one line end after it does not count. -/
def readTimestamp (t : Text) : Except YamlError Timestamp :=
  match t.toString?.bind fun s => Timestamp.ofSpelling? (withoutBreak s.toList) with
  | none => .error (.unfit .notTimestamp)
  | some found => if found.isActual then .ok found else .error (.unfit .noSuchDate)

def readBinary (t : Text) : Except YamlError (List UInt8) :=
  match t.toString?.bind fun s => Binary.bytes? s.toList with
  | none => .error .malformed
  | some bytes => .ok bytes

/-- What a text says under a tag. Only a scalar can say it. -/
def read (tag : Tag) (t : Text) : Except YamlError Scalar :=
  match tag with
  | .text => .ok (.text t)
  | .null => .ok .null
  | .boolean => .boolean <$> readBoolean t
  | .integer => .integer <$> readInteger t
  | .real => .real <$> readReal t
  | .timestamp => .timestamp <$> readTimestamp t
  | .binary => .binary <$> readBinary t
  | .merge | .default | .sequence | .mapping | .set | .orderedMapping | .pairs | .unknown =>
    .error .malformed

/-! ## Keys -/

/-- A number as significand and power of two; only finite numbers have one. -/
def dyadic? : Scalar → Option (Int × Int)
  | .boolean value => some (if value then 1 else 0, 0)
  | .integer n => some (n, 0)
  | .real x =>
    match x.view with
    | .finite negative significand exponent =>
      some (if negative then -(significand : Int) else significand, exponent)
    | .infinite _ | .notNumber => none
  | _ => none

/-- Whether two scalars are the same key. Numbers are compared by their value, whatever their kind,
and the two booleans count as one and zero. -/
def same (a b : Scalar) : Bool :=
  match a.dyadic?, b.dyadic? with
  | some (m, i), some (n, j) =>
    m * Nat.pow 2 (i - j).toNat == n * Nat.pow 2 (j - i).toNat
  | none, none =>
    match a, b with
    | .timestamp s, .timestamp t => s.same t
    | a, b => a = b
  | _, _ => false

end Scalar

end Yaml

end LibraryDescriptor
