import LibraryDescriptor.Yaml.Timestamp

/-!
# YAML tags

* `Tag` — what a node stands for.
* `Tag.ofSpelling` — the tag of a scalar that has none and no quotes either.
-/

namespace LibraryDescriptor

namespace Yaml

/-- What a node stands for. -/
inductive Tag where
  | text | null | boolean | integer | real | timestamp | binary
  /-- The key under which other mappings are merged into one. -/
  | merge
  /-- The key of the default value of a mapping. -/
  | default
  | sequence | mapping | set | orderedMapping | pairs
  /-- A tag without a meaning. -/
  | unknown
  deriving DecidableEq

/-! ## Spellings -/

def booleanSpellings : List (String × Bool) :=
  [("yes", true), ("no", false), ("true", true), ("false", false), ("on", true), ("off", false)]

/-- The three ways to write a word: in lower case, with a capital, and in upper case. -/
def casings (word : String) : List String := [word, word.capitalize, word.toUpper]

/-- Whether a spelling is one of some words, in one of the three ways to write them. -/
def isWord (words : List String) (cs : List Char) : Bool :=
  (words.flatMap casings).any fun w => w.toList == cs

/-- A spelling without its sign. -/
def unsigned : List Char → List Char
  | '+' :: rest | '-' :: rest => rest
  | cs => cs

def isDigitPart (c : Char) : Bool := c.isDigit || c == '_'

def isExponent : List Char → Bool
  | e :: s :: digits =>
    (e == 'e' || e == 'E') && (s == '+' || s == '-') && !digits.isEmpty && digits.all Char.isDigit
  | _ => false

/-- Whether a spelling is a fraction after its point, with or without an exponent. -/
def isFraction (cs : List Char) : Bool :=
  let rest := cs.dropWhile isDigitPart
  rest.isEmpty || isExponent rest

def colonPieces (cs : List Char) : List (List Char) :=
  cs.foldr
    (fun c pieces =>
      match c == ':', pieces with
      | true, _ => [] :: pieces
      | false, [] => [[c]]
      | false, piece :: rest => (c :: piece) :: rest)
    [[]]

def isSixtieth : List Char → Bool
  | [a] => a.isDigit
  | [a, b] => '0' ≤ a && a ≤ '5' && b.isDigit
  | _ => false

/-- Whether a spelling is a whole part: a digit, then digits and underscores. -/
def isWhole : List Char → Bool
  | [] => false
  | c :: rest => c.isDigit && rest.all isDigitPart

def isInteger (cs : List Char) : Bool :=
  match unsigned cs with
  | [] => false
  | ['0'] => true
  | '0' :: 'b' :: digits => !digits.isEmpty && digits.all fun c => c == '0' || c == '1' || c == '_'
  | '0' :: 'x' :: digits =>
    !digits.isEmpty && digits.all fun c =>
      isDigitPart c || ('a' ≤ c && c ≤ 'f') || ('A' ≤ c && c ≤ 'F')
  | '0' :: digits => digits.all fun c => ('0' ≤ c && c ≤ '7') || c == '_'
  | c :: rest =>
    match colonPieces rest with
    | [] => false
    | first :: pieces => c.isDigit && first.all isDigitPart && pieces.all isSixtieth

/-- Whether a spelling ends, after its last colon, in a number below sixty and a fraction. -/
def isSixtiethFraction (cs : List Char) : Bool :=
  isSixtieth (cs.takeWhile (· != '.')) &&
    match cs.dropWhile (· != '.') with
    | '.' :: rest => rest.all isDigitPart
    | _ => false

def isReal (cs : List Char) : Bool :=
  let body := unsigned cs
  let whole := body.takeWhile isDigitPart
  (match body.dropWhile isDigitPart with
    | '.' :: rest => isWhole whole && isFraction rest
    | _ => false) ||
  (match cs with
    | '.' :: c :: rest => c.isDigit && isFraction rest
    | _ => false) ||
  (match colonPieces body with
    | first :: second :: rest =>
      let pieces := second :: rest
      isWhole first && pieces.dropLast.all isSixtieth && isSixtiethFraction (pieces.getLastD [])
    | _ => false) ||
  (match body with
    | '.' :: rest => isWord ["inf"] rest
    | _ => false) ||
  [".nan", ".NaN", ".NAN"].any fun w => w.toList == cs

def isTimestamp (cs : List Char) : Bool :=
  match Timestamp.ofSpelling? cs with
  | some t => t.isFull || t.clock.isSome
  | none => false

namespace Tag

/-- The tag of a word without a line end. -/
def ofWord (cs : List Char) : Tag :=
  if isWord (booleanSpellings.map (·.1)) cs then .boolean
  else if isReal cs then .real
  else if isInteger cs then .integer
  else if cs == ['<', '<'] then .merge
  else if cs.isEmpty || cs == ['~'] || isWord ["null"] cs then .null
  else if isTimestamp cs then .timestamp
  else if cs == ['='] then .default
  else if ['!', '&', '*'].any fun c => cs == [c] then .unknown
  else .text

/-- The tag of a scalar that has none, by its spelling. One line end after a word does not count; a
line end alone is a text. -/
def ofSpelling (value : Text) : Tag :=
  match value.toString? with
  | none => .text
  | some s => if s.toList == ['\n'] then .text else .ofWord (withoutBreak s.toList)

def commonStart : Text := "tag:yaml.org,2002:"

def common : List (String × Tag) :=
  [("str", .text), ("null", .null), ("bool", .boolean), ("int", .integer), ("float", .real),
    ("timestamp", .timestamp), ("binary", .binary), ("merge", .merge), ("value", .default),
    ("seq", .sequence), ("map", .mapping), ("set", .set), ("omap", .orderedMapping),
    ("pairs", .pairs)]

def ofName (name : Text) : Tag :=
  ((common.find? fun (short, _) => commonStart ++ Text.ofString short = name).map (·.2)).getD
    .unknown

end Tag

end Yaml

end LibraryDescriptor
