/-!
# Text

Module text is a sequence of Unicode code points.

* `CodePoint` — a scalar value, or one half of a surrogate pair standing alone (an escape in a
  string literal can denote one, and it is written back as it stands).
* `Text` — a list of code points; positions and lengths count code points.
* `Text.le` — the order by code point, in which sets of names are listed.
-/

namespace LibraryDescriptor

inductive CodePoint where
  /-- A Unicode scalar value. -/
  | scalar (c : Char)
  /-- The lone surrogate `U+D800 + offset`. -/
  | surrogate (offset : Fin 2048)
  deriving DecidableEq, Inhabited

namespace CodePoint

def toNat : CodePoint → Nat
  | .scalar c => c.toNat
  | .surrogate offset => 0xD800 + offset.val

/-- The code point with a given number; `none` from `U+110000` on. -/
def ofNat? (n : Nat) : Option CodePoint :=
  if h : n.isValidChar then some (.scalar (Char.ofNatAux n h))
  else if 0xD800 ≤ n ∧ n ≤ 0xDFFF then some (.surrogate (Fin.ofNat 2048 (n - 0xD800)))
  else none

def is (p : CodePoint) (c : Char) : Bool :=
  match p with
  | .scalar d => d == c
  | .surrogate _ => false

def isIn (p : CodePoint) (cs : List Char) : Bool :=
  match p with
  | .scalar d => cs.contains d
  | .surrogate _ => false

/-- Whether a code point is a character with property `p`; a surrogate has none. -/
def has (property : Char → Bool) : CodePoint → Bool
  | .scalar c => property c
  | .surrogate _ => false

instance : Coe Char CodePoint := ⟨.scalar⟩

end CodePoint

abbrev Text := List CodePoint

namespace Text

def ofString (s : String) : Text := s.toList.map .scalar

instance : Coe String Text := ⟨ofString⟩

/-- The text as a string; `none` when it holds a surrogate. -/
def toString? : Text → Option String :=
  fun t => (t.mapM scalar?).map String.ofList
where
  /-- The character of a scalar value. -/
  scalar? : CodePoint → Option Char
    | .scalar c => some c
    | .surrogate _ => none

def join (parts : List Text) : Text := parts.flatten

def inQuotes (t : Text) : Text := .join ["'", t, "'"]

/-- Items of a text with a separator between each two. -/
def joinWith (separator : Text) : List Text → Text
  | [] => []
  | [t] => t
  | t :: ts => t ++ separator ++ joinWith separator ts

def startsWith (t start : Text) : Bool := start.isPrefixOf t

def headIs (t : Text) (c : Char) : Bool :=
  match t with
  | [] => false
  | p :: _ => p.is c

def headHas (t : Text) (property : Char → Bool) : Bool :=
  match t with
  | [] => false
  | p :: _ => p.has property

def lastIs (t : Text) (c : Char) : Bool :=
  match t.getLast? with
  | some p => p.is c
  | none => false

def split (c : Char) : Text → List Text
  | [] => [[]]
  | p :: rest =>
    match p.is c, split c rest with
    | true, pieces => [] :: pieces
    | false, [] => [[p]]
    | false, piece :: pieces => (p :: piece) :: pieces

def ofNat (n : Nat) : Text := (Nat.toDigits 10 n).map .scalar

/-- The decimal spelling of an integer, with a minus sign when it is negative. -/
def ofInt : Int → Text
  | .ofNat n => ofNat n
  | .negSucc n => .scalar '-' :: ofNat (n + 1)

/-! ## Order and sets of names -/

/-- The order by code point; a text comes before its extensions. -/
def le : Text → Text → Bool
  | [], _ => true
  | _ :: _, [] => false
  | p :: ps, q :: qs => p.toNat < q.toNat || (p = q && le ps qs)

/-- Insertion into an ordered list without repetition. -/
def insertName (name : Text) : List Text → List Text
  | [] => [name]
  | n :: ns =>
    if name = n then n :: ns
    else if le name n then name :: n :: ns
    else n :: insertName name ns

/-- The set of the given names, as an ordered list without repetition. -/
def nameSet (names : List Text) : List Text := names.foldr insertName []

end Text

end LibraryDescriptor
