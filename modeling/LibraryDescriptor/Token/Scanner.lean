import LibraryDescriptor.Token.Gap
import LibraryDescriptor.Token.Numeral

/-!
# Scanning

`scan` divides a text into tokens: gaps are dropped, and each token is the longest lexeme at its
place.
-/

namespace LibraryDescriptor

namespace Scanner

/-- A lexeme that has been read: where it ends, and the text after it. -/
structure Scanned where
  lexeme : Lexeme
  position : Position
  rest : Text

def scanWord (place : Position) (t : Text) : Scanned :=
  let (name, rest) := Numeral.spanHas isIdentifierPart t
  let lexeme :=
    match Keyword.ofText? name with
    | some word => .keyword word
    | none => .identifier name
  ⟨lexeme, place.advance name.length, rest⟩

/-- Whether a text starts with a punctuator. A question mark and a point in front of a digit are a
conditional and a number. -/
def startsWithPunctuator (t : Text) (mark : Punctuator) : Bool :=
  t.startsWith mark.spelling && !(mark == .optional && Text.headHas (t.drop 2) isDigit)

def scanPunctuator? (place : Position) (t : Text) : Option Scanned :=
  (Punctuator.all.find? (startsWithPunctuator t)).map fun mark =>
    let size := mark.spelling.length
    ⟨.punctuator mark, place.advance size, t.drop size⟩

def startsNumber (p : CodePoint) (rest : Text) : Bool :=
  p.has isDigit || (p.is '.' && rest.headHas isDigit)

def scanLexeme (place : Position) (p : CodePoint) (rest : Text) : Except SourceError Scanned :=
  if p.is '"' then do
    let s ← StringLiteral.scan '"' place .plain (place.step p rest) rest
    .ok ⟨.string s.value, s.position, s.rest⟩
  else if p.is '\'' then do
    let s ← StringLiteral.scan '\'' place .plain (place.step p rest) rest
    .ok ⟨.string s.value, s.position, s.rest⟩
  else if startsNumber p rest then do
    let (raw, rest) ← Numeral.scan place (p :: rest)
    .ok ⟨.number raw, place.advance raw.length, rest⟩
  else if p.has isIdentifierStart then .ok (scanWord place (p :: rest))
  else if p.is '`' then .error (.lexical place .templateLiteral)
  else
    match scanPunctuator? place (p :: rest) with
    | some scanned => .ok scanned
    | none => .error (.lexical place (.unexpectedCharacter p))

/-- The tokens of a text that starts at `place`; the first argument bounds their number. -/
def scanFrom : Nat → Position → Text → Except SourceError Tokens
  | 0, _, _ => .error .exhausted
  | bound + 1, place, t => do
    let gap ← Gap.skip .blank place false t
    let mark : Mark := ⟨gap.position, gap.hasBreak⟩
    match gap.rest with
    | [] => .ok ⟨[], mark⟩
    | p :: rest =>
      let scanned ← scanLexeme gap.position p rest
      let tokens ← scanFrom bound scanned.position scanned.rest
      .ok { tokens with ahead := ⟨scanned.lexeme, mark⟩ :: tokens.ahead }

end Scanner

/-- The tokens of a text. A token has at least one code point, so there are no more of them than
code points. -/
def scan (t : Text) : Except SourceError Tokens := Scanner.scanFrom (t.length + 1) .start t

end LibraryDescriptor
