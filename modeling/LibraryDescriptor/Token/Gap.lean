import LibraryDescriptor.Text.Blank
import LibraryDescriptor.Token.Fault

/-!
# Gaps between tokens

A gap is made of blanks, byte order marks, line ends and comments. `Gap.skip` reads past one and
notes whether a line ends in it, be it inside a comment.
-/

namespace LibraryDescriptor

namespace Gap

/-- What a reader of a gap is in the middle of. -/
inductive State where
  /-- Between two items of the gap. -/
  | blank
  /-- In a comment that ends with its line. -/
  | line
  /-- In front of the star that opens a block comment, which starts at `opened`. -/
  | opening (opened : Position)
  /-- In a block comment. -/
  | block (opened : Position)
  /-- In front of the slash that closes a block comment. -/
  | closing

/-- A gap that has been read: where it ends, and whether a line ends in it. -/
structure Skipped where
  position : Position
  hasBreak : Bool
  rest : Text

/-- Whether a character other than a line terminator stands between tokens. -/
def isFiller (c : Char) : Bool := isBlank c || c == '\ufeff'

def skip : State → Position → Bool → Text → Except SourceError Skipped
  | .block opened, _, _, [] | .opening opened, _, _, [] =>
    .error (.lexical opened .unterminatedComment)
  | .blank, place, hasBreak, [] | .line, place, hasBreak, [] | .closing, place, hasBreak, [] =>
    .ok ⟨place, hasBreak, []⟩
  | .blank, place, hasBreak, p :: rest =>
    if p.has isLineTerminator then skip .blank (place.step p rest) true rest
    else if p.has isFiller then skip .blank (place.step p rest) hasBreak rest
    else if p.is '/' && Text.headIs rest '/' then skip .line (place.step p rest) hasBreak rest
    else if p.is '/' && Text.headIs rest '*' then
      skip (.opening place) (place.step p rest) hasBreak rest
    else .ok ⟨place, hasBreak, p :: rest⟩
  | .line, place, hasBreak, p :: rest =>
    if p.has isLineTerminator then skip .blank (place.step p rest) true rest
    else skip .line (place.step p rest) hasBreak rest
  | .opening opened, place, hasBreak, p :: rest =>
    skip (.block opened) (place.step p rest) hasBreak rest
  | .block opened, place, hasBreak, p :: rest =>
    if p.is '*' && Text.headIs rest '/' then skip .closing (place.step p rest) hasBreak rest
    else skip (.block opened) (place.step p rest) (hasBreak || p.has isLineTerminator) rest
  | .closing, place, hasBreak, p :: rest => skip .blank (place.step p rest) hasBreak rest

end Gap

end LibraryDescriptor
