import LibraryDescriptor.Proofs.Token.Lexeme

/-!
# The tokens of a layout

A layout whose lexemes are separated is scanned as the tokens that its pieces stand for.

* `Cursor`, `Layout.tokens` — the tokens of a layout, with the places that they get.
* `Layout.lexemes` — its lexemes, as they are read.
* `Layout.Separated` — no lexeme is continued by what stands behind it.
* `Layout.Separated.scan` — the tokens of the text of a layout.
-/

namespace LibraryDescriptor

/-- A place between two pieces of a layout, and whether a line ends since the last lexeme. -/
structure Cursor where
  place : Position
  broken : Bool

namespace Cursor

def start : Cursor := ⟨.start, false⟩

def step (cursor : Cursor) : Piece → Cursor
  | .lexeme x => ⟨cursor.place.advance x.source.length, false⟩
  | .space => ⟨cursor.place.advance 1, cursor.broken⟩
  | .newline level => ⟨⟨cursor.place.line + 1, 1 + 4 * level⟩, true⟩

def after (cursor : Cursor) (layout : Layout) : Cursor := layout.foldl step cursor

def mark (cursor : Cursor) : Mark := ⟨cursor.place, cursor.broken⟩

variable (cursor : Cursor)

@[simp] theorem after_nil : cursor.after [] = cursor := rfl

@[simp] theorem after_cons (piece : Piece) (layout : Layout) :
    cursor.after (piece :: layout) = (cursor.step piece).after layout := rfl

@[simp] theorem after_append (left right : Layout) :
    cursor.after (left ++ right) = (cursor.after left).after right := List.foldl_append ..

@[simp] theorem step_lexeme_broken (x : Lexeme) : (cursor.step (.lexeme x)).broken = false := rfl

@[simp] theorem step_space_broken : (cursor.step .space).broken = cursor.broken := rfl

@[simp] theorem mark_afterBreak : cursor.mark.afterBreak = cursor.broken := rfl

end Cursor

namespace Layout

def tokens : Cursor → Layout → List Token
  | _, [] => []
  | cursor, .lexeme x :: layout => ⟨x.read, cursor.mark⟩ :: tokens (cursor.step (.lexeme x)) layout
  | cursor, .space :: layout => tokens (cursor.step .space) layout
  | cursor, .newline level :: layout => tokens (cursor.step (.newline level)) layout

@[simp] theorem tokens_append (cursor : Cursor) (left right : Layout) :
    tokens cursor (left ++ right) = tokens cursor left ++ tokens (cursor.after left) right := by
  fun_induction tokens cursor left <;> simp_all [tokens]

def lexemes : Layout → List Lexeme
  | [] => []
  | .lexeme x :: layout => x.read :: lexemes layout
  | .space :: layout | .newline _ :: layout => lexemes layout

theorem lexemes_tokens (layout : Layout) (cursor : Cursor) :
    (layout.tokens cursor).map Token.lexeme = layout.lexemes := by
  fun_induction tokens cursor layout <;> simp_all [lexemes]

@[simp] theorem lexemes_append (left right : Layout) :
    (left ++ right).lexemes = left.lexemes ++ right.lexemes := by
  fun_induction lexemes left <;> simp_all [lexemes]

/-- Every lexeme of a layout can be written and ends in front of what stands behind it; behind the
layout stands a given text. -/
def Separated : Layout → Text → Prop
  | [], _ => True
  | .lexeme x :: layout, t => x.Written ∧ x.Ends (text layout ++ t) ∧ Separated layout t
  | .space :: layout, t | .newline _ :: layout, t => Separated layout t

@[simp] theorem text_nil : text [] = [] := rfl

@[simp] theorem text_cons (piece : Piece) (layout : Layout) :
    text (piece :: layout) = piece.text ++ text layout := rfl

@[simp] theorem text_append (left right : Layout) :
    text (left ++ right) = text left ++ text right := List.flatMap_append

@[simp] theorem separated_nil (t : Text) : Separated [] t := trivial

@[simp] theorem separated_append {left right : Layout} {t : Text} :
    Separated (left ++ right) t ↔ Separated left (right.text ++ t) ∧ Separated right t := by
  fun_induction Separated left t <;> simp_all [Separated, and_assoc]

end Layout

/-! ## Scanning a layout -/

namespace Scanner

def scanAfter (bound : Nat) (cursor : Cursor) (t : Text) : Except SourceError Tokens := do
  let gap ← Gap.skip .blank cursor.place cursor.broken t
  let mark : Mark := ⟨gap.position, gap.hasBreak⟩
  match gap.rest with
  | [] => .ok ⟨[], mark⟩
  | p :: rest =>
    let scanned ← scanLexeme gap.position p rest
    let tokens ← scanFrom bound scanned.position scanned.rest
    .ok { tokens with ahead := ⟨scanned.lexeme, mark⟩ :: tokens.ahead }

theorem scanFrom_succ (bound : Nat) (place : Position) (t : Text) :
    scanFrom (bound + 1) place t = scanAfter bound ⟨place, false⟩ t := rfl

variable {bound : Nat} {cursor : Cursor} {t : Text}

theorem scanAfter_space :
    scanAfter bound cursor (.scalar ' ' :: t) = scanAfter bound (cursor.step .space) t := rfl

theorem scanAfter_spaces (n : Nat) :
    scanAfter bound cursor (List.replicate n (.scalar ' ') ++ t) =
      scanAfter bound ⟨cursor.place.advance n, cursor.broken⟩ t := by
  induction n generalizing cursor with
  | zero => rfl
  | succ n ih =>
    rw [List.replicate_succ, List.cons_append, scanAfter_space, ih]
    simp [Cursor.step, Nat.add_comm]

theorem scanAfter_newline (level : Nat) :
    scanAfter bound cursor ((Piece.newline level).text ++ t) =
      scanAfter bound (cursor.step (.newline level)) t := by
  have broken : scanAfter bound cursor ((Piece.newline level).text ++ t) =
      scanAfter bound ⟨⟨cursor.place.line + 1, 1⟩, true⟩ (indentation level ++ t) := rfl
  rw [broken, indentation, scanAfter_spaces]
  rfl

theorem scanAfter_lexeme {x : Lexeme} (rescans : x.Rescans t) {later : Tokens}
    (found : scanAfter bound (cursor.step (.lexeme x)) t = .ok later) :
    scanAfter (bound + 1) cursor (x.source ++ t) =
      .ok { later with ahead := ⟨x.read, cursor.mark⟩ :: later.ahead } := by
  obtain ⟨p, rest, starts, skips, scans⟩ := rescans
  rw [starts, scanAfter, skips]
  change (scanLexeme cursor.place p rest >>= _) = _
  rw [scans]
  change (scanFrom (bound + 1) (cursor.place.advance x.source.length) t >>= _) = _
  rw [scanFrom_succ]
  change (scanAfter bound (cursor.step (.lexeme x)) t >>= _) = _
  rw [found]
  rfl

end Scanner

namespace Layout

/-- The text of a separated layout is scanned as its tokens. -/
theorem Separated.scanAfter {layout : Layout} {bound : Nat} {cursor : Cursor}
    (separated : layout.Separated []) (enough : layout.text.length ≤ bound) :
    Scanner.scanAfter bound cursor layout.text =
      .ok ⟨layout.tokens cursor, (cursor.after layout).mark⟩ := by
  induction layout generalizing bound cursor with
  | nil => rfl
  | cons piece layout ih =>
    rw [text_cons, List.length_append] at enough
    cases piece with
    | space => exact Eq.trans Scanner.scanAfter_space (ih separated (by omega))
    | newline level =>
      rw [text_cons, Scanner.scanAfter_newline]
      exact ih separated (by omega)
    | lexeme x =>
      obtain ⟨written, ends, later⟩ := separated
      rw [List.append_nil] at ends
      have some := List.length_pos_iff.mpr written.source_ne_nil
      obtain ⟨bound, rfl⟩ : ∃ less, bound = less + 1 := ⟨bound - 1, by
        change x.source.length + _ ≤ _ at enough
        omega⟩
      change x.source.length + _ ≤ _ at enough
      exact Scanner.scanAfter_lexeme (written.rescans ends) (ih later (by omega))

theorem Separated.scan {layout : Layout} (separated : layout.Separated []) :
    LibraryDescriptor.scan layout.text =
      .ok ⟨layout.tokens .start, (Cursor.start.after layout).mark⟩ := by
  change Scanner.scanAfter layout.text.length .start layout.text = _
  exact separated.scanAfter (Nat.le_refl _)

end Layout

end LibraryDescriptor
