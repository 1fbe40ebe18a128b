import LibraryDescriptor.Token.StringLiteral

/-!
# String literals are read as they were written

* `StringLiteral.scan_quotePoint` — one code point of a literal.
* `StringLiteral.scan_quote` — a whole literal.
-/

namespace LibraryDescriptor

theorem Position.step_scalar {c : Char} (plain : isLineTerminator c = false) (place : Position)
    (rest : Text) : place.step (.scalar c) rest = place.advance 1 := by
  simp [Position.step, CodePoint.has, plain, Position.advance]

@[simp] theorem Position.advance_advance (place : Position) (m n : Nat) :
    (place.advance m).advance n = place.advance (m + n) := by
  simp [Position.advance, Nat.add_assoc]

namespace StringLiteral

variable {opened place : Position} {rest : Text}

/-- Reading on from a place, with code points that are known already in front. -/
def resume (opened place : Position) (known rest : Text) : Except SourceError Scanned :=
  (scan '\'' opened .plain place rest).map fun s => { s with value := known ++ s.value }

def follow (opened place : Position) (rest : Text) (step : State × Option CodePoint) :
    Except SourceError Scanned := do
  let scanned ← scan '\'' opened step.1 place rest
  .ok (step.2.elim scanned scanned.cons)

theorem follow_none {state : State} :
    follow opened place rest (state, none) = scan '\'' opened state place rest := by
  change (scan '\'' opened state place rest >>= Except.ok) = _
  cases scan '\'' opened state place rest <;> rfl

theorem follow_some {p : CodePoint} :
    follow opened place rest (.plain, some p) = resume opened place [p] rest := by
  change (scan '\'' opened .plain place rest >>= fun s => Except.ok (s.cons p)) = _
  rw [resume]
  cases scan '\'' opened .plain place rest <;> rfl

theorem scan_escape_eq {p : CodePoint} :
    scan '\'' opened .escape place (p :: rest) =
      startEscape place p rest >>= follow opened (place.step p rest) rest := rfl

theorem scan_hex_eq {start : Position} {missing value : Nat} {p : CodePoint} :
    scan '\'' opened (.hex start missing value) place (p :: rest) =
      stepHex start missing value p >>= follow opened (place.step p rest) rest := rfl

theorem scan_unicode_eq {start : Position} {p : CodePoint} (unbraced : p.is '\x7b' = false) :
    scan '\'' opened (.unicode start) place (p :: rest) =
      stepHex start 3 0 p >>= follow opened (place.step p rest) rest :=
  if_neg (ne_true_of_eq_false unbraced)

theorem hexDigits_two : ∀ n < 128,
    Text.hexDigits 2 n = [.scalar (n / 16).digitChar, .scalar (n % 16).digitChar] := by
  decide +kernel

theorem hexDigit?_digitChar : ∀ d < 16,
    hexDigit? d.digitChar = some d ∧ isLineTerminator d.digitChar = false := by
  decide +kernel

theorem scan_plain {c : Char} (unquoted : c ≠ '\'') (unescaped : c ≠ '\\')
    (plain : isLineTerminator c = false) :
    scan '\'' opened .plain place (.scalar c :: rest) =
      resume opened (place.advance 1) [.scalar c] rest := by
  have unbroken : c ≠ '\n' ∧ c ≠ '\r' := by
    simp only [isLineTerminator, Bool.or_eq_false_iff, beq_eq_false_iff_ne] at plain
    exact plain.1.1
  rw [scan, Position.step_scalar plain]
  simp only [CodePoint.is, beq_eq_false_iff_ne.mpr unquoted, beq_eq_false_iff_ne.mpr unescaped,
    beq_eq_false_iff_ne.mpr unbroken.1, beq_eq_false_iff_ne.mpr unbroken.2]
  rfl

theorem scan_backslash :
    scan '\'' opened .plain place (.scalar '\\' :: rest) =
      scan '\'' opened .escape (place.advance 1) rest := rfl

/-- An escape that needs more code points is left to the next state. -/
theorem scan_escape {state : State} {c : Char}
    (step : startEscape place (.scalar c) rest = .ok (state, none))
    (plain : isLineTerminator c = false) :
    scan '\'' opened .escape place (.scalar c :: rest) =
      scan '\'' opened state (place.advance 1) rest := by
  rw [scan_escape_eq, step, Position.step_scalar plain]
  exact follow_none

section Hex

variable {start : Position} {missing value digit : Nat} {c : Char}
  (known : hexDigit? c = some digit) (plain : isLineTerminator c = false)

include known plain

theorem scan_hex :
    scan '\'' opened (.hex start (missing + 1) value) place (.scalar c :: rest) =
      scan '\'' opened (.hex start missing (16 * value + digit)) (place.advance 1) rest := by
  rw [scan_hex_eq, stepHex, known, Position.step_scalar plain]
  exact follow_none

theorem scan_lastHex {p : CodePoint}
    (point : CodePoint.ofNat? (16 * value + digit) = some p) :
    scan '\'' opened (.hex start 0 value) place (.scalar c :: rest) =
      resume opened (place.advance 1) [p] rest := by
  have step : stepHex start 0 value (.scalar c) = .ok (.plain, some p) := by
    simp [stepHex, known, point]
  rw [scan_hex_eq, step, Position.step_scalar plain]
  exact follow_some

theorem scan_unicode (other : c ≠ '\x7b') :
    scan '\'' opened (.unicode start) place (.scalar c :: rest) =
      scan '\'' opened (.hex start 2 digit) (place.advance 1) rest := by
  have step : stepHex start 3 0 (.scalar c) = .ok (.hex start 2 digit, none) := by
    simp [stepHex, known]
  have unbraced : (CodePoint.scalar c).is '\x7b' = false := by simpa [CodePoint.is] using other
  rw [scan_unicode_eq unbraced, step, Position.step_scalar plain]
  exact follow_none

end Hex

/-- A control character is written with two hexadecimal digits. -/
theorem scan_hexEscape {c : Char} (small : c.toNat < 128) :
    scan '\'' opened .plain place
        (.scalar '\\' :: .scalar 'x' :: Text.hexDigits 2 c.toNat ++ rest) =
      resume opened (place.advance 4) [.scalar c] rest := by
  obtain ⟨high, high_plain⟩ := hexDigit?_digitChar (c.toNat / 16) (by omega)
  obtain ⟨low, low_plain⟩ := hexDigit?_digitChar (c.toNat % 16) (by omega)
  have point : CodePoint.ofNat? (16 * (16 * 0 + c.toNat / 16) + c.toNat % 16) =
      some (.scalar c) := by
    have same : 16 * (16 * 0 + c.toNat / 16) + c.toNat % 16 = c.toNat := by omega
    have valid : c.toNat.isValidChar := c.valid
    rw [same, CodePoint.ofNat?, dif_pos valid]
    rfl
  have start : ∀ tail, startEscape (place.advance 1) (.scalar 'x') tail =
      .ok (.hex (place.advance 1) 1 0, none) := fun _ => rfl
  rw [hexDigits_two _ small]
  simp only [List.cons_append, List.nil_append]
  rw [scan_backslash, scan_escape (start _) (by decide), scan_hex high high_plain,
    scan_lastHex low low_plain point]
  simp

/-- A line or paragraph separator is written with four hexadecimal digits. -/
theorem scan_separator (digit : Char) (n : Nat) {p : CodePoint}
    (known : hexDigit? digit = some n) (plain : isLineTerminator digit = false)
    (point : CodePoint.ofNat? (0x2020 + n) = some p) :
    scan '\'' opened .plain place (.scalar '\\' :: .scalar 'u' :: .scalar '2' :: .scalar '0' ::
        .scalar '2' :: .scalar digit :: rest) =
      resume opened (place.advance 6) [p] rest := by
  have start : ∀ tail, startEscape (place.advance 1) (.scalar 'u') tail =
      .ok (.unicode (place.advance 1), none) := fun _ => rfl
  have two : hexDigit? '2' = some 2 := by decide
  have zero : hexDigit? '0' = some 0 := by decide
  rw [scan_backslash, scan_escape (start _) (by decide),
    scan_unicode two (by decide) (by decide), scan_hex zero (by decide), scan_hex two (by decide),
    scan_lastHex known plain point]
  simp

theorem scan_quotePoint (p : CodePoint) :
    scan '\'' opened .plain place (quotePoint p ++ rest) =
      resume opened (place.advance (quotePoint p).length) [p] rest := by
  match p with
  | .surrogate offset => rfl
  | .scalar c =>
    unfold quotePoint
    split
    iterate 8
      · next same =>
        cases same
        rfl
    · next same =>
      cases same
      have written : Text.ofString "\\u2028" = [.scalar '\\', .scalar 'u', .scalar '2', .scalar '0',
        .scalar '2', .scalar '8'] := rfl
      rw [written]
      exact scan_separator '8' 8 (by decide) (by decide) rfl
    · next same =>
      cases same
      have written : Text.ofString "\\u2029" = [.scalar '\\', .scalar 'u', .scalar '2', .scalar '0',
        .scalar '2', .scalar '9'] := rfl
      rw [written]
      exact scan_separator '9' 9 (by decide) (by decide) rfl
    · next backslash quote lineFeed carriageReturn tab backspace formFeed verticalTab lineSeparator
        paragraphSeparator same =>
      cases same
      split
      · next control =>
        have small : c.toNat < 128 := by
          simp only [Bool.or_eq_true, decide_eq_true_eq, beq_iff_eq] at control
          omega
        have written : Text.ofString "\\x" = [.scalar '\\', .scalar 'x'] := rfl
        have length : (Text.hexDigits 2 c.toNat).length = 2 := by rw [hexDigits_two _ small]; rfl
        rw [written, List.append_assoc, List.length_append, length]
        exact scan_hexEscape small
      · have plain : isLineTerminator c = false := by
          simp only [isLineTerminator, Bool.or_eq_false_iff, beq_eq_false_iff_ne]
          exact ⟨⟨⟨fun h => lineFeed (h ▸ rfl), fun h => carriageReturn (h ▸ rfl)⟩,
            fun h => lineSeparator (h ▸ rfl)⟩, fun h => paragraphSeparator (h ▸ rfl)⟩
        exact scan_plain (fun h => quote (h ▸ rfl)) (fun h => backslash (h ▸ rfl)) plain
    · next same => cases same

theorem scan_quote (value : Text) :
    scan '\'' opened .plain place (value.flatMap quotePoint ++ .scalar '\'' :: rest) =
      .ok ⟨value, place.advance ((value.flatMap quotePoint).length + 1), rest⟩ := by
  induction value generalizing place with
  | nil => rfl
  | cons p ps ih =>
    rw [List.flatMap_cons, List.append_assoc, scan_quotePoint, resume, ih]
    simp [Except.map, Nat.add_assoc]

end StringLiteral

end LibraryDescriptor
