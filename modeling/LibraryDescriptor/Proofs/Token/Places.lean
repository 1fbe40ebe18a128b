import Mathlib.Data.List.DropRight
import LibraryDescriptor.Proofs.Token.Division

/-!
# The places of tokens

A token is marked with the place that the text in front of it gives: one line for each line break,
and one column for each code point behind the last of them.

* `Text.lineBreaks`, `Text.lastLine`, `Position.behind` — the place behind a text, by counting.
* `Position.reached` — the place that has been reached, which waits in front of the line feed of a
  carriage return.
* `Position.walk_start` — walking through a text keeps to the places reached.
* `scan_places` — the places of the tokens of a text and of its end.
-/

namespace LibraryDescriptor

/-- The number of line breaks of a text; a carriage return and a line feed behind it are one. -/
def Text.lineBreaks : Text → Nat
  | [] => 0
  | p :: rest =>
    (if p.has isLineTerminator && !(p.is '\r' && headIs rest '\n') then 1 else 0) + lineBreaks rest

def Text.lastLine (t : Text) : Text := t.rtakeWhile fun p => !p.has isLineTerminator

def Position.behind (t : Text) : Position := ⟨1 + t.lineBreaks, 1 + t.lastLine.length⟩

/-- The place that has been reached between two parts of a text. Between a carriage return and its
line feed this is still the place of the carriage return. -/
def Position.reached (before after : Text) : Position :=
  if before.lastIs '\r' && after.headIs '\n' then behind before.dropLast else behind before

@[simp] theorem Text.lastIs_concat (t : Text) (p : CodePoint) (c : Char) :
    lastIs (t ++ [p]) c = p.is c := by
  simp [lastIs]

/-- A code point at the end breaks a line unless it is the line feed of a carriage return. -/
theorem Text.lineBreaks_concat (t : Text) (p : CodePoint) :
    lineBreaks (t ++ [p]) = t.lineBreaks +
      if p.has isLineTerminator && !(t.lastIs '\r' && p.is '\n') then 1 else 0 := by
  induction t with
  | nil => simp [lineBreaks, headIs, lastIs]
  | cons q t ih =>
    rw [List.cons_append, lineBreaks, lineBreaks, ih]
    cases t with
    | nil =>
      by_cases pair : (q.is '\r' && p.is '\n') = true
      · rw [Bool.and_eq_true] at pair
        rw [CodePoint.eq_of_is pair.1, CodePoint.eq_of_is pair.2]
        rfl
      · simp only [Bool.not_eq_true] at pair
        simp [headIs, lastIs, lineBreaks, pair]
    | cons r t => simp [headIs, lastIs, Nat.add_assoc]

theorem Text.lastLine_concat (t : Text) (p : CodePoint) :
    lastLine (t ++ [p]) = if p.has isLineTerminator then [] else t.lastLine ++ [p] := by
  rw [lastLine, List.rtakeWhile_concat]
  cases p.has isLineTerminator <;> rfl

theorem Position.reached_step (before : Text) (p : CodePoint) (rest : Text) :
    (reached before (p :: rest)).step p rest = reached (before ++ [p]) rest := by
  have next : Text.headIs (p :: rest) '\n' = p.is '\n' := rfl
  by_cases ends : p.has isLineTerminator = true
  · by_cases waits : (p.is '\r' && rest.headIs '\n') = true
    · -- The first half of a line break leaves the place as it is.
      have other : p.is '\n' = false := by
        rw [CodePoint.eq_of_is (Bool.and_eq_true_iff.mp waits).1]
        rfl
      simp [step, reached, ends, waits, next, other]
    · have broken : reached (before ++ [p]) rest = ⟨1 + Text.lineBreaks (before ++ [p]), 1⟩ := by
        simp [reached, behind, waits, Text.lastLine_concat, ends]
      have moved : (reached before (p :: rest)).step p rest =
          ⟨(reached before (p :: rest)).line + 1, 1⟩ := by
        simp [step, ends, waits]
      rw [broken, moved, Text.lineBreaks_concat, ends]
      by_cases pair : (before.lastIs '\r' && p.is '\n') = true
      · -- The second half counts for both, and the first one has counted already.
        obtain rfl | ⟨init, q, rfl⟩ := before.eq_nil_or_concat'
        · cases pair
        · rw [Text.lastIs_concat, Bool.and_eq_true] at pair
          rw [CodePoint.eq_of_is pair.1, CodePoint.eq_of_is pair.2, Text.lineBreaks_concat]
          simp [reached, Text.headIs, CodePoint.is, behind, CodePoint.has, isLineTerminator,
            Nat.add_assoc]
      · simp [reached, next, pair, behind, Nat.add_assoc]
  · have other : ∀ c, isLineTerminator c = true → p.is c = false := fun c ending =>
      Bool.eq_false_iff.mpr fun same => ends (CodePoint.eq_of_is same ▸ ending)
    simp [step, reached, ends, next, other '\n' rfl, other '\r' rfl, behind,
      Text.lineBreaks_concat, Text.lastLine_concat, Nat.add_assoc]

theorem Position.walk_start (before after : Text) :
    start.walk before after = reached before after := by
  induction before using List.reverseRecOn generalizing after with
  | nil => rfl
  | append_singleton before p ih =>
    rw [walk_append, ih]
    exact reached_step before p after

theorem Position.reached_eq_behind {before after : Text} (head : after.headIs '\n' = false) :
    reached before after = behind before := by
  simp [reached, head]

/-- The tokens of a text and its end are at the places that the text in front of them gives. -/
theorem scan_places {t : Text} {tokens : Tokens} (found : scan t = .ok tokens) :
    ∃ slices tail, tokens.Divide t slices tail ∧
      (∀ before s after, slices = before ++ s :: after →
        s.token.mark.position = .behind (Slice.texts before ++ s.gap)) ∧
      tokens.finish.position = .behind t := by
  obtain ⟨slices, tail, divided, placed, finished⟩ := Scanner.exists_division found
  refine ⟨slices, tail, divided, fun before s after same => ?_, ?_⟩
  · obtain ⟨p, more, spelled, solid⟩ := (divided.stands s (by simp [same])).solid
    rw [placed before s after same, Position.walk_start, Position.reached_eq_behind]
    rw [spelled]
    refine Bool.eq_false_iff.mpr fun feed => ?_
    rw [CodePoint.eq_of_is (p := p) feed] at solid
    cases solid
  · rw [finished, Position.walk_start, Position.reached_eq_behind rfl]

/-- A source whose lines end in each of the ways, also inside a comment and a literal. -/
def manyLines : Text := "a\r\n b\r/*\u2028\r\n*/c '\\\r\n' d\n\u2029 "

theorem manyLines_places :
    ∃ tokens, scan manyLines = .ok tokens ∧
      tokens.ahead.map (·.mark.position) = [⟨1, 1⟩, ⟨2, 2⟩, ⟨5, 3⟩, ⟨5, 5⟩, ⟨6, 3⟩] ∧
      ∃ slices tail, tokens.Divide manyLines slices tail ∧
        (∀ before s after, slices = before ++ s :: after →
          s.token.mark.position = .behind (Slice.texts before ++ s.gap)) ∧
        tokens.finish.position = .behind manyLines := by
  have positions : (scan manyLines).toOption.map (fun tokens =>
      tokens.ahead.map (·.mark.position)) =
      some [⟨1, 1⟩, ⟨2, 2⟩, ⟨5, 3⟩, ⟨5, 5⟩, ⟨6, 3⟩] := by
    decide +kernel
  cases found : scan manyLines with
  | error e =>
    rw [found] at positions
    cases positions
  | ok tokens =>
    rw [found] at positions
    exact ⟨tokens, rfl, Option.some.inj positions, scan_places found⟩

end LibraryDescriptor
