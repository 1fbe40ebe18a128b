import LibraryDescriptor.Proofs.Parser.Termination
import LibraryDescriptor.Proofs.Token.Failures

/-!
# How parsing fails

A text that spells no module has a lexical or a syntactic fault, which is reported with its place.
Two kinds of text fail without one: an escape with braces whose number does not fit a signed 32-bit
word, and a numeral whose digits cannot be read. No bound of the scanner or of the grammar is ever
reached.

* `parse_fails_only` — the failures of `parse`.
-/

namespace LibraryDescriptor

/-- A numeral that is in a text but denotes no number: a digit of it is not decimal, or it is an
integer with more digits than are read. -/
structure Text.HasUnreadable (t raw : Text) : Prop where
  inside : raw <:+: t
  spelled : Numeral.IsSpelling raw
  digits : (∃ c, .scalar c ∈ raw ∧ isDigit c = true ∧ decimalDigit? c = none) ∨
    (∀ p ∈ raw, p.has isDigit = true) ∧ Number.maxDecimalDigits < raw.length

theorem Tokens.hasUnreadable {source raw : Text} {tokens : Tokens}
    (scanned : scan source = .ok tokens)
    (member : .number raw ∈ tokens.lexemes) (unreadable : Numeral.value? raw = none) :
    source.HasUnreadable raw := by
  have valid : Numeral.IsSpelling raw := by
    obtain ⟨token, inside, same⟩ := List.mem_map.mp member
    have valid := scan_valid scanned token inside
    rwa [same] at valid
  exact ⟨infix_of_scan scanned member, valid, Numeral.value?_eq_none valid.whole unreadable⟩

theorem parse_fails_only {source : Text} {e : SourceError} (failed : parse source = .error e) :
    (∃ position fault, e = .lexical position fault) ∨
      (∃ position fault, e = .syntactic position fault) ∨
      (e = .escapeOutOfRange ∧ source.HasFarEscape) ∨
      ∃ raw, e = .unreadableNumber raw ∧ source.HasUnreadable raw := by
  obtain failed | ⟨tokens, scanned, failed⟩ := bind_eq_error.mp failed
  · have refused := refuses_of_scan failed
    cases e with
    | lexical position fault => exact .inl ⟨position, fault, rfl⟩
    | escapeOutOfRange => exact .inr (.inr (.inl ⟨rfl, refused⟩))
    | syntactic | unreadableNumber | exhausted => exact refused.elim
  · have refused := Grammar.refuses_of_module failed
    cases e with
    | syntactic position fault => exact .inr (.inl ⟨position, fault, rfl⟩)
    | unreadableNumber raw =>
      exact .inr (.inr (.inr ⟨raw, rfl, Tokens.hasUnreadable scanned refused.1 refused.2⟩))
    | lexical | escapeOutOfRange | exhausted => exact refused.elim

def parseFault? (source : Text) : Option SourceError :=
  match parse source with
  | .ok _ => none
  | .error e => some e

theorem parse_eq_error {source : Text} {e : SourceError} (found : parseFault? source = some e) :
    parse source = .error e := by
  unfold parseFault? at found
  split at found
  · cases found
  · next failed =>
    rw [failed]
    exact congrArg _ (Option.some.inj found)

/-- A superscript two is a digit, but not a decimal one. -/
def superscriptSource : Text := "²"

theorem superscriptSource_fails_only :
    parse superscriptSource = .error (.unreadableNumber superscriptSource) ∧
      superscriptSource.HasUnreadable superscriptSource := by
  have failed : parse superscriptSource = .error (.unreadableNumber superscriptSource) :=
    parse_eq_error (by decide +kernel)
  refine ⟨failed, ?_⟩
  obtain ⟨_, _, other⟩ | ⟨_, _, other⟩ | ⟨other, _⟩ | ⟨raw, same, unreadable⟩ :=
    parse_fails_only failed
  · cases other
  · cases other
  · cases other
  · cases same
    exact unreadable

/-- A string literal with an escape far above the last code point. -/
def farEscapeSource : Text := "'\\u\x7b80000000\x7d'"

/-- The escape is refused without a place. -/
theorem farEscapeSource_unplaced : parse farEscapeSource = .error .escapeOutOfRange :=
  parse_eq_error (by decide +kernel)

end LibraryDescriptor
