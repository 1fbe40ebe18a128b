import LibraryDescriptor.Token.Basic

/-!
# Faults of a source text

* `LexicalFault` — why a text is no sequence of tokens.
* `SyntaxFault` — why a sequence of tokens is no module.
* `SourceError` — a fault at its place, or one of the values that a well-formed token cannot have.
-/

namespace LibraryDescriptor

/-- Why a text is no sequence of tokens. -/
inductive LexicalFault where
  | unterminatedComment
  | unterminatedString
  | templateLiteral
  | unexpectedCharacter (p : CodePoint)
  | invalidUnicodeEscape
  | invalidHexEscape
  | octalEscape (digit : CodePoint)
  | missingDigits
  | missingExponent
  | identifierAfterNumber
  deriving DecidableEq

namespace LexicalFault

def message : LexicalFault → Text
  | .unterminatedComment => "Unterminated block comment"
  | .unterminatedString => "Unterminated string literal"
  | .templateLiteral => "Template literals are not supported"
  | .unexpectedCharacter p => .join ["Unexpected character: ", Text.quoted [p]]
  | .invalidUnicodeEscape => "Invalid unicode escape sequence"
  | .invalidHexEscape => "Invalid hexadecimal escape sequence"
  | .octalEscape digit => .join ["Octal escape sequences are not supported: '\\", [digit], "'"]
  | .missingDigits => "Missing digits in numeric literal"
  | .missingExponent => "Missing exponent in numeric literal"
  | .identifierAfterNumber => "Identifier starts immediately after numeric literal"

end LexicalFault

/-- The token that a fault is about; `none` is the end of the text. -/
abbrev Found := Option Lexeme

def Found.describe : Found → Text
  | none => "end of input"
  | some lexeme => lexeme.value.quoted

/-- Constructs that the language leaves out. -/
inductive Unsupported where
  | namespaceImports | defaultImports | defaultExports | exportAll
  | classes | withStatements | debuggerStatements | generators | super
  | labels | destructuring | restParameters | defaultParameters
  | spreadArguments | spreadElements | spreadProperties
  | newTarget | optionalChaining | regularExpressions | accessors
  deriving DecidableEq

namespace Unsupported

/-- The wording for a construct that is left out. -/
def message : Unsupported → Text
  | .namespaceImports => "Namespace imports are not supported"
  | .defaultImports => "Default imports are not supported"
  | .defaultExports => "Default exports are not supported"
  | .exportAll => "'export *' is not supported"
  | .classes => "Classes are not supported"
  | .withStatements => "'with' statements are not supported"
  | .debuggerStatements => "'debugger' statements are not supported"
  | .generators => "Generators are not supported"
  | .super => "'super' is not supported"
  | .labels => "Labeled statements are not supported"
  | .destructuring => "Destructuring patterns are not supported"
  | .restParameters => "Rest parameters are not supported"
  | .defaultParameters => "Default parameter values are not supported"
  | .spreadArguments => "Spread arguments are not supported"
  | .spreadElements => "Spread elements are not supported"
  | .spreadProperties => "Spread properties are not supported"
  | .newTarget => "'new.target' is not supported"
  | .optionalChaining => "Optional chaining is not supported"
  | .regularExpressions => "Regular expression literals are not supported"
  | .accessors => "Getters and setters are not supported"

/-- The construct that a reserved word introduces, if it is left out. -/
def ofKeyword? : Keyword → Option Unsupported
  | .classWord => some .classes
  | .with => some .withStatements
  | .debugger => some .debuggerStatements
  | .yield => some .generators
  | .super => some .super
  | _ => none

end Unsupported

/-- Why a sequence of tokens is no module. -/
inductive SyntaxFault where
  /-- A given punctuator, keyword or contextual word was expected. -/
  | expected (spelling : Text) (found : Found)
  | expectedIdentifier (found : Found)
  | expectedPropertyName (found : Found)
  | expectedString (found : Found)
  | unexpected (found : Found)
  | unexpectedInObject (found : Found)
  | unexpectedAfterExport (found : Found)
  | unexpectedEnd
  | unsupported (construct : Unsupported)
  | onlyAtTopLevel (word : Keyword)
  | missingInitializer (name : Text)
  | invalidLoopTarget
  | invalidAssignmentTarget
  | invalidOperand (spelling : Text)
  | breakAfterThrow
  | missingHandler
  | unaryBeforePower
  | mixedNullish
  deriving DecidableEq
namespace SyntaxFault

def message : SyntaxFault → Text
  | .expected spelling found => .join ["Expected ", spelling.quoted, ", got ", found.describe]
  | .expectedIdentifier found => .join ["Expected identifier, got ", found.describe]
  | .expectedPropertyName found => .join ["Expected property name, got ", found.describe]
  | .expectedString found => .join ["Expected string literal, got ", found.describe]
  | .unexpected found => .join ["Unexpected token ", found.describe]
  | .unexpectedInObject found => .join ["Unexpected token ", found.describe, " in object literal"]
  | .unexpectedAfterExport found =>
    .join ["Unexpected token ", found.describe, " after 'export'"]
  | .unexpectedEnd => "Unexpected end of input"
  | .unsupported construct => construct.message
  | .onlyAtTopLevel word => .join ["'", word.spelling, "' is only allowed at the top level"]
  | .missingInitializer name => .join ["Missing initializer in const declaration '", name, "'"]
  | .invalidLoopTarget => "Invalid left-hand side in for-in/for-of loop"
  | .invalidAssignmentTarget => "Invalid assignment target"
  | .invalidOperand spelling => .join ["Invalid operand for ", spelling.quoted]
  | .breakAfterThrow => "Illegal newline after 'throw'"
  | .missingHandler => "Missing catch or finally after try"
  | .unaryBeforePower => "Unary operator before '**' needs parentheses"
  | .mixedNullish => "'??' cannot be mixed with '||' or '&&' without parentheses"

end SyntaxFault

/-- Why a text is no module. -/
inductive SourceError where
  | lexical (position : Position) (fault : LexicalFault)
  | syntactic (position : Position) (fault : SyntaxFault)
  /-- An escape denotes a number that is far from every code point. -/
  | escapeOutOfRange
  /-- A numeric literal has digits that cannot be read as a number, or too many of them. -/
  | unreadableNumber (raw : Text)
  /-- The bound on nested constructs was reached. -/
  | exhausted
  deriving DecidableEq

namespace SourceError

def located (position : Position) (message : Text) : Text :=
  .join ["Line ", .ofNat position.line, ", column ", .ofNat position.column, ": ", message]

def message : SourceError → Text
  | .lexical position fault => located position fault.message
  | .syntactic position fault => located position fault.message
  | .escapeOutOfRange => "escape sequence out of range"
  | .unreadableNumber raw => .join ["unreadable number ", raw.quoted]
  | .exhausted => "constructs are nested too deeply"

end SourceError

end LibraryDescriptor
