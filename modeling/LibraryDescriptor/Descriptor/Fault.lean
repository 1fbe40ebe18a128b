import LibraryDescriptor.Printer.Basic
import LibraryDescriptor.Syntax.Description

/-!
# Why a module has no descriptor

* `Collision` — two symbols, or a symbol and another binding, would share a name.
* `Inconsistency` — a stage was given parts that do not belong together.
* `Excerpt` — the piece of the module that an error shows.
* `CompileError` — all of these, and `CompileError.message`.
-/

namespace LibraryDescriptor

inductive Collision where
  /-- A symbol is exported again. -/
  | exportedTwice (name first second : Text)
  /-- Two symbols are exported under one name. -/
  | exportShared (exported first second : Text)
  /-- A name is declared more than once at the top level. -/
  | declaredRepeatedly (name : Text) (count : Nat)
  /-- Two symbols get one key. -/
  | keyShared (first second key : Text)
  /-- Two symbols are referenced by one name. -/
  | referenceShared (first second reference : Text)
  /-- A symbol would be referenced by a name that means a global. -/
  | referenceGlobal (name reference : Text)
  /-- A reference would mean a binding around it. -/
  | captured (name : Text) (owner : Option Text) (reference : Text)
  deriving DecidableEq

/-- Parts that do not belong together. -/
inductive Inconsistency where
  /-- A symbol is a binding of another module. -/
  | importBinding (name : Text)
  /-- A reference is to a name that is no symbol. -/
  | unknownTarget (name : Text)
  /-- A table lacks a symbol. -/
  | notInTable (name : Text)
  /-- A statement of this kind cannot be an entry. -/
  | unexpectedStatement (kind : Text)
  /-- An initializer may have side effects, against the policy. -/
  | unexpectedInitializer (key : Text)
  deriving DecidableEq

/-- The piece of a module that an error shows. -/
structure Excerpt where
  /-- The piece as source text. -/
  source : Text
  /-- The text of its outline. -/
  description : Text
  deriving DecidableEq

/-- Why a module has no descriptor. -/
inductive CompileError where
  /-- A top-level statement declares nothing. -/
  | unsupportedStatement (excerpt : Excerpt)
  /-- The initializer of a variable may have side effects. -/
  | impureInitializer (name : Text) (excerpt : Excerpt)
  | collision (cause : Collision)
  /-- An export names nothing that is declared. -/
  | unresolvedExport (name : Text)
  | inconsistency (cause : Inconsistency)
  /-- A tree has no source text. -/
  | unprintable (cause : PrintError)
  /-- The serializer refuses a piece that is to be shown. -/
  | undescribable
  deriving DecidableEq

/-! ## Messages -/

open Text (inQuotes)

def Collision.message : Collision → Text
  | .exportedTwice name first second =>
    .join [inQuotes name, " is exported more than once (as ", inQuotes first, " and ",
      inQuotes second, ")"]
  | .exportShared exported first second =>
    .join ["Export name ", inQuotes exported, " is used by both ", inQuotes first, " and ",
      inQuotes second]
  | .declaredRepeatedly name count =>
    .join [inQuotes name, " is declared ", .ofNat count, " times at the top level"]
  | .keyShared first second key =>
    .join [inQuotes first, " and ", inQuotes second, " both map to the descriptor key ",
      inQuotes key]
  | .referenceShared first second reference =>
    .join [inQuotes first, " and ", inQuotes second, " are both referenced as ",
      inQuotes reference]
  | .referenceGlobal name reference =>
    .join [inQuotes name, " would be referenced as ", inQuotes reference,
      ", which the module already uses as a global"]
  | .captured name owner reference =>
    let place : Text :=
      match owner with
      | some owner => .join ["inside ", inQuotes owner]
      | none => "at the top level"
    .join ["Reference to ", inQuotes name, " ", place,
      " would be captured by a local binding named ", inQuotes reference]

def Inconsistency.message : Inconsistency → Text
  | .importBinding name => .join ["Import binding ", inQuotes name, " reached the renamer"]
  | .unknownTarget name => .join ["Reference to unknown module symbol ", inQuotes name]
  | .notInTable name => .join ["Symbol ", inQuotes name, " is not in the symbol table"]
  | .unexpectedStatement kind =>
    .join ["Unexpected top-level statement of kind ", inQuotes kind]
  | .unexpectedInitializer key =>
    .join ["Non-pure initializer of ", inQuotes key, " passed validation"]

def CompileError.message : CompileError → Text
  | .unsupportedStatement excerpt =>
    .join ["Unsupported top-level statement: ", excerpt.source]
  | .impureInitializer name excerpt =>
    .join ["Initializer of ", inQuotes name, " is not a pure value: ", excerpt.source]
  | .collision cause => cause.message
  | .unresolvedExport name =>
    .join ["Exported name ", inQuotes name, " is not declared at the top level"]
  | .inconsistency cause => cause.message
  | .unprintable _ => "The tree has no source text"
  | .undescribable => "The statement has no description"

/-! ## Excerpts -/

namespace Excerpt

def make [Serializer] (source : Except PrintError Text) (outline : Outline) :
    Except CompileError Excerpt := do
  let source ← source.mapError .unprintable
  match Serializer.describe? outline with
  | some description => return ⟨source, description⟩
  | none => throw .undescribable

def ofStatement [Serializer] (s : Statement Text) : Except CompileError Excerpt :=
  make s.print s.outline

def ofDeclarator [Serializer] (d : Declarator Text) : Except CompileError Excerpt :=
  make d.print d.outline

end Excerpt

end LibraryDescriptor
