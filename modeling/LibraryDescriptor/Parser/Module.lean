import LibraryDescriptor.Parser.Grammar

/-!
# The grammar of modules

`parse` reads a whole text as a module: imports, exports and statements up to the end.
-/

namespace LibraryDescriptor

namespace Grammar

open LibraryDescriptor.Parser

def importItems : Nat → Parser (List (ImportSpecifier Text))
  | 0 => throw .exhausted
  | depth + 1 => do
    if ← accept .braceClose then return []
    let imported ← expectPropertyName
    if imported = "default" then fail (.unsupported .defaultImports)
    let bound ← if ← acceptContextual "as" then expectIdentifier else pure imported
    unless ← isMark .braceClose do expect .comma
    return ⟨imported, bound⟩ :: (← importItems depth)

def importDeclaration (depth : Nat) : Parser (Statement Text) := do
  expectWord .import
  match ← current? with
  | some (.string source) => do
    advance
    endStatement
    return .importList [] (.string source)
  | some (.punctuator .star) => fail (.unsupported .namespaceImports)
  | some (.punctuator .braceOpen) => do
    advance
    let items ← importItems depth
    expectContextual "from"
    let source ← expectString
    endStatement
    return .importList items (.string source)
  | _ => fail (.unsupported .defaultImports)

def exportItems : Nat → Parser (List (ExportSpecifier Text))
  | 0 => throw .exhausted
  | depth + 1 => do
    if ← accept .braceClose then return []
    let bound ← expectPropertyName
    let exported ← if ← acceptContextual "as" then expectPropertyName else pure bound
    if exported = "default" then fail (.unsupported .defaultExports)
    unless ← isMark .braceClose do expect .comma
    return ⟨bound, exported⟩ :: (← exportItems depth)

def exportDeclaration (depth : Nat) : Parser (Statement Text) := do
  expectWord .export
  match ← current? with
  | some (.keyword .default) => fail (.unsupported .defaultExports)
  | some (.punctuator .star) => fail (.unsupported .exportAll)
  | some (.keyword .function) => return .exportDeclaration (← functionDeclaration depth)
  | some (.keyword .var) => return .exportDeclaration (← variableDeclaration depth .var)
  | some (.keyword .let) => return .exportDeclaration (← variableDeclaration depth .let)
  | some (.keyword .const) => return .exportDeclaration (← variableDeclaration depth .const)
  | some (.punctuator .braceOpen) => do
    advance
    let items ← exportItems depth
    let source ←
      if ← acceptContextual "from" then do
        let source ← expectString
        pure (some (Literal.string source))
      else pure none
    endStatement
    return .exportList items source
  | _ => failFound .unexpectedAfterExport

def moduleItem (depth : Nat) : Parser (Statement Text) := do
  match ← current? with
  | some (.keyword .import) => importDeclaration depth
  | some (.keyword .export) => exportDeclaration depth
  | _ => statement depth

def moduleItems : Nat → Parser (List (Statement Text))
  | 0 => throw .exhausted
  | depth + 1 => do
    if ← atEnd then return []
    let item ← moduleItem depth
    return item :: (← moduleItems depth)

def module (tokens : Tokens) : Except SourceError (Program Text) := do
  let (body, _) ← (moduleItems (depthBound tokens)).run tokens
  return ⟨body⟩

end Grammar

def parse (source : Text) : Except SourceError (Program Text) := do
  Grammar.module (← scan source)

end LibraryDescriptor
