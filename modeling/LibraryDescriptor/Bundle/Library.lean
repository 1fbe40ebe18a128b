import LibraryDescriptor.Bundle.Flatten
import LibraryDescriptor.Descriptor.Compile

/-!
# Libraries

A library is the text of the descriptor that is compiled from a bundle.
-/

namespace LibraryDescriptor

/-- A library with what is known about its symbols. -/
structure Library where
  code : Text
  table : SymbolTable
  graph : DependencyGraph

/-- Why there is no library. -/
inductive LibraryError where
  | bundle (cause : BundleError)
  /-- The text of the bundle is not a module. -/
  | source (cause : SourceError)
  | compile (cause : CompileError)
  /-- The descriptor has no source text. -/
  | print (cause : PrintError)
  deriving DecidableEq

def Library.ofSource [Serializer] (options : Options) (source : Text) :
    Except LibraryError Library := do
  let program ← (parse source).mapError .source
  let compiled ← (compile options program).mapError .compile
  let code ← compiled.descriptor.erase.print.mapError .print
  return ⟨code, compiled.table, compiled.graph⟩

def Environment.library [Serializer] (env : Environment) (options : Options) (entry : Text) :
    Except LibraryError Library := do
  let bundle ← (env.bundle entry).1.mapError .bundle
  Library.ofSource options bundle.code

end LibraryDescriptor
