import LibraryDescriptor.Descriptor.Basic

/-!
# Compilation of a module

`compile` turns a module into its descriptor: the statements are checked, the exports resolved, the
names analyzed and renamed, and the declarations become entries.
-/

namespace LibraryDescriptor

/-- A descriptor with what is known about its symbols. -/
structure Compiled where
  descriptor : Program Occurrence
  table : SymbolTable
  graph : DependencyGraph

def compile [Serializer] (options : Options) (program : Program Text) :
    Except CompileError Compiled := do
  let program := program.label
  program.validate options.policy
  let (exports, program) ← program.resolveExports
  let analysis := program.analyze
  let table ← analysis.resolve exports options
  let renamed := program.rename (table.renaming analysis)
  let graph ← analysis.dependencies table
  let descriptor ← renamed.describe table graph options.policy
  return ⟨descriptor, table, graph⟩

end LibraryDescriptor
