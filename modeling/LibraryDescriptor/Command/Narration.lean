import LibraryDescriptor.Bundle.Library

/-!
# Narration

A verbose run tells what each stage has found, up to the stage that fails. The lines are derived
from the results of the stages, so that the stages themselves need not know of them.

* `narrateBundle` — the loaded modules and the bundle.
* `narrateCompile` — the stages of a compilation.
* `narrateLibrary` — both, one after the other.
-/

namespace LibraryDescriptor

namespace Command

open Text (inQuotes)

/-- The part of the program that a line is from. -/
inductive Subject where
  | scope | bundle | library | compile | validation | exports | symbols | dependencies | descriptor

def Subject.name : Subject → Text
  | .scope => "emlib.compiler.scope"
  | .bundle => "emlib.bundler.bundle"
  | .library => "emlib.library"
  | .compile => "emlib.compiler.transform"
  | .validation => "emlib.compiler.validation"
  | .exports => "emlib.compiler.exports"
  | .symbols => "emlib.compiler.renamer"
  | .dependencies => "emlib.compiler.dependencies"
  | .descriptor => "emlib.compiler.descriptor"

def line (subject : Subject) (parts : List Text) : Text :=
  .join ["DEBUG ", subject.name, ": ", .join parts, "\n"]

def count {α : Type} (items : List α) : Text := .ofNat items.length

def scopeLine (a : ScopeAnalysis) : Text :=
  line .scope ["Scope analysis found ", count a.symbols, " module symbols, ", count a.references,
    " references, ", count a.globals, " globals"]

/-! ## Bundles -/

def moduleLines (m : SourceModule) : List Text :=
  [scopeLine m.analysis,
    line .bundle ["Loaded module ", inQuotes m.id, " (", count m.items, " statements)"]]

def narrateBundle (result : Except BundleError Bundle) (state : LoadState) : List Text :=
  state.modules.flatMap moduleLines ++
    match result with
    | .error _ => []
    | .ok bundle =>
      [line .bundle ["Bundled ", count bundle.modules, " modules from ", inQuotes bundle.entry,
        " into ", count bundle.program.body, " statements"]]

/-! ## Compilation -/

def deferredLines (policy : InitializerPolicy) (program : Program Occurrence) : List Text :=
  if policy = .reject then []
  else
    let declarators := (program.body.takeWhile Statement.isSupported).flatMap Statement.declarators
    (declarators.filter fun d => !d.isPure).map fun d =>
      line .validation ["Deferring impure initializer of ", inQuotes d.name.name,
        " to a postset entry"]

def descriptorLines (options : Options) (program : Program Occurrence) (analysis : ScopeAnalysis)
    (table : SymbolTable) : List Text :=
  match analysis.dependencies table with
  | .error _ => []
  | .ok graph =>
    line .dependencies ["Dependency graph has ", .ofNat graph.edgeCount, " edges"] ::
      match (program.rename (table.renaming analysis)).entries table options.policy with
      | .error _ => []
      | .ok entries =>
        [line .descriptor ["Descriptor has ", count entries, " entries and ",
          count (table.dependencyEntries graph), " dependency lists"]]

def symbolLines (options : Options) (exports : ExportMap) (program : Program Occurrence) :
    List Text :=
  let analysis := program.analyze
  scopeLine analysis ::
    match analysis.resolve exports options with
    | .error _ => []
    | .ok table =>
      line .symbols ["Renamed ", count table.symbols, " symbols (",
        count (table.symbols.filter (·.visibility = .exported)), " public) in ",
        count program.body, " top-level statements"] ::
        descriptorLines options program analysis table

def narrateCompile [Serializer] (options : Options) (program : Program Text) : List Text :=
  let program := program.label
  line .compile ["Transforming ", count program.body, " top-level statements with prefix ",
    inQuotes options.localPrefix] ::
    deferredLines options.policy program ++
    match program.validate options.policy with
    | .error _ => []
    | .ok () =>
      line .validation ["Validated ", count program.body, " top-level statements"] ::
        match program.resolveExports with
        | .error _ => []
        | .ok (exports, program) =>
          line .exports ["Resolved ", count exports, " exports"] ::
            symbolLines options exports program

def narrateLibrary [Serializer] (env : Environment) (options : Options) (entry : Text) :
    List Text :=
  let (result, state) := env.bundle entry
  narrateBundle result state ++
    match result with
    | .error _ => []
    | .ok bundle =>
      line .library ["Bundled ", inQuotes entry, " into ", count bundle.code, " characters"] ::
        match parse bundle.code with
        | .error _ => []
        | .ok program => narrateCompile options program

def writtenLine (path code : Text) : Text :=
  line .library ["Wrote ", count code, " characters to ", inQuotes path]

end Command

end LibraryDescriptor
