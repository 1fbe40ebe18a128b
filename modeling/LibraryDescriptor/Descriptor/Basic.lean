import LibraryDescriptor.Descriptor.Dependency
import LibraryDescriptor.Descriptor.Purity

/-!
# Descriptors

A descriptor is one statement that adds entries to the library of the runtime:

    Object.assign(LibraryManager.library, {
        key: value,
        key__postset: 'key = value',
        key__deps: ['dep']
    });

* `Program.entries` — the entries of the declarations.
* `SymbolTable.dependencyEntries` — the lists of dependencies.
* `Program.describe` — the descriptor.
-/

namespace LibraryDescriptor

namespace Occurrence

/-- A name that is not from a source text. -/
def new (name : Text) : Occurrence := ⟨name, none⟩

end Occurrence

namespace Descriptor

/-- What follows a key in the key of its dependencies. -/
def depsSuffix : Text := "__deps"

/-- What follows a key in the key of its deferred assignment. -/
def postsetSuffix : Text := "__postset"

def voidZero : Expression Occurrence :=
  .unary .void (.literal (.number (.integer 0)) (some "0"))

def nameExpression (name : Text) : Expression Occurrence := .identifier (.new name)

def stringExpression (value : Text) : Expression Occurrence := .literal (.string value) none

def entry (key : Text) (value : Expression Occurrence) : Property Occurrence :=
  .mk (nameExpression key) value false false false

def ofEntries (entries : List (Property Occurrence)) : Program Occurrence :=
  ⟨[.expression (.call
    (.member (nameExpression "Object") (nameExpression "assign") false)
    [.member (nameExpression "LibraryManager") (nameExpression "library") false,
      .object entries])]⟩

end Descriptor

open Descriptor

/-- The entries of a variable. An impure initializer is deferred: the entry is `void 0`, and a
second one has the text of the assignment. -/
def Declarator.entries (table : SymbolTable) (policy : InitializerPolicy)
    (d : Declarator Occurrence) : Except CompileError (List (Property Occurrence)) := do
  let key := d.name.name
  match d.init with
  | none => return [entry key voidZero]
  | some init =>
    if init.isPure then return [entry key init]
    if policy ≠ .postset then throw (.inconsistency (.unexpectedInitializer key))
    match table.byKey? key with
    | none => throw (.inconsistency (.notInTable key))
    | some s =>
      let assignment := Expression.assignment .assign (nameExpression s.reference) init
      let text ← assignment.erase.print.mapError .unprintable
      return [entry key voidZero, entry (key ++ postsetSuffix) (stringExpression text)]

def Statement.entries (table : SymbolTable) (policy : InitializerPolicy) :
    Statement Occurrence → Except CompileError (List (Property Occurrence))
  | .declaration (.function name params body) =>
    .ok [entry name.name (.function none params body)]
  | .declaration (.variables _ declarators) => do
    return (← declarators.mapM (Declarator.entries table policy)).flatten
  | s => .error (.inconsistency (.unexpectedStatement s.erase.kind))

def Program.entries (table : SymbolTable) (policy : InitializerPolicy)
    (program : Program Occurrence) : Except CompileError (List (Property Occurrence)) := do
  return (← program.body.mapM (Statement.entries table policy)).flatten

def SymbolTable.dependencyEntries (table : SymbolTable) (graph : DependencyGraph) :
    List (Property Occurrence) :=
  table.symbols.filterMap fun s =>
    match graph.dependenciesOf s.key with
    | [] => none
    | keys =>
      some (entry (s.key ++ depsSuffix) (.array (keys.map fun key => some (stringExpression key))))

/-- The descriptor of a module whose occurrences have their new names. -/
def Program.describe (table : SymbolTable) (graph : DependencyGraph) (policy : InitializerPolicy)
    (program : Program Occurrence) : Except CompileError (Program Occurrence) := do
  let entries ← program.entries table policy
  return Descriptor.ofEntries (entries ++ table.dependencyEntries graph)

end LibraryDescriptor
