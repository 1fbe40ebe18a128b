import LibraryDescriptor.Descriptor.Fault
import LibraryDescriptor.Syntax.Occurrence

/-!
# Exports

* `ExportMap` — the exported names of the symbols of a module.
* `Program.exportPairs` — the exports as the statements give them.
* `Program.resolveExports` — the map of a module, and the module without its export statements.
-/

namespace LibraryDescriptor

/-- The exported names of symbols, in the order of the exports. -/
abbrev ExportMap := List (Text × Text)

namespace ExportMap

def exported? (m : ExportMap) (name : Text) : Option Text := m.lookup name

def exporter? (m : ExportMap) (exported : Text) : Option Text :=
  (m.find? (·.2 = exported)).map (·.1)

/-- A map with one more export. Neither the symbol nor the exported name may be in it. -/
def register (m : ExportMap) (name exported : Text) : Except CompileError ExportMap :=
  match m.exported? name, m.exporter? exported with
  | some first, _ => .error (.collision (.exportedTwice name first exported))
  | none, some first => .error (.collision (.exportShared exported first name))
  | none, none => .ok (m ++ [(name, exported)])

def ofPairs (pairs : List (Text × Text)) : Except CompileError ExportMap :=
  pairs.foldlM (fun m (name, exported) => m.register name exported) []

/-- A map in which an export of a symbol takes the place of an earlier one. -/
def put : ExportMap → Text × Text → ExportMap
  | [], pair => [pair]
  | entry :: entries, pair =>
    if entry.1 = pair.1 then pair :: entries else entry :: put entries pair

end ExportMap

def Statement.exportPairs : Statement Occurrence → List (Text × Text)
  | .exportDeclaration value => value.names.map fun o => (o.name, o.name)
  | .exportList specifiers _ => specifiers.map fun s => (s.bound.name, s.exported.name)
  | _ => []

def Program.exportPairs (program : Program Occurrence) : List (Text × Text) :=
  program.body.flatMap Statement.exportPairs

def Statement.withoutExport? {ν : Type} : Statement ν → Option (Statement ν)
  | .exportDeclaration value => some (.declaration value)
  | .exportList _ _ => none
  | s => some s

/-- A module without its export statements; exported declarations stay. -/
def Program.withoutExports {ν : Type} (program : Program ν) : Program ν :=
  ⟨program.body.filterMap Statement.withoutExport?⟩

/-- The exports of a module, and the module without its export statements. -/
def Program.resolveExports (program : Program Occurrence) :
    Except CompileError (ExportMap × Program Occurrence) := do
  return (← ExportMap.ofPairs program.exportPairs, program.withoutExports)

end LibraryDescriptor
