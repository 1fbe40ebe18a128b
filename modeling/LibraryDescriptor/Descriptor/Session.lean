import LibraryDescriptor.Descriptor.Compile
import LibraryDescriptor.Parser.Module

/-!
# Sessions

A session runs the stages of a compilation one by one. What a stage gives is kept in a register,
from which later stages take it.

Sites are never used twice in a session, and a new name reaches an occurrence in every program that
it has got into. A stage writes as it goes: what it has written when it fails stays written.

* `Step`, `Answer`, `Session`.
* `Stage` — a computation that reads and writes registers.
* `Session.run`, `Session.perform`.
-/

namespace LibraryDescriptor

abbrev RegisterName := Text

inductive Register where
  | program (value : Program Occurrence)
  | analysis (value : ScopeAnalysis)
  | exports (value : ExportMap)
  | table (value : SymbolTable)
  | graph (value : DependencyGraph)

namespace Register

def program? : Register → Option (Program Occurrence)
  | .program value => some value
  | _ => none

def analysis? : Register → Option ScopeAnalysis
  | .analysis value => some value
  | _ => none

def exports? : Register → Option ExportMap
  | .exports value => some value
  | _ => none

def table? : Register → Option SymbolTable
  | .table value => some value
  | _ => none

/-- The graph of a register. Exports that are given serve as one, too: a name depends on the names
of one character that its exported name is made of. -/
def graph? : Register → Option DependencyGraph
  | .graph value => some value
  | .exports value => some (value.map fun (name, exported) => (name, exported.map ([·])))
  | _ => none

def rename (fresh : Renaming) : Register → Register
  | .program value => .program (value.rename fresh)
  | other => other

end Register

/-- One stage, with the registers it reads and the register it writes. -/
inductive Step where
  | parse (source : Text) (target : RegisterName)
  | print (program : RegisterName)
  | validate (program : RegisterName) (policy : InitializerPolicy)
  /-- Takes the export statements out of a program. -/
  | resolveExports (program target : RegisterName)
  /-- Exports that are given, not taken from a program. -/
  | exports (pairs : List (Text × Text)) (target : RegisterName)
  | analyze (program target : RegisterName)
  /-- An analysis without some of its symbols. -/
  | drop (analysis : RegisterName) (names : List Text) (target : RegisterName)
  | rename (program analysis exports : RegisterName) (settings : Settings) (target : RegisterName)
  | lookup (table : RegisterName) (name : Text)
  | emptyTable (target : RegisterName)
  | dependencies (analysis table target : RegisterName)
  | describe (program table graph : RegisterName) (settings : Settings) (target : RegisterName)

/-- Why a step failed. -/
inductive StepError where
  /-- A register that the step reads holds nothing of use. -/
  | noRegister
  | source (cause : SourceError)
  | print (cause : PrintError)
  | compile (cause : CompileError)
  | settings (issues : Issues)

/-- What a step shows. -/
inductive Answer where
  | done
  | text (value : Text)
  | exports (value : ExportMap)
  | analysis (value : ScopeAnalysis)
  | table (value : SymbolTable)
  /-- The symbol of a name and the symbol of a key, if there are any. -/
  | symbols (named keyed : Option ResolvedSymbol)
  | graph (value : DependencyGraph)

/-- A session between two steps. -/
structure Session where
  /-- The registers; of two with one name the first holds. -/
  registers : List (RegisterName × Register)
  /-- The first site that no program has. -/
  nextSite : Site

namespace Session

def initial : Session := ⟨[], 0⟩

def store (s : Session) (name : RegisterName) (value : Register) : Session :=
  { s with registers := (name, value) :: s.registers.filter (·.1 ≠ name) }

def rename (s : Session) (fresh : Renaming) : Session :=
  { s with registers := s.registers.map fun (name, value) => (name, value.rename fresh) }

end Session

/-! ## Stages -/

/-- A computation that reads and writes registers; what it has written when it fails stays. -/
abbrev Stage (α : Type) := ExceptT StepError (StateM Session) α

namespace Stage

variable {ε α : Type}

/-- A computation that has nothing to do with the registers. -/
def lift (cause : ε → StepError) (x : Except ε α) : Stage α := .mk (pure (x.mapError cause))

/-- The value of a register, seen as a value of one sort. -/
def read (view? : Register → Option α) (name : RegisterName) : Stage α := do
  match ((← get).registers.lookup name).bind view? with
  | some value => return value
  | none => throw .noRegister

def keep (name : RegisterName) (value : Register) : Stage Unit := modify (·.store name value)

/-- A module with its occurrences at sites that no program has. -/
def label (program : Program Text) : Stage (Program Occurrence) :=
  modifyGet fun s =>
    let (labeled, nextSite) := program.labelFrom.run s.nextSite
    (labeled, { s with nextSite })

def target (table : SymbolTable) (name : Text) : Stage ResolvedSymbol :=
  match table.get? name with
  | some symbol => return symbol
  | none => throw (.compile (.inconsistency (.notInTable name)))

def write (o : Occurrence) (name : Text) : Stage Unit :=
  match o.site with
  | some site => modify (·.rename [(site, name)])
  | none => return

/-- Gives the declarations and the references that an analysis has recorded their new names, one
after the other. -/
def writeNames (table : SymbolTable) (a : ScopeAnalysis) : Stage Unit := do
  a.symbols.forM fun s => s.definitions.forM fun d => do
    write d.occurrence (← target table s.name).key
  a.references.forM fun r => do
    write r.occurrence (← target table r.symbol).reference

end Stage

namespace Session

open Stage

def run [Serializer] : Step → Stage Answer
  | .parse source target => do
    let program ← lift .source (parse source)
    keep target (.program (← label program))
    return .done
  | .print program => do
    let program ← read Register.program? program
    return .text (← lift .print program.erase.print)
  | .validate program policy => do
    let program ← read Register.program? program
    lift .compile (program.validate policy)
    return .done
  | .resolveExports program target => do
    let value ← read Register.program? program
    let (exports, rest) ← lift .compile value.resolveExports
    keep program (.program rest)
    keep target (.exports exports)
    return .exports exports
  | .exports pairs target => do
    keep target (.exports (pairs.foldl ExportMap.put []))
    return .done
  | .analyze program target => do
    let program ← read Register.program? program
    keep target (.analysis program.analyze)
    return .analysis program.analyze
  | .drop analysis names target => do
    let value ← read Register.analysis? analysis
    let symbols := value.symbols.filter fun symbol => !names.contains symbol.name
    keep target (.analysis { value with symbols })
    return .done
  | .rename program analysis exports settings target => do
    let _ ← read Register.program? program
    let analysis ← read Register.analysis? analysis
    let exports ← read Register.exports? exports
    let options ← lift .settings (Options.ofSettings settings)
    let table ← lift .compile (analysis.resolve exports options)
    writeNames table analysis
    keep target (.table table)
    return .table table
  | .lookup table name => do
    let table ← read Register.table? table
    return .symbols (table.get? name) (table.byKey? name)
  | .emptyTable target => do
    keep target (.table .empty)
    return .done
  | .dependencies analysis table target => do
    let analysis ← read Register.analysis? analysis
    let table ← read Register.table? table
    let graph ← lift .compile (analysis.dependencies table)
    keep target (.graph graph)
    return .graph graph
  | .describe program table graph settings target => do
    let program ← read Register.program? program
    let table ← read Register.table? table
    let graph ← read Register.graph? graph
    let options ← lift .settings (Options.ofSettings settings)
    let descriptor ← lift .compile (program.describe table graph options.policy)
    let text ← lift .print descriptor.erase.print
    keep target (.program descriptor)
    return .text text

/-- Runs steps one after the other, whether or not they fail. -/
def perform [Serializer] : List Step → StateM Session (List (Except StepError Answer))
  | [] => return []
  | step :: steps => do
    let answer ← (run step).run
    return answer :: (← perform steps)

def runAll [Serializer] (s : Session) (steps : List Step) : List (Except StepError Answer) :=
  ((perform steps).run s).1

end Session

end LibraryDescriptor
