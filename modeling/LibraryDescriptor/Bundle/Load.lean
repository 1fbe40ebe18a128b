import LibraryDescriptor.Bundle.Basic
import LibraryDescriptor.Parser.Module

/-!
# Loading modules

Modules are loaded depth first from an entry: a module comes after the modules it names.

* `Environment` — where modules come from: plugins in order, then the disk.
* `Loader` — a computation that keeps what it has loaded, also when it fails.
* `Environment.loadModule`, `Environment.loadEntry`.
-/

namespace LibraryDescriptor

/-- Where modules come from. -/
structure Environment where
  disk : Disk
  plugins : List Plugin

structure LoadState where
  /-- The questions to plugins, the latest first. -/
  calls : List HookCall
  /-- The modules, in the order of their completion. -/
  modules : List SourceModule
  /-- The first site that no module has. -/
  nextSite : Site

namespace LoadState

def initial : LoadState := ⟨[], [], 0⟩

def module? (s : LoadState) (id : ModuleId) : Option SourceModule :=
  s.modules.find? (·.id = id)

end LoadState

abbrev Loader := ExceptT BundleError (StateM LoadState)

/-! ## Plugins -/

/-- Asks plugins in order for the module of a specifier, up to the first that knows it. -/
def askResolve (specifier : Text) (importer : Option ModuleId) :
    List Plugin → List HookCall × Option ModuleId
  | [] => ([], none)
  | plugin :: plugins =>
    match plugin.resolve with
    | none => askResolve specifier importer plugins
    | some table =>
      match table.find? (·.fits specifier importer) with
      | some route =>
        ([.resolve plugin.name specifier importer (some route.target)], some route.target)
      | none =>
        let (calls, result) := askResolve specifier importer plugins
        (.resolve plugin.name specifier importer none :: calls, result)

/-- Asks plugins in order for the text of a module, up to the first that has it. -/
def askLoad (id : ModuleId) : List Plugin → List HookCall × Option Text
  | [] => ([], none)
  | plugin :: plugins =>
    match plugin.load with
    | none => askLoad id plugins
    | some table =>
      match table.lookup id with
      | some text => ([.load plugin.name id true], some text)
      | none =>
        let (calls, result) := askLoad id plugins
        (.load plugin.name id false :: calls, result)

/-! ## Loading -/

def Statement.specifier? {ν : Type} : Statement ν → Option Text
  | .importList _ source => source.moduleName?
  | .exportList _ source => source.bind Literal.moduleName?
  | _ => none

def isPathSpecifier (specifier : Text) : Bool :=
  specifier.startsWith "./" || specifier.startsWith "../" || specifier.startsWith "/"

/-- The module that a path means for a module that imports it. A path without an extension is that
of a script. -/
def importedPath (importer : ModuleId) (specifier : Text) : ModuleId :=
  let path := Path.normalize (Path.join (Path.directory importer) specifier)
  if Path.hasExtension path then path else path ++ Text.ofString ".js"

namespace Environment

/-- Keeps the questions that were asked. -/
def record (calls : List HookCall) : Loader Unit :=
  modify fun s => { s with calls := calls.reverse ++ s.calls }

/-- The module that a specifier means. Only the entry has no importer. -/
def resolve (env : Environment) (specifier : Text) (importer : Option ModuleId) :
    Loader ModuleId := do
  let (calls, result) := askResolve specifier importer env.plugins
  record calls
  match result, importer with
  | some id, _ => return id
  | none, none => return Path.absolute env.disk.currentPath specifier
  | none, some importer =>
    if isPathSpecifier specifier then return importedPath importer specifier
    else throw (.bareSpecifier specifier importer)

def text (env : Environment) (id : ModuleId) : Loader Text := do
  let (calls, result) := askLoad id env.plugins
  record calls
  match result with
  | some text => return text
  | none =>
    match env.disk.readText (Path.tidy id) with
    | .ok text => return text
    | .error cause => throw (.unreadable id cause)

def program (env : Environment) (id : ModuleId) : Loader (Program Occurrence) := do
  let source ← env.text id
  match parse source with
  | .error cause => throw (.invalid id cause)
  | .ok program =>
    let s ← get
    let (labeled, nextSite) := program.labelFrom.run s.nextSite
    set { s with nextSite }
    return labeled

/-- Keeps a module whose statements were resolved. -/
def complete (id : ModuleId) (items : List ModuleItem) : Loader Unit :=
  modify fun s =>
    let program : Program Occurrence := ⟨items.map ModuleItem.statement⟩
    { s with modules := s.modules ++ [⟨id, items, program.analyze⟩] }

/-- Loads a module and, before it is complete, the modules it names. The modules that are being
loaded are `active`, and at most `fuel` more may become so. -/
def loadModule (env : Environment) : Nat → List ModuleId → ModuleId → Loader Unit
  | 0, _, _ => throw .endless
  | fuel + 1, active, id => do
    if ((← get).module? id).isSome then return
    if active.contains id then throw (.circular id)
    let program ← env.program id
    let items ← program.body.mapM fun statement => do
      match statement.specifier? with
      | none => return (⟨statement, none⟩ : ModuleItem)
      | some specifier =>
        let source ← env.resolve specifier (some id)
        env.loadModule fuel (id :: active) source
        return ⟨statement, some source⟩
    complete id items

/-- A bound on the number of modules: those in tables, and the files under their two roots. -/
def moduleBound (env : Environment) : Nat :=
  env.plugins.foldl (fun n plugin => n + plugin.size) (2 * env.disk.fileCount)

def loadEntry (env : Environment) (entry : Text) : Loader ModuleId := do
  let id ← env.resolve entry none
  env.loadModule (env.moduleBound + 2) [] id
  return id

end Environment

end LibraryDescriptor
