import LibraryDescriptor.Bundle.Link

/-!
# Names in a bundle

Every declaration gets a name that no other declaration of the bundle has. The declarations of the
entry keep their names; any other one avoids the names that are taken, the globals of all modules,
and the names that are bound around its references.

* `freeName` — the first name of the sequence `n`, `n$1`, `n$2`, … that is not to be avoided.
* `FinalNames.assign` — the names of all declarations.
-/

namespace LibraryDescriptor

/-- The names that a declaration may get, by preference. -/
def candidateName (name : Text) : Nat → Text
  | 0 => name
  | suffix + 1 => .join [name, "$", .ofNat (suffix + 1)]

/-- The first candidate that is not to be avoided. One of them is always left, as there are more
candidates than names to avoid. -/
def freeName (name : Text) (avoid : List Text) : Text :=
  candidateName name
    (((List.range (avoid.length + 1)).find? fun k => !avoid.contains (candidateName name k)).getD 0)

abbrev FinalNames := List (Origin × Text)

def LinkedModule.declarations (m : LinkedModule) : List Origin :=
  (m.module.analysis.symbols.filter (·.kind ≠ .imported)).map fun s => ⟨m.id, s.name⟩

def LinkedModule.namesAround (m : LinkedModule) (origin : Origin) : List Text :=
  (m.module.analysis.references.filter fun r => m.origin? r.symbol = some origin).flatMap
    Reference.shadowed

def namesAround (modules : List LinkedModule) (origin : Origin) : List Text :=
  modules.flatMap (·.namesAround origin)

namespace FinalNames

def get? (names : FinalNames) (origin : Origin) : Option Text := names.lookup origin

def taken (names : FinalNames) : List Text := names.map (·.2)

def ofEntry (entry : LinkedModule) : FinalNames :=
  entry.declarations.map fun origin => (origin, origin.name)

def add (modules : List LinkedModule) (globals : List Text) (names : FinalNames)
    (origin : Origin) : FinalNames :=
  names ++
    [(origin, freeName origin.name (names.taken ++ globals ++ namesAround modules origin))]

def assign (modules : List LinkedModule) (entry : ModuleId) : FinalNames :=
  let globals := modules.flatMap (·.module.analysis.globals)
  let (first, others) := modules.partition (·.id = entry)
  (others.flatMap LinkedModule.declarations).foldl (add modules globals)
    (first.flatMap ofEntry)

end FinalNames

end LibraryDescriptor
