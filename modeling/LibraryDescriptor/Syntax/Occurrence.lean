import LibraryDescriptor.Syntax.Tree

/-!
# Occurrences of names

In a tree under analysis each name knows which occurrence it is. Analyses speak of occurrences by
their sites, so that a renaming can change some occurrences of a name and leave others, and what an
analysis found out about a tree stays valid when parts of the tree move elsewhere.

* `Occurrence` — a name at its site.
* `Program.label` — a tree whose occurrences are numbered in the order of the source.
* `Renaming`, `Program.rename` — new names for some sites.
-/

namespace LibraryDescriptor

/-- The number of an occurrence. -/
abbrev Site := Nat

/-- A name at its site. A name that is not from a source text has none. -/
structure Occurrence where
  name : Text
  site : Option Site
  deriving DecidableEq

/-!
## Numbering

Each `label` gives the names in its part of a tree the next free sites, in the order of the source.
-/

/-- A numbering in progress; the state is the next free site. -/
abbrev Labeling (α : Type) := StateM Site α

def Occurrence.next (name : Text) : Labeling Occurrence := do
  let site ← get
  set (site + 1)
  return ⟨name, some site⟩

def Occurrence.nextList : List Text → Labeling (List Occurrence)
  | [] => return []
  | name :: names => do
    let occurrence ← Occurrence.next name
    let occurrences ← Occurrence.nextList names
    return occurrence :: occurrences

def Occurrence.nextOption : Option Text → Labeling (Option Occurrence)
  | none => return none
  | some name => do
    let occurrence ← Occurrence.next name
    return some occurrence

def ExportSpecifier.labelList :
    List (ExportSpecifier Text) → Labeling (List (ExportSpecifier Occurrence))
  | [] => return []
  | s :: ss => do
    let bound ← Occurrence.next s.bound
    let exported ← Occurrence.next s.exported
    let rest ← ExportSpecifier.labelList ss
    return ⟨bound, exported⟩ :: rest

def ImportSpecifier.labelList :
    List (ImportSpecifier Text) → Labeling (List (ImportSpecifier Occurrence))
  | [] => return []
  | s :: ss => do
    let imported ← Occurrence.next s.imported
    let bound ← Occurrence.next s.bound
    let rest ← ImportSpecifier.labelList ss
    return ⟨imported, bound⟩ :: rest

mutual

def Expression.label : Expression Text → Labeling (Expression Occurrence)
  | .identifier name => do return .identifier (← Occurrence.next name)
  | .literal value raw => return .literal value raw
  | .this => return .this
  | .array elements => do return .array (← Expression.labelElements elements)
  | .object properties => do return .object (← Property.labelList properties)
  | .function name params body => do
    let name ← Occurrence.nextOption name
    let params ← Occurrence.nextList params
    return .function name params (← Statement.labelList body)
  | .arrow params body => do
    let params ← Occurrence.nextList params
    return .arrow params (← body.label)
  | .arrowBlock params body => do
    let params ← Occurrence.nextList params
    return .arrowBlock params (← Statement.labelList body)
  | .unary op argument => do return .unary op (← argument.label)
  | .update op inFront argument => do return .update op inFront (← argument.label)
  | .binary op left right => do
    let left ← left.label
    return .binary op left (← right.label)
  | .logical op left right => do
    let left ← left.label
    return .logical op left (← right.label)
  | .assignment op left right => do
    let left ← left.label
    return .assignment op left (← right.label)
  | .conditional test consequent alternate => do
    let test ← test.label
    let consequent ← consequent.label
    return .conditional test consequent (← alternate.label)
  | .call callee arguments => do
    let callee ← callee.label
    return .call callee (← Expression.labelList arguments)
  | .new callee arguments => do
    let callee ← callee.label
    return .new callee (← Expression.labelList arguments)
  | .member object property computed => do
    let object ← object.label
    return .member object (← property.label) computed
  | .sequence expressions => do return .sequence (← Expression.labelList expressions)

def Expression.labelList : List (Expression Text) → Labeling (List (Expression Occurrence))
  | [] => return []
  | e :: es => do
    let e ← e.label
    return e :: (← Expression.labelList es)

def Expression.labelElements :
    List (Option (Expression Text)) → Labeling (List (Option (Expression Occurrence)))
  | [] => return []
  | none :: es => do return none :: (← Expression.labelElements es)
  | some e :: es => do
    let e ← e.label
    return some e :: (← Expression.labelElements es)

def Expression.labelOption :
    Option (Expression Text) → Labeling (Option (Expression Occurrence))
  | none => return none
  | some e => do return some (← e.label)

def Property.label : Property Text → Labeling (Property Occurrence)
  | .mk key value computed shorthand method => do
    let key ← key.label
    return .mk key (← value.label) computed shorthand method

def Property.labelList : List (Property Text) → Labeling (List (Property Occurrence))
  | [] => return []
  | p :: ps => do
    let p ← p.label
    return p :: (← Property.labelList ps)

def Declarator.label : Declarator Text → Labeling (Declarator Occurrence)
  | .mk name init => do
    let name ← Occurrence.next name
    return .mk name (← Expression.labelOption init)

def Declarator.labelList : List (Declarator Text) → Labeling (List (Declarator Occurrence))
  | [] => return []
  | d :: ds => do
    let d ← d.label
    return d :: (← Declarator.labelList ds)

def Declaration.label : Declaration Text → Labeling (Declaration Occurrence)
  | .function name params body => do
    let name ← Occurrence.next name
    let params ← Occurrence.nextList params
    return .function name params (← Statement.labelList body)
  | .variables kind declarators => do
    return .variables kind (← Declarator.labelList declarators)

def LoopHead.label : LoopHead Text → Labeling (LoopHead Occurrence)
  | .variables kind declarators => do
    return .variables kind (← Declarator.labelList declarators)
  | .expression value => do return .expression (← value.label)

def LoopHead.labelOption : Option (LoopHead Text) → Labeling (Option (LoopHead Occurrence))
  | none => return none
  | some head => do return some (← head.label)

def CatchClause.labelOption :
    Option (CatchClause Text) → Labeling (Option (CatchClause Occurrence))
  | none => return none
  | some (.mk param body) => do
    let param ← Occurrence.nextOption param
    return some (.mk param (← Statement.labelList body))

def SwitchCase.labelList : List (SwitchCase Text) → Labeling (List (SwitchCase Occurrence))
  | [] => return []
  | .mk test consequent :: cases => do
    let test ← Expression.labelOption test
    let consequent ← Statement.labelList consequent
    return .mk test consequent :: (← SwitchCase.labelList cases)

def Statement.label : Statement Text → Labeling (Statement Occurrence)
  | .declaration value => do return .declaration (← value.label)
  | .exportDeclaration value => do return .exportDeclaration (← value.label)
  | .exportList specifiers source => do
    return .exportList (← ExportSpecifier.labelList specifiers) source
  | .importList specifiers source => do
    return .importList (← ImportSpecifier.labelList specifiers) source
  | .expression value => do return .expression (← value.label)
  | .block body => do return .block (← Statement.labelList body)
  | .return argument => do return .return (← Expression.labelOption argument)
  | .if test consequent alternate => do
    let test ← test.label
    let consequent ← consequent.label
    return .if test consequent (← Statement.labelOption alternate)
  | .for init test update body => do
    let init ← LoopHead.labelOption init
    let test ← Expression.labelOption test
    let update ← Expression.labelOption update
    return .for init test update (← body.label)
  | .forIn left right body => do
    let left ← left.label
    let right ← right.label
    return .forIn left right (← body.label)
  | .forOf left right body => do
    let left ← left.label
    let right ← right.label
    return .forOf left right (← body.label)
  | .while test body => do
    let test ← test.label
    return .while test (← body.label)
  | .doWhile body test => do
    let body ← body.label
    return .doWhile body (← test.label)
  | .break => return .break
  | .continue => return .continue
  | .throw argument => do return .throw (← argument.label)
  | .try block handler finalizer => do
    let block ← Statement.labelList block
    let handler ← CatchClause.labelOption handler
    return .try block handler (← Statement.labelFinalizer finalizer)
  | .switch discriminant cases => do
    let discriminant ← discriminant.label
    return .switch discriminant (← SwitchCase.labelList cases)
  | .empty => return .empty

def Statement.labelList : List (Statement Text) → Labeling (List (Statement Occurrence))
  | [] => return []
  | s :: ss => do
    let s ← s.label
    return s :: (← Statement.labelList ss)

def Statement.labelOption : Option (Statement Text) → Labeling (Option (Statement Occurrence))
  | none => return none
  | some s => do return some (← s.label)

def Statement.labelFinalizer :
    Option (List (Statement Text)) → Labeling (Option (List (Statement Occurrence)))
  | none => return none
  | some body => do return some (← Statement.labelList body)

end

def Program.labelFrom (program : Program Text) : Labeling (Program Occurrence) := do
  return ⟨← Statement.labelList program.body⟩

/-- A module with its occurrences numbered in the order of the source. -/
def Program.label (program : Program Text) : Program Occurrence :=
  (program.labelFrom.run 0).1

/-- A module without the sites of its names. -/
def Program.erase (program : Program Occurrence) : Program Text := program.map Occurrence.name

def Statement.erase (s : Statement Occurrence) : Statement Text := s.map Occurrence.name

def Declarator.erase (d : Declarator Occurrence) : Declarator Text := d.map Occurrence.name

def Expression.erase (e : Expression Occurrence) : Expression Text := e.map Occurrence.name

/-! ## Renaming -/

/-- New names for some sites; of several for one site, the last holds. -/
abbrev Renaming := List (Site × Text)

namespace Renaming

def newName? (fresh : Renaming) (site : Site) : Option Text := fresh.reverse.lookup site

end Renaming

def Occurrence.rename (fresh : Renaming) (o : Occurrence) : Occurrence :=
  { o with name := (o.site.bind fresh.newName?).getD o.name }

/-- A module whose occurrences have their new names. -/
def Program.rename (fresh : Renaming) (program : Program Occurrence) : Program Occurrence :=
  program.map (·.rename fresh)

end LibraryDescriptor
