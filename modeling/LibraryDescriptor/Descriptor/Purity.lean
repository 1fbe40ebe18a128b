import LibraryDescriptor.Descriptor.Fault
import LibraryDescriptor.Options
import LibraryDescriptor.Syntax.Occurrence

/-!
# Pure values and valid modules

A descriptor is a table of values, so each top-level statement has to be a declaration, and each
initializer a value that can be computed without side effects, unless it may be deferred.

* `Expression.isPure` — evaluation has no side effects.
* `Program.validate` — the first statement or initializer that stands against a descriptor.
-/

namespace LibraryDescriptor

variable {ν : Type}

/-! ## Pure values -/

mutual

/-- Whether an expression certainly has no side effects when it is evaluated. -/
def Expression.isPure : Expression ν → Bool
  | .literal _ _ | .this | .function _ _ _ => true
  | .unary _ argument => argument.isPure
  | .array elements => Expression.isPureElements elements
  | .object properties => Property.isPureList properties
  | .binary _ left right => left.isPure && right.isPure
  | .logical _ left right => left.isPure && right.isPure
  | .identifier _ | .arrow _ _ | .arrowBlock _ _ | .update _ _ _ | .assignment _ _ _
  | .conditional _ _ _ | .call _ _ | .new _ _ | .member _ _ _ | .sequence _ => false

def Expression.isPureElements : List (Option (Expression ν)) → Bool
  | [] => true
  | none :: es => Expression.isPureElements es
  | some e :: es => e.isPure && Expression.isPureElements es

def Property.isPureList : List (Property ν) → Bool
  | [] => true
  | .mk key value computed _ _ :: ps =>
    (value.isPure && (!computed || key.isPure)) && Property.isPureList ps

end

def Declarator.isPure : Declarator ν → Bool
  | .mk _ none => true
  | .mk _ (some init) => init.isPure

/-! ## Valid modules -/

/-- The declaration that a statement makes, exported or not. -/
def Statement.declared? : Statement ν → Option (Declaration ν)
  | .declaration value | .exportDeclaration value => some value
  | _ => none

def Declaration.declarators : Declaration ν → List (Declarator ν)
  | .function _ _ _ => []
  | .variables _ declarators => declarators

/-- Whether a statement can be part of a descriptor: a declaration, or a list of exports of the
module itself. -/
def Statement.isSupported : Statement ν → Bool
  | .declaration _ | .exportDeclaration _ | .exportList _ none => true
  | _ => false

def Statement.declarators (s : Statement ν) : List (Declarator ν) :=
  (s.declared?.map Declaration.declarators).getD []

def Declarator.validate [Serializer] (policy : InitializerPolicy) (d : Declarator Occurrence) :
    Except CompileError Unit :=
  if d.isPure || policy = .postset then .ok ()
  else do
    let excerpt ← Excerpt.ofDeclarator d.erase
    .error (.impureInitializer d.name.name excerpt)

def Statement.validate [Serializer] (policy : InitializerPolicy) (s : Statement Occurrence) :
    Except CompileError Unit :=
  if s.isSupported then s.declarators.forM (Declarator.validate policy)
  else do
    let excerpt ← Excerpt.ofStatement s.erase
    .error (.unsupportedStatement excerpt)

/-- Fails for the first statement or initializer that stands against a descriptor. -/
def Program.validate [Serializer] (policy : InitializerPolicy) (program : Program Occurrence) :
    Except CompileError Unit :=
  program.body.forM (Statement.validate policy)

end LibraryDescriptor
