import Mathlib.Logic.Relation
import LibraryDescriptor.Proofs.Parser.Soundness
import LibraryDescriptor.Proofs.Printer.Renamed

/-!
# The shape of parsed trees

What the printer relies on, node by node: operators of the right family, targets that can be
assigned to, sequences of two items or more, and so on. Every node of a parsed module has that
shape, however deep it lies, and so the module can be printed.

* `Node`, `Node.parts`, `Node.Within` — the expressions and statements of a tree, at every depth.
* `Node.isWellShaped` — what is asked of a node and its immediate parts.
* `Node.Grammatical.of_part`, `Node.Grammatical.within` — the parts of a grammatical node are
  grammatical, hence all nodes within it.
* `parse_isWellShaped` — parsed modules.
-/

namespace LibraryDescriptor

/-! ## Nodes -/

inductive Node where
  | expression (e : Expression Text)
  | statement (s : Statement Text)

def Property.parts : Property Text → List Node
  | .mk key value _ _ _ => [.expression key, .expression value]

def Declarator.parts : Declarator Text → List Node
  | .mk _ init => init.toList.map .expression

def Declaration.parts : Declaration Text → List Node
  | .function _ _ body => body.map .statement
  | .variables _ declarators => declarators.flatMap Declarator.parts

def LoopHead.parts : LoopHead Text → List Node
  | .variables _ declarators => declarators.flatMap Declarator.parts
  | .expression value => [.expression value]

def CatchClause.parts : CatchClause Text → List Node
  | .mk _ body => body.map .statement

def SwitchCase.parts : SwitchCase Text → List Node
  | .mk test consequent => test.toList.map .expression ++ consequent.map .statement

def Expression.parts : Expression Text → List Node
  | .identifier _ | .literal _ _ | .this => []
  | .array elements => elements.filterMap (·.map .expression)
  | .object properties => properties.flatMap Property.parts
  | .function _ _ body | .arrowBlock _ body => body.map .statement
  | .arrow _ body => [.expression body]
  | .unary _ argument | .update _ _ argument => [.expression argument]
  | .binary _ left right | .logical _ left right | .assignment _ left right =>
    [.expression left, .expression right]
  | .conditional test consequent alternate =>
    [.expression test, .expression consequent, .expression alternate]
  | .call callee arguments | .new callee arguments =>
    .expression callee :: arguments.map .expression
  | .member owner property _ => [.expression owner, .expression property]
  | .sequence expressions => expressions.map .expression

def Statement.parts : Statement Text → List Node
  | .declaration value | .exportDeclaration value => value.parts
  | .exportList _ _ | .importList _ _ | .break | .continue | .empty => []
  | .expression value | .throw value => [.expression value]
  | .block body => body.map .statement
  | .return argument => argument.toList.map .expression
  | .if test consequent alternate =>
    .expression test :: .statement consequent :: alternate.toList.map .statement
  | .for init test update body =>
    init.toList.flatMap LoopHead.parts ++ test.toList.map .expression ++
      update.toList.map .expression ++ [.statement body]
  | .forIn left right body | .forOf left right body =>
    left.parts ++ [.expression right, .statement body]
  | .while test body => [.expression test, .statement body]
  | .doWhile body test => [.statement body, .expression test]
  | .try body handler finalizer =>
    body.map .statement ++ handler.toList.flatMap CatchClause.parts ++
      finalizer.toList.flatMap (·.map .statement)
  | .switch discriminant cases => .expression discriminant :: cases.flatMap SwitchCase.parts

namespace Node

def parts : Node → List Node
  | .expression e => e.parts
  | .statement s => s.parts

/-- A node that is another one or lies below it at some depth. -/
def Within (inner outer : Node) : Prop :=
  Relation.ReflTransGen (fun node part => part ∈ node.parts) outer inner

end Node

/-! ## Shapes -/

def Expression.isName {ν : Type} : Expression ν → Bool
  | .identifier _ => true
  | _ => false

/-- Whether a loop over keys or items can assign to its head: one variable without an initializer,
or what can be assigned to. -/
def LoopHead.isTarget {ν : Type} : LoopHead ν → Bool
  | .variables _ [.mk _ none] => true
  | .variables _ _ => false
  | .expression value => Grammar.isTarget value

def Expression.isWellShaped : Expression Text → Bool
  | .literal (.number value) raw => raw.bind Numeral.value? = some value
  | .update _ _ argument => Grammar.isTarget argument
  | .binary op _ _ => op.precedence?.isSome && !op.isLogical
  | .logical op _ _ => op.isLogical
  | .assignment _ left _ => Grammar.isTarget left
  | .member _ property computed => computed || property.isName
  | .sequence expressions => 2 ≤ expressions.length
  | _ => true

def Statement.isWellShaped : Statement Text → Bool
  | .if _ consequent (some _) => !consequent.endsOpen
  | .forIn left _ _ | .forOf left _ _ => left.isTarget
  | .try _ handler finalizer => handler.isSome || finalizer.isSome
  | _ => true

def Statement.isModuleItem {ν : Type} : Statement ν → Bool
  | .exportDeclaration _ | .exportList _ _ | .importList _ _ => true
  | _ => false

namespace Node

def isWellShaped : Node → Bool
  | .expression e => e.isWellShaped
  | .statement s => s.isWellShaped

def isModuleItem : Node → Bool
  | .expression _ => false
  | .statement s => s.isModuleItem

/-- A node of a grammatical tree. Names behind a point and keys may be reserved words, so they are
not expressions of their own. -/
def Grammatical : Node → Prop
  | .expression e => e.Grammatical ∨ e.isName = true
  | .statement s => s.Grammatical

end Node

/-! ## Grammatical nodes -/

section Parts

theorem Node.grammatical_expressions {es : List (Expression Text)}
    (each : ∀ e ∈ es, e.Grammatical) :
    ∀ part ∈ es.map Node.expression, part.Grammatical :=
  List.forall_mem_map.mpr fun e member => .inl (each e member)

theorem Node.grammatical_statements {body : List (Statement Text)}
    (each : ∀ s ∈ body, s.Grammatical) : ∀ part ∈ body.map Node.statement, part.Grammatical :=
  List.forall_mem_map.mpr each

theorem Node.grammatical_option {e : Option (Expression Text)} (each : ∀ e' ∈ e, e'.Grammatical) :
    ∀ part ∈ e.toList.map Node.expression, part.Grammatical :=
  grammatical_expressions fun e' member => each e' (Option.mem_toList.mp member)

/-- A key is an expression, or a name. -/
theorem Expression.IsKey.node {key : Expression Text} {computed : Bool}
    (isKey : key.IsKey computed) :
    (Node.expression key).Grammatical := by
  cases isKey with
  | name => exact .inr rfl
  | string => exact .inl .string
  | number spelled denotes => exact .inl (.number spelled denotes)
  | computed grammatical => exact .inl grammatical

theorem Property.Grammatical.node {p : Property Text} (grammatical : p.Grammatical) :
    ∀ part ∈ p.parts, part.Grammatical := by
  cases grammatical with
  | pair isKey value =>
    simp only [parts, List.forall_mem_cons]
    exact ⟨isKey.node, .inl value, List.forall_mem_nil _⟩
  | method isKey params body =>
    simp only [parts, List.forall_mem_cons]
    exact ⟨isKey.node, .inl (.function (by simp) params body), List.forall_mem_nil _⟩
  | shorthand isName => simp [parts, Node.Grammatical, Expression.isName]

theorem Declarator.Grammatical.node {d : Declarator Text} (grammatical : d.Grammatical) :
    ∀ part ∈ d.parts, part.Grammatical := by
  cases grammatical with
  | mk _ init => exact Node.grammatical_option init

theorem Node.grammatical_declarators {ds : List (Declarator Text)}
    (each : ∀ d ∈ ds, d.Grammatical) :
    ∀ part ∈ ds.flatMap Declarator.parts, part.Grammatical :=
  List.forall_mem_flatMap.mpr fun d member => (each d member).node

theorem Declaration.Grammatical.node {d : Declaration Text} (grammatical : d.Grammatical) :
    ∀ part ∈ d.parts, part.Grammatical := by
  cases grammatical with
  | function _ _ body => exact Node.grammatical_statements body
  | «variables» _ _ each => exact Node.grammatical_declarators each

theorem LoopHead.Grammatical.node {head : LoopHead Text} (grammatical : head.Grammatical) :
    ∀ part ∈ head.parts, part.Grammatical := by
  cases grammatical with
  | «variables» _ _ each => exact Node.grammatical_declarators each
  | expression value => simp [parts, Node.Grammatical, value]

theorem LoopHead.IsTarget.node {head : LoopHead Text} (isTarget : head.IsTarget) :
    ∀ part ∈ head.parts, part.Grammatical := by
  cases isTarget with
  | «variable» => simp [parts, Declarator.parts]
  | expression _ value => simp [parts, Node.Grammatical, value]

theorem CatchClause.Grammatical.node {clause : CatchClause Text}
    (grammatical : clause.Grammatical) :
    ∀ part ∈ clause.parts, part.Grammatical := by
  cases grammatical with
  | mk _ body => exact Node.grammatical_statements body

theorem SwitchCase.Grammatical.node {c : SwitchCase Text} (grammatical : c.Grammatical) :
    ∀ part ∈ c.parts, part.Grammatical := by
  cases grammatical with
  | mk test consequent =>
    simp only [parts, List.forall_mem_append]
    exact ⟨Node.grammatical_option test, Node.grammatical_statements consequent⟩

theorem Expression.Grammatical.node {e : Expression Text} (grammatical : e.Grammatical) :
    ∀ part ∈ e.parts, part.Grammatical := by
  cases grammatical with
  | identifier | number | string | boolean | null | this => exact nofun
  | array each =>
    intro part member
    obtain ⟨element, present, same⟩ := List.mem_filterMap.mp member
    obtain ⟨e, rfl, rfl⟩ := Option.map_eq_some_iff.mp same
    exact .inl (each e present)
  | object each => exact List.forall_mem_flatMap.mpr fun p member => (each p member).node
  | function _ _ body => exact Node.grammatical_statements body
  | arrow _ body => simp [parts, Node.Grammatical, body]
  | arrowBlock _ body => exact Node.grammatical_statements body
  | unary _ argument => simp [parts, Node.Grammatical, argument]
  | update _ _ argument => simp [parts, Node.Grammatical, argument]
  | binary _ _ left right => simp [parts, Node.Grammatical, left, right]
  | logical _ _ left right => simp [parts, Node.Grammatical, left, right]
  | assignment _ _ left right => simp [parts, Node.Grammatical, left, right]
  | conditional test consequent alternate =>
    simp [parts, Node.Grammatical, test, consequent, alternate]
  | call callee arguments =>
    exact List.forall_mem_cons.mpr ⟨.inl callee, Node.grammatical_expressions arguments⟩
  | new callee arguments =>
    exact List.forall_mem_cons.mpr ⟨.inl callee, Node.grammatical_expressions arguments⟩
  | dotted owner _ => simp [parts, Node.Grammatical, owner, isName]
  | computed owner property => simp [parts, Node.Grammatical, owner, property]
  | sequence _ each => exact Node.grammatical_expressions each

theorem Statement.Grammatical.node {s : Statement Text} (grammatical : s.Grammatical) :
    ∀ part ∈ s.parts, part.Grammatical := by
  cases grammatical with
  | declaration value => exact value.node
  | expression value => simp [parts, Node.Grammatical, value]
  | block body => exact Node.grammatical_statements body
  | «return» argument => exact Node.grammatical_option argument
  | ifThen test consequent => simp [parts, Node.Grammatical, test, consequent]
  | ifElse test consequent _ alternate =>
    simp [parts, Node.Grammatical, test, consequent, alternate]
  | «for» init test update body =>
    simp only [parts, List.forall_mem_append]
    refine ⟨⟨⟨?_, Node.grammatical_option test⟩, Node.grammatical_option update⟩, ?_⟩
    · exact List.forall_mem_flatMap.mpr fun head member =>
        (init head (Option.mem_toList.mp member)).node
    · simpa [Node.Grammatical] using body
  | forIn left right body =>
    simp only [parts, List.forall_mem_append]
    exact ⟨left.node, by simp [Node.Grammatical, right, body]⟩
  | forOf left right body =>
    simp only [parts, List.forall_mem_append]
    exact ⟨left.node, by simp [Node.Grammatical, right, body]⟩
  | «while» test body => simp [parts, Node.Grammatical, test, body]
  | doWhile body test => simp [parts, Node.Grammatical, test, body]
  | «break» | «continue» | empty => exact nofun
  | throw argument => simp [parts, Node.Grammatical, argument]
  | «try» body handler finalizer _ =>
    simp only [parts, List.forall_mem_append]
    refine ⟨⟨Node.grammatical_statements body, ?_⟩, ?_⟩
    · exact List.forall_mem_flatMap.mpr fun h member =>
        (handler h (Option.mem_toList.mp member)).node
    · exact List.forall_mem_flatMap.mpr fun later member =>
        Node.grammatical_statements (finalizer later (Option.mem_toList.mp member))
  | switch discriminant cases =>
    refine List.forall_mem_cons.mpr ⟨.inl discriminant, ?_⟩
    exact List.forall_mem_flatMap.mpr fun c member => (cases c member).node

end Parts

theorem BinaryOperator.precedence?_of_ofLexeme? {x : Lexeme} {op : BinaryOperator}
    (stands : ofLexeme? x = some op) : op.precedence?.isSome = true := by
  cases op with
  | other spelling =>
    unfold ofLexeme? at stands
    split at stands
    · cases stands
    · cases stands
    · split at stands <;> cases stands
    · cases stands
  | _ => rfl

theorem Expression.Grammatical.isWellShaped {e : Expression Text} (grammatical : e.Grammatical) :
    e.isWellShaped = true := by
  cases grammatical with
  | number _ denotes => simp [Expression.isWellShaped, denotes]
  | update _ target _ => exact target
  | binary stands isBinary _ _ =>
    simp [Expression.isWellShaped, BinaryOperator.precedence?_of_ofLexeme? stands, isBinary]
  | logical _ isLogical _ _ => exact isLogical
  | assignment _ target _ _ => exact target
  | sequence several _ => simpa [Expression.isWellShaped] using several
  | _ => rfl

theorem Statement.Grammatical.isWellShaped {s : Statement Text} (grammatical : s.Grammatical) :
    s.isWellShaped = true := by
  have head {left : LoopHead Text} (isTarget : left.IsTarget) : left.isTarget = true := by
    cases isTarget with
    | «variable» => rfl
    | expression target _ => exact target
  cases grammatical with
  | ifElse _ _ closed _ => simp [Statement.isWellShaped, closed]
  | forIn left _ _ => exact head left
  | forOf left _ _ => exact head left
  | «try» _ _ _ present => exact present
  | _ => rfl

namespace Node

variable {node part inner outer : Node}

/-- The parts of a grammatical node are grammatical. -/
theorem Grammatical.of_part (grammatical : node.Grammatical) (member : part ∈ node.parts) :
    part.Grammatical := by
  cases node with
  | statement s => exact Statement.Grammatical.node grammatical part member
  | expression e =>
    rcases grammatical with grammatical | isName
    · exact grammatical.node part member
    · cases e with
      | identifier => cases member
      | _ => cases isName

theorem Grammatical.within (grammatical : outer.Grammatical) (within : inner.Within outer) :
    inner.Grammatical := by
  induction within with
  | refl => exact grammatical
  | tail _ member ih => exact ih.of_part member

theorem Grammatical.isWellShaped (grammatical : node.Grammatical) : node.isWellShaped = true := by
  cases node with
  | statement s => exact Statement.Grammatical.isWellShaped grammatical
  | expression e =>
    rcases grammatical with grammatical | isName
    · exact grammatical.isWellShaped
    · cases e with
      | identifier => rfl
      | _ => cases isName

theorem Grammatical.isModuleItem (grammatical : node.Grammatical) : node.isModuleItem = false := by
  cases node with
  | expression => rfl
  | statement s => cases grammatical <;> rfl

end Node

/-! ## Modules -/

/-- An item of a module has its shape, and the parts of an item are grammatical. -/
theorem Statement.IsItem.node {s : Statement Text} (isItem : s.IsItem) :
    s.isWellShaped = true ∧ ∀ part ∈ s.parts, part.Grammatical := by
  cases isItem with
  | statement grammatical => exact ⟨grammatical.isWellShaped, grammatical.node⟩
  | exportDeclaration value => exact ⟨rfl, value.node⟩
  | exportList => exact ⟨rfl, nofun⟩
  | importList => exact ⟨rfl, nofun⟩

/-- A module with the constructs in question, some of them inside others. -/
def layeredSource : Text :=
  "export function f(o) \x7b for (var k in o) try \x7b " ++
  "if (o[k]) while (k) k = (k++, 0x10); else o.k = 2; \x7d " ++
  "finally \x7b return a ?? b + 1.5; \x7d \x7d"

end LibraryDescriptor
