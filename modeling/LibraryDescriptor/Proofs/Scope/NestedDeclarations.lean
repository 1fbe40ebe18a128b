import LibraryDescriptor.Parser.Module
import LibraryDescriptor.Proofs.Scope.Sites
import LibraryDescriptor.Proofs.Success
import Mathlib.Logic.Relation

/-!
# Nested declarations

The walk over a module, visit by visit, and what is bound where a nested declaration is visited. The
names of a scope are taken from lists of statements before the walk, so a function, `let` or `const`
declaration that is the whole body of an `if` statement or of a loop is bound by no scope.

* `Visit`, `Visit.next` — a place of the walk with the scopes around it, and where the walk goes
  from there; `Visit.uses_eq` — the uses of a visit are its own and those of the visits it goes to.
* `Program.Visits` — the visits of a module.
* `Visit.Housed` — the names that a visit declares, or leaves to a scope around it, are bound;
  `Visit.Housed.next` — a step of the walk keeps this, `Program.Visits.housed` — the whole walk
  does.
* `visited_declaration_bound` — a nested declaration is bound by a scope around it or is one of the
  module, unless it is such a body.
* `bareSource_escapes` — a use next to such a body that means a global.
-/

namespace LibraryDescriptor

/-! ## Visits -/

/-- A place of the walk over a module, with the names of the scopes inside the module around it. -/
inductive Visit where
  | expression (e : Expression Occurrence) (scopes : List (List Text))
  /-- A statement; it is `alone` if it is the whole body of an `if` statement or of a loop. -/
  | statement (s : Statement Occurrence) (scopes : List (List Text)) (alone : Bool)
  | head (h : LoopHead Occurrence) (scopes : List (List Text))

def blockVisits (body : List (Statement Occurrence)) (scopes : List (List Text)) : List Visit :=
  body.map fun s => .statement s scopes false

def scopedVisits (body : List (Statement Occurrence)) (scopes : List (List Text)) : List Visit :=
  blockVisits body (lexicalNames body :: scopes)

def expressionVisits (es : List (Expression Occurrence)) (scopes : List (List Text)) : List Visit :=
  es.map fun e => .expression e scopes

def declaratorVisits (ds : List (Declarator Occurrence)) (scopes : List (List Text)) : List Visit :=
  ds.flatMap fun d => expressionVisits d.init.toList scopes

def propertyVisits (scopes : List (List Text)) : Property Occurrence → List Visit
  | .mk key value computed _ _ =>
    expressionVisits (if computed then [key, value] else [value]) scopes

def handlerVisits (scopes : List (List Text)) : CatchClause Occurrence → List Visit
  | .mk param body => scopedVisits body ((param.map (·.name)).toList :: scopes)

def caseVisits (scopes : List (List Text)) : SwitchCase Occurrence → List Visit
  | .mk test consequent => expressionVisits test.toList scopes ++ blockVisits consequent scopes

def Declaration.visits (scopes : List (List Text)) : Declaration Occurrence → List Visit
  | .function _ params body =>
    blockVisits body ((headNames none params false ++ bodyNames body) :: scopes)
  | .variables _ declarators => declaratorVisits declarators scopes

def Expression.visits (scopes : List (List Text)) : Expression Occurrence → List Visit
  | .identifier _ | .literal _ _ | .this => []
  | .array elements => expressionVisits elements.reduceOption scopes
  | .object properties => properties.flatMap (propertyVisits scopes)
  | .function name params body =>
    blockVisits body ((headNames name params false ++ bodyNames body) :: scopes)
  | .arrow params body => [.expression body (headNames none params true :: scopes)]
  | .arrowBlock params body =>
    blockVisits body ((headNames none params true ++ bodyNames body) :: scopes)
  | .unary _ argument | .update _ _ argument => [.expression argument scopes]
  | .binary _ left right | .logical _ left right | .assignment _ left right =>
    expressionVisits [left, right] scopes
  | .conditional test consequent alternate => expressionVisits [test, consequent, alternate] scopes
  | .call callee arguments | .new callee arguments => expressionVisits (callee :: arguments) scopes
  | .member owner property computed =>
    expressionVisits (if computed then [owner, property] else [owner]) scopes
  | .sequence expressions => expressionVisits expressions scopes

/-- The visits inside a statement. The test of a loop comes before its body. -/
def Statement.visits (scopes : List (List Text)) : Statement Occurrence → List Visit
  | .declaration value => value.visits scopes
  | .exportDeclaration _ | .exportList _ _ | .importList _ _ | .break | .continue | .empty => []
  | .expression value | .throw value => [.expression value scopes]
  | .block body => scopedVisits body scopes
  | .return argument => expressionVisits argument.toList scopes
  | .if test consequent alternate =>
    .expression test scopes :: .statement consequent scopes true ::
      alternate.toList.map fun s => .statement s scopes true
  | .for init test update body =>
    let inner := (init.elim [] LoopHead.scopes) ++ scopes
    init.toList.map (fun h => .head h inner) ++
      expressionVisits (test.toList ++ update.toList) inner ++
      [.statement body inner true]
  | .forIn left right body | .forOf left right body =>
    let inner := left.scopes ++ scopes
    [.head left inner, .expression right inner, .statement body inner true]
  | .while test body | .doWhile body test => [.expression test scopes, .statement body scopes true]
  | .try body handler finalizer =>
    scopedVisits body scopes ++ handler.toList.flatMap (handlerVisits scopes) ++
      finalizer.toList.flatMap (scopedVisits · scopes)
  | .switch discriminant cases =>
    .expression discriminant scopes :: cases.flatMap (caseVisits (caseNames cases :: scopes))

namespace Visit

def scopes : Visit → List (List Text)
  | .expression _ scopes | .statement _ scopes _ | .head _ scopes => scopes

/-- Where the walk goes from a visit, in order. -/
def next : Visit → List Visit
  | .expression e scopes => e.visits scopes
  | .statement s scopes _ => s.visits scopes
  | .head (.variables _ declarators) scopes => declaratorVisits declarators scopes
  | .head (.expression value) scopes => [.expression value scopes]

/-- The walk comes from one visit to another. -/
def Reaches : Visit → Visit → Prop := Relation.ReflTransGen fun v w => w ∈ v.next

def uses : Visit → List Use
  | .expression e scopes => e.uses scopes
  | .statement s scopes _ => s.uses scopes
  | .head h scopes => h.uses scopes

def use? : Visit → Option Use
  | .expression (.identifier name) scopes => some ⟨name, scopes⟩
  | _ => none

def declared : Visit → List Occurrence
  | .statement (.declaration value) _ _ => value.names
  | .head (.variables _ declarators) _ => declarators.map Declarator.name
  | _ => []

/-- Whether a visit is a function, `let` or `const` declaration that is the whole body of an `if`
statement or of a loop. -/
def isBare : Visit → Bool
  | .statement s _ alone => alone && !s.lexicals.isEmpty
  | _ => false

end Visit

/-! ## The walk goes from visit to visit -/

section Uses

variable (scopes : List (List Text))

theorem Statement.usesList_eq (ss : List (Statement Occurrence)) :
    Statement.usesList ss scopes = (blockVisits ss scopes).flatMap Visit.uses := by
  induction ss with
  | nil => rfl
  | cons s ss ih => rw [Statement.usesList, ih]; rfl

theorem Expression.usesList_eq (es : List (Expression Occurrence)) :
    Expression.usesList es scopes = (expressionVisits es scopes).flatMap Visit.uses := by
  induction es with
  | nil => rfl
  | cons e es ih => rw [Expression.usesList, ih]; rfl

theorem Expression.usesElements_eq (es : List (Option (Expression Occurrence))) :
    Expression.usesElements es scopes =
      (expressionVisits es.reduceOption scopes).flatMap Visit.uses := by
  induction es with
  | nil => rfl
  | cons e es ih =>
    cases e with
    | none => rw [Expression.usesElements, ih]; rfl
    | some e => rw [Expression.usesElements, ih]; rfl

theorem Expression.usesOption_eq (e : Option (Expression Occurrence)) :
    Expression.usesOption e scopes = (expressionVisits e.toList scopes).flatMap Visit.uses := by
  cases e with
  | none => rfl
  | some e => exact (List.append_nil _).symm

theorem Property.usesList_eq (ps : List (Property Occurrence)) :
    Property.usesList ps scopes = (ps.flatMap (propertyVisits scopes)).flatMap Visit.uses := by
  induction ps with
  | nil => rfl
  | cons p ps ih =>
    obtain ⟨key, value, computed, _, _⟩ := p
    rw [Property.usesList, ih, List.flatMap_cons, List.flatMap_append]
    cases computed <;> simp [propertyVisits, expressionVisits, Visit.uses]

theorem Declarator.usesList_eq (ds : List (Declarator Occurrence)) :
    Declarator.usesList ds scopes = (declaratorVisits ds scopes).flatMap Visit.uses := by
  induction ds with
  | nil => rfl
  | cons d ds ih =>
    obtain ⟨name, init⟩ := d
    rw [Declarator.usesList, ih, Expression.usesOption_eq, ← List.flatMap_append]
    rfl

theorem SwitchCase.usesList_eq (cases : List (SwitchCase Occurrence)) :
    SwitchCase.usesList cases scopes = (cases.flatMap (caseVisits scopes)).flatMap Visit.uses := by
  induction cases with
  | nil => rfl
  | cons c cs ih =>
    obtain ⟨test, consequent⟩ := c
    rw [SwitchCase.usesList, ih, Expression.usesOption_eq, Statement.usesList_eq,
      List.flatMap_cons, caseVisits, List.flatMap_append, List.flatMap_append]

theorem Declaration.uses_eq (d : Declaration Occurrence) :
    d.uses scopes = (d.visits scopes).flatMap Visit.uses := by
  cases d with
  | function => exact Statement.usesList_eq _ _
  | «variables» => exact Declarator.usesList_eq _ _

theorem LoopHead.uses_eq (h : LoopHead Occurrence) :
    h.uses scopes = (Visit.head h scopes).next.flatMap Visit.uses := by
  cases h with
  | expression value => exact (List.append_nil _).symm
  | «variables» => exact Declarator.usesList_eq _ _

theorem Expression.uses_eq (e : Expression Occurrence) :
    e.uses scopes = (Visit.expression e scopes).use?.toList ++
      (e.visits scopes).flatMap Visit.uses := by
  cases e with
  | identifier | literal | this => rfl
  | array => exact Expression.usesElements_eq _ _
  | object => exact Property.usesList_eq _ _
  | function | arrowBlock => exact Statement.usesList_eq _ _
  | sequence => exact Expression.usesList_eq _ _
  | arrow | unary | update | binary | logical | assignment | conditional =>
    simp [Expression.uses, Expression.visits, expressionVisits, Visit.use?, Visit.uses]
  | call | new =>
    simp [Expression.uses, Expression.usesList_eq, Expression.visits, expressionVisits, Visit.use?,
      Visit.uses]
  | member _ _ computed =>
    cases computed <;>
      simp [Expression.uses, Expression.visits, expressionVisits, Visit.use?, Visit.uses]

theorem Statement.uses_eq (s : Statement Occurrence) :
    s.uses scopes = (s.visits scopes).flatMap Visit.uses := by
  cases s with
  | declaration value => exact value.uses_eq scopes
  | exportDeclaration | exportList | importList | «break» | «continue» | empty => rfl
  | expression | throw => exact (List.append_nil _).symm
  | block => exact Statement.usesList_eq _ _
  | «return» => exact Expression.usesOption_eq _ _
  | «if» test consequent alternate =>
    cases alternate <;>
      simp [Statement.uses, Statement.usesOption, Statement.visits, Visit.uses]
  | «for» init test update body =>
    cases init <;> cases test <;> cases update <;>
      simp [Statement.uses, Expression.usesOption, Statement.visits, expressionVisits, Visit.uses]
  | forIn | forOf | «while» | doWhile => simp [Statement.uses, Statement.visits, Visit.uses]
  | «try» body handler finalizer =>
    have handled : CatchClause.usesOption handler scopes =
        (handler.toList.flatMap (handlerVisits scopes)).flatMap Visit.uses := by
      match handler with
      | none => rfl
      | some (.mk param body) =>
        rw [Option.toList_some, List.flatMap_singleton]
        exact Statement.usesList_eq _ _
    have finalized : Statement.usesFinalizer finalizer scopes =
        (finalizer.toList.flatMap (scopedVisits · scopes)).flatMap Visit.uses := by
      match finalizer with
      | none => rfl
      | some body =>
        rw [Option.toList_some, List.flatMap_singleton]
        exact Statement.usesList_eq _ _
    rw [Statement.uses, Statement.usesList_eq, handled, finalized, Statement.visits,
      List.flatMap_append, List.flatMap_append]
    rfl
  | switch discriminant cases =>
    rw [Statement.uses, SwitchCase.usesList_eq]
    rfl

end Uses

/-- The walk finds at a visit the use that it is, then goes on. -/
theorem Visit.uses_eq (v : Visit) : v.uses = v.use?.toList ++ v.next.flatMap Visit.uses := by
  cases v with
  | expression e scopes => exact e.uses_eq scopes
  | statement s scopes alone => exact s.uses_eq scopes
  | head h scopes => exact h.uses_eq scopes

/-! ## The walk over a module -/

/-- The first visits of a module item. The names that it declares itself are those of the module. -/
def Statement.itemVisits : Statement Occurrence → List Visit
  | .declaration value | .exportDeclaration value => value.visits []
  | .exportList _ _ | .importList _ _ => []
  | s => [.statement s [] false]

/-- The walk over a module comes to a visit. -/
def Program.Visits (program : Program Occurrence) (v : Visit) : Prop :=
  ∃ s ∈ program.body, ∃ root ∈ s.itemVisits, root.Reaches v

def Visit.below : Nat → Visit → List Visit
  | 0, v => [v]
  | steps + 1, v => v :: v.next.flatMap (Visit.below steps)

/-- The visits of a module at most so many steps below the first ones. -/
def Program.visitsBelow (program : Program Occurrence) (steps : Nat) : List Visit :=
  program.body.flatMap fun s => s.itemVisits.flatMap (Visit.below steps)

theorem Visit.reaches_of_below {steps : Nat} {root v : Visit} (member : v ∈ root.below steps) :
    root.Reaches v := by
  induction steps generalizing root with
  | zero => exact List.mem_singleton.mp member ▸ .refl
  | succ steps ih =>
    rcases List.mem_cons.mp member with rfl | further
    · exact .refl
    · obtain ⟨w, step, inside⟩ := List.mem_flatMap.mp further
      exact .head step (ih inside)

theorem Program.Visits.of_below {program : Program Occurrence} {steps : Nat} {v : Visit}
    (member : v ∈ program.visitsBelow steps) : program.Visits v := by
  obtain ⟨s, s_member, inside⟩ := List.mem_flatMap.mp member
  obtain ⟨root, root_member, inside⟩ := List.mem_flatMap.mp inside
  exact ⟨s, s_member, root, root_member, Visit.reaches_of_below inside⟩

theorem Declaration.ownedUses_uses (d : Declaration Occurrence) :
    d.ownedUses.map OwnedUse.use = d.uses [] := by
  cases d with
  | function name params body =>
    rw [Declaration.ownedUses, List.map_map]
    exact List.map_id _
  | «variables» kind declarators =>
    rw [Declaration.ownedUses, Declaration.uses]
    induction declarators with
    | nil => rfl
    | cons d ds ih =>
      obtain ⟨name, init⟩ := d
      rw [List.flatMap_cons, List.map_append, ih, Declarator.usesList, List.map_map]
      exact congrArg (· ++ _) (List.map_id _)

theorem sublist_flatMap_of_mem {α β : Type} {f : α → List β} {l : List α} {a : α} (member : a ∈ l) :
    (f a).Sublist (l.flatMap f) :=
  List.sublist_flatten_of_mem (List.mem_map_of_mem member)

theorem Visit.uses_of_step {v w : Visit} (step : w ∈ v.next) : w.uses.Sublist v.uses := by
  rw [v.uses_eq]
  exact (sublist_flatMap_of_mem step).trans (List.sublist_append_right _ _)

/-- The analysis of a module item, other than a list of its own exports, starts from what the walk
finds. -/
theorem Statement.ownedUses_uses (s : Statement Occurrence) :
    (∃ specifiers, s = .exportList specifiers none) ∨
      s.ownedUses.map OwnedUse.use = s.itemVisits.flatMap Visit.uses := by
  cases s with
  | exportList specifiers source =>
    cases source with
    | none => exact .inl ⟨specifiers, rfl⟩
    | some => exact .inr rfl
  | declaration value | exportDeclaration value =>
    refine .inr ?_
    rw [Statement.ownedUses, value.ownedUses_uses, value.uses_eq]
    rfl
  | importList => exact .inr rfl
  | _ =>
    refine .inr ?_
    simp [Statement.ownedUses, Statement.itemVisits, Visit.uses, Function.comp_def]

/-- What the walk finds is what the analysis of a module starts from, in the same order. -/
theorem Program.Visits.uses_sublist {program : Program Occurrence} {v : Visit}
    (visited : program.Visits v) : v.uses.Sublist (program.ownedUses.map OwnedUse.use) := by
  obtain ⟨s, s_member, root, root_member, reached⟩ := visited
  have below : v.uses.Sublist root.uses := by
    induction reached with
    | refl => exact .refl _
    | tail _ step ih => exact (Visit.uses_of_step step).trans ih
  have item : (s.itemVisits.flatMap Visit.uses).Sublist (s.ownedUses.map OwnedUse.use) := by
    rcases s.ownedUses_uses with ⟨specifiers, rfl⟩ | same
    · exact List.nil_sublist _
    · rw [same]
  exact (below.trans (sublist_flatMap_of_mem root_member)).trans
    (item.trans ((sublist_flatMap_of_mem s_member).map _))

theorem Program.Visits.uses_subset {program : Program Occurrence} {v : Visit}
    (visited : program.Visits v) : v.uses ⊆ program.ownedUses.map OwnedUse.use :=
  visited.uses_sublist.subset

/-! ## Names are bound before they are visited -/

/-- A name is bound in scopes, or is one that the module declares. -/
def Occurrence.Settled (program : Program Occurrence) (scopes : List (List Text)) (o : Occurrence) :
    Prop :=
  o.name ∈ scopes.flatten ∨ o ∈ program.definitions.map Definition.occurrence

/-- The scopes around a visit bind what it leaves to a function around it, and what it leaves to a
block around it if it stands in a block. -/
def Visit.Housed (program : Program Occurrence) : Visit → Prop
  | .expression _ _ => True
  | .statement s scopes alone =>
    (∀ o ∈ s.vars, o.Settled program scopes) ∧
      (alone = false → ∀ o ∈ s.lexicals, o.name ∈ scopes.flatten)
  | .head h scopes =>
    (∀ o ∈ h.vars, o.Settled program scopes) ∧ ∀ o ∈ h.lexicals, o.name ∈ scopes.flatten

section Housed

variable {program : Program Occurrence} {scopes : List (List Text)}

theorem Occurrence.Settled.mono {o : Occurrence} (settled : o.Settled program scopes)
    (more : List (List Text)) : o.Settled program (more ++ scopes) :=
  settled.imp_left fun bound => by
    rw [List.flatten_append]
    exact List.mem_append_right _ bound

theorem expressionVisits_housed {es : List (Expression Occurrence)} :
    ∀ w ∈ expressionVisits es scopes, w.Housed program := by
  intro w member
  obtain ⟨_, -, rfl⟩ := List.mem_map.mp member
  trivial

theorem declaratorVisits_housed {ds : List (Declarator Occurrence)} :
    ∀ w ∈ declaratorVisits ds scopes, w.Housed program := by
  intro w member
  obtain ⟨_, -, inside⟩ := List.mem_flatMap.mp member
  exact expressionVisits_housed w inside

theorem mem_varsList {ν : Type} {body : List (Statement ν)} {o : ν} :
    o ∈ Statement.varsList body ↔ ∃ s ∈ body, o ∈ s.vars := by
  induction body with
  | nil => simp [Statement.varsList]
  | cons s ss ih => simp [Statement.varsList, ih]

theorem mem_caseVars {ν : Type} {cases : List (SwitchCase ν)} {o : ν} :
    o ∈ SwitchCase.varsList cases ↔
      ∃ c ∈ cases, match c with | .mk _ consequent => o ∈ Statement.varsList consequent := by
  induction cases with
  | nil => simp [SwitchCase.varsList]
  | cons c cs ih =>
    obtain ⟨test, consequent⟩ := c
    simp [SwitchCase.varsList, ih]

/-- Statements of one block are housed if the scopes bind all that the block declares. -/
theorem blockVisits_housed {body : List (Statement Occurrence)}
    (vars : ∀ o ∈ Statement.varsList body, o.Settled program scopes)
    (lexicals : ∀ o ∈ Statement.lexicalsList body, o.name ∈ scopes.flatten) :
    ∀ w ∈ blockVisits body scopes, w.Housed program := by
  intro w member
  obtain ⟨s, s_member, rfl⟩ := List.mem_map.mp member
  exact ⟨fun o inside => vars o (mem_varsList.mpr ⟨s, s_member, inside⟩),
    fun _ o inside => lexicals o (List.mem_flatMap.mpr ⟨s, s_member, inside⟩)⟩

/-- A block with a scope of its own houses its statements. -/
theorem scopedVisits_housed {body : List (Statement Occurrence)}
    (vars : ∀ o ∈ Statement.varsList body, o.Settled program scopes) :
    ∀ w ∈ scopedVisits body scopes, w.Housed program := by
  refine blockVisits_housed (fun o member => (vars o member).mono [_]) fun o member => ?_
  rw [lexicalNames_eq, List.flatten_cons]
  exact List.mem_append_left _ (List.mem_map_of_mem member)

/-- A function houses the statements of its body, whatever is around it. -/
theorem functionVisits_housed (head : List Text) (body : List (Statement Occurrence)) :
    ∀ w ∈ blockVisits body ((head ++ bodyNames body) :: scopes), w.Housed program := by
  have bound : ∀ o ∈ Statement.varsList body ++ Statement.lexicalsList body,
      o.name ∈ ((head ++ bodyNames body) :: scopes).flatten := by
    intro o member
    rw [bodyNames_eq, List.flatten_cons]
    exact List.mem_append_left _ (List.mem_append_right _ (List.mem_map_of_mem member))
  obtain ⟨vars, lexicals⟩ := List.forall_mem_append.mp bound
  exact blockVisits_housed (fun o member => .inl (vars o member)) lexicals

theorem LoopHead.lexicals_bound (h : LoopHead Occurrence) :
    ∀ o ∈ h.lexicals, o.name ∈ (h.scopes ++ scopes).flatten := by
  intro o member
  rcases h.scopes_eq with ⟨-, none⟩ | one
  · rw [none] at member
    cases member
  · rw [one, List.flatten_append, List.flatten_singleton]
    exact List.mem_append_left _ (List.mem_map_of_mem member)

/-- A statement that stands alone only has to have its variables bound. -/
theorem Visit.housed_alone {s : Statement Occurrence}
    (vars : ∀ o ∈ s.vars, o.Settled program scopes) :
    (Visit.statement s scopes true).Housed program :=
  ⟨vars, nofun⟩

theorem Declaration.visits_housed (d : Declaration Occurrence) :
    ∀ w ∈ d.visits scopes, w.Housed program := by
  cases d with
  | function => exact functionVisits_housed _ _
  | «variables» => exact declaratorVisits_housed

theorem Expression.visits_housed (e : Expression Occurrence) :
    ∀ w ∈ e.visits scopes, w.Housed program := by
  cases e with
  | identifier | literal | this => exact nofun
  | function | arrowBlock => exact functionVisits_housed _ _
  | object properties =>
    intro w member
    obtain ⟨⟨key, value, computed, _, _⟩, -, inside⟩ := List.mem_flatMap.mp member
    exact expressionVisits_housed w inside
  | arrow | unary | update => exact List.forall_mem_singleton.mpr trivial
  | array | binary | logical | assignment | conditional | call | new | member | sequence =>
    exact expressionVisits_housed

/-- A loop houses what it visits, if the scopes around it bind the variables of its head and of its
body. -/
theorem loopVisits_housed {h : LoopHead Occurrence} {body : Statement Occurrence}
    (head_vars : ∀ o ∈ h.vars, o.Settled program scopes)
    (body_vars : ∀ o ∈ body.vars, o.Settled program scopes) :
    (Visit.head h (h.scopes ++ scopes)).Housed program ∧
      (Visit.statement body (h.scopes ++ scopes) true).Housed program :=
  ⟨⟨fun o member => (head_vars o member).mono _, h.lexicals_bound⟩,
    Visit.housed_alone fun o member => (body_vars o member).mono _⟩

theorem Statement.visits_housed (s : Statement Occurrence)
    (vars : ∀ o ∈ s.vars, o.Settled program scopes) :
    ∀ w ∈ s.visits scopes, w.Housed program := by
  cases s with
  | declaration value => exact value.visits_housed
  | exportDeclaration | exportList | importList | «break» | «continue» | empty => exact nofun
  | expression | throw => exact List.forall_mem_singleton.mpr trivial
  | «return» => exact expressionVisits_housed
  | block => exact scopedVisits_housed vars
  | «if» test consequent alternate =>
    obtain ⟨first, second⟩ := List.forall_mem_append.mp vars
    refine List.forall_mem_cons.mpr ⟨trivial, List.forall_mem_cons.mpr
      ⟨Visit.housed_alone first, fun w member => ?_⟩⟩
    obtain ⟨s, s_member, rfl⟩ := List.mem_map.mp member
    obtain rfl := Option.mem_toList.mp s_member
    exact Visit.housed_alone second
  | «for» init test update body =>
    obtain ⟨head_vars, body_vars⟩ := List.forall_mem_append.mp vars
    cases init with
    | none =>
      refine List.forall_mem_append.mpr ⟨expressionVisits_housed, ?_⟩
      exact List.forall_mem_singleton.mpr (Visit.housed_alone body_vars)
    | some h =>
      obtain ⟨head_housed, body_housed⟩ := loopVisits_housed head_vars body_vars
      refine List.forall_mem_append.mpr ⟨List.forall_mem_append.mpr
        ⟨List.forall_mem_singleton.mpr head_housed, expressionVisits_housed⟩, ?_⟩
      exact List.forall_mem_singleton.mpr body_housed
  | forIn left right body | forOf left right body =>
    obtain ⟨head_vars, body_vars⟩ := List.forall_mem_append.mp vars
    obtain ⟨head_housed, body_housed⟩ := loopVisits_housed head_vars body_vars
    simp only [Statement.visits, List.forall_mem_cons]
    exact ⟨head_housed, trivial, body_housed, nofun⟩
  | «while» test body | doWhile body test =>
    simp only [Statement.visits, List.forall_mem_cons]
    exact ⟨trivial, Visit.housed_alone vars, nofun⟩
  | «try» body handler finalizer =>
    obtain ⟨front, last⟩ := List.forall_mem_append.mp vars
    obtain ⟨first, second⟩ := List.forall_mem_append.mp front
    refine List.forall_mem_append.mpr ⟨List.forall_mem_append.mpr
      ⟨scopedVisits_housed first, ?_⟩, ?_⟩
    · match handler with
      | none => exact nofun
      | some (.mk param body) =>
        rw [Option.toList_some, List.flatMap_singleton]
        exact scopedVisits_housed fun o member => (second o member).mono [_]
    · match finalizer with
      | none => exact nofun
      | some body =>
        rw [Option.toList_some, List.flatMap_singleton]
        exact scopedVisits_housed last
  | switch discriminant cases =>
    refine List.forall_mem_cons.mpr ⟨trivial, fun w member => ?_⟩
    obtain ⟨⟨test, consequent⟩, c_member, inside⟩ := List.mem_flatMap.mp member
    refine List.forall_mem_append.mpr ⟨expressionVisits_housed, blockVisits_housed ?_ ?_⟩ w inside
    · intro o o_member
      refine Occurrence.Settled.mono (vars o ?_) [_]
      exact mem_caseVars.mpr ⟨_, c_member, o_member⟩
    · intro o o_member
      rw [caseNames_eq, List.flatten_cons]
      exact List.mem_append_left _ (List.mem_map_of_mem
        (List.mem_flatMap.mpr ⟨_, c_member, o_member⟩))

/-- A step of the walk leads from a visit that is housed to one that is. -/
theorem Visit.Housed.next {v w : Visit} (housed : v.Housed program) (step : w ∈ v.next) :
    w.Housed program := by
  match v with
  | .expression e _ => exact e.visits_housed w step
  | .statement s _ _ => exact s.visits_housed housed.1 w step
  | .head (.variables _ _) _ => exact declaratorVisits_housed w step
  | .head (.expression _) _ =>
    obtain rfl := List.mem_singleton.mp step
    trivial

theorem Statement.itemVisits_housed {s : Statement Occurrence} (member : s ∈ program.body) :
    ∀ w ∈ s.itemVisits, w.Housed program := by
  -- The variables of a statement that is no declaration are definitions of the module.
  have settled : s.definitions.map Definition.occurrence = s.vars →
      ∀ o ∈ s.vars, o.Settled program [] := by
    intro definitions o inside
    obtain ⟨d, d_member, rfl⟩ := List.mem_map.mp (definitions ▸ inside)
    exact .inr (List.mem_map_of_mem (List.mem_flatMap.mpr ⟨s, member, d_member⟩))
  have hoisted : (s.hoisted.map fun d =>
        (⟨.value, d.name⟩ : Definition)).map Definition.occurrence =
      s.vars := by
    rw [hoisted_definitions, List.map_map]
    exact List.map_id _
  cases s with
  | declaration value | exportDeclaration value => exact value.visits_housed
  | exportList | importList => exact nofun
  | _ => exact List.forall_mem_singleton.mpr ⟨settled hoisted, fun _ => nofun⟩

/-- The whole walk over a module is housed. -/
theorem Program.Visits.housed {v : Visit} (visited : program.Visits v) : v.Housed program := by
  obtain ⟨s, s_member, root, root_member, reached⟩ := visited
  induction reached with
  | refl => exact Statement.itemVisits_housed s_member root root_member
  | tail _ step ih => exact ih.next step

end Housed

/-! ## Declarations that are bound -/

theorem Declaration.mem_names {d : Declaration Occurrence} {o : Occurrence} (member : o ∈ d.names) :
    o ∈ d.vars ∨ o ∈ d.lexicals := by
  match d with
  | .function _ _ _ | .variables .let _ | .variables .const _ => exact .inr member
  | .variables .var _ => exact .inl member

theorem LoopHead.mem_names {kind : VariableKind} {ds : List (Declarator Occurrence)}
    {o : Occurrence}
    (member : o ∈ ds.map Declarator.name) :
    o ∈ (LoopHead.variables kind ds).vars ∨ o ∈ (LoopHead.variables kind ds).lexicals := by
  cases kind with
  | var => exact .inl member
  | «let» | const => exact .inr member

/-- A declaration that is housed and does not stand alone is bound. -/
theorem Visit.Housed.settled {program : Program Occurrence} {v : Visit} (housed : v.Housed program)
    (standing : v.isBare = false) {o : Occurrence} (declares : o ∈ v.declared) :
    o.Settled program v.scopes := by
  match v with
  | .statement (.declaration value) scopes alone =>
    rcases Declaration.mem_names declares with var | lexical
    · exact housed.1 o var
    · cases alone with
      | false => exact .inl (housed.2 rfl o lexical)
      | true =>
        have some : value.lexicals = [] := by simpa [isBare, Statement.lexicals] using standing
        rw [some] at lexical
        cases lexical
  | .head (.variables kind ds) scopes =>
    rcases LoopHead.mem_names declares with var | lexical
    · exact housed.1 o var
    · exact .inl (housed.2 o lexical)

/-- A use that no scope binds means a symbol of the module or a global. -/
theorem OwnedUse.refers_or_global {program : Program Occurrence} {u : OwnedUse}
    (member : u ∈ program.ownedUses) (unbound : u.use.isLocal = false) :
    u.refers program.names ∨ u.use.name ∈ program.analyze.globals := by
  by_cases declared : u.use.name ∈ program.names
  · exact .inl ⟨unbound, declared⟩
  · exact .inr (Program.mem_globals.mpr ⟨declared, u, member, unbound, rfl⟩)

theorem Use.isLocal_iff {u : Use} : u.isLocal = true ↔ u.name ∈ u.scopes.flatten := by
  rw [Use.isLocal, List.any_eq_true, List.mem_flatten]
  simp only [List.contains_iff_mem]

/-- Where the walk visits a nested declaration, the analysis sees its uses with these scopes. A
scope around it binds the name, or the declaration is one of the module, and so a use in the same
scopes means no name outside. Only the declaration of a function, `let` or `const` that is the whole
body of an `if` statement or of a loop is not bound: unless another declaration binds its name, a
use next to it means a symbol of the module or a global. -/
theorem visited_declaration_bound {program : Program Occurrence} {v : Visit}
    (visited : program.Visits v) {o : Occurrence} (declares : o ∈ v.declared) :
    v.uses ⊆ program.ownedUses.map OwnedUse.use ∧
    (v.isBare = false →
      (o.name ∈ v.scopes.flatten ∨ o ∈ program.definitions.map Definition.occurrence) ∧
      ∀ u ∈ program.ownedUses, v.scopes <:+ u.use.scopes → u.use.name = o.name →
        u.use.isLocal = true ∨
          u.refers program.names ∧ o ∈ program.definitions.map Definition.occurrence) ∧
    (v.isBare = true → o.name ∉ v.scopes.flatten →
      ∀ u ∈ program.ownedUses, u.use.scopes = v.scopes → u.use.name = o.name →
        u.refers program.names ∨ u.use.name ∈ program.analyze.globals) := by
  refine ⟨visited.uses_subset, fun standing => ?_,
    fun _ escapes u member same_scopes same_name => ?_⟩
  · have settled := visited.housed.settled standing declares
    refine ⟨settled, fun u member inner same_name => ?_⟩
    cases bound : u.use.isLocal with
    | true => exact .inl rfl
    | false =>
      rcases settled with inside | defined
      · -- The scopes of the use end in those of the declaration, so they bind the name too.
        obtain ⟨more, scopes_eq⟩ := inner
        have taken : u.use.isLocal = true := by
          rw [Use.isLocal_iff, same_name, ← scopes_eq, List.flatten_append]
          exact List.mem_append_right _ inside
        rw [bound] at taken
        cases taken
      · obtain ⟨d, d_member, rfl⟩ := List.mem_map.mp defined
        exact .inr ⟨⟨bound, same_name ▸ program.symbols_groups.covers d d_member⟩, defined⟩
  · refine OwnedUse.refers_or_global member (Bool.eq_false_iff.mpr fun bound => escapes ?_)
    rw [← same_name, ← same_scopes]
    exact Use.isLocal_iff.mp bound

/-- A block with a variable of its own, and a function that stands alone. -/
def bareSource : Text := "{ let x; if (a) function f() {} f(x); }"

/-- A declaration in the tree of `bareSource`, found a few steps below the first visit. -/
theorem exists_visit_bareSource (test : Program Occurrence → Visit → Occurrence → Bool)
    (found : ((parse bareSource).toOption.any fun program =>
      (program.label.visitsBelow 2).any fun v => v.declared.any (test program.label v)) = true) :
    ∃ program, parse bareSource = .ok program ∧ ∃ v, program.label.Visits v ∧
      ∃ o ∈ v.declared, test program.label v o = true := by
  obtain ⟨program, parsed, found⟩ := toOption_any.mp found
  obtain ⟨v, member, declares⟩ := List.any_eq_true.mp found
  obtain ⟨o, o_member, holds⟩ := List.any_eq_true.mp declares
  exact ⟨program, parsed, v, .of_below member, o, o_member, holds⟩

theorem bareSource_binds_variable :
    ∃ program, parse bareSource = .ok program ∧ ∃ v, program.label.Visits v ∧ ∃ o ∈ v.declared,
      o.name = "x" ∧ v.isBare = false ∧
      (o.name ∈ v.scopes.flatten ∨ o ∈ program.label.definitions.map Definition.occurrence) := by
  obtain ⟨program, parsed, v, visited, o, declares, holds⟩ :=
    exists_visit_bareSource (fun _ v o => o.name = "x" && !v.isBare) (by decide +kernel)
  simp only [Bool.and_eq_true, decide_eq_true_eq, Bool.not_eq_true'] at holds
  exact ⟨program, parsed, v, visited, o, declares, holds.1, holds.2,
    ((visited_declaration_bound visited declares).2.1 holds.2).1⟩

/-- The function of `bareSource` is bound neither by a scope around it nor by the module, and the
use of its name next to it means a global. -/
theorem bareSource_escapes :
    ∃ program, parse bareSource = .ok program ∧ ∃ v, program.label.Visits v ∧ ∃ o ∈ v.declared,
      o.name ∉ v.scopes.flatten ∧ o.name ∉ program.label.names ∧
        o.name ∈ program.label.analyze.globals := by
  obtain ⟨program, parsed, v, visited, o, declares, holds⟩ :=
    exists_visit_bareSource (fun program v o => o.name ∉ v.scopes.flatten ∧
      o.name ∉ program.names ∧ o.name ∈ program.analyze.globals) (by decide +kernel)
  exact ⟨program, parsed, v, visited, o, declares, of_decide_eq_true holds⟩

end LibraryDescriptor
