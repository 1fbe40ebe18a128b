import Mathlib.Data.List.Forall2
import LibraryDescriptor.Proofs.Syntax.Labeling

/-!
# Numbering from another site

Where the numbering of a statement starts depends on what stands before it, but the numbered
statement is always the same up to a shift of its sites.

* `Expression.map_map_congr`, … — new names twice are new names once; only the names that occur
  count, and `Agree` puts together what is made of the parts of a tree.
* `Expression.map_id`, … — a tree in which each name stays is the same tree.
* `Program.label_body` — the statements of a numbered module.
-/

namespace LibraryDescriptor

/-! ## Names that change twice -/

section Map

variable {ν μ κ : Type} {f : ν → μ} {g : μ → κ} {h : ν → κ}

/-- Two values are the same if new names twice are new names once for some occurrences. -/
abbrev Agree (f : ν → μ) (g : μ → κ) (h : ν → κ) (os : List ν) {α : Type} (twice once : α) :
    Prop :=
  (∀ o ∈ os, g (f o) = h o) → twice = once

namespace Agree

variable {α β : Type} {os ps : List ν}

theorem rfl {a : α} : Agree f g h os a a := fun _ => Eq.refl a

theorem under (make : α → β) {a b : α} (part : Agree f g h os a b) :
    Agree f g h os (make a) (make b) :=
  fun agrees => congrArg make (part agrees)

/-- The next part of what is made. -/
theorem next {make make' : α → β} {a b : α} (first : Agree f g h os make make')
    (second : Agree f g h ps a b) : Agree f g h (os ++ ps) (make a) (make' b) := by
  intro agrees
  obtain ⟨front, back⟩ := List.forall_mem_append.mp agrees
  rw [first front, second back]

theorem name (n : ν) : Agree f g h [n] (g (f n)) (h n) := fun agrees => agrees n List.mem_cons_self

theorem names (ns : List ν) : Agree f g h ns ((ns.map f).map g) (ns.map h) := by
  intro agrees
  rw [List.map_map]
  exact List.map_congr_left agrees

theorem option (n : Option ν) : Agree f g h n.toList ((n.map f).map g) (n.map h) := by
  cases n with
  | none => exact rfl
  | some n => exact (name n).under some

theorem exports (specifiers : List (ExportSpecifier ν)) :
    Agree f g h (specifiers.flatMap fun s => [s.bound, s.exported])
      ((specifiers.map fun s => (⟨f s.bound, f s.exported⟩ : ExportSpecifier μ)).map
        fun s => (⟨g s.bound, g s.exported⟩ : ExportSpecifier κ))
      (specifiers.map fun s => ⟨h s.bound, h s.exported⟩) := by
  induction specifiers with
  | nil => exact rfl
  | cons s ss ih =>
    exact ((((name s.bound).under ExportSpecifier.mk).next (name s.exported)).under
      List.cons).next ih

theorem imports (specifiers : List (ImportSpecifier ν)) :
    Agree f g h (specifiers.flatMap fun s => [s.imported, s.bound])
      ((specifiers.map fun s => (⟨f s.imported, f s.bound⟩ : ImportSpecifier μ)).map
        fun s => (⟨g s.imported, g s.bound⟩ : ImportSpecifier κ))
      (specifiers.map fun s => ⟨h s.imported, h s.bound⟩) := by
  induction specifiers with
  | nil => exact rfl
  | cons s ss ih =>
    exact ((((name s.imported).under ImportSpecifier.mk).next (name s.bound)).under
      List.cons).next ih

end Agree

mutual

theorem Expression.map_map_congr : ∀ e : Expression ν,
    Agree f g h e.occurrences ((e.map f).map g) (e.map h)
  | .identifier name => (Agree.name name).under Expression.identifier
  | .literal _ _ | .this => .rfl
  | .array elements => (Expression.mapElements_map_congr elements).under Expression.array
  | .object properties => (Property.mapList_map_congr properties).under Expression.object
  | .function name params body =>
    (((Agree.option name).under Expression.function).next (.names params)).next
      (Statement.mapList_map_congr body)
  | .arrow params body => ((Agree.names params).under Expression.arrow).next body.map_map_congr
  | .arrowBlock params body =>
    ((Agree.names params).under Expression.arrowBlock).next (Statement.mapList_map_congr body)
  | .unary op argument => argument.map_map_congr.under (Expression.unary op)
  | .update op inFront argument => argument.map_map_congr.under (Expression.update op inFront)
  | .binary op left right =>
    (left.map_map_congr.under (Expression.binary op)).next right.map_map_congr
  | .logical op left right =>
    (left.map_map_congr.under (Expression.logical op)).next right.map_map_congr
  | .assignment op left right =>
    (left.map_map_congr.under (Expression.assignment op)).next right.map_map_congr
  | .member object property computed =>
    (object.map_map_congr.under fun o p =>
      Expression.member o p computed).next property.map_map_congr
  | .conditional test consequent alternate =>
    ((test.map_map_congr.under Expression.conditional).next consequent.map_map_congr).next
      alternate.map_map_congr
  | .call callee arguments =>
    (callee.map_map_congr.under Expression.call).next (Expression.mapList_map_congr arguments)
  | .new callee arguments =>
    (callee.map_map_congr.under Expression.new).next (Expression.mapList_map_congr arguments)
  | .sequence expressions => (Expression.mapList_map_congr expressions).under Expression.sequence

theorem Expression.mapList_map_congr : ∀ es : List (Expression ν),
    Agree f g h (Expression.occurrencesList es) (Expression.mapList g (Expression.mapList f es))
      (Expression.mapList h es)
  | [] => .rfl
  | e :: es => (e.map_map_congr.under List.cons).next (Expression.mapList_map_congr es)

theorem Expression.mapElements_map_congr : ∀ es : List (Option (Expression ν)),
    Agree f g h (Expression.occurrencesElements es)
      (Expression.mapElements g (Expression.mapElements f es)) (Expression.mapElements h es)
  | [] => .rfl
  | none :: es => (Expression.mapElements_map_congr es).under (none :: ·)
  | some e :: es =>
    (e.map_map_congr.under (some · :: ·)).next (Expression.mapElements_map_congr es)

theorem Expression.mapOption_map_congr : ∀ e : Option (Expression ν),
    Agree f g h (Expression.occurrencesOption e)
      (Expression.mapOption g (Expression.mapOption f e)) (Expression.mapOption h e)
  | none => .rfl
  | some e => e.map_map_congr.under some

theorem Property.mapList_map_congr : ∀ ps : List (Property ν),
    Agree f g h (Property.occurrencesList ps) (Property.mapList g (Property.mapList f ps))
      (Property.mapList h ps)
  | [] => .rfl
  | .mk key value computed shorthand method :: ps =>
    ((key.map_map_congr.under fun k v => (Property.mk k v computed shorthand method :: ·)).next
      value.map_map_congr).next (Property.mapList_map_congr ps)

theorem Declarator.mapList_map_congr : ∀ ds : List (Declarator ν),
    Agree f g h (Declarator.occurrencesList ds) (Declarator.mapList g (Declarator.mapList f ds))
      (Declarator.mapList h ds)
  | [] => .rfl
  | .mk name none :: ds =>
    ((Agree.name name).under (Declarator.mk · none :: ·)).next (Declarator.mapList_map_congr ds)
  | .mk name (some init) :: ds =>
    (((Agree.name name).under fun n e =>
      (Declarator.mk n (some e) :: ·)).next init.map_map_congr).next
      (Declarator.mapList_map_congr ds)

theorem Declaration.map_map_congr : ∀ d : Declaration ν,
    Agree f g h d.occurrences ((d.map f).map g) (d.map h)
  | .function name params body =>
    (((Agree.name name).under Declaration.function).next (.names params)).next
      (Statement.mapList_map_congr body)
  | .variables kind declarators =>
    (Declarator.mapList_map_congr declarators).under (Declaration.variables kind)

theorem LoopHead.map_map_congr : ∀ head : LoopHead ν,
    Agree f g h head.occurrences ((head.map f).map g) (head.map h)
  | .variables kind declarators =>
    (Declarator.mapList_map_congr declarators).under (LoopHead.variables kind)
  | .expression value => value.map_map_congr.under LoopHead.expression

theorem CatchClause.mapOption_map_congr : ∀ handler : Option (CatchClause ν),
    Agree f g h (CatchClause.occurrencesOption handler)
      (CatchClause.mapOption g (CatchClause.mapOption f handler)) (CatchClause.mapOption h handler)
  | none => .rfl
  | some (.mk param body) =>
    ((Agree.option param).under (some <| CatchClause.mk · ·)).next
      (Statement.mapList_map_congr body)

theorem SwitchCase.mapList_map_congr : ∀ cases : List (SwitchCase ν),
    Agree f g h (SwitchCase.occurrencesList cases)
      (SwitchCase.mapList g (SwitchCase.mapList f cases)) (SwitchCase.mapList h cases)
  | [] => .rfl
  | .mk none consequent :: cases =>
    ((Statement.mapList_map_congr consequent).under (SwitchCase.mk none · :: ·)).next
      (SwitchCase.mapList_map_congr cases)
  | .mk (some test) consequent :: cases =>
    ((test.map_map_congr.under fun e c => (SwitchCase.mk (some e) c :: ·)).next
      (Statement.mapList_map_congr consequent)).next (SwitchCase.mapList_map_congr cases)

theorem Statement.map_map_congr : ∀ s : Statement ν,
    Agree f g h s.occurrences ((s.map f).map g) (s.map h)
  | .declaration value => value.map_map_congr.under Statement.declaration
  | .exportDeclaration value => value.map_map_congr.under Statement.exportDeclaration
  | .exportList specifiers source =>
    (Agree.exports specifiers).under (Statement.exportList · source)
  | .importList specifiers source =>
    (Agree.imports specifiers).under (Statement.importList · source)
  | .expression value => value.map_map_congr.under Statement.expression
  | .throw value => value.map_map_congr.under Statement.throw
  | .block body => (Statement.mapList_map_congr body).under Statement.block
  | .return argument => (Expression.mapOption_map_congr argument).under Statement.return
  | .if test consequent none => fun agrees =>
    ((test.map_map_congr.under (Statement.if · · none)).next consequent.map_map_congr)
      (List.forall_mem_append.mp agrees).1
  | .if test consequent (some alternate) =>
    ((test.map_map_congr.under fun t c a => Statement.if t c (some a)).next
      consequent.map_map_congr).next alternate.map_map_congr
  | .for none test update body =>
    (((Expression.mapOption_map_congr test).under (Statement.for none)).next
      (Expression.mapOption_map_congr update)).next body.map_map_congr
  | .for (some init) test update body =>
    (((init.map_map_congr.under fun i => Statement.for (some i)).next
      (Expression.mapOption_map_congr test)).next (Expression.mapOption_map_congr update)).next
      body.map_map_congr
  | .forIn left right body =>
    ((left.map_map_congr.under Statement.forIn).next right.map_map_congr).next body.map_map_congr
  | .forOf left right body =>
    ((left.map_map_congr.under Statement.forOf).next right.map_map_congr).next body.map_map_congr
  | .while test body => (test.map_map_congr.under Statement.while).next body.map_map_congr
  | .doWhile body test => (body.map_map_congr.under Statement.doWhile).next test.map_map_congr
  | .break | .continue | .empty => .rfl
  | .try block handler finalizer =>
    (((Statement.mapList_map_congr block).under Statement.try).next
      (CatchClause.mapOption_map_congr handler)).next
      (Statement.mapOptionList_map_congr finalizer)
  | .switch discriminant cases =>
    (discriminant.map_map_congr.under Statement.switch).next (SwitchCase.mapList_map_congr cases)

theorem Statement.mapList_map_congr : ∀ ss : List (Statement ν),
    Agree f g h (Statement.occurrencesList ss) (Statement.mapList g (Statement.mapList f ss))
      (Statement.mapList h ss)
  | [] => .rfl
  | s :: ss => (s.map_map_congr.under List.cons).next (Statement.mapList_map_congr ss)

theorem Statement.mapOptionList_map_congr : ∀ body : Option (List (Statement ν)),
    Agree f g h (Statement.occurrencesFinalizer body)
      (Statement.mapOptionList g (Statement.mapOptionList f body)) (Statement.mapOptionList h body)
  | none => .rfl
  | some body => (Statement.mapList_map_congr body).under some

end

theorem Expression.map_map (f : ν → μ) (g : μ → κ) (e : Expression ν) :
    (e.map f).map g = e.map (g ∘ f) :=
  e.map_map_congr fun _ _ => rfl

theorem Property.map_map (f : ν → μ) (g : μ → κ) (p : Property ν) :
    (p.map f).map g = p.map (g ∘ f) := by
  obtain ⟨key, value, _, _, _⟩ := p
  simp only [Property.map, Expression.map_map]

theorem Statement.map_map (f : ν → μ) (g : μ → κ) (s : Statement ν) :
    (s.map f).map g = s.map (g ∘ f) :=
  s.map_map_congr fun _ _ => rfl

theorem Program.map_map (f : ν → μ) (g : μ → κ) (program : Program ν) :
    (program.map f).map g = program.map (g ∘ f) :=
  congrArg Program.mk (Statement.mapList_map_congr program.body fun _ _ => rfl)

end Map

/-! ## Names that stay -/

section Identity

variable {ν : Type}

mutual

theorem Expression.map_id : ∀ e : Expression ν, e.map id = e
  | .identifier _ | .literal _ _ | .this => rfl
  | .array elements => congrArg Expression.array (Expression.mapElements_id elements)
  | .object properties => congrArg Expression.object (Property.mapList_id properties)
  | .function name params body => by
    simp only [Expression.map, Option.map_id_fun, List.map_id_fun, id_eq, Statement.mapList_id body]
  | .arrow params body => by
    simp only [Expression.map, List.map_id_fun, id_eq, Expression.map_id body]
  | .arrowBlock params body => by
    simp only [Expression.map, List.map_id_fun, id_eq, Statement.mapList_id body]
  | .unary _ argument | .update _ _ argument => by
    simp only [Expression.map, Expression.map_id argument]
  | .binary _ left right | .logical _ left right | .assignment _ left right
  | .member left right _ => by
    simp only [Expression.map, Expression.map_id left, Expression.map_id right]
  | .conditional test consequent alternate => by
    simp only [Expression.map, Expression.map_id test, Expression.map_id consequent,
      Expression.map_id alternate]
  | .call callee arguments | .new callee arguments => by
    simp only [Expression.map, Expression.map_id callee, Expression.mapList_id arguments]
  | .sequence expressions => congrArg Expression.sequence (Expression.mapList_id expressions)

theorem Expression.mapList_id : ∀ es : List (Expression ν), Expression.mapList id es = es
  | [] => rfl
  | e :: es => congrArg₂ List.cons (Expression.map_id e) (Expression.mapList_id es)

theorem Expression.mapElements_id : ∀ es : List (Option (Expression ν)),
    Expression.mapElements id es = es
  | [] => rfl
  | none :: es => congrArg (none :: ·) (Expression.mapElements_id es)
  | some e :: es => by
    simp only [Expression.mapElements, Expression.map_id e, Expression.mapElements_id es]

theorem Expression.mapOption_id : ∀ e : Option (Expression ν), Expression.mapOption id e = e
  | none => rfl
  | some e => congrArg some (Expression.map_id e)

theorem Property.map_id : ∀ p : Property ν, p.map id = p
  | .mk key value _ _ _ => by
    simp only [Property.map, Expression.map_id key, Expression.map_id value]

theorem Property.mapList_id : ∀ ps : List (Property ν), Property.mapList id ps = ps
  | [] => rfl
  | p :: ps => congrArg₂ List.cons (Property.map_id p) (Property.mapList_id ps)

theorem Declarator.map_id : ∀ d : Declarator ν, d.map id = d
  | .mk _ none => rfl
  | .mk name (some init) => by simp only [Declarator.map, id_eq, Expression.map_id init]

theorem Declarator.mapList_id : ∀ ds : List (Declarator ν), Declarator.mapList id ds = ds
  | [] => rfl
  | d :: ds => congrArg₂ List.cons (Declarator.map_id d) (Declarator.mapList_id ds)

theorem Declaration.map_id : ∀ d : Declaration ν, d.map id = d
  | .function name params body => by
    simp only [Declaration.map, List.map_id_fun, id_eq, Statement.mapList_id body]
  | .variables kind declarators =>
    congrArg (Declaration.variables kind) (Declarator.mapList_id declarators)

theorem LoopHead.map_id : ∀ h : LoopHead ν, h.map id = h
  | .variables kind declarators =>
    congrArg (LoopHead.variables kind) (Declarator.mapList_id declarators)
  | .expression value => congrArg LoopHead.expression (Expression.map_id value)

theorem CatchClause.map_id : ∀ c : CatchClause ν, c.map id = c
  | .mk param body => by
    simp only [CatchClause.map, Option.map_id_fun, id_eq, Statement.mapList_id body]

theorem CatchClause.mapOption_id : ∀ c : Option (CatchClause ν), CatchClause.mapOption id c = c
  | none => rfl
  | some c => congrArg some (CatchClause.map_id c)

theorem SwitchCase.map_id : ∀ c : SwitchCase ν, c.map id = c
  | .mk none consequent => congrArg (SwitchCase.mk none) (Statement.mapList_id consequent)
  | .mk (some test) consequent => by
    simp only [SwitchCase.map, Expression.map_id test, Statement.mapList_id consequent]

theorem SwitchCase.mapList_id : ∀ cs : List (SwitchCase ν), SwitchCase.mapList id cs = cs
  | [] => rfl
  | c :: cs => congrArg₂ List.cons (SwitchCase.map_id c) (SwitchCase.mapList_id cs)

theorem Statement.map_id : ∀ s : Statement ν, s.map id = s
  | .declaration value => congrArg Statement.declaration (Declaration.map_id value)
  | .exportDeclaration value => congrArg Statement.exportDeclaration (Declaration.map_id value)
  | .exportList specifiers _ | .importList specifiers _ => by
    simp only [Statement.map, id_eq, List.map_id']
  | .expression value | .throw value => by simp only [Statement.map, Expression.map_id value]
  | .block body => congrArg Statement.block (Statement.mapList_id body)
  | .return argument => congrArg Statement.return (Expression.mapOption_id argument)
  | .if test consequent none => by
    simp only [Statement.map, Expression.map_id test, Statement.map_id consequent]
  | .if test consequent (some alternate) => by
    simp only [Statement.map, Expression.map_id test, Statement.map_id consequent,
      Statement.map_id alternate]
  | .for none test update body => by
    simp only [Statement.map, Expression.mapOption_id test, Expression.mapOption_id update,
      Statement.map_id body]
  | .for (some init) test update body => by
    simp only [Statement.map, LoopHead.map_id init, Expression.mapOption_id test,
      Expression.mapOption_id update, Statement.map_id body]
  | .forIn left right body | .forOf left right body => by
    simp only [Statement.map, LoopHead.map_id left, Expression.map_id right, Statement.map_id body]
  | .while test body | .doWhile body test => by
    simp only [Statement.map, Expression.map_id test, Statement.map_id body]
  | .break | .continue | .empty => rfl
  | .try block handler finalizer => by
    simp only [Statement.map, Statement.mapList_id block, CatchClause.mapOption_id handler,
      Statement.mapOptionList_id finalizer]
  | .switch discriminant cases => by
    simp only [Statement.map, Expression.map_id discriminant, SwitchCase.mapList_id cases]

theorem Statement.mapList_id : ∀ ss : List (Statement ν), Statement.mapList id ss = ss
  | [] => rfl
  | s :: ss => congrArg₂ List.cons (Statement.map_id s) (Statement.mapList_id ss)

theorem Statement.mapOptionList_id : ∀ body : Option (List (Statement ν)),
    Statement.mapOptionList id body = body
  | none => rfl
  | some body => congrArg some (Statement.mapList_id body)

end

theorem Program.map_id (program : Program ν) : program.map id = program :=
  congrArg Program.mk (Statement.mapList_id program.body)

end Identity

/-! ## The statements of a numbered module -/

def Occurrence.unsited (o : Occurrence) : Occurrence := { o with site := none }

theorem Statement.labelList_run (ss : List (Statement Text)) (first : Site) :
    List.Forall₂ (fun s t => ∃ distance, t = s.numbered.map (Occurrence.shift distance)) ss
      ((Statement.labelList ss).run first).1 := by
  induction ss generalizing first with
  | nil => exact .nil
  | cons s ss ih => exact .cons ⟨first, s.label_run first⟩ (ih (s.label.run first).2)

theorem Program.label_body (program : Program Text) :
    List.Forall₂ (fun s t => ∃ distance, t = s.numbered.map (Occurrence.shift distance))
      program.body program.label.body :=
  Statement.labelList_run program.body 0

end LibraryDescriptor
