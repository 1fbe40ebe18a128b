import LibraryDescriptor.Proofs.Printer.Pieces
import LibraryDescriptor.Proofs.Syntax.Relabeling

/-!
# Printing renamed trees

Whether the printer fails on a tree does not depend on the names in it. So it does not fail on a
grammatical tree after its names have changed, even if the new names are not those of the grammar.

* `startsAmbiguously_map`, `takesElse_map` — what the printer asks of a tree is about its shape.
* `Expression.prints_map`, `Statement.prints_map` — the printer does not fail on a renamed tree.
* `Expression.Grammatical.prints`, `Statement.Grammatical.prints` — nor on a grammatical one.
* `Program.print_eq` — the text of a module.
-/

namespace LibraryDescriptor

variable {ν μ : Type}

/-! ## Shapes -/

theorem startsAmbiguously_map (f : ν → μ) :
    ∀ e : Expression ν, startsAmbiguously (e.map f) = startsAmbiguously e
  | .identifier _ | .literal _ _ | .this | .array _ | .object _ | .function _ _ _ | .arrow _ _
  | .arrowBlock _ _ | .unary _ _ | .update _ true _ | .new _ _ | .sequence [] => rfl
  | .update _ false inner | .binary _ inner _ | .logical _ inner _ | .assignment _ inner _
  | .conditional inner _ _ | .call inner _ | .member inner _ _ | .sequence (inner :: _) =>
    startsAmbiguously_map f inner

theorem takesElse_map (f : ν → μ) (s : Statement ν) : takesElse (s.map f) = takesElse s := by
  cases s with
  | «if» _ _ alternate => cases alternate <;> rfl
  | «for» init => cases init <;> rfl
  | _ => rfl

section Inversion

variable {f : ν → μ} {e : Expression ν}

theorem Expression.map_eq_identifier {name : μ} (same : e.map f = .identifier name) :
    ∃ o, e = .identifier o := by
  cases e with
  | identifier o => exact ⟨o, rfl⟩
  | _ => cases same

theorem Expression.map_eq_literal {value : Literal} {raw : Option Text}
    (same : e.map f = .literal value raw) : e = .literal value raw := by
  cases e with
  | literal value raw => cases same; rfl
  | _ => cases same

end Inversion

/-! ## Trees -/

section Renamed

variable (f g : ν → Text)

/-- A key prints under other names if it does as an expression. -/
theorem Expression.IsKey.prints_map {key : Expression ν} {computed : Bool}
    (isKey : (key.map f).IsKey computed) (prints : (key.map f).Grammatical → (key.map g).Prints) :
    (key.map g).KeyPrints computed := by
  -- The grammar speaks of the tree under other names; its shape is that of the tree itself.
  generalize same : key.map f = k at isKey prints
  cases isKey with
  | name _ =>
    obtain ⟨o, rfl⟩ := Expression.map_eq_identifier same
    exact .identifier
  | string | number _ _ =>
    obtain rfl := Expression.map_eq_literal same
    exact .literal rfl
  | computed grammatical => exact .computed (prints grammatical)

mutual

/-- The printer does not fail on a grammatical expression whose names have changed. -/
theorem Expression.prints_map : ∀ e : Expression ν, (e.map f).Grammatical → (e.map g).Prints
  | .identifier _, _ => .identifier
  | .literal _ _, .number spelling _ => .literal rfl (spelling.not_headIs (by decide) (by decide))
  | .literal _ _, .string => .literal rfl rfl
  | .literal (.boolean true) _, .boolean | .literal (.boolean false) _, .boolean
  | .literal _ _, .null => .literal rfl (by decide)
  | .this, _ => .this
  | .array elements, .array each => .array (Expression.printsElements_map elements each)
  | .object properties, .object each => .object (Property.printsList_map properties each)
  | .function _ _ body, .function _ _ each => .function (Statement.printsList_map body each)
  | .arrow _ body, .arrow _ grammatical => .arrow (body.prints_map grammatical)
  | .arrowBlock _ body, .arrowBlock _ each => .arrowBlock (Statement.printsList_map body each)
  | .unary _ argument, .unary _ grammatical => .unary (argument.prints_map grammatical)
  | .update _ _ argument, .update _ _ grammatical => .update (argument.prints_map grammatical)
  | .binary _ left right, .binary known _ first second =>
    .binary known (left.prints_map first) (right.prints_map second)
  | .logical _ left right, .logical known isLogical first second =>
    .logical known isLogical (left.prints_map first) (right.prints_map second)
  | .assignment _ left right, .assignment _ _ first second =>
    .assignment (left.prints_map first) (right.prints_map second)
  | .conditional test consequent alternate, .conditional first second third =>
    .conditional (test.prints_map first) (consequent.prints_map second)
      (alternate.prints_map third)
  | .call callee arguments, .call first each =>
    .call (callee.prints_map first) (Expression.printsList_map arguments each)
  | .new callee arguments, .new first each =>
    .new (callee.prints_map first) (Expression.printsList_map arguments each)
  | .member object property computed, member => by
    rw [Expression.map] at member
    generalize property_eq : property.map f = key at member
    cases member with
    | dotted first _ =>
      obtain ⟨o, rfl⟩ := Expression.map_eq_identifier property_eq
      exact .dotted (object.prints_map first)
    | computed first second =>
      exact .computed (object.prints_map first) (property.prints_map (property_eq ▸ second))
  | .sequence expressions, .sequence _ each =>
    .sequence (Expression.printsList_map expressions each)

theorem Expression.printsList_map : ∀ es : List (Expression ν),
    (∀ e ∈ Expression.mapList f es, e.Grammatical) → ∀ e ∈ Expression.mapList g es, e.Prints
  | [], _ => nofun
  | e :: es, each => by
    obtain ⟨first, rest⟩ := List.forall_mem_cons.mp each
    exact List.forall_mem_cons.mpr ⟨e.prints_map first, Expression.printsList_map es rest⟩

theorem Expression.printsElements_map : ∀ es : List (Option (Expression ν)),
    (∀ e, some e ∈ Expression.mapElements f es → e.Grammatical) →
    ∀ e, some e ∈ Expression.mapElements g es → e.Prints
  | [], _ => nofun
  | none :: es, each => by
    intro e member
    rw [Expression.mapElements, List.mem_cons] at member
    exact Expression.printsElements_map es (fun e' later => each e' (List.mem_cons_of_mem _ later))
      e (member.resolve_left nofun)
  | some first :: es, each => by
    intro e member
    rw [Expression.mapElements, List.mem_cons] at member
    rcases member with same | later
    · obtain rfl := Option.some.inj same
      exact first.prints_map (each _ List.mem_cons_self)
    · exact Expression.printsElements_map es
        (fun e' later => each e' (List.mem_cons_of_mem _ later)) e later

theorem Expression.printsOption_map : ∀ option : Option (Expression ν),
    (∀ e ∈ Expression.mapOption f option, e.Grammatical) →
    ∀ e ∈ Expression.mapOption g option, e.Prints
  | none, _ => nofun
  | some e, each => by
    rintro _ ⟨⟩
    exact e.prints_map (each _ rfl)

theorem Property.printsList_map : ∀ ps : List (Property ν),
    (∀ p ∈ Property.mapList f ps, p.Grammatical) → ∀ p ∈ Property.mapList g ps, p.Prints
  | [], _ => nofun
  | .mk key value computed shorthand method :: ps, each => by
    obtain ⟨first, rest⟩ := List.forall_mem_cons.mp each
    refine List.forall_mem_cons.mpr ⟨?_, Property.printsList_map ps rest⟩
    rw [Property.map] at first ⊢
    generalize key_eq : key.map f = k at first
    generalize value_eq : value.map f = v at first
    cases first with
    | pair isKey grammatical =>
      exact .pair ((key_eq ▸ isKey).prints_map f g key.prints_map)
        (value.prints_map (value_eq ▸ grammatical))
    | method isKey _ statements =>
      have named := (key_eq ▸ isKey : (key.map f).IsKey _).prints_map f g key.prints_map
      cases value with
      | function name params body =>
        obtain ⟨none_eq, -, rfl⟩ := Expression.function.inj value_eq
        rw [Option.map_eq_none_iff] at none_eq
        subst none_eq
        exact .method named (Statement.printsList_map body statements)
      | _ => cases value_eq
    | shorthand _ =>
      obtain ⟨o, rfl⟩ := Expression.map_eq_identifier key_eq
      obtain ⟨p, rfl⟩ := Expression.map_eq_identifier value_eq
      exact .shorthand

theorem Declarator.prints_map : ∀ d : Declarator ν, (d.map f).Grammatical → (d.map g).Prints
  | .mk _ none, _ => .mk nofun
  | .mk _ (some init), .mk _ each => .mk (by
    rintro _ ⟨⟩
    exact init.prints_map (each _ rfl))

theorem Declarator.printsList_map : ∀ ds : List (Declarator ν),
    (∀ d ∈ Declarator.mapList f ds, d.Grammatical) → ∀ d ∈ Declarator.mapList g ds, d.Prints
  | [], _ => nofun
  | d :: ds, each => by
    obtain ⟨first, rest⟩ := List.forall_mem_cons.mp each
    exact List.forall_mem_cons.mpr ⟨d.prints_map first, Declarator.printsList_map ds rest⟩

theorem Declaration.prints_map : ∀ d : Declaration ν, (d.map f).Grammatical → (d.map g).Prints
  | .function _ _ body, .function _ _ each => .function (Statement.printsList_map body each)
  | .variables _ declarators, .variables _ _ each =>
    .variables (Declarator.printsList_map declarators each)

theorem LoopHead.prints_map : ∀ head : LoopHead ν, (head.map f).Grammatical → (head.map g).Prints
  | .variables _ declarators, .variables _ _ each =>
    .variables (Declarator.printsList_map declarators each)
  | .expression value, .expression grammatical => .expression (value.prints_map grammatical)

theorem LoopHead.prints_map_of_isTarget :
    ∀ head : LoopHead ν, (head.map f).IsTarget → (head.map g).Prints
  | .variables _ [.mk _ none], _ => .variables (by
    rintro _ member
    obtain rfl := List.mem_singleton.mp member
    exact .mk nofun)
  | .expression value, .expression _ grammatical => .expression (value.prints_map grammatical)

theorem CatchClause.printsOption_map : ∀ handler : Option (CatchClause ν),
    (∀ h ∈ CatchClause.mapOption f handler, h.Grammatical) →
    ∀ h ∈ CatchClause.mapOption g handler, h.Prints
  | none, _ => nofun
  | some (.mk param body), each => by
    rintro _ ⟨⟩
    cases each _ rfl with
    | mk _ statements => exact Statement.printsList_map body statements

theorem SwitchCase.printsList_map : ∀ cases : List (SwitchCase ν),
    (∀ c ∈ SwitchCase.mapList f cases, c.Grammatical) →
    ∀ c ∈ SwitchCase.mapList g cases, c.Prints
  | [], _ => nofun
  | .mk none consequent :: cases, each => by
    obtain ⟨first, rest⟩ := List.forall_mem_cons.mp each
    refine List.forall_mem_cons.mpr ⟨⟨nofun, ?_⟩, SwitchCase.printsList_map cases rest⟩
    cases first with
    | mk _ statements => exact Statement.printsList_map consequent statements
  | .mk (some test) consequent :: cases, each => by
    obtain ⟨first, rest⟩ := List.forall_mem_cons.mp each
    refine List.forall_mem_cons.mpr ⟨?_, SwitchCase.printsList_map cases rest⟩
    cases first with
    | mk tests statements =>
      refine ⟨?_, Statement.printsList_map consequent statements⟩
      rintro _ ⟨⟩
      exact test.prints_map (tests _ rfl)

/-- The printer does not fail on a grammatical statement whose names have changed. -/
theorem Statement.prints_map : ∀ s : Statement ν, (s.map f).Grammatical → (s.map g).Prints
  | .declaration value, .declaration grammatical => .declaration (value.prints_map grammatical)
  | .expression value, .expression grammatical => by
    obtain ⟨ambiguous, starts⟩ := grammatical.startsAmbiguously_eq
    rw [startsAmbiguously_map, ← startsAmbiguously_map g] at starts
    exact .expression starts (value.prints_map grammatical)
  | .block body, .block each => .block (Statement.printsList_map body each)
  | .return argument, .return each => .return (Expression.printsOption_map argument each)
  | .if test consequent none, .ifThen first second =>
    .ifThen (test.prints_map first) (consequent.prints_map second)
  | .if test consequent (some alternate), .ifElse first second closed third => by
    have taken := takesElse_of_closed closed
    rw [takesElse_map, ← takesElse_map g] at taken
    exact .ifElse (test.prints_map first) (consequent.prints_map second) taken
      (alternate.prints_map third)
  | .for none test update body, .for _ tests updates grammatical =>
    .for nofun (Expression.printsOption_map test tests)
      (Expression.printsOption_map update updates) (body.prints_map grammatical)
  | .for (some head) test update body, .for heads tests updates grammatical => by
    refine .for ?_ (Expression.printsOption_map test tests)
      (Expression.printsOption_map update updates) (body.prints_map grammatical)
    rintro _ ⟨⟩
    exact head.prints_map (heads _ rfl)
  | .forIn left right body, .forIn first second third =>
    .forIn (left.prints_map_of_isTarget first) (right.prints_map second) (body.prints_map third)
  | .forOf left right body, .forOf first second third =>
    .forOf (left.prints_map_of_isTarget first) (right.prints_map second) (body.prints_map third)
  | .while test body, .while first second =>
    .while (test.prints_map first) (body.prints_map second)
  | .doWhile body test, .doWhile first second =>
    .doWhile (body.prints_map first) (test.prints_map second)
  | .break, _ => .jump (.inl rfl)
  | .continue, _ => .jump (.inr (.inl rfl))
  | .throw argument, .throw grammatical => .throw (argument.prints_map grammatical)
  | .try block handler finalizer, .try each handlers finalizers _ =>
    .try (Statement.printsList_map block each) (CatchClause.printsOption_map handler handlers)
      (Statement.printsFinalizer_map finalizer finalizers)
  | .switch discriminant cases, .switch first each =>
    .switch (discriminant.prints_map first) (SwitchCase.printsList_map cases each)
  | .empty, _ => .jump (.inr (.inr rfl))

theorem Statement.printsList_map : ∀ ss : List (Statement ν),
    (∀ s ∈ Statement.mapList f ss, s.Grammatical) → ∀ s ∈ Statement.mapList g ss, s.Prints
  | [], _ => nofun
  | s :: ss, each => by
    obtain ⟨first, rest⟩ := List.forall_mem_cons.mp each
    exact List.forall_mem_cons.mpr ⟨s.prints_map first, Statement.printsList_map ss rest⟩

theorem Statement.printsFinalizer_map : ∀ finalizer : Option (List (Statement ν)),
    (∀ body ∈ Statement.mapOptionList f finalizer, ∀ s ∈ body, s.Grammatical) →
    ∀ body ∈ Statement.mapOptionList g finalizer, ∀ s ∈ body, s.Prints
  | none, _ => nofun
  | some body, each => by
    rintro _ ⟨⟩
    exact Statement.printsList_map body (each _ rfl)

end

end Renamed

section Grammatical

variable {e : Expression Text} {d : Declarator Text} {declaration : Declaration Text}
  {head : LoopHead Text} {s : Statement Text}

theorem Expression.Grammatical.prints (grammatical : e.Grammatical) : e.Prints :=
  e.map_id ▸ e.prints_map id id (e.map_id.symm ▸ grammatical)

theorem Declarator.Grammatical.prints (grammatical : d.Grammatical) : d.Prints :=
  d.map_id ▸ d.prints_map id id (d.map_id.symm ▸ grammatical)

theorem Declaration.Grammatical.prints (grammatical : declaration.Grammatical) :
    declaration.Prints :=
  declaration.map_id ▸ declaration.prints_map id id (declaration.map_id.symm ▸ grammatical)

theorem LoopHead.Grammatical.prints (grammatical : head.Grammatical) : head.Prints :=
  head.map_id ▸ head.prints_map id id (head.map_id.symm ▸ grammatical)

theorem Statement.Grammatical.prints (grammatical : s.Grammatical) : s.Prints :=
  s.map_id ▸ s.prints_map id id (s.map_id.symm ▸ grammatical)

end Grammatical

/-! ## Modules -/

theorem layoutExports_eq (specifiers : List (ExportSpecifier Text)) (source : Option Text) :
    ∃ layout, layoutExports specifiers (source.map .string) = .ok layout := by
  cases source <;> exact ⟨_, rfl⟩

theorem Statement.IsItem.prints {s : Statement Text} (item : s.IsItem) : s.Prints := by
  cases item with
  | statement grammatical => exact grammatical.prints
  | exportDeclaration value => exact .exportDeclaration value.prints
  | exportList source each =>
    intro level noIn
    obtain ⟨layout, written⟩ := layoutExports_eq _ source
    change (liftM (layoutExports _ (source.map .string)) : Printer Layout) noIn =
      .ok ((layoutExports _ (source.map .string)).toOption.getD [], past noIn 0)
    rw [written, past_zero]
    rfl
  | importList each =>
    intro level noIn
    exact Printer.ok_past (past_zero noIn).symm

/-- The layout of a module, with a line break behind each statement. -/
def Program.pieces (program : Program Text) : Layout :=
  (Statement.piecesList program.body 0 false).flatMap (· ++ [.newline 0])

/-- The printer does not fail on a module of grammatical items. -/
theorem Program.print_eq {program : Program Text} (items : ∀ s ∈ program.body, s.IsItem) :
    program.print = .ok program.pieces.text := by
  have lines := Statement.layoutList_eq (fun s member => (items s member).prints) 0 false
  have text : program.pieces.text = (Statement.piecesList program.body 0 false).flatMap
      fun line => line.text ++ [.scalar '\n'] := by
    simp only [pieces, Layout.text, List.flatMap_assoc, List.flatMap_append]
    rfl
  rw [text]
  change (Statement.layoutList program.body 0 false >>= _) = _
  rw [lines]
  rfl

end LibraryDescriptor
