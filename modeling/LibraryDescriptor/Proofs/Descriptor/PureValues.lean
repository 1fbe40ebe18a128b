import LibraryDescriptor.Proofs.Descriptor.Entries
import LibraryDescriptor.Proofs.Scope.WalkOrder

/-!
# Pure values read no names

A pure value is evaluated without a look at any name: whatever the walk finds in it is in the body
of a function expression. So in a module that is compiled without deferred initializers every
reference with an owner stands inside a function, where `arguments` is bound.

* `Visit.scopes_step`, `Visit.uses_scopes` — a step of the walk, and the whole walk, only add
  scopes.
* `Visit.pure_step` — from a pure value the walk goes to pure values, up to a function expression.
* `Expression.isPure_uses` — the uses in a pure value.
* `Program.references_in_functions`, `Compiled.Describes.isPure` — what follows for modules and
  their descriptors.
* `pure_values_read_in_functions` — both together.
-/

namespace LibraryDescriptor

/-! ## Scopes are added on the way down -/

section Scopes

variable {scopes : List (List Text)} {w : Visit}

theorem Visit.scopes_suffix (same : w.scopes = scopes) : scopes <:+ w.scopes := by
  subst same
  exact List.suffix_rfl

theorem blockVisits_scopes {body : List (Statement Occurrence)}
    (member : w ∈ blockVisits body scopes) : w.scopes = scopes := by
  obtain ⟨_, -, rfl⟩ := List.mem_map.mp member
  rfl

theorem expressionVisits_scopes {es : List (Expression Occurrence)}
    (member : w ∈ expressionVisits es scopes) : w.scopes = scopes := by
  obtain ⟨_, -, rfl⟩ := List.mem_map.mp member
  rfl

theorem declaratorVisits_scopes {ds : List (Declarator Occurrence)}
    (member : w ∈ declaratorVisits ds scopes) : w.scopes = scopes := by
  obtain ⟨_, -, inside⟩ := List.mem_flatMap.mp member
  exact expressionVisits_scopes inside

theorem Declaration.visits_scopes {d : Declaration Occurrence} (member : w ∈ d.visits scopes) :
    scopes <:+ w.scopes := by
  cases d with
  | function =>
    rw [blockVisits_scopes member]
    exact List.suffix_cons ..
  | «variables» =>
    exact Visit.scopes_suffix (declaratorVisits_scopes member)

theorem Expression.visits_scopes {e : Expression Occurrence} (member : w ∈ e.visits scopes) :
    scopes <:+ w.scopes := by
  cases e with
  | identifier | literal | this => cases member
  | function | arrowBlock =>
    rw [blockVisits_scopes member]
    exact List.suffix_cons ..
  | arrow =>
    obtain rfl := List.mem_singleton.mp member
    exact List.suffix_cons ..
  | object properties =>
    obtain ⟨⟨_, _, _, _, _⟩, -, inside⟩ := List.mem_flatMap.mp member
    exact Visit.scopes_suffix (expressionVisits_scopes inside)
  | unary | update =>
    obtain rfl := List.mem_singleton.mp member
    exact List.suffix_rfl
  | array | binary | logical | assignment | conditional | call | new | member | sequence =>
    exact Visit.scopes_suffix (expressionVisits_scopes member)

theorem Statement.visits_scopes {s : Statement Occurrence} (member : w ∈ s.visits scopes) :
    scopes <:+ w.scopes := by
  cases s with
  | declaration value => exact value.visits_scopes member
  | exportDeclaration | exportList | importList | «break» | «continue» | empty => cases member
  | expression | throw =>
    obtain rfl := List.mem_singleton.mp member
    exact List.suffix_rfl
  | «return» =>
    exact Visit.scopes_suffix (expressionVisits_scopes member)
  | block =>
    rw [blockVisits_scopes member]
    exact List.suffix_cons ..
  | «if» test consequent alternate =>
    have same : w.scopes = scopes := by
      simp only [Statement.visits, List.mem_cons, List.mem_map] at member
      rcases member with rfl | rfl | ⟨_, -, rfl⟩ <;> rfl
    exact Visit.scopes_suffix same
  | «for» init test update body =>
    have same : w.scopes = init.elim [] LoopHead.scopes ++ scopes := by
      simp only [Statement.visits, List.mem_append, List.mem_map, List.mem_singleton] at member
      rcases member with (⟨_, -, rfl⟩ | inside) | rfl
      · rfl
      · exact expressionVisits_scopes inside
      · rfl
    rw [same]
    exact List.suffix_append ..
  | forIn left right body | forOf left right body =>
    have same : w.scopes = left.scopes ++ scopes := by
      simp only [Statement.visits, List.mem_cons, List.not_mem_nil, or_false] at member
      rcases member with rfl | rfl | rfl <;> rfl
    rw [same]
    exact List.suffix_append ..
  | «while» test body | doWhile body test =>
    have same : w.scopes = scopes := by
      simp only [Statement.visits, List.mem_cons, List.not_mem_nil, or_false] at member
      rcases member with rfl | rfl <;> rfl
    exact Visit.scopes_suffix same
  | «try» body handler finalizer =>
    simp only [Statement.visits, List.mem_append, List.mem_flatMap] at member
    rcases member with (inside | ⟨⟨param, body⟩, -, inside⟩) | ⟨_, -, inside⟩
    · rw [blockVisits_scopes inside]
      exact List.suffix_cons ..
    · rw [blockVisits_scopes inside]
      exact (List.suffix_cons ..).trans (List.suffix_cons ..)
    · rw [blockVisits_scopes inside]
      exact List.suffix_cons ..
  | switch discriminant cases =>
    rcases List.mem_cons.mp member with rfl | further
    · exact List.suffix_rfl
    · obtain ⟨⟨test, consequent⟩, -, inside⟩ := List.mem_flatMap.mp further
      have same : w.scopes = caseNames cases :: scopes := by
        rcases List.mem_append.mp inside with tested | stated
        · exact expressionVisits_scopes tested
        · exact blockVisits_scopes stated
      rw [same]
      exact List.suffix_cons ..

/-- A step of the walk keeps the scopes around it. -/
theorem Visit.scopes_step {v : Visit} (step : w ∈ v.next) : v.scopes <:+ w.scopes := by
  match v with
  | .expression e _ => exact e.visits_scopes step
  | .statement s _ _ => exact s.visits_scopes step
  | .head (.variables _ _) _ =>
    exact Visit.scopes_suffix (declaratorVisits_scopes step)
  | .head (.expression _) _ =>
    obtain rfl := List.mem_singleton.mp step
    exact List.suffix_rfl

/-- The walk below a visit is inside the scopes of the visit. -/
theorem Visit.uses_scopes (v : Visit) : ∀ u ∈ v.uses, v.scopes <:+ u.scopes := by
  induction v using Visit.induction with
  | step v ih =>
    intro u used
    rw [v.uses_eq, List.mem_append, Option.mem_toList, List.mem_flatMap] at used
    rcases used with here | ⟨w, step, below⟩
    · match v with
      | .expression (.identifier _) _ =>
        obtain rfl := Option.some.inj here
        exact List.suffix_rfl
    · exact (Visit.scopes_step step).trans (ih w step u below)

end Scopes

/-- A use in the body of a function that is no arrow function stands where `arguments` is bound. -/
theorem arguments_mem_scopes {self : Option Occurrence} {params : List Occurrence}
    {body : List (Statement Occurrence)} {scopes : List (List Text)} {u : Use}
    (used : u ∈ Statement.usesList body
      ((headNames self params false ++ bodyNames body) :: scopes)) :
    Text.ofString "arguments" ∈ u.scopes.flatten := by
  rw [Statement.usesList_eq, List.mem_flatMap] at used
  obtain ⟨v, member, below⟩ := used
  have inside := v.uses_scopes u below
  rw [blockVisits_scopes member] at inside
  exact List.mem_flatten.mpr ⟨_, inside.subset List.mem_cons_self, by simp [headNames]⟩

/-! ## Pure values -/

theorem Expression.isPure_of_mem_elements {elements : List (Option (Expression Occurrence))}
    (pure : Expression.isPureElements elements = true) :
    ∀ e, some e ∈ elements → e.isPure = true := by
  induction elements with
  | nil => exact nofun
  | cons element elements ih =>
    cases element with
    | none => simpa using ih pure
    | some first =>
      simp only [isPureElements, Bool.and_eq_true] at pure
      intro e member
      rcases List.mem_cons.mp member with same | later
      · obtain rfl := Option.some.inj same
        exact pure.1
      · exact ih pure.2 e later

theorem Property.isPureList_iff {ν : Type} {properties : List (Property ν)} :
    Property.isPureList properties = true ↔
      ∀ p ∈ properties, match p with
        | .mk key value computed _ _ =>
          value.isPure = true ∧ (computed = true → key.isPure = true) := by
  induction properties with
  | nil => simp [isPureList]
  | cons p ps ih =>
    obtain ⟨key, value, computed, _, _⟩ := p
    cases computed <;> simp [isPureList, ih]

/-- From a pure value the walk goes to pure values in the same scopes, unless it enters a
function. -/
theorem Visit.pure_step {e : Expression Occurrence} {scopes : List (List Text)} {w : Visit}
    (pure : e.isPure = true) (step : w ∈ e.visits scopes) :
    (∃ name params body, e = .function name params body) ∨
      ∃ part, w = .expression part scopes ∧ part.isPure = true := by
  match e with
  | .literal _ _ | .this => cases step
  | .function name params body => exact .inl ⟨name, params, body, rfl⟩
  | .unary _ argument => exact .inr ⟨argument, List.mem_singleton.mp step, pure⟩
  | .array elements =>
    obtain ⟨part, member, rfl⟩ := List.mem_map.mp step
    exact .inr ⟨part, rfl, Expression.isPure_of_mem_elements pure part
      (List.reduceOption_mem_iff.mp member)⟩
  | .object properties =>
    obtain ⟨⟨key, value, computed, _, _⟩, member, inside⟩ := List.mem_flatMap.mp step
    obtain ⟨purely, keyed⟩ := Property.isPureList_iff.mp pure _ member
    obtain ⟨part, listed, rfl⟩ := List.mem_map.mp inside
    refine .inr ⟨part, rfl, ?_⟩
    cases computed with
    | true =>
      obtain rfl | rfl := List.mem_pair.mp listed
      · exact keyed rfl
      · exact purely
    | false =>
      obtain rfl := List.mem_singleton.mp listed
      exact purely
  | .binary _ left right | .logical _ left right =>
    simp only [Expression.isPure, Bool.and_eq_true] at pure
    obtain ⟨part, listed, rfl⟩ := List.mem_map.mp step
    refine .inr ⟨part, rfl, ?_⟩
    obtain rfl | rfl := List.mem_pair.mp listed
    · exact pure.1
    · exact pure.2

/-- A use stands in the body of a function expression, no arrow function, that the walk through an
expression comes to. -/
def Use.InFunctionOf (u : Use) (e : Expression Occurrence) (scopes : List (List Text)) : Prop :=
  ∃ name params body,
    (Visit.expression e scopes).Reaches (.expression (.function name params body) scopes) ∧
    u ∈ Statement.usesList body ((headNames name params false ++ bodyNames body) :: scopes)

theorem Use.InFunctionOf.arguments_mem {u : Use} {e : Expression Occurrence}
    {scopes : List (List Text)} (inside : u.InFunctionOf e scopes) :
    Text.ofString "arguments" ∈ u.scopes.flatten := by
  obtain ⟨_, _, _, -, used⟩ := inside
  exact arguments_mem_scopes used

/-- Every use in a pure value is in the body of a function expression in it. -/
theorem Expression.isPure_uses {e : Expression Occurrence} (pure : e.isPure = true)
    (scopes : List (List Text)) : ∀ u ∈ e.uses scopes, u.InFunctionOf e scopes := by
  suffices walk : ∀ v : Visit, ∀ e, v = .expression e scopes → e.isPure = true →
      ∀ u ∈ e.uses scopes, u.InFunctionOf e scopes from walk _ e rfl pure
  intro v
  induction v using Visit.induction with
  | step v ih =>
    rintro e rfl pure u used
    rw [e.uses_eq, List.mem_append, Option.mem_toList, List.mem_flatMap] at used
    rcases used with here | ⟨w, step, below⟩
    · match e with
      | .identifier _ => cases pure
    rcases Visit.pure_step pure step with ⟨name, params, body, rfl⟩ | ⟨part, rfl, partPure⟩
    · refine ⟨name, params, body, .refl, ?_⟩
      rw [Statement.usesList_eq]
      exact List.mem_flatMap.mpr ⟨w, step, below⟩
    · obtain ⟨name, params, body, reached, inside⟩ := ih _ step part rfl partPure u below
      exact ⟨name, params, body, .head step reached, inside⟩

/-! ## Compiled modules -/

/-- Where no initializer may be deferred, all of them are pure. -/
theorem Program.codes_pure [Serializer] {program : Program Occurrence}
    (valid : program.validate .reject = .ok ()) {o : Occurrence} {init : Expression Occurrence}
    (listed : (o, Code.value (some init)) ∈ program.codes) : init.isPure = true := by
  obtain ⟨s, member, inside⟩ := List.mem_flatMap.mp listed
  have pure : ∀ d ∈ s.declarators, d.isPure = true := fun d declared =>
    ((Program.validate_eq_ok.mp valid).2 d
      (List.mem_flatMap.mpr ⟨s, member, declared⟩)).resolve_right
      nofun
  match s with
  | .declaration (.function _ _ _) | .exportDeclaration (.function _ _ _) =>
    simp [Statement.codes, Declaration.codes] at inside
  | .declaration (.variables _ _) | .exportDeclaration (.variables _ _) =>
    obtain ⟨⟨name, value⟩, d_member, same⟩ := List.mem_map.mp inside
    obtain rfl : value = some init := Code.value.inj (Prod.mk.inj same).2
    exact pure _ d_member

/-- In a valid module without deferred initializers every reference with an owner is inside a
function. -/
theorem Program.references_in_functions [Serializer] {program : Program Occurrence}
    (valid : program.validate .reject = .ok ()) {r : Reference}
    (member : r ∈ program.withoutExports.analyze.references) {owner : Text}
    (owned : r.owner = some owner) : Text.ofString "arguments" ∈ r.shadowed := by
  obtain ⟨⟨_, u⟩, listed, -, rfl⟩ := Program.mem_references.mp member
  obtain rfl : _ = some owner := owned
  obtain ⟨o, code, declared, -, used⟩ := (Program.mem_ownedUses_iff _).mp listed
  rw [Program.withoutExports_codes] at declared
  match code with
  | .function _ _ => exact arguments_mem_scopes used
  | .value (some init) =>
    have pure := Program.codes_pure valid declared
    exact (Expression.isPure_uses pure [] u used).arguments_mem

/-- The entries of a symbol whose value is not deferred are pure. -/
theorem ResolvedSymbol.Entries.isPure {s : ResolvedSymbol} {f : Occurrence → Occurrence}
    {code : Code} {group : List (Property Occurrence)} (entries : s.Entries .reject f code group) :
    Property.isPureList group = true := by
  cases entries with
  | function | missing => rfl
  | pure init pure => simp [Descriptor.entry, Property.isPureList, Expression.isPure_map, pure]
  | deferred _ _ _ postset => cases postset

theorem ResolvedSymbol.dependencyEntry_isPure (s : ResolvedSymbol) (keys : List Text) :
    Property.isPureList [s.dependencyEntry keys] = true := by
  have elements : ∀ keys : List Text, Expression.isPureElements
      (keys.map fun key => some (Descriptor.stringExpression key)) = true := by
    intro keys
    induction keys with
    | nil => rfl
    | cons _ _ ih => exact ih
  simp [ResolvedSymbol.dependencyEntry, Descriptor.entry, Property.isPureList, Expression.isPure,
    elements]

/-- Without deferred initializers the table of a descriptor is a pure value itself. -/
theorem Compiled.Describes.isPure {options : Options} {program : Program Text}
    {compiled : Compiled} (described : compiled.Describes options program)
    (reject : options.policy = .reject) :
    ∃ entries, compiled.descriptor = Descriptor.ofEntries entries ∧
      (Expression.object entries).isPure = true := by
  obtain ⟨groups, related, same⟩ := described.entries
  rw [reject] at related
  have pure : List.Forall₂ (fun group _ => Property.isPureList group = true ∧ True) groups
      compiled.table.symbols :=
    (related.imp fun _ _ ⟨_, _, entries⟩ => ⟨entries.isPure, trivial⟩).flip
  refine ⟨_, same, Property.isPureList_iff.mpr fun p member => ?_⟩
  rcases List.mem_append.mp member with grouped | listed
  · obtain ⟨group, group_member, inside⟩ := List.mem_flatten.mp grouped
    have each := ((List.forall₂_and_left _ _).mp pure).1 group group_member
    exact Property.isPureList_iff.mp each p inside
  · obtain ⟨s, -, rfl⟩ := List.mem_map.mp listed
    exact Property.isPureList_iff.mp (s.dependencyEntry_isPure _) _ List.mem_cons_self

/-- What is read in a pure value is read in a function. So it is with all references of the
declarations of a module that is compiled without deferred initializers, and with its table. -/
theorem pure_values_read_in_functions [Serializer] :
    (∀ (e : Expression Occurrence) (scopes : List (List Text)), e.isPure = true →
      ∀ u ∈ e.uses scopes, u.InFunctionOf e scopes) ∧
    ∀ (options : Options) (program : Program Text) (compiled : Compiled),
      options.policy = .reject → compile options program = .ok compiled →
      (∀ r ∈ program.label.withoutExports.analyze.references, ∀ owner, r.owner = some owner →
        Text.ofString "arguments" ∈ r.shadowed) ∧
      ∃ entries, compiled.descriptor = Descriptor.ofEntries entries ∧
        ∀ scopes, ∀ u ∈ (Expression.object entries).uses scopes,
          u.InFunctionOf (.object entries) scopes := by
  refine ⟨fun e scopes pure => Expression.isPure_uses pure scopes, ?_⟩
  intro options program compiled reject success
  constructor
  · obtain ⟨_, valid, -⟩ := compile_eq_ok success
    rw [reject] at valid
    exact fun r member owner owned => Program.references_in_functions valid member owned
  · obtain ⟨entries, same, pure⟩ := (compile_describes success).isPure reject
    exact ⟨entries, same, Expression.isPure_uses pure⟩

/-- A pure value with functions in an array and under a computed key. -/
def callbackTable : Expression Text :=
  .object [.mk (.identifier "run") (.array [some (.function none [] [.return (some
      (.call (.identifier "g") [.identifier "t"]))]), none]) false false false,
    .mk (.binary .add (.literal (.number (.integer 1)) (some "1")) .this)
      (.function (some "self") ["x"] [.expression (.identifier "t")]) true false false]

/-- A module that keeps it in a variable. -/
def callbackModule : Program Text :=
  ⟨[.declaration (.variables .var [.mk "t" (some callbackTable)]),
    .exportDeclaration (.function "g" ["x"] [.return (some (.identifier "t"))])]⟩

theorem callbackModule_reads_in_functions :
    ((callbackTable.map Occurrence.new).isPure = true ∧
      ((callbackTable.map Occurrence.new).uses []).map Use.name = ["g", "t", "t"] ∧
      ∀ u ∈ (callbackTable.map Occurrence.new).uses [],
        u.InFunctionOf (callbackTable.map Occurrence.new) []) ∧
    ∃ compiled, compile {} callbackModule = .ok compiled ∧
      callbackModule.label.withoutExports.analyze.references.map Reference.owner =
        ["t", "t", "t", "g"].map (some ∘ Text.ofString) ∧
      (∀ r ∈ callbackModule.label.withoutExports.analyze.references, ∀ owner,
        r.owner = some owner → Text.ofString "arguments" ∈ r.shadowed) ∧
      ∃ entries, compiled.descriptor = Descriptor.ofEntries entries ∧
        ∀ scopes, ∀ u ∈ (Expression.object entries).uses scopes,
          u.InFunctionOf (.object entries) scopes := by
  have compiles : (compile {} callbackModule).toOption.isSome = true := by decide +kernel
  refine ⟨⟨by decide, by decide, pure_values_read_in_functions.1 _ [] (by decide)⟩, ?_⟩
  cases success : compile {} callbackModule with
  | error e =>
    rw [success] at compiles
    cases compiles
  | ok compiled =>
    exact ⟨compiled, rfl, by decide +kernel,
      pure_values_read_in_functions.2 {} callbackModule compiled rfl success⟩

end LibraryDescriptor
