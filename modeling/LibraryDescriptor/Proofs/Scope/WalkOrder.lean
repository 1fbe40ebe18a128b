import Mathlib.Data.List.Flatten
import Mathlib.Data.List.ReduceOption
import LibraryDescriptor.Proofs.Scope.NestedDeclarations
import LibraryDescriptor.Proofs.Syntax.Words

/-!
# The order of the walk

The walk over a module finds uses in the order of the source, with one exception: it visits the test
of a loop before the body, also where the test stands behind it.

* `Visit.induction` — the walk goes down.
* `Visit.names`, `Visit.inSource` — the names that are written at a visit, and where the walk goes
  from there, in the order of the source.
* `Visit.names_step` — what a step of the walk does to the names that are written.
* `Program.Visits.names_sublist` — the whole walk keeps that; `Program.Visits.swaps` — a loop with
  its test at the end does not.
* `Visit.Apart`, `Program.marked_sublist` — some uses are found in the order of the source, unless a
  loop with its test at the end has such uses both in its test and in its body.
-/

namespace LibraryDescriptor

/-! ## The walk goes down -/

noncomputable def Visit.size : Visit → Nat
  | .expression e _ => sizeOf e
  | .statement s _ _ => sizeOf s
  | .head h _ => sizeOf h

@[simp] theorem Visit.size_expression (e : Expression Occurrence) (scopes : List (List Text)) :
    (Visit.expression e scopes).size = sizeOf e := rfl

@[simp] theorem Visit.size_statement (s : Statement Occurrence) (scopes : List (List Text))
    (alone : Bool) : (Visit.statement s scopes alone).size = sizeOf s := rfl

@[simp] theorem Visit.size_head (h : LoopHead Occurrence) (scopes : List (List Text)) :
    (Visit.head h scopes).size = sizeOf h := rfl

section Size

variable {scopes : List (List Text)} {w : Visit}

theorem blockVisits_size {body : List (Statement Occurrence)}
    (member : w ∈ blockVisits body scopes) :
    w.size < sizeOf body := by
  obtain ⟨s, s_member, rfl⟩ := List.mem_map.mp member
  exact List.sizeOf_lt_of_mem s_member

theorem expressionVisits_size {es : List (Expression Occurrence)}
    (member : w ∈ expressionVisits es scopes) : w.size < sizeOf es := by
  obtain ⟨e, e_member, rfl⟩ := List.mem_map.mp member
  exact List.sizeOf_lt_of_mem e_member

theorem optionVisits_size {e : Option (Expression Occurrence)}
    (member : w ∈ expressionVisits e.toList scopes) : w.size < sizeOf e := by
  obtain ⟨e, e_member, rfl⟩ := List.mem_map.mp member
  obtain rfl := Option.mem_toList.mp e_member
  simp

theorem declaratorVisits_size {ds : List (Declarator Occurrence)}
    (member : w ∈ declaratorVisits ds scopes) : w.size < sizeOf ds := by
  obtain ⟨⟨name, init⟩, d_member, inside⟩ := List.mem_flatMap.mp member
  have smaller := List.sizeOf_lt_of_mem d_member
  have inner := optionVisits_size inside
  simp only [Declarator.mk.sizeOf_spec, Declarator.init] at smaller inner
  omega

theorem Declaration.visits_size {d : Declaration Occurrence} (member : w ∈ d.visits scopes) :
    w.size < sizeOf d := by
  cases d with
  | function name params body =>
    have smaller := blockVisits_size member
    simp only [Declaration.function.sizeOf_spec]
    omega
  | «variables» kind declarators =>
    have smaller := declaratorVisits_size member
    simp only [Declaration.variables.sizeOf_spec]
    omega

theorem Expression.visits_size {e : Expression Occurrence} (member : w ∈ e.visits scopes) :
    w.size < sizeOf e := by
  cases e with
  | identifier | literal | this => cases member
  | array elements =>
    obtain ⟨e, e_member, rfl⟩ := List.mem_map.mp member
    have smaller := List.sizeOf_lt_of_mem (List.reduceOption_mem_iff.mp e_member)
    simp only [Option.some.sizeOf_spec, Expression.array.sizeOf_spec,
      Visit.size_expression] at smaller ⊢
    omega
  | object properties =>
    obtain ⟨⟨key, value, computed, _, _⟩, p_member, inside⟩ := List.mem_flatMap.mp member
    have smaller := List.sizeOf_lt_of_mem p_member
    have inner : w = .expression key scopes ∨ w = .expression value scopes := by
      cases computed <;> simp_all [propertyVisits, expressionVisits]
    rcases inner with rfl | rfl <;> simp at smaller ⊢ <;> omega
  | function | arrowBlock =>
    have smaller := blockVisits_size member
    simp only [Expression.function.sizeOf_spec, Expression.arrowBlock.sizeOf_spec]
    omega
  | sequence =>
    have smaller := expressionVisits_size member
    simp only [Expression.sequence.sizeOf_spec]
    omega
  | arrow | unary | update =>
    obtain rfl := List.mem_singleton.mp member
    simp only [Visit.size_expression, Expression.arrow.sizeOf_spec, Expression.unary.sizeOf_spec,
      Expression.update.sizeOf_spec]
    omega
  | binary | logical | assignment | conditional =>
    simp only [Expression.visits, expressionVisits, List.map_cons, List.map_nil, List.mem_cons,
      List.not_mem_nil, or_false] at member
    rcases member with rfl | rfl | rfl <;> simp <;> omega
  | call callee arguments | new callee arguments =>
    rcases List.mem_cons.mp member with rfl | further
    · simp
      omega
    · have smaller := expressionVisits_size further
      simp only [Expression.call.sizeOf_spec, Expression.new.sizeOf_spec]
      omega
  | member owner property computed =>
    have inner : w = .expression owner scopes ∨ w = .expression property scopes := by
      cases computed <;> simp_all [Expression.visits, expressionVisits]
    rcases inner with rfl | rfl
    all_goals
      simp only [Visit.size_expression, Expression.member.sizeOf_spec]
      omega

theorem Statement.visits_size {s : Statement Occurrence} (member : w ∈ s.visits scopes) :
    w.size < sizeOf s := by
  cases s with
  | declaration value =>
    have smaller := Declaration.visits_size member
    simp only [Statement.declaration.sizeOf_spec]
    omega
  | exportDeclaration | exportList | importList | «break» | «continue» | empty => cases member
  | expression | throw =>
    obtain rfl := List.mem_singleton.mp member
    simp
  | block =>
    have smaller := blockVisits_size member
    simp only [Statement.block.sizeOf_spec]
    omega
  | «return» =>
    have smaller := optionVisits_size member
    simp only [Statement.return.sizeOf_spec]
    omega
  | «if» test consequent alternate =>
    simp only [Statement.visits, List.mem_cons, List.mem_map, Option.mem_toList] at member
    rcases member with rfl | rfl | ⟨_, rfl, rfl⟩ <;> simp <;> omega
  | «for» init test update body =>
    simp only [Statement.visits, expressionVisits, List.map_append, List.mem_append, List.mem_map,
      Option.mem_toList, List.mem_singleton] at member
    rcases member with (⟨_, rfl, rfl⟩ | ⟨_, rfl, rfl⟩ | ⟨_, rfl, rfl⟩) | rfl <;>
      simp <;> omega
  | forIn left right body | forOf left right body =>
    simp only [Statement.visits, List.mem_cons, List.not_mem_nil, or_false] at member
    rcases member with rfl | rfl | rfl <;> simp <;> omega
  | «while» test body | doWhile body test =>
    simp only [Statement.visits, List.mem_cons, List.not_mem_nil, or_false] at member
    rcases member with rfl | rfl
    all_goals
      simp only [Visit.size_expression, Visit.size_statement, Statement.while.sizeOf_spec,
        Statement.doWhile.sizeOf_spec]
      omega
  | «try» body handler finalizer =>
    simp only [Statement.visits, List.mem_append, List.mem_flatMap, Option.mem_toList] at member
    rcases member with (inside | ⟨⟨param, body⟩, rfl, inside⟩) | ⟨body, rfl, inside⟩ <;>
      have smaller := blockVisits_size inside <;> simp <;> omega
  | switch discriminant cases =>
    rcases List.mem_cons.mp member with rfl | further
    · simp
      omega
    · obtain ⟨⟨test, consequent⟩, c_member, inside⟩ := List.mem_flatMap.mp further
      have case := List.sizeOf_lt_of_mem c_member
      rcases List.mem_append.mp inside with tested | listed
      · have smaller := optionVisits_size tested
        simp at case ⊢
        omega
      · have smaller := blockVisits_size listed
        simp at case ⊢
        omega

/-- A step of the walk leads to a smaller tree. -/
theorem Visit.size_lt {v : Visit} (step : w ∈ v.next) : w.size < v.size := by
  match v with
  | .expression _ _ => exact Expression.visits_size step
  | .statement _ _ _ => exact Statement.visits_size step
  | .head (.variables kind declarators) _ =>
    have smaller := declaratorVisits_size step
    change w.size < sizeOf (LoopHead.variables kind declarators)
    rw [LoopHead.variables.sizeOf_spec]
    omega
  | .head (.expression value) _ =>
    obtain rfl := List.mem_singleton.mp step
    simp

end Size

/-- What holds of a visit if it holds wherever the walk goes from there holds of all visits. -/
theorem Visit.induction {P : Visit → Prop} (step : ∀ v, (∀ w ∈ v.next, P w) → P v)
    (v : Visit) : P v :=
  step v fun w _ => Visit.induction step w
termination_by v.size
decreasing_by exact Visit.size_lt ‹_›

/-! ## The walk and the words -/

namespace Visit

def names : Visit → List Occurrence
  | .expression e _ => Word.written e.words
  | .statement s _ _ => Word.written s.words
  | .head h _ => Word.written h.words

@[simp] theorem names_expression (e : Expression Occurrence) (scopes : List (List Text)) :
    (expression e scopes).names = Word.written e.words := rfl

@[simp] theorem names_statement (s : Statement Occurrence) (scopes : List (List Text))
    (alone : Bool) : (statement s scopes alone).names = Word.written s.words := rfl

@[simp] theorem names_head (h : LoopHead Occurrence) (scopes : List (List Text)) :
    (head h scopes).names = Word.written h.words := rfl

/-- Where the walk goes from a visit, in the order of the source. The test of a loop with its test
at the end is visited before the body. -/
def inSource : Visit → List Visit
  | .statement (.doWhile body test) scopes _ =>
    [.statement body scopes true, .expression test scopes]
  | v => v.next

end Visit

section Names

variable (scopes : List (List Text))

theorem blockVisits_names (ss : List (Statement Occurrence)) :
    (blockVisits ss scopes).flatMap Visit.names = Word.written (Statement.wordsList ss) := by
  induction ss with
  | nil => rfl
  | cons s ss ih =>
    rw [Statement.wordsList, Word.written_append, ← ih]
    rfl

theorem scopedVisits_names (body : List (Statement Occurrence)) :
    (scopedVisits body scopes).flatMap Visit.names = Word.written (Statement.wordsList body) :=
  blockVisits_names _ body

theorem expressionVisits_names (es : List (Expression Occurrence)) :
    (expressionVisits es scopes).flatMap Visit.names = Word.written (Expression.wordsList es) := by
  induction es with
  | nil => rfl
  | cons e es ih =>
    rw [Expression.wordsList, Word.written_append, ← ih]
    rfl

theorem elementVisits_names (es : List (Option (Expression Occurrence))) :
    (expressionVisits es.reduceOption scopes).flatMap Visit.names =
      Word.written (Expression.wordsElements es) := by
  induction es with
  | nil => rfl
  | cons e es ih =>
    cases e with
    | none => exact ih
    | some e =>
      rw [Expression.wordsElements, Word.written_append, ← ih]
      rfl

theorem optionVisits_names (e : Option (Expression Occurrence)) :
    (expressionVisits e.toList scopes).flatMap Visit.names =
      Word.written (Expression.wordsOption e) := by
  cases e with
  | none => rfl
  | some e => exact List.append_nil _

theorem declaratorVisits_names (ds : List (Declarator Occurrence)) :
    ((declaratorVisits ds scopes).flatMap Visit.names).Sublist
      (Word.written (Declarator.wordsList ds)) := by
  induction ds with
  | nil => exact .slnil
  | cons d ds ih =>
    obtain ⟨name, init⟩ := d
    have first := optionVisits_names scopes init
    simp only [declaratorVisits, Declarator.init, List.flatMap_cons, List.flatMap_append] at ih ⊢
    rw [first]
    simpa [Declarator.wordsList] using ((List.Sublist.refl _).append ih).cons name

theorem propertyVisits_names (ps : List (Property Occurrence)) :
    ((ps.flatMap (propertyVisits scopes)).flatMap Visit.names).Sublist
      (Word.written (Property.wordsList ps)) := by
  induction ps with
  | nil => exact .slnil
  | cons p ps ih =>
    obtain ⟨key, value, computed, shorthand, method⟩ := p
    rw [List.flatMap_cons, List.flatMap_append, Property.wordsList, Word.written_append]
    refine List.Sublist.append ?_ ih
    have written : Word.written (if method then Word.method value.words else value.words) =
        Word.written value.words := by
      cases method <;> simp
    rw [Property.words, Word.written_append, written]
    -- A key that is not computed is not visited, so a short form is one use, that of the value.
    cases computed <;> simp [propertyVisits, expressionVisits]

theorem handlerVisits_names (handler : Option (CatchClause Occurrence)) :
    ((handler.toList.flatMap (handlerVisits scopes)).flatMap Visit.names).Sublist
      (Word.written (CatchClause.wordsOption handler)) := by
  match handler with
  | none => exact .slnil
  | some (.mk param body) =>
    rw [Option.toList_some, List.flatMap_singleton, handlerVisits, scopedVisits_names]
    simp [CatchClause.wordsOption]

theorem finalizerVisits_names (finalizer : Option (List (Statement Occurrence))) :
    (finalizer.toList.flatMap (scopedVisits · scopes)).flatMap Visit.names =
      Word.written (Statement.wordsFinalizer finalizer) := by
  match finalizer with
  | none => rfl
  | some body =>
    rw [Option.toList_some, List.flatMap_singleton, scopedVisits_names]
    simp [Statement.wordsFinalizer]

theorem caseVisits_names (cases : List (SwitchCase Occurrence)) :
    (cases.flatMap (caseVisits scopes)).flatMap Visit.names =
      Word.written (SwitchCase.wordsList cases) := by
  induction cases with
  | nil => rfl
  | cons c cs ih =>
    obtain ⟨test, consequent⟩ := c
    have tested : Word.written (SwitchCase.testWords test) =
        Word.written (Expression.wordsOption test) := by
      cases test <;> simp [SwitchCase.testWords, Expression.wordsOption]
    rw [List.flatMap_cons, List.flatMap_append, ih, caseVisits, List.flatMap_append,
      optionVisits_names, blockVisits_names, SwitchCase.wordsList, Word.written_append,
      Word.written_append, tested]

theorem Declaration.visits_names (d : Declaration Occurrence) :
    ((d.visits scopes).flatMap Visit.names).Sublist (Word.written d.words) := by
  cases d with
  | function name params body =>
    rw [Declaration.visits, blockVisits_names]
    simp [Declaration.words]
  | «variables» kind declarators => exact declaratorVisits_names scopes declarators

theorem Expression.visits_names (e : Expression Occurrence) :
    ((Visit.expression e scopes).use?.toList.map Use.occurrence ++
      (e.visits scopes).flatMap Visit.names).Sublist (Word.written e.words) := by
  cases e with
  | identifier name => exact .refl [name]
  | literal | this => exact List.nil_sublist _
  | array elements => exact elementVisits_names scopes elements ▸ .refl _
  | object properties => exact propertyVisits_names scopes properties
  | sequence expressions => exact expressionVisits_names scopes expressions ▸ .refl _
  | function | arrowBlock =>
    simp [Visit.use?, Expression.visits, blockVisits_names, Expression.words]
  | arrow | unary | update | binary | logical | assignment | conditional =>
    simp [Visit.use?, Expression.visits, expressionVisits, Expression.words]
  | call callee arguments | new callee arguments =>
    rw [Expression.visits, expressionVisits_names]
    simp [Visit.use?, Expression.words, Expression.wordsList]
  | member object property computed =>
    cases computed <;>
      simp [Visit.use?, Expression.visits, expressionVisits, Expression.words]

theorem Statement.visits_names (s : Statement Occurrence) (alone : Bool) :
    ((Visit.statement s scopes alone).inSource.flatMap Visit.names).Sublist
      (Word.written s.words) := by
  cases s with
  | declaration value => exact value.visits_names scopes
  | exportDeclaration | exportList | importList | «break» | «continue» | empty =>
    exact List.nil_sublist _
  | expression | throw =>
    simp [Visit.inSource, Visit.next, Statement.visits, Statement.words]
  | block body => exact scopedVisits_names scopes body ▸ .refl _
  | «return» argument => exact optionVisits_names scopes argument ▸ .refl _
  | «if» test consequent alternate =>
    cases alternate <;>
      simp [Visit.inSource, Visit.next, Statement.visits, Statement.words]
  | «for» init test update body =>
    cases init <;> cases test <;> cases update <;>
      simp [Visit.inSource, Visit.next, Statement.visits, expressionVisits, Statement.words,
        LoopHead.wordsOption, Expression.wordsOption]
  | forIn | forOf | «while» | doWhile =>
    simp [Visit.inSource, Visit.next, Statement.visits, Statement.words]
  | «try» body handler finalizer =>
    have handled := (handlerVisits_names scopes handler).append
      (.refl (Word.written (Statement.wordsFinalizer finalizer)))
    simpa [Visit.inSource, Visit.next, Statement.visits, scopedVisits_names, finalizerVisits_names,
      Statement.words] using handled
  | switch discriminant cases =>
    simp [Visit.inSource, Visit.next, Statement.visits, caseVisits_names, Statement.words]

/-- The use that a visit is, and the names where the walk goes from there, are written in the tree
that is visited. -/
theorem Visit.names_step (v : Visit) :
    (v.use?.toList.map Use.occurrence ++ v.inSource.flatMap Visit.names).Sublist v.names := by
  match v with
  | .expression e scopes => exact e.visits_names scopes
  | .statement s scopes alone => exact s.visits_names scopes alone
  | .head (.variables kind declarators) scopes => exact declaratorVisits_names scopes declarators
  | .head (.expression value) scopes =>
    simp [Visit.use?, Visit.inSource, Visit.next, LoopHead.words]

end Names

theorem Visit.mem_inSource {v w : Visit} : w ∈ v.inSource ↔ w ∈ v.next := by
  unfold inSource
  split
  · simp [Visit.next, Statement.visits, or_comm]
  · rfl

theorem Visit.names_of_step {v w : Visit} (step : w ∈ v.next) : w.names.Sublist v.names :=
  ((sublist_flatMap_of_mem (mem_inSource.mpr step)).trans (List.sublist_append_right _ _)).trans
    v.names_step

/-- A use that the walk finds below a visit is written there. -/
theorem Visit.use_mem_names (v : Visit) : ∀ u ∈ v.uses, u.occurrence ∈ v.names := by
  induction v using Visit.induction with
  | step v ih =>
    intro u found
    refine v.names_step.subset ?_
    rw [v.uses_eq] at found
    rcases List.mem_append.mp found with here | further
    · exact List.mem_append_left _ (List.mem_map_of_mem here)
    · obtain ⟨w, step, inside⟩ := List.mem_flatMap.mp further
      exact List.mem_append_right _ (List.mem_flatMap.mpr
        ⟨w, mem_inSource.mpr step, ih w step u inside⟩)

/-! ## Marked uses -/

section Marked

variable (marked : Occurrence → Bool)

def markedUses (uses : List Use) : List Occurrence := (uses.map Use.occurrence).filter marked

theorem markedUses_flatMap (visits : List Visit) :
    markedUses marked (visits.flatMap Visit.uses) =
      visits.flatMap fun v => markedUses marked v.uses := by
  simp [markedUses, List.map_flatMap, List.filter_flatMap]

/-- If a visit is a loop with its test at the end, there are no marked uses in the test, or none in
the body. -/
def Visit.Apart (v : Visit) : Prop :=
  ∀ body test scopes alone, v = .statement (.doWhile body test) scopes alone →
    markedUses marked (test.uses scopes) = [] ∨ markedUses marked (body.uses scopes) = []

variable {marked}

/-- Below a visit the marked uses are found in the order of the source, if loops keep them apart. -/
theorem Visit.marked_sublist (v : Visit)
    (apart : ∀ w, v.Reaches w → w.Apart marked) :
    (markedUses marked v.uses).Sublist v.names := by
  induction v using Visit.induction with
  | step v ih =>
    have each : ∀ w ∈ v.next, (markedUses marked w.uses).Sublist w.names := fun w step =>
      ih w step fun u reached => apart u (.head step reached)
    have further : (v.next.flatMap fun w => markedUses marked w.uses).Sublist
        (v.inSource.flatMap Visit.names) := by
      unfold inSource
      split
      · next body test scopes alone =>
        -- One of the two lists is empty, so their order does not matter.
        obtain ⟨tested, inside⟩ : (markedUses marked (test.uses scopes)).Sublist
            (Visit.expression test scopes).names ∧ (markedUses marked (body.uses scopes)).Sublist
              (Visit.statement body scopes true).names :=
          ⟨each _ (.head _), each _ (.tail _ (.head _))⟩
        have whole := inside.append tested
        rcases apart _ .refl body test scopes alone rfl with none | none <;>
          simpa [Visit.next, Statement.visits, Visit.uses, none] using whole
      · exact List.Sublist.flatMap_right _ each
    have here : (markedUses marked v.use?.toList).Sublist (v.use?.toList.map Use.occurrence) :=
      List.filter_sublist
    have whole := (here.append further).trans v.names_step
    rwa [← markedUses_flatMap, markedUses, markedUses, ← List.filter_append, ← List.map_append,
      ← v.uses_eq] at whole

end Marked

/-! ## The walk over a module -/

/-- The names that are written where the walk over a module item goes, in the order of the source.
The names in a list of exports of this module are uses. -/
def Statement.walked (s : Statement Occurrence) : List Occurrence :=
  match s with
  | .exportList specifiers none => specifiers.map ExportSpecifier.bound
  | s => s.itemVisits.flatMap Visit.names

/-- The names that are written where the walk over a module goes. -/
def Program.walked (program : Program Occurrence) : List Occurrence :=
  program.body.flatMap Statement.walked

def Program.used (program : Program Occurrence) : List Occurrence :=
  program.ownedUses.map fun u => u.use.occurrence

theorem Statement.visits_sublist_walked (s : Statement Occurrence) :
    (s.itemVisits.flatMap Visit.names).Sublist s.walked := by
  unfold Statement.walked
  split
  · exact List.nil_sublist _
  · exact .refl _

/-- The uses of a list of exports of this module are the names in it; the uses of another module
item are those that the walk finds. -/
theorem Statement.used_eq (s : Statement Occurrence) :
    (s.ownedUses.map fun u => u.use.occurrence) = s.walked ∨
      (s.ownedUses.map fun u => u.use.occurrence) =
        (s.itemVisits.flatMap Visit.uses).map Use.occurrence := by
  rcases s.ownedUses_uses with ⟨specifiers, rfl⟩ | same
  · refine .inl ?_
    rw [Statement.ownedUses, List.map_map]
    rfl
  · refine .inr ?_
    rw [← same, List.map_map]
    rfl

theorem Statement.used_subset_walked (s : Statement Occurrence) :
    (s.ownedUses.map fun u => u.use.occurrence) ⊆ s.walked := by
  rcases s.used_eq with same | same
  · exact same ▸ List.Subset.refl _
  · intro o used
    obtain ⟨u, found, rfl⟩ := List.mem_map.mp (same ▸ used)
    obtain ⟨root, root_member, inside⟩ := List.mem_flatMap.mp found
    exact s.visits_sublist_walked.subset
      (List.mem_flatMap.mpr ⟨root, root_member, root.use_mem_names u inside⟩)

/-- Every use is written where the walk goes. -/
theorem Program.used_subset_walked (program : Program Occurrence) :
    program.used ⊆ program.walked := by
  intro o used
  rw [Program.used, Program.ownedUses, List.map_flatMap] at used
  obtain ⟨s, s_member, inside⟩ := List.mem_flatMap.mp used
  exact List.mem_flatMap.mpr ⟨s, s_member, s.used_subset_walked inside⟩

theorem Statement.marked_sublist {marked : Occurrence → Bool} (s : Statement Occurrence)
    (apart : ∀ root ∈ s.itemVisits, ∀ w, root.Reaches w → w.Apart marked) :
    ((s.ownedUses.map fun u => u.use.occurrence).filter marked).Sublist s.walked := by
  rcases s.used_eq with same | same
  · exact same ▸ List.filter_sublist
  · have each : (s.itemVisits.flatMap fun v => markedUses marked v.uses).Sublist
        (s.itemVisits.flatMap Visit.names) :=
      List.Sublist.flatMap_right _ fun root member => root.marked_sublist (apart root member)
    rw [← markedUses_flatMap] at each
    rw [same]
    exact each.trans s.visits_sublist_walked

/-- The marked uses of a module are found in the order of the source, if all loops keep them
apart. -/
theorem Program.marked_sublist {marked : Occurrence → Bool} (program : Program Occurrence)
    (apart : ∀ v, program.Visits v → v.Apart marked) :
    (program.used.filter marked).Sublist program.walked := by
  rw [Program.used, Program.ownedUses, List.map_flatMap, List.filter_flatMap]
  exact List.Sublist.flatMap_right _ fun s s_member => s.marked_sublist
    fun root root_member w reached => apart w ⟨s, s_member, root, root_member, reached⟩

theorem Program.Visits.names_sublist {program : Program Occurrence} {v : Visit}
    (visited : program.Visits v) : v.names.Sublist program.walked := by
  obtain ⟨s, s_member, root, root_member, reached⟩ := visited
  have below : v.names.Sublist root.names := by
    induction reached with
    | refl => exact .refl _
    | tail _ step ih => exact (Visit.names_of_step step).trans ih
  exact (below.trans (sublist_flatMap_of_mem root_member)).trans
    (s.visits_sublist_walked.trans (sublist_flatMap_of_mem s_member))

/-- The walk finds the uses in the test of a loop with its test at the end before those in the body,
which are written in front of them. -/
theorem Program.Visits.swaps {program : Program Occurrence} {body : Statement Occurrence}
    {test : Expression Occurrence} {scopes : List (List Text)} {alone : Bool}
    (visited : program.Visits (.statement (.doWhile body test) scopes alone)) {b t : Use}
    (in_body : b ∈ body.uses scopes) (in_test : t ∈ test.uses scopes) :
    [t.occurrence, b.occurrence].Sublist program.used ∧
      [b.occurrence, t.occurrence].Sublist program.walked := by
  constructor
  · have found : [t, b].Sublist ((Visit.statement (.doWhile body test) scopes alone).uses) :=
      (List.singleton_sublist.mpr in_test).append (List.singleton_sublist.mpr in_body)
    have used := (found.trans visited.uses_sublist).map Use.occurrence
    rwa [List.map_map] at used
  · have step := (Visit.statement (.doWhile body test) scopes alone).names_step
    refine List.Sublist.trans ?_ (step.trans visited.names_sublist)
    have first := (Visit.statement body scopes true).use_mem_names b in_body
    have second := (Visit.expression test scopes).use_mem_names t in_test
    have both := (List.singleton_sublist.mpr first).append (List.singleton_sublist.mpr second)
    simpa [Visit.use?, Visit.inSource] using both

/-! ## Words of a module -/

theorem Word.Listed.firsts_sublist {text : Occurrence → Text}
    {pairs : List (Occurrence × Occurrence)}
    {ws : List (Word Occurrence)} (listed : Listed text pairs ws) :
    (pairs.map Prod.fst).Sublist (written ws) := by
  induction listed with
  | nil => exact .slnil
  | renamed _ ih => exact (ih.cons _).cons_cons _
  | kept _ _ ih => exact ih.cons_cons _

theorem Statement.Spelled.walked_sublist {text : Occurrence → Text} {s : Statement Occurrence}
    {ws : List (Word Occurrence)} (spelled : s.Spelled text ws) :
    s.walked.Sublist (Word.written ws) := by
  cases s with
  | exportList specifiers source =>
    cases source with
    | none =>
      obtain ⟨inner, listed, rfl⟩ := spelled
      have firsts := listed.firsts_sublist
      rw [List.map_map] at firsts
      simpa [Statement.walked, Function.comp_def, ExportSpecifier.pair] using firsts
    | some => exact List.nil_sublist _
  | importList => exact List.nil_sublist _
  | declaration value | exportDeclaration value =>
    obtain rfl : ws = _ := spelled
    exact value.visits_names []
  | _ =>
    obtain rfl : ws = _ := spelled
    simp [Statement.walked, Statement.itemVisits]

/-- What the walk over a module comes to is written in it, in the same order. -/
theorem Program.Spelled.walked_sublist {text : Occurrence → Text} {program : Program Occurrence}
    {ws : List (Word Occurrence)} (spelled : program.Spelled text ws) :
    program.walked.Sublist (Word.written ws) := by
  obtain ⟨body⟩ := program
  change Statement.SpelledList text body ws at spelled
  induction spelled with
  | nil => exact .slnil
  | cons first _ ih =>
    rw [Word.written_append]
    exact first.walked_sublist.append ih

end LibraryDescriptor
