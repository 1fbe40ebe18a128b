import LibraryDescriptor.Proofs.Scope.FreeOccurrences
import LibraryDescriptor.Proofs.Scope.Sites
import LibraryDescriptor.Proofs.Syntax.Labeling

/-!
# Scope analysis and free occurrences

The analysis walks down with the scopes around it; the free occurrences of a tree are built up from
its leaves. Both say the same about every module.

* `Program.freeOccurrences` — what is free in the items of a module, with its owners.
* `Program.declaredNames` — what the items of a module declare.
* `Program.Agrees` — the references and globals of a module are its free occurrences.
* `analyze_agrees` — the analysis of every module agrees.
-/

namespace LibraryDescriptor

/-! ## Modules, bottom up -/

/-- An occurrence and the top-level declaration whose code it is in. -/
structure OwnedOccurrence where
  occurrence : Occurrence
  owner : Option Text
  deriving DecidableEq

def ownedBy (owner : Option Text) (occurrences : List Occurrence) : List OwnedOccurrence :=
  occurrences.map (⟨·, owner⟩)

/-- A function owns what is free in it, and a variable what is free in its initializer. -/
def Declaration.freeOwned (d : Declaration Occurrence) : List OwnedOccurrence :=
  match d with
  | .function name _ _ => ownedBy (some name.name) d.free
  | .variables _ declarators =>
    declarators.flatMap fun d => ownedBy (some d.name.name) (Expression.freeOption d.init)

/-- The free occurrences of a module item. A list of exports of the module itself has the names
that it exports. -/
def Statement.freeOwned (s : Statement Occurrence) : List OwnedOccurrence :=
  match s with
  | .declaration value | .exportDeclaration value => value.freeOwned
  | .exportList specifiers none => ownedBy none (specifiers.map ExportSpecifier.bound)
  | _ => ownedBy none s.free

def Program.freeOccurrences (program : Program Occurrence) : List OwnedOccurrence :=
  program.body.flatMap Statement.freeOwned

/-- The names that a module item declares: those of its declaration, those it imports, or the
variables anywhere in it. -/
def Statement.declared : Statement Occurrence → List Occurrence
  | .declaration (.function name _ _) | .exportDeclaration (.function name _ _) => [name]
  | .declaration (.variables _ declarators) | .exportDeclaration (.variables _ declarators) =>
    declarators.map Declarator.name
  | .importList specifiers _ => specifiers.map ImportSpecifier.bound
  | s => s.vars

def Program.declaredNames (program : Program Occurrence) : List Text :=
  (program.body.flatMap Statement.declared).map Occurrence.name

/-! ## The walk finds them -/

/-- The occurrences of the uses that no scope inside the module binds, with their owners. -/
def openOwned (uses : List OwnedUse) : List OwnedOccurrence :=
  (uses.filter fun u => !u.use.isLocal).map fun u => ⟨u.use.occurrence, u.owner⟩

theorem openOwned_flatMap {α : Type} (f : α → List OwnedUse) (list : List α) :
    openOwned (list.flatMap f) = list.flatMap fun a => openOwned (f a) := by
  simp only [openOwned, List.filter_flatMap, List.map_flatMap]

theorem openOwned_map (owner : Option Text) (uses : List Use) :
    openOwned (uses.map fun u => ⟨owner, u⟩) = ownedBy owner (openOccurrences uses) := by
  simp only [openOwned, ownedBy, openOccurrences, List.filter_map, List.map_map]
  rfl

theorem Declaration.openOwned_eq (d : Declaration Occurrence) :
    openOwned d.ownedUses = d.freeOwned := by
  match d with
  | .function name params body =>
    simp only [Declaration.ownedUses, Declaration.freeOwned, openOwned_map,
      Declaration.free_of_uses, outside_none]
  | .variables kind declarators =>
    simp only [Declaration.ownedUses, Declaration.freeOwned, openOwned_flatMap, openOwned_map,
      Expression.freeOption_of_uses, outside_none]

theorem Statement.openOwned_eq (s : Statement Occurrence) :
    openOwned s.ownedUses = s.freeOwned := by
  have plain : openOwned ((s.uses []).map fun u => ⟨none, u⟩) = ownedBy none s.free := by
    rw [openOwned_map, Statement.free_of_uses, outside_none]
  cases s with
  | declaration value | exportDeclaration value => exact value.openOwned_eq
  | exportList specifiers source =>
    cases source with
    | none =>
      -- No scope is around the names of an export list.
      simp only [Statement.ownedUses, Statement.freeOwned, openOwned, ownedBy, List.map_map]
      rw [List.filter_eq_self.mpr (by simp [Use.isLocal]), List.map_map]
      rfl
    | some => exact plain
  | _ => exact plain

theorem Program.openOwned_eq (program : Program Occurrence) :
    openOwned program.ownedUses = program.freeOccurrences := by
  simp only [Program.ownedUses, openOwned_flatMap, Statement.openOwned_eq, Program.freeOccurrences]

theorem Statement.definitions_occurrences (s : Statement Occurrence) :
    s.definitions.map Definition.occurrence = s.declared := by
  have plain : (s.hoisted.map fun d => (⟨.value, d.name⟩ : Definition)).map Definition.occurrence =
      s.vars := by
    rw [hoisted_definitions, List.map_map]
    exact List.map_id _
  cases s with
  | declaration value | exportDeclaration value =>
    cases value with
    | function => rfl
    | «variables» =>
      simp only [Statement.definitions, Declaration.definitions, Statement.declared, List.map_map]
      rfl
  | importList =>
    simp only [Statement.definitions, Statement.declared, List.map_map]
    rfl
  | _ => exact plain

theorem Program.mem_declaredNames {program : Program Occurrence} {name : Text} :
    name ∈ program.declaredNames ↔ name ∈ program.names := by
  have same : program.declaredNames =
      program.definitions.map fun d => d.occurrence.name := by
    simp only [Program.declaredNames, ← Statement.definitions_occurrences, Program.definitions,
      List.map_flatMap, List.map_map]
    rfl
  rw [same, List.mem_map]
  exact program.symbols_groups.mem_names.symm

theorem filterMap_reference? (names : List Text) (uses : List OwnedUse) :
    (uses.filterMap (OwnedUse.reference? names)).map (fun r => ⟨r.occurrence, r.owner⟩) =
      (openOwned uses).filter fun o => o.occurrence.name ∈ names := by
  induction uses with
  | nil => rfl
  | cons u us ih =>
    rw [openOwned] at ih ⊢
    by_cases bound : u.use.isLocal
    · simp [OwnedUse.reference?, bound, ih]
    · by_cases known : u.use.name ∈ names
      · have known' : u.use.occurrence.name ∈ names := known
        simp [OwnedUse.reference?, bound, known, known', ih]
      · have unknown : u.use.occurrence.name ∉ names := known
        simp [OwnedUse.reference?, bound, known, unknown, ih]

/-! ## The analysis agrees -/

/-- The analysis of a module says what its free occurrences say. -/
structure Program.Agrees (program : Program Occurrence) : Prop where
  /-- The references are the free occurrences of declared names, in order and with their owners. -/
  references : (program.analyze.references.map fun r => ⟨r.occurrence, r.owner⟩) =
    program.freeOccurrences.filter fun o => o.occurrence.name ∈ program.declaredNames
  /-- Such an occurrence is recorded once, and any other one nowhere. -/
  recorded : ∀ o ∈ program.occurrences,
    program.analyze.references.countP (fun r => r.occurrence = o) =
      if o ∈ program.freeOccurrences.map OwnedOccurrence.occurrence ∧
        o.name ∈ program.declaredNames then 1 else 0
  /-- Every reference is at an occurrence of the module. -/
  within : ∀ r ∈ program.analyze.references, r.occurrence ∈ program.occurrences
  globals : ∀ name, name ∈ program.analyze.globals ↔
    (∃ o ∈ program.freeOccurrences, o.occurrence.name = name) ∧ name ∉ program.declaredNames
  ascending : program.analyze.globals.Pairwise Text.Before

theorem Program.references_eq (program : Program Occurrence) :
    (program.analyze.references.map fun r => ⟨r.occurrence, r.owner⟩) =
      program.freeOccurrences.filter fun o => o.occurrence.name ∈ program.declaredNames := by
  rw [Program.analyze, filterMap_reference?, Program.openOwned_eq]
  apply List.filter_congr
  intro o _
  rw [decide_eq_decide]
  exact Program.mem_declaredNames.symm

/-- At most one use is at an occurrence, so at most one reference is. -/
theorem Program.Numbered.count_references_le {program : Program Occurrence}
    (numbered : program.Numbered) {o : Occurrence} (member : o ∈ program.occurrences) :
    program.analyze.references.countP (fun r => r.occurrence = o) ≤ 1 := by
  obtain ⟨site, sited⟩ := Option.isSome_iff_exists.mp (numbered.sited o member)
  have few := numbered.count_le_one site
  have sub : program.analyze.references.countP (fun r => r.occurrence = o) ≤
      countOwned (fun o => o.site == some site) program.ownedUses := by
    rw [Program.analyze, List.countP_filterMap, countOwned]
    apply List.countP_mono_left
    intro u _ found
    cases recorded : u.reference? (program.symbols.map ModuleSymbol.name) with
    | none => simp [recorded] at found
    | some r =>
      obtain ⟨-, rfl⟩ := OwnedUse.reference?_eq_some.mp recorded
      have same : u.use.occurrence = o := by simpa [recorded] using found
      simp [same, sited]
  omega

theorem Program.recorded_iff {program : Program Occurrence} {o : Occurrence} :
    0 < program.analyze.references.countP (fun r => r.occurrence = o) ↔
      o ∈ program.freeOccurrences.map OwnedOccurrence.occurrence ∧
        o.name ∈ program.declaredNames := by
  have counted : program.analyze.references.countP (fun r => r.occurrence = o) =
      (program.freeOccurrences.filter fun o => o.occurrence.name ∈ program.declaredNames).countP
        fun f => f.occurrence = o := by
    rw [← Program.references_eq, List.countP_map]
    rfl
  rw [counted, List.countP_pos_iff, List.mem_map]
  constructor
  · rintro ⟨f, member, same⟩
    obtain ⟨free, declared⟩ := List.mem_filter.mp member
    obtain rfl : f.occurrence = o := of_decide_eq_true same
    exact ⟨⟨f, free, rfl⟩, of_decide_eq_true declared⟩
  · rintro ⟨⟨f, free, rfl⟩, declared⟩
    exact ⟨f, List.mem_filter.mpr ⟨free, decide_eq_true declared⟩, decide_eq_true rfl⟩

theorem Program.mem_globals_iff_free {program : Program Occurrence} {name : Text} :
    name ∈ program.analyze.globals ↔
      (∃ o ∈ program.freeOccurrences, o.occurrence.name = name) ∧
        name ∉ program.declaredNames := by
  rw [Program.mem_globals, Program.mem_declaredNames, and_comm, ← Program.openOwned_eq]
  apply and_congr_left'
  constructor
  · rintro ⟨u, member, unbound, named⟩
    refine ⟨⟨u.use.occurrence, u.owner⟩, List.mem_map.mpr ⟨u, ?_, rfl⟩, named⟩
    exact List.mem_filter.mpr ⟨member, by rw [unbound, Bool.not_false]⟩
  · rintro ⟨o, member, named⟩
    obtain ⟨u, u_member, rfl⟩ := List.mem_map.mp member
    obtain ⟨u_member, unbound⟩ := List.mem_filter.mp u_member
    exact ⟨u, u_member, by simpa using unbound, named⟩

theorem Program.Numbered.agrees {program : Program Occurrence} (numbered : program.Numbered) :
    program.Agrees where
  references := program.references_eq
  recorded o member := by
    have few := numbered.count_references_le member
    have found := program.recorded_iff (o := o)
    split
    · next free =>
      have := found.mpr free
      omega
    · next other =>
      have := found.not.mpr other
      omega
  within r member := by
    obtain ⟨u, u_member, -, rfl⟩ := Program.mem_references.mp member
    exact Program.use_mem_occurrences u_member
  globals _ := Program.mem_globals_iff_free
  ascending := program.globals_ascending

/-- The analysis of every module records what is free in its items and nothing else. -/
theorem analyze_agrees (program : Program Text) :
    program.label.erase = program ∧ program.label.Agrees :=
  ⟨program.label_erase, program.label_numbered.agrees⟩

end LibraryDescriptor
