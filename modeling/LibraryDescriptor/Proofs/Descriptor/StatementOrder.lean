import LibraryDescriptor.Proofs.Descriptor.Failures
import LibraryDescriptor.Proofs.Symbol.Reordering

/-!
# The order of statements

The top-level statements of a module can be put in any order: the symbols, their dependencies and
the entries stay the same.

* `Program.dependencyKeys` — the dependencies of a symbol, told from the uses of a module.
* `Statement.entries_unsited` — entries do not depend on sites.
* `compile_order_irrelevant` — a module compiles in one order if it does in another, and the results
  are the same up to the order of the entries.
-/

namespace LibraryDescriptor

open Descriptor
open Occurrence (unsited)

/-! ## Dependencies by uses -/

def OwnedUse.dependencyKey? (table : SymbolTable) (name : Text) (u : OwnedUse) : Option Text :=
  if u.owner = some name ∧ u.use.isLocal = false ∧ u.use.name ≠ name then table.key? u.use.name
  else none

def Program.dependencyKeys (program : Program Occurrence) (table : SymbolTable) (name : Text) :
    List Text :=
  (program.ownedUses.filterMap (OwnedUse.dependencyKey? table name)).eraseDups

namespace ScopeAnalysis.Resolved

variable {program : Program Occurrence} {exports : ExportMap} {options : Options}
  {table : SymbolTable} (resolved : program.analyze.Resolved exports options table)

include resolved

theorem get?_eq_none {name : Text} (undeclared : name ∉ program.names) :
    table.get? name = none := by
  cases found : table.get? name with
  | none => rfl
  | some s =>
    obtain ⟨member, rfl⟩ := SymbolTable.get?_some found
    exact absurd (resolved.names_eq ▸ List.mem_map_of_mem member) undeclared

/-- A reference gives a symbol the dependency that its use gives. -/
theorem dependencyKey?_eq (only : program.DeclaresOnly) {u : OwnedUse}
    (used : u ∈ program.ownedUses) {s : ResolvedSymbol} (member : s ∈ table.symbols) :
    ((((u.reference? program.names).bind fun r => (r.dependency? table).toOption.join).filter
      fun pair => pair.1.key = s.key).map fun pair => pair.2.key) =
      u.dependencyKey? table s.name := by
  obtain ⟨owner, use⟩ := u
  by_cases refers : OwnedUse.refers program.names ⟨owner, use⟩
  · rw [OwnedUse.reference?_eq_some.mpr ⟨refers, rfl⟩, Option.bind_some]
    cases owner with
    | none => simp [Reference.dependency?, Except.toOption, OwnedUse.dependencyKey?]
    | some owner =>
      obtain ⟨o, code, listed, rfl, -⟩ := program.mem_ownedUses_iff.mp used
      obtain ⟨source, source_member, source_name, source_found⟩ :=
        resolved.exists_get?_of_code only listed
      obtain ⟨target, -, -, target_found⟩ := resolved.exists_get? refers.2
      have target_key : table.key? use.name = some target.key :=
        congrArg (Option.map ResolvedSymbol.key) target_found
      have unbound : use.isLocal = false := refers.1
      -- The keys of two symbols are equal where their names are.
      have same : source.key = s.key ↔ o.name = s.name := by
        rw [← source_name]
        exact ⟨fun keys => congrArg _ (resolved.key_inj source_member member keys),
          fun names => congrArg _ (resolved.name_inj source_member member names)⟩
      have edge : (Reference.mk use.occurrence (some o.name) use.scopes.flatten).dependency? table =
          .ok (if o.name = use.name then none else some (source, target)) :=
        Reference.dependency?_of_get? rfl source_found target_found
      rw [edge, OwnedUse.dependencyKey?]
      by_cases itself : o.name = use.name
      · rw [if_pos itself, if_neg]
        · rfl
        · rintro ⟨own, -, other⟩
          exact other (itself ▸ Option.some.inj own)
      · rw [if_neg itself]
        by_cases own : o.name = s.name
        · rw [if_pos ⟨congrArg some own, unbound, own ▸ Ne.symm itself⟩, target_key]
          simp [Except.toOption, same.mpr own]
        · rw [if_neg fun holds => own (Option.some.inj holds.1)]
          have apart : source.key ≠ s.key := fun keys => own (same.mp keys)
          simp [Except.toOption, apart]
  · have none_found : OwnedUse.reference? program.names ⟨owner, use⟩ = none :=
      Option.eq_none_iff_forall_ne_some.mpr fun r found =>
        refers (OwnedUse.reference?_eq_some.mp found).1
    rw [none_found, OwnedUse.dependencyKey?]
    -- A use of a name that is not declared has no key to give.
    by_cases unbound : use.isLocal = false
    · have missing := resolved.get?_eq_none fun declared => refers ⟨unbound, declared⟩
      simp [SymbolTable.key?, missing]
    · simp [unbound]

theorem dependenciesOf_eq (only : program.DeclaresOnly) {graph : DependencyGraph}
    (success : program.analyze.dependencies table = .ok graph) {s : ResolvedSymbol}
    (member : s ∈ table.symbols) :
    graph.dependenciesOf s.key = program.dependencyKeys table s.name := by
  obtain ⟨found, mapped, success⟩ := bind_eq_ok.mp success
  obtain rfl := pure_eq_ok.mp success
  rw [DependencyGraph.dependenciesOf, lookup_map_of_nodup resolved.keys member, Option.getD_some,
    Program.dependencyKeys]
  have edges : found.filterMap id = program.analyze.references.filterMap fun r =>
      (r.dependency? table).toOption.join := by
    have each : found = program.analyze.references.map fun r =>
        (r.dependency? table).toOption.join := by
      apply mapM_ok_map mapped
      intro r pair done
      rw [done]
      rfl
    rw [each, List.filterMap_map]
    rfl
  have references : program.analyze.references =
      program.ownedUses.filterMap (OwnedUse.reference? program.names) := rfl
  rw [edges, references, List.filterMap_filterMap, List.filter_filterMap, List.map_filterMap]
  exact congrArg List.eraseDups
    (List.filterMap_congr fun u used => resolved.dependencyKey?_eq only used member)

omit resolved in
theorem dependenciesOf_eq_nil {graph : DependencyGraph}
    (success : program.analyze.dependencies table = .ok graph) {key : Text}
    (absent : key ∉ table.symbols.map ResolvedSymbol.key) : graph.dependenciesOf key = [] := by
  obtain ⟨found, -, success⟩ := bind_eq_ok.mp success
  obtain rfl := pure_eq_ok.mp success
  rw [DependencyGraph.dependenciesOf, List.lookup_eq_none_iff.mpr]
  · rfl
  · intro pair listed
    obtain ⟨s, member, rfl⟩ := List.mem_map.mp listed
    rw [bne_iff_ne]
    rintro rfl
    exact absent (List.mem_map_of_mem member)

end ScopeAnalysis.Resolved

/-! ## Dependencies of reordered modules -/

theorem flatMap_eq_of_perm {α β : Type} {f : α → List β} {list list' : List α}
    (perm : list.Perm list') (few : list.Pairwise fun a b => f a = [] ∨ f b = []) :
    list.flatMap f = list'.flatMap f := by
  induction perm with
  | nil => rfl
  | cons a _ ih => rw [List.flatMap_cons, List.flatMap_cons, ih (List.pairwise_cons.mp few).2]
  | swap a b _ =>
    rcases (List.pairwise_cons.mp few).1 a List.mem_cons_self with empty | empty
    · simp [List.flatMap_cons, empty]
    · simp [List.flatMap_cons, empty]
  | trans first _ ih ih' =>
    exact (ih few).trans (ih' ((first.pairwise_iff Or.symm).mp few))

theorem Statement.owner_mem {s : Statement Occurrence} {u : OwnedUse} (used : u ∈ s.ownedUses)
    {name : Text} (owned : u.owner = some name) :
    name ∈ s.definitions.map fun d => d.occurrence.name := by
  obtain ⟨owner, use⟩ := u
  obtain rfl : owner = some name := owned
  obtain ⟨o, code, listed, rfl, -⟩ := s.mem_ownedUses_iff.mp used
  have declared : ∀ d : Declaration Occurrence, (o, code) ∈ d.codes →
      o.name ∈ d.definitions.map fun d => d.occurrence.name := by
    intro d coded
    have named : o ∈ d.definitions.map Definition.occurrence :=
      d.codes_names ▸ List.mem_map_of_mem coded
    obtain ⟨e, member, rfl⟩ := List.mem_map.mp named
    exact List.mem_map_of_mem member
  match s with
  | .declaration d | .exportDeclaration d => exact declared d listed

/-- Only one statement of a module has uses in the code of a name. -/
theorem Program.dependencyKeys_perm {first second : Program Occurrence}
    (perm : first.body.Perm second.body) (once : first.definedNames.Nodup) (table : SymbolTable)
    (name : Text) : first.dependencyKeys table name = second.dependencyKeys table name := by
  have names : first.definedNames =
      first.body.flatMap fun s => s.definitions.map fun d => d.occurrence.name := by
    rw [Program.definedNames, Program.definitions, List.map_flatMap]
  rw [names, List.nodup_flatMap] at once
  rw [Program.dependencyKeys, Program.dependencyKeys, Program.ownedUses, Program.ownedUses,
    List.filterMap_flatMap, List.filterMap_flatMap]
  refine congrArg List.eraseDups (flatMap_eq_of_perm perm (once.2.imp ?_))
  intro s t disjoint
  have owner : ∀ r : Statement Occurrence,
      r.ownedUses.filterMap (OwnedUse.dependencyKey? table name) ≠ [] →
        name ∈ r.definitions.map fun d => d.occurrence.name := by
    intro r some_key
    obtain ⟨key, listed⟩ := List.exists_mem_of_ne_nil _ some_key
    obtain ⟨u, used, found⟩ := List.mem_filterMap.mp listed
    rw [OwnedUse.dependencyKey?] at found
    split at found
    · next holds => exact Statement.owner_mem used holds.1
    · cases found
  by_cases none_in_s : s.ownedUses.filterMap (OwnedUse.dependencyKey? table name) = []
  · exact .inl none_in_s
  by_cases none_in_t : t.ownedUses.filterMap (OwnedUse.dependencyKey? table name) = []
  · exact .inr none_in_t
  exact (disjoint (owner s none_in_s) (owner t none_in_t)).elim

theorem Program.dependencyKeys_unsited (program : Program Occurrence) (table : SymbolTable)
    (name : Text) : (program.map unsited).dependencyKeys table name =
      program.dependencyKeys table name := by
  rw [Program.dependencyKeys, Program.ownedUses_unsited, List.filterMap_map]
  refine congrArg List.eraseDups (List.filterMap_congr fun u _ => ?_)
  have owner : (u.map unsited id).owner = u.owner := Option.map_id_apply
  rw [Function.comp_apply, OwnedUse.dependencyKey?, owner]
  rfl

theorem Program.Reorders.dependencyKeys {first second : Program Occurrence}
    (order : first.Reorders second) (once : first.definedNames.Nodup) {table table' : SymbolTable}
    (same : table.Same table') (name : Text) :
    first.dependencyKeys table name = second.dependencyKeys table' name := by
  have names : (first.map unsited).definedNames = first.definedNames := by
    rw [Program.definedNames, Program.definitions_map, List.map_map]
    rfl
  have keys : OwnedUse.dependencyKey? table = OwnedUse.dependencyKey? table' := by
    funext name u
    simp only [OwnedUse.dependencyKey?, SymbolTable.key?, same.get?]
  calc first.dependencyKeys table name
      = (first.map unsited).dependencyKeys table name := (first.dependencyKeys_unsited ..).symm
    _ = (second.map unsited).dependencyKeys table name :=
        Program.dependencyKeys_perm order (names ▸ once) table name
    _ = second.dependencyKeys table name := second.dependencyKeys_unsited ..
    _ = second.dependencyKeys table' name := by
        rw [Program.dependencyKeys, keys, Program.dependencyKeys]

theorem ScopeAnalysis.Resolved.dependenciesOf_reordered {first second : Program Occurrence}
    (order : first.Reorders second) {exports exports' : ExportMap} {options : Options}
    {table table' : SymbolTable} (same : table.Same table')
    (resolved : first.analyze.Resolved exports options table)
    (resolved' : second.analyze.Resolved exports' options table')
    (only : first.DeclaresOnly) (only' : second.DeclaresOnly) {graph graph' : DependencyGraph}
    (linked : first.analyze.dependencies table = .ok graph)
    (linked' : second.analyze.dependencies table' = .ok graph') (key : Text) :
    graph.dependenciesOf key = graph'.dependenciesOf key := by
  have once := Program.definedNames_nodup fun s member => (resolved.declared s member).2
  by_cases listed : key ∈ table.symbols.map ResolvedSymbol.key
  · obtain ⟨s, member, rfl⟩ := List.mem_map.mp listed
    have member' : s ∈ table'.symbols := same.symbols.mem_iff.mp member
    rw [resolved.dependenciesOf_eq only linked member,
      resolved'.dependenciesOf_eq only' linked' member']
    exact order.dependencyKeys once same s.name
  · have absent : key ∉ table'.symbols.map ResolvedSymbol.key := fun present =>
      listed ((same.symbols.map _).mem_iff.mpr present)
    rw [dependenciesOf_eq_nil linked listed, dependenciesOf_eq_nil linked' absent]

theorem SymbolTable.Same.dependencyEntries {first second : SymbolTable} (same : first.Same second)
    {graph graph' : DependencyGraph}
    (dependencies : ∀ key, graph.dependenciesOf key = graph'.dependenciesOf key) :
    (first.dependencyEntries graph).Perm (second.dependencyEntries graph') := by
  simp only [SymbolTable.dependencyEntries, dependencies]
  exact same.symbols.filterMap _

/-! ## Entries of reordered modules -/

section Entries

variable (table : SymbolTable) (policy : InitializerPolicy)

theorem Declarator.entries_unsited (d : Declarator Occurrence) :
    (d.map unsited).entries table policy =
      (d.entries table policy).map (List.map (Property.map unsited)) := by
  obtain ⟨name, _ | init⟩ := d
  · rfl
  have pure_eq : (init.map unsited).isPure = init.isPure := Expression.isPure_map unsited init
  have printed : ∀ reference : Text,
      (Expression.assignment .assign (nameExpression reference) (init.map unsited)).erase =
        (Expression.assignment .assign (nameExpression reference) init).erase := by
    intro reference
    simp only [Expression.erase, Expression.map, Expression.map_map]
    rfl
  simp only [Declarator.entries, Declarator.map, Declarator.init, Declarator.name, pure_eq, printed]
  by_cases pure : init.isPure = true
  · simp only [pure]
    rfl
  cases policy with
  | reject =>
    simp only [pure]
    rfl
  | postset =>
    have same_key : (unsited name).name = name.name := rfl
    simp only [pure, same_key]
    cases table.byKey? name.name with
    | none => rfl
    | some s =>
      simp only
      cases (Expression.assignment .assign (nameExpression s.reference) init).erase.print <;> rfl

theorem Statement.entries_unsited (d : Declaration Occurrence) :
    ((Statement.declaration d).map unsited).entries table policy =
      ((Statement.declaration d).entries table policy).map (List.map (Property.map unsited)) := by
  match d with
  | .function _ _ _ => rfl
  | .variables kind declarators =>
    have mapped : (Declarator.mapList unsited declarators).mapM (Declarator.entries table policy) =
        (declarators.mapM (Declarator.entries table policy)).map
          (List.map (List.map (Property.map unsited))) := by
      rw [Declarator.mapList_eq_map]
      exact mapM_map_eq fun d _ => d.entries_unsited table policy
    change ((Declarator.mapList unsited declarators).mapM (Declarator.entries table policy) >>= _) =
      Except.map _ (declarators.mapM (Declarator.entries table policy) >>= _)
    rw [mapped]
    cases declarators.mapM (Declarator.entries table policy) with
    | error e => rfl
    | ok groups => exact congrArg Except.ok List.map_flatten.symm

end Entries

theorem SymbolTable.Same.entries {first second : SymbolTable} (same : first.Same second)
    (policy : InitializerPolicy) :
    Statement.entries first policy = Statement.entries second policy := by
  have each : Declarator.entries first policy = Declarator.entries second policy := by
    funext d
    simp only [Declarator.entries, same.byKey?]
  funext s
  unfold Statement.entries
  rw [each]

/-- The entries of a module that is renamed, without sites, are those of its statements on their
own. -/
theorem Program.entries_standalone {program : Program Text} {table : SymbolTable}
    (known : ∀ name, name ∉ program.label.withoutExports.names → table.get? name = none)
    (only : program.label.withoutExports.DeclaresOnly) (policy : InitializerPolicy) :
    (program.body.filterMap (Statement.standalone table)).mapM (Statement.entries table policy) =
      ((program.label.withoutExports.rename
        (table.renaming program.label.withoutExports.analyze)).body.mapM
          (Statement.entries table policy)).map (List.map (List.map (Property.map unsited))) := by
  rw [← Program.rename_body known]
  apply mapM_map_eq
  intro s member
  rw [Program.rename, Program.body_map] at member
  obtain ⟨t, t_member, rfl⟩ := List.mem_map.mp member
  obtain ⟨d, rfl⟩ := only t t_member
  exact Statement.entries_unsited table policy _

theorem Program.entries_reordered {program permuted : Program Text}
    (perm : program.body.Perm permuted.body) {table table' : SymbolTable} (same : table.Same table')
    (known : ∀ name, name ∉ program.label.withoutExports.names → table.get? name = none)
    (known' : ∀ name, name ∉ permuted.label.withoutExports.names → table'.get? name = none)
    (only : program.label.withoutExports.DeclaresOnly)
    (only' : permuted.label.withoutExports.DeclaresOnly) {policy : InitializerPolicy}
    {entries : List (Property Occurrence)}
    (success : (program.label.withoutExports.rename
      (table.renaming program.label.withoutExports.analyze)).entries table policy = .ok entries) :
    ∃ entries', (permuted.label.withoutExports.rename
        (table'.renaming permuted.label.withoutExports.analyze)).entries table' policy =
          .ok entries' ∧
      (entries.map (Property.map unsited)).Perm (entries'.map (Property.map unsited)) := by
  obtain ⟨parts, mapped, success⟩ := bind_eq_ok.mp success
  obtain rfl := pure_eq_ok.mp success
  have alone := Program.entries_standalone known only policy
  have alone' := Program.entries_standalone known' only' policy
  rw [mapped] at alone
  obtain ⟨results, listed, order⟩ := mapM_perm (perm.symm.filterMap _) alone
  rw [same.standalone, same.entries, alone'] at listed
  cases found : (permuted.label.withoutExports.rename
      (table'.renaming permuted.label.withoutExports.analyze)).body.mapM
        (Statement.entries table' policy) with
  | error e =>
    rw [found] at listed
    cases listed
  | ok parts' =>
    rw [found] at listed
    obtain rfl := Except.ok.inj listed
    refine ⟨parts'.flatten, bind_eq_ok.mpr ⟨parts', found, rfl⟩, ?_⟩
    rw [List.map_flatten, List.map_flatten]
    exact order.symm.flatten

/-! ## Compilation of reordered modules -/

/-- Two results are the same, up to the order of symbols and entries and the sites of names. -/
structure Compiled.SameUpToOrder (first second : Compiled) : Prop where
  symbols : ∀ name, first.table.get? name = second.table.get? name
  dependencies : ∀ key, first.graph.dependenciesOf key = second.graph.dependenciesOf key
  entries : ∃ entries entries', first.descriptor = ofEntries entries ∧
    second.descriptor = ofEntries entries' ∧
    (entries.map (Property.map Occurrence.name)).Perm (entries'.map (Property.map Occurrence.name))

theorem map_name_perm {entries entries' : List (Property Occurrence)}
    (perm : (entries.map (Property.map unsited)).Perm (entries'.map (Property.map unsited))) :
    (entries.map (Property.map Occurrence.name)).Perm
      (entries'.map (Property.map Occurrence.name)) := by
  have names : ∀ list : List (Property Occurrence),
      (list.map (Property.map unsited)).map (Property.map Occurrence.name) =
        list.map (Property.map Occurrence.name) := by
    intro list
    rw [List.map_map]
    exact List.map_congr_left fun p _ => p.map_map unsited Occurrence.name
  rw [← names entries, ← names entries']
  exact perm.map _

theorem compile_reordered [Serializer] {options : Options} {program permuted : Program Text}
    (perm : program.body.Perm permuted.body) {compiled : Compiled}
    (success : compile options program = .ok compiled) :
    ∃ compiled', compile options permuted = .ok compiled' ∧ compiled.SameUpToOrder compiled' := by
  obtain ⟨exports, valid, exported, success, linked, described⟩ := compile_eq_ok success
  have order := Program.reorders_of_perm perm
  have only := Program.declaresOnly_of_validate valid
  -- Validation looks at one statement at a time.
  have accepted : permuted.rejected? options.policy = none := by
    have each := List.findSome?_eq_none_iff.mp (Program.validate_label_eq_ok.mp valid)
    exact List.findSome?_eq_none_iff.mpr fun s member => each s (perm.mem_iff.mpr member)
  have valid' := Program.validate_label_eq_ok.mpr accepted
  have only' := Program.declaresOnly_of_validate valid'
  -- Exports and symbols are the same.
  obtain ⟨_, registered, same⟩ := bind_eq_ok.mp exported
  obtain rfl := congrArg Prod.fst (pure_eq_ok.mp same)
  obtain ⟨names, targets, rfl⟩ := ExportMap.ofPairs_eq_ok.mp registered
  have pairs := Program.exportPairs_perm perm
  have registered' := ExportMap.ofPairs_eq_ok.mpr
    ⟨(pairs.map Prod.fst).nodup_iff.mp names, (pairs.map Prod.snd).nodup_iff.mp targets, rfl⟩
  obtain ⟨clear, table_eq⟩ := Program.resolve_eq_ok_iff.mp success
  have success' := (clear.reordered order pairs names).resolve
  have tables := Program.table_reordered order pairs names clear
  rw [← table_eq] at tables
  generalize permuted.label.withoutExports.table _ options = table' at success' tables
  have resolved := ScopeAnalysis.resolve_resolved success
  have resolved' := ScopeAnalysis.resolve_resolved success'
  obtain ⟨graph', linked'⟩ := resolved'.exists_dependencies only'
  have dependencies := resolved.dependenciesOf_reordered order tables resolved' only only' linked
    linked'
  -- So are the entries.
  obtain ⟨entries, listed, described⟩ := bind_eq_ok.mp described
  obtain ⟨entries', listed', moved⟩ := Program.entries_reordered perm tables
    (fun _ => resolved.get?_eq_none) (fun _ => resolved'.get?_eq_none) only only' listed
  refine ⟨⟨ofEntries (entries' ++ table'.dependencyEntries graph'), table', graph'⟩, ?_,
    tables.get?, dependencies, ?_⟩
  · exact bind_eq_ok.mpr ⟨⟨⟩, valid', bind_eq_ok.mpr ⟨(_, permuted.label.withoutExports),
      bind_eq_ok.mpr ⟨_, registered', rfl⟩, bind_eq_ok.mpr ⟨table', success',
        bind_eq_ok.mpr ⟨graph', linked', bind_eq_ok.mpr ⟨_,
          bind_eq_ok.mpr ⟨entries', listed', rfl⟩, rfl⟩⟩⟩⟩⟩
  · refine ⟨_, _, (pure_eq_ok.mp described).symm, rfl, map_name_perm ?_⟩
    rw [List.map_append, List.map_append]
    exact moved.append ((tables.dependencyEntries dependencies).map _)

/-- The order of top-level statements does not matter: a module compiles if it does in another
order, and then the symbols, the dependencies and the entries are the same. -/
theorem compile_order_irrelevant [Serializer] (options : Options) {program permuted : Program Text}
    (perm : program.body.Perm permuted.body) :
    ((∃ compiled, compile options program = .ok compiled) ↔
        ∃ compiled, compile options permuted = .ok compiled) ∧
      ∀ compiled compiled', compile options program = .ok compiled →
        compile options permuted = .ok compiled' → compiled.SameUpToOrder compiled' := by
  refine ⟨⟨?_, ?_⟩, ?_⟩
  · rintro ⟨compiled, success⟩
    obtain ⟨compiled', success', -⟩ := compile_reordered perm success
    exact ⟨compiled', success'⟩
  · rintro ⟨compiled, success⟩
    obtain ⟨compiled', success', -⟩ := compile_reordered perm.symm success
    exact ⟨compiled', success'⟩
  · intro compiled compiled' success success'
    obtain ⟨again, success_again, same⟩ := compile_reordered perm success
    rw [success'] at success_again
    obtain rfl := Except.ok.inj success_again
    exact same

/-- A module whose function and variable need each other, and whose helper is exported apart. -/
def entangledModule : Program Text :=
  ⟨[.exportDeclaration (.function "f" []
      [.return (some (.call (.identifier "g") [.identifier "x", .identifier "y"]))]),
    .declaration (.function "g" ["x"] [.return (some (.identifier "x"))]),
    .declaration (.variables .var [.mk "x" (some (.call (.identifier "f") []))]),
    .exportList [⟨"g", "h"⟩] none]⟩

/-- Its statements from the last to the first give the same symbols, last to first. -/
theorem entangledModule_order :
    ∃ compiled compiled', compile { policy := .postset } entangledModule = .ok compiled ∧
      compile { policy := .postset } ⟨entangledModule.body.reverse⟩ = .ok compiled' ∧
      compiled.table.symbols.map ResolvedSymbol.name = [("f" : Text), ("g" : Text), ("x" : Text)] ∧
      compiled'.table.symbols.map ResolvedSymbol.name = [("x" : Text), ("g" : Text), ("f" : Text)] ∧
      compiled.SameUpToOrder compiled' := by
  have perm : entangledModule.body.Perm (Program.mk entangledModule.body.reverse).body :=
    (List.reverse_perm _).symm
  obtain ⟨both, same⟩ := compile_order_irrelevant { policy := .postset } perm
  have found : (compile { policy := .postset } entangledModule).toOption.map
      (fun compiled => compiled.table.symbols.map ResolvedSymbol.name) =
        some [("f" : Text), ("g" : Text), ("x" : Text)] := by
    decide +kernel
  have found' : (compile { policy := .postset } ⟨entangledModule.body.reverse⟩).toOption.map
      (fun compiled => compiled.table.symbols.map ResolvedSymbol.name) =
        some [("x" : Text), ("g" : Text), ("f" : Text)] := by
    decide +kernel
  cases success : compile { policy := .postset } entangledModule with
  | error e =>
    rw [success] at found
    cases found
  | ok compiled =>
    obtain ⟨compiled', success'⟩ := both.mp ⟨compiled, success⟩
    rw [success, Except.toOption, Option.map_some, Option.some_inj] at found
    rw [success', Except.toOption, Option.map_some, Option.some_inj] at found'
    exact ⟨compiled, compiled', rfl, success', found, found', same _ _ success success'⟩

end LibraryDescriptor
