import LibraryDescriptor.Proofs.Descriptor.FreeDependencies
import LibraryDescriptor.Proofs.Symbol.Clashes
import LibraryDescriptor.Proofs.Syntax.Labeling

/-!
# Entries of a descriptor

A descriptor has the entries of its symbols in the order of their declarations, and after them the
lists of dependencies.

* `Program.names_eq_definitions` — symbols that are declared once are in the order of declarations.
* `ResolvedSymbol.Entries` — the entries of a symbol, by its code.
* `Program.entries_groups` — the entries of a module, one group for each declared name.
* `Compiled.Describes` — a descriptor has the entries of its symbols and their dependencies.
* `compile_describes` — every compiled module is described so.
-/

namespace LibraryDescriptor

open Descriptor

/-! ## Declared names -/

/-- The declarations of a module, exported or not, in order. -/
def Program.declarations {ν : Type} (program : Program ν) : List (Declaration ν) :=
  program.body.filterMap Statement.declared?

def Program.topLevelNames {ν : Type} (program : Program ν) : List ν :=
  program.declarations.flatMap Declaration.names

theorem Statement.declared?_map {ν μ : Type} (f : ν → μ) (s : Statement ν) :
    (s.map f).declared? = s.declared?.map (Declaration.map f) := by
  cases s with
  | «if» _ _ alternate => cases alternate <;> rfl
  | «for» init => cases init <;> rfl
  | _ => rfl

theorem Program.topLevelNames_map {ν μ : Type} (f : ν → μ) (program : Program ν) :
    (program.map f).topLevelNames = program.topLevelNames.map f := by
  obtain ⟨body⟩ := program
  simp only [Program.topLevelNames, Program.declarations, Program.map]
  induction body with
  | nil => rfl
  | cons s ss ih =>
    rw [Statement.mapList, List.filterMap_cons, List.filterMap_cons, Statement.declared?_map]
    cases s.declared? with
    | none => exact ih
    | some d =>
      simp only [Option.map_some, List.flatMap_cons, List.map_append, Declaration.names_map, ih]

theorem Program.withoutExports_declarations {ν : Type} (program : Program ν) :
    program.withoutExports.declarations = program.declarations := by
  rw [Program.declarations, Program.withoutExports, List.filterMap_filterMap]
  apply List.filterMap_congr
  intro s _
  cases s <;> rfl

/-- Taking the exports away leaves the code of a module. -/
theorem Program.withoutExports_codes (program : Program Occurrence) :
    program.withoutExports.codes = program.codes := by
  obtain ⟨body⟩ := program
  simp only [Program.codes, Program.withoutExports]
  induction body with
  | nil => rfl
  | cons s ss ih =>
    rw [List.filterMap_cons, List.flatMap_cons, ← ih]
    cases s <;> rfl

theorem Program.withoutExports_code? (program : Program Occurrence) :
    program.withoutExports.code? = program.code? := by
  funext name
  rw [Program.code?, Program.code?, Program.withoutExports_codes]

/-- The definitions of a module of declarations are those of its declared names. -/
theorem Program.DeclaresOnly.definitions_eq {program : Program Occurrence}
    (only : program.DeclaresOnly) :
    (program.definitions.map Definition.occurrence) = program.topLevelNames := by
  obtain ⟨body⟩ := program
  simp only [Program.definitions, Program.topLevelNames, Program.declarations]
  induction body with
  | nil => rfl
  | cons s ss ih =>
    obtain ⟨d, rfl⟩ := only s List.mem_cons_self
    have tail := ih fun t member => only t (List.mem_cons_of_mem _ member)
    have head : d.definitions.map Definition.occurrence = d.names := by
      obtain _ | _ := d
      · rfl
      · rw [Declaration.definitions, Declaration.names, List.map_map]
        rfl
    rw [List.flatMap_cons, List.map_append, tail]
    exact congrArg (· ++ _) head

/-! ## Symbols in the order of declarations -/

/-- Where no symbol is declared again, there is a symbol for each definition. -/
theorem Program.names_eq_definitions {program : Program Occurrence}
    (once : ∀ s ∈ program.symbols, s.others = []) :
    program.names = program.definitions.map fun d => d.occurrence.name := by
  rw [Program.names, Program.symbols_eq_map (Program.definedNames_nodup once), List.map_map]
  rfl

/-! ## Purity does not depend on names -/

section Map

variable {ν μ : Type} (f : ν → μ)

mutual

theorem Expression.isPure_map : ∀ e : Expression ν, (e.map f).isPure = e.isPure
  | .literal _ _ | .this | .function _ _ _ | .identifier _ | .arrow _ _ | .arrowBlock _ _
  | .update _ _ _ | .assignment _ _ _ | .conditional _ _ _ | .call _ _ | .new _ _ | .member _ _ _
  | .sequence _ => rfl
  | .unary _ argument => by
    simp only [Expression.map, Expression.isPure, Expression.isPure_map argument]
  | .array elements => by
    simp only [Expression.map, Expression.isPure, Expression.isPureElements_map elements]
  | .object properties => by
    simp only [Expression.map, Expression.isPure, Property.isPureList_map properties]
  | .binary _ left right | .logical _ left right => by
    simp only [Expression.map, Expression.isPure, Expression.isPure_map left,
      Expression.isPure_map right]

theorem Expression.isPureElements_map :
    ∀ es : List (Option (Expression ν)),
      Expression.isPureElements (Expression.mapElements f es) = Expression.isPureElements es
  | [] => rfl
  | none :: es => by
    simp only [Expression.mapElements, Expression.isPureElements, Expression.isPureElements_map es]
  | some e :: es => by
    simp only [Expression.mapElements, Expression.isPureElements, Expression.isPure_map e,
      Expression.isPureElements_map es]

theorem Property.isPureList_map :
    ∀ ps : List (Property ν), Property.isPureList (Property.mapList f ps) = Property.isPureList ps
  | [] => rfl
  | .mk key value _ _ _ :: ps => by
    simp only [Property.mapList, Property.map, Property.isPureList, Expression.isPure_map key,
      Expression.isPure_map value, Property.isPureList_map ps]

end

end Map

/-! ## Entries by code -/

/-- The entries of a symbol whose code is given and whose names get new ones by `f`: the function
without a name and with the same parameters, or the initial value. A missing or deferred value is
`void 0`, and a deferred one is assigned later. -/
inductive ResolvedSymbol.Entries (s : ResolvedSymbol) (policy : InitializerPolicy)
    (f : Occurrence → Occurrence) : Code → List (Property Occurrence) → Prop where
  | function (params : List Occurrence) (body : List (Statement Occurrence)) :
      Entries s policy f (.function params body)
        [entry s.key (.function none params (Statement.mapList f body))]
  | missing : Entries s policy f (.value none) [entry s.key voidZero]
  | pure (init : Expression Occurrence) (pure : init.isPure = true) :
      Entries s policy f (.value (some init)) [entry s.key (init.map f)]
  | deferred (init : Expression Occurrence) (text : Text) (impure : init.isPure = false)
      (postset : policy = .postset)
      (written : (Expression.assignment .assign (nameExpression s.reference)
        (init.map f)).erase.print = .ok text) :
      Entries s policy f (.value (some init))
        [entry s.key voidZero, entry (s.key ++ postsetSuffix) (stringExpression text)]

/-- A symbol stands in a table for a declared name and its code. -/
structure ResolvedSymbol.StandsFor (s : ResolvedSymbol) (table : SymbolTable)
    (f : Occurrence → Occurrence) (declared : Occurrence × Code) : Prop where
  key : (f declared.1).name = s.key
  found : table.byKey? s.key = some s
  kept : ∀ o ∈ declared.2.enclosed, f o = o

section Groups

variable {table : SymbolTable} {policy : InitializerPolicy} {f : Occurrence → Occurrence}

theorem Declarator.entries_map {d : Declarator Occurrence} {group : List (Property Occurrence)}
    (success : (d.map f).entries table policy = .ok group) {s : ResolvedSymbol}
    (stands : s.StandsFor table f (d.name, .value d.init)) :
    s.Entries policy f (.value d.init) group := by
  obtain ⟨name, init⟩ := d
  have key : (f name).name = s.key := stands.key
  cases init with
  | none =>
    obtain rfl := Except.ok.inj success
    rw [Declarator.map, Declarator.name, key]
    exact .missing
  | some init =>
    simp only [Declarator.map, Declarator.entries, Declarator.name, Declarator.init, key,
      Expression.isPure_map, stands.found] at success
    split at success
    · next pure =>
      obtain rfl := Except.ok.inj success
      exact .pure init pure
    · next impure =>
      split at success
      · cases success
      · next postset =>
        obtain ⟨text, written, same⟩ := bind_eq_ok.mp success
        obtain rfl := pure_eq_ok.mp same
        exact .deferred init text (by simpa using impure) (by simpa using postset)
          (mapError_eq_ok.mp written)

theorem Declarator.mapList_eq_map {ν μ : Type} (f : ν → μ) (declarators : List (Declarator ν)) :
    Declarator.mapList f declarators = declarators.map (Declarator.map f) := by
  induction declarators with
  | nil => rfl
  | cons d ds ih => rw [Declarator.mapList, ih, List.map_cons]

theorem Declaration.entries_map {d : Declaration Occurrence} {part : List (Property Occurrence)}
    (success : (Statement.declaration (d.map f)).entries table policy = .ok part) :
    ∃ groups : List (List (Property Occurrence)), part = groups.flatten ∧
      List.Forall₂ (fun declared group =>
        ∀ s : ResolvedSymbol, s.StandsFor table f declared → s.Entries policy f declared.2 group)
        d.codes groups := by
  match d with
  | .function name params body =>
    obtain rfl := Except.ok.inj success
    refine ⟨[_], (List.flatten_singleton ..).symm, .cons (fun s stands => ?_) .nil⟩
    have same : params.map f = params := by
      have kept : ∀ o ∈ params, f o = id o := fun o member =>
        stands.kept o (by simp [Code.enclosed, member])
      rw [List.map_congr_left kept, List.map_id]
    have key : (f name).name = s.key := stands.key
    rw [same, key]
    exact .function params body
  | .variables kind declarators =>
    obtain ⟨groups, mapped, same⟩ := bind_eq_ok.mp success
    obtain rfl := pure_eq_ok.mp same
    refine ⟨groups, rfl, ?_⟩
    rw [Declarator.mapList_eq_map, mapM_eq_ok, List.forall₂_map_left_iff] at mapped
    rw [Declaration.codes, List.forall₂_map_left_iff]
    exact mapped.imp fun d group done s stands => Declarator.entries_map done stands

/-- The entries of a renamed module come in groups, one for each declared name in order. -/
theorem Program.entries_groups {program : Program Occurrence} (only : program.DeclaresOnly)
    {entries : List (Property Occurrence)}
    (success : (program.map f).entries table policy = .ok entries) :
    ∃ groups : List (List (Property Occurrence)), entries = groups.flatten ∧
      List.Forall₂ (fun declared group =>
        ∀ s : ResolvedSymbol, s.StandsFor table f declared → s.Entries policy f declared.2 group)
        program.codes groups := by
  obtain ⟨body⟩ := program
  obtain ⟨parts, mapped, same⟩ := bind_eq_ok.mp success
  obtain rfl := pure_eq_ok.mp same
  clear success same
  induction body generalizing parts with
  | nil =>
    obtain rfl := pure_eq_ok.mp mapped
    exact ⟨[], rfl, .nil⟩
  | cons s ss ih =>
    obtain ⟨d, rfl⟩ := only s List.mem_cons_self
    simp only [Program.map, Statement.mapList, Statement.map, List.mapM_cons] at mapped
    obtain ⟨part, first, mapped⟩ := bind_eq_ok.mp mapped
    obtain ⟨rest, later, same⟩ := bind_eq_ok.mp mapped
    obtain rfl := pure_eq_ok.mp same
    obtain ⟨groups, rfl, head⟩ := Declaration.entries_map first
    obtain ⟨others, flat, tail⟩ :=
      ih (fun t member => only t (List.mem_cons_of_mem _ member)) rest later
    refine ⟨groups ++ others, by simp [flat], ?_⟩
    exact List.rel_append head tail

end Groups

/-! ## Dependencies -/

def ResolvedSymbol.dependencyEntry (s : ResolvedSymbol) (keys : List Text) : Property Occurrence :=
  entry (s.key ++ depsSuffix) (.array (keys.map fun key => some (stringExpression key)))

theorem SymbolTable.dependencyEntries_eq (table : SymbolTable) (graph : DependencyGraph) :
    table.dependencyEntries graph =
      (table.symbols.filter fun s => graph.dependenciesOf s.key ≠ []).map fun s =>
        s.dependencyEntry (graph.dependenciesOf s.key) := by
  obtain ⟨symbols⟩ := table
  rw [SymbolTable.dependencyEntries]
  induction symbols with
  | nil => rfl
  | cons s ss ih =>
    cases keys : graph.dependenciesOf s.key with
    | nil => simpa [keys] using ih
    | cons key rest => simpa [keys, ResolvedSymbol.dependencyEntry] using ih

/-! ## Compiled modules -/

/-- A descriptor has the entries of its symbols, one group for each in the order of the source, and
after them the lists of dependencies. -/
structure Compiled.Describes (compiled : Compiled) (options : Options) (program : Program Text) :
    Prop where
  /-- The table has one symbol for each declared name. -/
  names : compiled.table.symbols.map ResolvedSymbol.name = program.topLevelNames
  distinct : program.topLevelNames.Nodup
  entries : ∃ groups : List (List (Property Occurrence)),
    List.Forall₂ (fun s group => ∃ code, program.label.code? s.name = some code ∧
      s.Entries options.policy
        (·.rename (compiled.table.renaming program.label.withoutExports.analyze)) code group)
      compiled.table.symbols groups ∧
    compiled.descriptor = Descriptor.ofEntries (groups.flatten ++
      (compiled.table.symbols.filter fun s => compiled.graph.dependenciesOf s.key ≠ []).map fun s =>
        s.dependencyEntry (compiled.graph.dependenciesOf s.key))

theorem SymbolTable.byKey?_of_mem {table : SymbolTable}
    (keys : (table.symbols.map ResolvedSymbol.key).Nodup) {s : ResolvedSymbol}
    (member : s ∈ table.symbols) : table.byKey? s.key = some s :=
  (find?_eq_some_of_nodup keys).mpr ⟨member, rfl⟩

theorem forall₂_comp {α β γ : Type} {first : α → β → Prop} {second : β → γ → Prop} {as : List α}
    {bs : List β} {cs : List γ} (left : List.Forall₂ first as bs)
    (right : List.Forall₂ second bs cs) :
    List.Forall₂ (fun a c => ∃ b, first a b ∧ second b c) as cs := by
  induction left generalizing cs with
  | nil =>
    cases right
    exact .nil
  | cons head _ ih =>
    cases right with
    | cons next rest => exact .cons ⟨_, head, next⟩ (ih rest)

namespace ScopeAnalysis.Resolved

variable {program : Program Occurrence} {exports : ExportMap} {options : Options}
  {table : SymbolTable} (resolved : program.analyze.Resolved exports options table)
  (numbered : program.Numbered) (only : program.DeclaresOnly)

include resolved only

theorem names_eq_codes :
    table.symbols.map ResolvedSymbol.name = program.codes.map fun declared => declared.1.name := by
  have once : ∀ s ∈ program.symbols, s.others = [] := fun s member =>
    (resolved.declared s member).2
  rw [resolved.names_eq, Program.names_eq_definitions once]
  calc program.definitions.map (fun d => d.occurrence.name)
      = (program.definitions.map Definition.occurrence).map Occurrence.name := by
        rw [List.map_map]
        rfl
    _ = program.codes.map fun declared => declared.1.name := by
        rw [← Program.codes_names only, List.map_map]
        rfl

theorem code?_eq {s : ResolvedSymbol} (member : s ∈ table.symbols) {declared : Occurrence × Code}
    (listed : declared ∈ program.codes) (named : s.name = declared.1.name) :
    program.code? s.name = some declared.2 := by
  obtain ⟨only_one, found⟩ := resolved.exists_code only member
  have again : declared ∈ [only_one] :=
    found ▸ List.mem_filter.mpr ⟨listed, decide_eq_true named.symm⟩
  rw [List.mem_singleton] at again
  rw [Program.code?, ← List.head?_filter, found, again]
  rfl

include numbered

theorem standsFor {s : ResolvedSymbol} (member : s ∈ table.symbols) {declared : Occurrence × Code}
    (listed : declared ∈ program.codes) (named : s.name = declared.1.name) :
    s.StandsFor table (·.rename (table.renaming program.analyze)) declared := by
  have serves := table.renaming_serves program
  refine ⟨?_, SymbolTable.byKey?_of_mem resolved.keys member, fun o inside => ?_⟩
  · have defined : declared.1 ∈ program.definitions.map Definition.occurrence :=
      Program.codes_names only ▸ List.mem_map_of_mem listed
    obtain ⟨d, d_member, same⟩ := List.mem_map.mp defined
    have renamed := serves.definition numbered d_member
    rw [same, SymbolTable.key?, ← named, resolved.get?_of_mem member] at renamed
    exact renamed
  · have kept := serves.enclosed numbered o (Program.mem_enclosed_of_code listed inside)
    exact congrArg (Occurrence.mk · o.site) kept

/-- The entries of a renamed module come in groups, one for each symbol in order. -/
theorem entries_by_symbol {policy : InitializerPolicy} {entries : List (Property Occurrence)}
    (success : (program.rename (table.renaming program.analyze)).entries table policy =
      .ok entries) :
    ∃ groups : List (List (Property Occurrence)), entries = groups.flatten ∧
      List.Forall₂ (fun s group => ∃ code, program.code? s.name = some code ∧
        s.Entries policy (·.rename (table.renaming program.analyze)) code group)
        table.symbols groups := by
  obtain ⟨groups, rfl, related⟩ := Program.entries_groups only success
  refine ⟨groups, rfl, ?_⟩
  -- Symbols and declared names, and declared names and groups, go together in order.
  have names := resolved.names_eq_codes only
  rw [← List.forall₂_eq_eq_eq, List.forall₂_map_left_iff, List.forall₂_map_right_iff] at names
  have symbols := (List.forall₂_and_left _ _).mpr ⟨fun _ member => member, names⟩
  have codes := (List.forall₂_and_left _ _).mpr ⟨fun _ member => member, related⟩
  refine (forall₂_comp symbols codes).imp ?_
  rintro s group ⟨declared, ⟨member, named⟩, listed, described⟩
  exact ⟨declared.2, resolved.code?_eq only member listed named,
    described s (resolved.standsFor numbered only member listed named)⟩

end ScopeAnalysis.Resolved

/-- Every compiled module is described by the entries of its symbols. -/
theorem compile_describes [Serializer] {options : Options} {program : Program Text}
    {compiled : Compiled}
    (success : compile options program = .ok compiled) : compiled.Describes options program := by
  obtain ⟨exports, valid, -, success, -, described⟩ := compile_eq_ok success
  have resolved := ScopeAnalysis.resolve_resolved success
  have numbered := Program.withoutExports_numbered program.label_numbered
  have only := Program.declaresOnly_of_validate valid
  have declared : compiled.table.symbols.map ResolvedSymbol.name = program.topLevelNames := by
    calc compiled.table.symbols.map ResolvedSymbol.name
        = (program.label.withoutExports.codes.map Prod.fst).map Occurrence.name := by
          rw [resolved.names_eq_codes only, List.map_map]
          rfl
      _ = program.label.topLevelNames.map Occurrence.name := by
          rw [Program.codes_names only, only.definitions_eq, Program.topLevelNames,
            Program.withoutExports_declarations]
          rfl
      _ = program.label.erase.topLevelNames := (Program.topLevelNames_map _ _).symm
      _ = program.topLevelNames := by rw [program.label_erase]
  refine ⟨declared, declared ▸ resolved.names_nodup, ?_⟩
  obtain ⟨entries, listed, same⟩ := bind_eq_ok.mp described
  obtain ⟨groups, rfl, made⟩ := resolved.entries_by_symbol numbered only listed
  rw [Program.withoutExports_code?] at made
  refine ⟨groups, made, ?_⟩
  rw [← pure_eq_ok.mp same, SymbolTable.dependencyEntries_eq]

/-- A module with a function, a pure value, a missing one, and one that is deferred. -/
def deferringModule : Program Text :=
  ⟨[.exportDeclaration (.function "f" ["a"] [.return (some (.call (.identifier "g")
      [.identifier "a", .identifier "h"]))]),
    .declaration (.variables .var [.mk "g" (some (.function none [] [])), .mk "h" none,
      .mk "k" (some (.call (.identifier "f") [.identifier "h"]))])]⟩

/-- The text of its descriptor. -/
def deferringText : Text :=
  .joinWith "\n" ["Object.assign(LibraryManager.library, \x7b",
    "    f: function (a) \x7b",
    "        return _unnamed_g(a, _unnamed_h);",
    "    \x7d,",
    "    _unnamed_g: function () \x7b\x7d,",
    "    _unnamed_h: void 0,",
    "    _unnamed_k: void 0,",
    "    _unnamed_k__postset: '_unnamed_k = f(_unnamed_h)',",
    "    f__deps: ['_unnamed_g', '_unnamed_h'],",
    "    _unnamed_k__deps: ['f', '_unnamed_h']",
    "\x7d);", ""]

theorem deferringModule_describes :
    ∃ compiled, compile { policy := .postset } deferringModule = .ok compiled ∧
      compiled.descriptor.erase.print = .ok deferringText ∧
      compiled.Describes { policy := .postset } deferringModule := by
  have written : (compile { policy := .postset } deferringModule).toOption.map
      (fun compiled => compiled.descriptor.erase.print) = some (.ok deferringText) := by
    decide +kernel
  cases success : compile { policy := .postset } deferringModule with
  | error e =>
    rw [success] at written
    cases written
  | ok compiled =>
    rw [success] at written
    exact ⟨compiled, rfl, Option.some.inj written, compile_describes success⟩

end LibraryDescriptor
