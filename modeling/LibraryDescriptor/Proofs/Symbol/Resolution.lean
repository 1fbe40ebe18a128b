import LibraryDescriptor.Proofs.Scope.Sites
import LibraryDescriptor.Proofs.Success
import LibraryDescriptor.Symbol.Table

/-!
# Resolved symbols

What the table of a module guarantees once its names have been resolved.

* `ScopeAnalysis.Resolved` — the guarantees; `ScopeAnalysis.resolve_resolved` — resolution gives
  them.
* `SymbolTable.renaming_serves` — the new names are the keys for declarations, and the names for
  references.
-/

namespace LibraryDescriptor

def ModuleSymbol.resolved (options : Options) (exports : ExportMap) (s : ModuleSymbol) :
    ResolvedSymbol :=
  let exported := exports.exported? s.name
  let names := options.names s.name exported
  ⟨s.name, names.key, names.reference, if exported.isSome then .exported else .internal, s.kind⟩

/-- What a table guarantees. -/
structure ScopeAnalysis.Resolved (a : ScopeAnalysis) (exports : ExportMap) (options : Options)
    (table : SymbolTable) : Prop where
  symbols : table.symbols = a.symbols.map (ModuleSymbol.resolved options exports)
  /-- Symbols are declared in the module, and once. -/
  declared : ∀ s ∈ a.symbols, s.kind ≠ .imported ∧ s.others = []
  keys : (table.symbols.map ResolvedSymbol.key).Nodup
  references : (table.symbols.map ResolvedSymbol.reference).Nodup
  globals : ∀ s ∈ table.symbols, s.reference ∉ a.globals
  /-- A reference means a symbol, and no scope around it binds the name it will have. -/
  uncaptured : ∀ r ∈ a.references,
    ∃ target, table.get? r.symbol = some target ∧ target.reference ∉ r.shadowed

theorem ModuleSymbol.resolve_eq_ok {options : Options} {exports : ExportMap} {s : ModuleSymbol}
    {resolved : ResolvedSymbol} (success : s.resolve options exports = .ok resolved) :
    resolved = s.resolved options exports ∧ s.kind ≠ .imported ∧ s.others = [] := by
  unfold ModuleSymbol.resolve at success
  split at success
  · cases success
  · next declared =>
    split at success
    · cases success
    · next once =>
      refine ⟨(Except.ok.inj success).symm, declared, ?_⟩
      rw [ModuleSymbol.definitions, List.length_cons] at once
      exact List.eq_nil_of_length_eq_zero (by omega)

theorem ResolvedSymbol.checkFresh_eq_ok {globals : List Text} {earlier : List ResolvedSymbol}
    {s : ResolvedSymbol} (success : s.checkFresh globals earlier = .ok ()) :
    s.key ∉ earlier.map ResolvedSymbol.key ∧ s.reference ∉ earlier.map ResolvedSymbol.reference ∧
      s.reference ∉ globals := by
  unfold ResolvedSymbol.checkFresh at success
  split at success
  · cases success
  · cases success
  · next keyFree referenceFree =>
    split at success
    · cases success
    · next notGlobal =>
      refine ⟨fun member => ?_, fun member => ?_, by simpa using notGlobal⟩
      · obtain ⟨t, t_member, same⟩ := List.mem_map.mp member
        exact List.find?_eq_none.mp keyFree t t_member (decide_eq_true same)
      · obtain ⟨t, t_member, same⟩ := List.mem_map.mp member
        exact List.find?_eq_none.mp referenceFree t t_member (decide_eq_true same)

theorem checkDistinct_eq_ok {globals : List Text} :
    ∀ {symbols earlier : List ResolvedSymbol},
      (earlier.map ResolvedSymbol.key).Nodup → (earlier.map ResolvedSymbol.reference).Nodup →
      checkDistinct globals earlier symbols = .ok () →
      ((earlier ++ symbols).map ResolvedSymbol.key).Nodup ∧
        ((earlier ++ symbols).map ResolvedSymbol.reference).Nodup ∧
        ∀ s ∈ symbols, s.reference ∉ globals
  | [], earlier, keys, references, _ => by simpa using ⟨keys, references⟩
  | s :: ss, earlier, keys, references, success => by
    obtain ⟨⟨⟩, checked, rest⟩ := bind_eq_ok.mp success
    obtain ⟨keyFree, referenceFree, notGlobal⟩ := ResolvedSymbol.checkFresh_eq_ok checked
    have keys' : ((earlier ++ [s]).map ResolvedSymbol.key).Nodup := by
      rw [List.map_append, List.map_singleton, ← List.concat_eq_append, List.nodup_concat]
      exact ⟨keyFree, keys⟩
    have references' : ((earlier ++ [s]).map ResolvedSymbol.reference).Nodup := by
      rw [List.map_append, List.map_singleton, ← List.concat_eq_append, List.nodup_concat]
      exact ⟨referenceFree, references⟩
    have later := checkDistinct_eq_ok keys' references' rest
    rw [List.append_assoc, List.singleton_append] at later
    exact ⟨later.1, later.2.1, List.forall_mem_cons.mpr ⟨notGlobal, later.2.2⟩⟩

theorem Reference.check_eq_ok {table : SymbolTable} {r : Reference}
    (success : r.check table = .ok ()) :
    ∃ target, table.get? r.symbol = some target ∧ target.reference ∉ r.shadowed := by
  unfold Reference.check at success
  split at success
  · cases success
  · next target found =>
    split at success
    · cases success
    · next free => exact ⟨target, found, by simpa using free⟩

theorem ScopeAnalysis.resolve_resolved {a : ScopeAnalysis} {exports : ExportMap}
    {options : Options} {table : SymbolTable} (success : a.resolve exports options = .ok table) :
    a.Resolved exports options table := by
  obtain ⟨⟨⟩, -, success⟩ := bind_eq_ok.mp success
  obtain ⟨symbols, mapped, success⟩ := bind_eq_ok.mp success
  obtain ⟨⟨⟩, distinct, success⟩ := bind_eq_ok.mp success
  obtain ⟨⟨⟩, checked, success⟩ := bind_eq_ok.mp success
  obtain rfl := pure_eq_ok.mp success
  obtain ⟨keys, references, globals⟩ := checkDistinct_eq_ok (by simp) (by simp) distinct
  refine ⟨mapM_ok_map mapped fun _ _ done => (ModuleSymbol.resolve_eq_ok done).1,
    fun s member => ?_, keys, references, globals,
    fun r member => Reference.check_eq_ok (forM_eq_ok.mp checked r member)⟩
  obtain ⟨_, -, done⟩ := mapM_ok_exists mapped member
  exact (ModuleSymbol.resolve_eq_ok done).2

/-! ## Symbols by name -/

theorem SymbolTable.get?_some {table : SymbolTable} {name : Text} {s : ResolvedSymbol}
    (found : table.get? name = some s) : s ∈ table.symbols ∧ s.name = name := by
  unfold SymbolTable.get? at found
  exact ⟨List.mem_of_find?_eq_some found, by simpa using List.find?_some found⟩

namespace ScopeAnalysis.Resolved

variable {program : Program Occurrence} {exports : ExportMap} {options : Options}
  {table : SymbolTable} (resolved : program.analyze.Resolved exports options table)

include resolved

theorem names_eq : table.symbols.map ResolvedSymbol.name = program.names := by
  rw [resolved.symbols, List.map_map]
  rfl

theorem names_nodup : (table.symbols.map ResolvedSymbol.name).Nodup :=
  resolved.names_eq ▸ program.symbols_groups.nodup

theorem get?_of_mem {s : ResolvedSymbol} (member : s ∈ table.symbols) :
    table.get? s.name = some s :=
  (find?_eq_some_of_nodup resolved.names_nodup).mpr ⟨member, rfl⟩

theorem exists_get? {name : Text} (declared : name ∈ program.names) :
    ∃ s ∈ table.symbols, s.name = name ∧ table.get? name = some s := by
  rw [← resolved.names_eq] at declared
  obtain ⟨s, member, rfl⟩ := List.mem_map.mp declared
  exact ⟨s, member, rfl, resolved.get?_of_mem member⟩

theorem key_inj {s t : ResolvedSymbol} (s_member : s ∈ table.symbols) (t_member : t ∈ table.symbols)
    (same : s.key = t.key) : s = t :=
  List.inj_on_of_nodup_map resolved.keys s_member t_member same

theorem reference_inj {s t : ResolvedSymbol} (s_member : s ∈ table.symbols)
    (t_member : t ∈ table.symbols) (same : s.reference = t.reference) : s = t :=
  List.inj_on_of_nodup_map resolved.references s_member t_member same

theorem name_inj {s t : ResolvedSymbol} (s_member : s ∈ table.symbols)
    (t_member : t ∈ table.symbols) (same : s.name = t.name) : s = t :=
  List.inj_on_of_nodup_map resolved.names_nodup s_member t_member same

end ScopeAnalysis.Resolved

/-! ## New names -/

namespace SymbolTable

def key? (table : SymbolTable) (name : Text) : Option Text :=
  (table.get? name).map ResolvedSymbol.key

def reference? (table : SymbolTable) (name : Text) : Option Text :=
  (table.get? name).map ResolvedSymbol.reference

theorem mem_symbolRenaming {table : SymbolTable} {s : ModuleSymbol} {site : Site} {name : Text} :
    (site, name) ∈ s.renaming table ↔
      ∃ d ∈ s.definitions, d.occurrence.site = some site ∧ table.key? s.name = some name := by
  simp only [ModuleSymbol.renaming, List.mem_filterMap, Option.bind_eq_bind,
    Option.bind_eq_some_iff, Option.pure_def, Option.some.injEq, Prod.mk.injEq, key?,
    Option.map_eq_some_iff]
  exact exists_congr fun d => and_congr_right fun _ =>
    ⟨fun ⟨target, found, _, sited, same, named⟩ => ⟨same ▸ sited, target, found, named⟩,
      fun ⟨sited, target, found, named⟩ => ⟨target, found, site, sited, rfl, named⟩⟩

theorem renaming?_eq_some {table : SymbolTable} {r : Reference} {site : Site} {name : Text} :
    r.renaming? table = some (site, name) ↔
      r.occurrence.site = some site ∧ table.reference? r.symbol = some name := by
  simp only [Reference.renaming?, Option.bind_eq_bind, Option.bind_eq_some_iff, Option.pure_def,
    Option.some.injEq, Prod.mk.injEq, reference?, Option.map_eq_some_iff]
  exact ⟨fun ⟨target, found, _, sited, same, named⟩ => ⟨same ▸ sited, target, found, named⟩,
    fun ⟨sited, target, found, named⟩ => ⟨target, found, site, sited, rfl, named⟩⟩

theorem renaming_serves (table : SymbolTable) (program : Program Occurrence) :
    (table.renaming program.analyze).Serves program table.key? table.reference? := by
  have groups := program.symbols_groups
  refine ⟨fun site name present => ?_, fun d member site sited name named => ?_,
    fun u member refers site sited name named => ?_⟩
  · rcases List.mem_append.mp present with declares | refers
    · obtain ⟨s, s_member, declares⟩ := List.mem_flatMap.mp declares
      obtain ⟨d, d_member, sited, named⟩ := mem_symbolRenaming.mp declares
      obtain ⟨d_member, same⟩ := (groups.mem_definitions s_member).mp d_member
      exact .inl ⟨d, d_member, sited, same ▸ named⟩
    · obtain ⟨r, r_member, renames⟩ := List.mem_filterMap.mp refers
      obtain ⟨sited, named⟩ := renaming?_eq_some.mp renames
      obtain ⟨u, u_member, refers, rfl⟩ := Program.mem_references.mp r_member
      exact .inr ⟨u, u_member, refers, sited, named⟩
  · obtain ⟨s, s_member, same, d_member⟩ := groups.exists_symbol member
    refine List.mem_append_left _ (List.mem_flatMap.mpr ⟨s, s_member, ?_⟩)
    exact mem_symbolRenaming.mpr ⟨d, d_member, sited, same ▸ named⟩
  · have listed := Program.mem_references.mpr ⟨u, member, refers, rfl⟩
    refine List.mem_append_right _ (List.mem_filterMap.mpr ⟨_, listed, ?_⟩)
    exact renaming?_eq_some.mpr ⟨sited, named⟩

end SymbolTable

/-! ## Uses of renamed modules -/

namespace ScopeAnalysis.Resolved

variable {program : Program Occurrence} {exports : ExportMap} {options : Options}
  {table : SymbolTable} (resolved : program.analyze.Resolved exports options table)

include resolved

theorem exists_target {u : OwnedUse} (member : u ∈ program.ownedUses)
    (refers : u.refers program.names) :
    ∃ t ∈ table.symbols, t.name = u.use.name ∧ table.reference? u.use.name = some t.reference ∧
      t.reference ∉ u.use.scopes.flatten := by
  obtain ⟨t, found, free⟩ :=
    resolved.uncaptured _ (Program.mem_references.mpr ⟨u, member, refers, rfl⟩)
  obtain ⟨t_member, named⟩ := SymbolTable.get?_some found
  exact ⟨t, t_member, named, congrArg (Option.map ResolvedSymbol.reference) found, free⟩

theorem isLocal_rename (numbered : program.Numbered) {u : OwnedUse}
    (member : u ∈ program.ownedUses) :
    (u.use.map (·.rename (table.renaming program.analyze))).isLocal = u.use.isLocal := by
  refine (table.renaming_serves program).isLocal_map numbered member fun refers => ?_
  obtain ⟨t, -, -, found, free⟩ := resolved.exists_target member refers
  rwa [found]

end ScopeAnalysis.Resolved

/-! ## Modules without exports -/

theorem Statement.withoutExport?_occurrences {s t : Statement Occurrence}
    (kept : s.withoutExport? = some t) : t.occurrences = s.occurrences := by
  unfold Statement.withoutExport? at kept
  split at kept
  · rw [← Option.some.inj kept]
    rfl
  · cases kept
  · rw [Option.some.inj kept]

theorem Program.withoutExports_sublist (program : Program Occurrence) :
    program.withoutExports.occurrences.Sublist program.occurrences := by
  obtain ⟨body⟩ := program
  simp only [Program.withoutExports, Program.occurrences]
  induction body with
  | nil => exact List.Sublist.refl _
  | cons s ss ih =>
    cases kept : s.withoutExport? with
    | none =>
      rw [List.filterMap_cons_none kept, Statement.occurrencesList]
      exact ih.trans (List.sublist_append_right _ _)
    | some t =>
      rw [List.filterMap_cons_some kept, Statement.occurrencesList, Statement.occurrencesList,
        Statement.withoutExport?_occurrences kept]
      exact ih.append_left _

theorem Program.withoutExports_numbered {program : Program Occurrence}
    (numbered : program.Numbered) : program.withoutExports.Numbered :=
  numbered.of_sublist program.withoutExports_sublist

theorem Program.withoutExports_definitions (program : Program Occurrence) :
    program.withoutExports.definitions = program.definitions := by
  obtain ⟨body⟩ := program
  simp only [Program.definitions, Program.withoutExports]
  induction body with
  | nil => rfl
  | cons s ss ih =>
    rw [List.filterMap_cons, List.flatMap_cons, ← ih]
    cases s <;> rfl

end LibraryDescriptor
