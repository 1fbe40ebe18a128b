import LibraryDescriptor.Proofs.Symbol.Exports
import LibraryDescriptor.Proofs.Symbol.Resolution

/-!
# When names clash

Whether the names of a module can be resolved is a matter of its definitions and uses, whatever
their order.

* `Program.symbols_eq_map` — names that are declared once are symbols in the order of definitions.
* `Program.Unambiguous` — no two definitions, and no definition and another binding, share a name.
* `Program.resolve_eq_ok_iff` — names are resolved exactly if the module is unambiguous.
* `Program.resolve_eq_error` — otherwise names collide, or an export names nothing.
-/

namespace LibraryDescriptor

/-! ## Names that are declared once -/

def Definition.symbol (d : Definition) : ModuleSymbol := ⟨d.occurrence.name, d, []⟩

def Definition.resolved (options : Options) (exports : ExportMap) (d : Definition) :
    ResolvedSymbol :=
  d.symbol.resolved options exports

def Program.definedNames (program : Program Occurrence) : List Text :=
  program.definitions.map fun d => d.occurrence.name

theorem foldl_declare_fresh {definitions : List Definition} {symbols : List ModuleSymbol}
    (nodup : (symbols.map ModuleSymbol.name ++
      definitions.map fun d => d.occurrence.name).Nodup) :
    definitions.foldl declare symbols = symbols ++ definitions.map Definition.symbol := by
  induction definitions generalizing symbols with
  | nil => simp
  | cons d ds ih =>
    have fresh : d.occurrence.name ∉ symbols.map ModuleSymbol.name := by
      intro known
      exact (List.nodup_append.mp nodup).2.2 _ known _ List.mem_cons_self rfl
    rw [List.foldl_cons, declare_fresh fresh, ih]
    · simp [Definition.symbol]
    · simpa using nodup

theorem Program.symbols_eq_map {program : Program Occurrence}
    (once : program.definedNames.Nodup) :
    program.symbols = program.definitions.map Definition.symbol :=
  @foldl_declare_fresh _ [] once

theorem Program.mem_names_iff {program : Program Occurrence} {name : Text} :
    name ∈ program.names ↔ name ∈ program.definedNames := by
  rw [Program.names, program.symbols_groups.mem_names, Program.definedNames, List.mem_map]

/-- Where no symbol has a second definition, no name is defined twice. -/
theorem Program.definedNames_nodup {program : Program Occurrence}
    (once : ∀ s ∈ program.symbols, s.others = []) : program.definedNames.Nodup := by
  rw [List.nodup_iff_count_le_one]
  intro name
  have counted : program.definedNames.count name =
      (program.definitions.filter fun d => d.occurrence.name = name).length := by
    rw [Program.definedNames, List.count, List.countP_map, ← List.countP_eq_length_filter]
    exact List.countP_congr (by simp)
  rw [counted]
  by_cases declared : name ∈ program.names
  · obtain ⟨s, member, rfl⟩ := List.mem_map.mp declared
    rw [← program.symbols_groups.definitions_eq s member, ModuleSymbol.definitions, once s member]
    exact Nat.le_refl 1
  · rw [List.filter_eq_nil_iff.mpr]
    · exact Nat.zero_le 1
    · intro d member same
      exact declared (of_decide_eq_true same ▸ program.symbols_groups.covers d member)

/-! ## Unambiguous names -/

/-- The names of a module can be resolved. -/
structure Program.Unambiguous (program : Program Occurrence) (exports : ExportMap)
    (options : Options) : Prop where
  once : program.definedNames.Nodup
  own : ∀ d ∈ program.definitions, d.kind ≠ .imported
  exported : ∀ pair ∈ exports, pair.1 ∈ program.definedNames
  keys : (program.definitions.map fun d => (d.resolved options exports).key).Nodup
  references : (program.definitions.map fun d => (d.resolved options exports).reference).Nodup
  /-- A use of a name that is not declared is not of the name of a symbol. -/
  globals : ∀ d ∈ program.definitions, ∀ u ∈ program.ownedUses, u.use.isLocal = false →
    u.use.name ∉ program.definedNames → (d.resolved options exports).reference ≠ u.use.name
  /-- No scope around a reference binds the name it will have. -/
  uncaptured : ∀ d ∈ program.definitions, ∀ u ∈ program.ownedUses, u.use.isLocal = false →
    u.use.name = d.occurrence.name →
    (d.resolved options exports).reference ∉ u.use.scopes.flatten

def Program.table (program : Program Occurrence) (exports : ExportMap) (options : Options) :
    SymbolTable :=
  ⟨program.definitions.map (Definition.resolved options exports)⟩

theorem ScopeAnalysis.checkExports_eq_ok {program : Program Occurrence} {exports : ExportMap} :
    program.analyze.checkExports exports = .ok () ↔
      ∀ pair ∈ exports, pair.1 ∈ program.definedNames := by
  rw [ScopeAnalysis.checkExports, forM_eq_ok]
  refine forall₂_congr fun pair _ => ?_
  obtain ⟨name, target⟩ := pair
  have found : (program.analyze.symbol? name).isSome ↔ name ∈ program.definedNames := by
    rw [← Program.mem_names_iff, Program.names, ScopeAnalysis.symbol?, List.find?_isSome,
      List.mem_map]
    simp only [decide_eq_true_eq]
    rfl
  rw [← found]
  by_cases known : (program.analyze.symbol? name).isSome
  · simp [known]
  · simp [known]

theorem checkDistinct_of_nodup {globals : List Text} :
    ∀ {symbols earlier : List ResolvedSymbol},
      ((earlier ++ symbols).map ResolvedSymbol.key).Nodup →
      ((earlier ++ symbols).map ResolvedSymbol.reference).Nodup →
      (∀ s ∈ symbols, s.reference ∉ globals) → checkDistinct globals earlier symbols = .ok ()
  | [], _, _, _, _ => rfl
  | s :: ss, earlier, keys, references, free => by
    rw [List.append_cons] at keys references
    obtain ⟨key_free, -⟩ := nodup_map_concat.mp
      (keys.sublist ((List.sublist_append_left (earlier ++ [s]) ss).map _))
    obtain ⟨reference_free, -⟩ := nodup_map_concat.mp
      (references.sublist ((List.sublist_append_left (earlier ++ [s]) ss).map _))
    obtain ⟨not_global, rest⟩ := List.forall_mem_cons.mp free
    have no_key : earlier.find? (·.key = s.key) = none := List.find?_eq_none.mpr
      fun t member same => key_free (List.mem_map.mpr ⟨t, member, of_decide_eq_true same⟩)
    have no_reference : earlier.find? (·.reference = s.reference) = none := List.find?_eq_none.mpr
      fun t member same => reference_free (List.mem_map.mpr ⟨t, member, of_decide_eq_true same⟩)
    have fresh : s.checkFresh globals earlier = .ok () := by
      unfold ResolvedSymbol.checkFresh
      simp only [no_key, no_reference]
      rw [if_neg (by simpa using not_global)]
    exact bind_eq_ok.mpr ⟨⟨⟩, fresh, checkDistinct_of_nodup keys references rest⟩

section Resolve

variable {program : Program Occurrence} {exports : ExportMap} {options : Options}

theorem Program.unambiguous_of_resolve {table : SymbolTable}
    (success : program.analyze.resolve exports options = .ok table) :
    program.Unambiguous exports options ∧ table = program.table exports options := by
  have resolved := ScopeAnalysis.resolve_resolved success
  obtain ⟨⟨⟩, exported, -⟩ := bind_eq_ok.mp success
  have once := Program.definedNames_nodup fun s member => (resolved.declared s member).2
  have symbols : table.symbols = program.definitions.map (Definition.resolved options exports) := by
    rw [resolved.symbols]
    change program.symbols.map _ = _
    rw [Program.symbols_eq_map once, List.map_map]
    rfl
  have member : ∀ d ∈ program.definitions, d.resolved options exports ∈ table.symbols :=
    fun d listed => symbols ▸ List.mem_map_of_mem listed
  refine ⟨⟨once, fun d listed => ?_, ScopeAnalysis.checkExports_eq_ok.mp exported, ?_, ?_,
    fun d d_member u u_member unbound undeclared same => ?_,
    fun d d_member u u_member unbound same captured => ?_⟩, congrArg SymbolTable.mk symbols⟩
  · have is_symbol : d.symbol ∈ program.symbols :=
      Program.symbols_eq_map once ▸ List.mem_map_of_mem listed
    exact (resolved.declared _ is_symbol).1
  · have keys := resolved.keys
    rwa [symbols, List.map_map] at keys
  · have references := resolved.references
    rwa [symbols, List.map_map] at references
  · refine resolved.globals _ (member d d_member)
      (Program.mem_globals.mpr ⟨?_, u, u_member, unbound, ?_⟩)
    · rw [same, Program.mem_names_iff]
      exact undeclared
    · exact same.symm
  · have refers : u.refers program.names :=
      ⟨unbound, Program.mem_names_iff.mpr (same ▸ List.mem_map_of_mem d_member)⟩
    obtain ⟨t, t_member, t_name, -, free⟩ := resolved.exists_target u_member refers
    have target : t = d.resolved options exports :=
      resolved.name_inj t_member (member d d_member) (t_name.trans same)
    exact free (target ▸ captured)

theorem Program.Unambiguous.get? (clear : program.Unambiguous exports options) {d : Definition}
    (listed : d ∈ program.definitions) :
    (program.table exports options).get? d.occurrence.name = some (d.resolved options exports) := by
  have names : ((program.table exports options).symbols.map ResolvedSymbol.name).Nodup := by
    rw [Program.table, List.map_map]
    exact clear.once
  exact (find?_eq_some_of_nodup names).mpr ⟨List.mem_map_of_mem listed, rfl⟩

theorem Reference.check_of_get? {table : SymbolTable} {r : Reference} {target : ResolvedSymbol}
    (found : table.get? r.symbol = some target) (free : target.reference ∉ r.shadowed) :
    r.check table = .ok () := by
  rw [Reference.check, found]
  exact if_neg (by simpa using free)

theorem Program.Unambiguous.resolve (clear : program.Unambiguous exports options) :
    program.analyze.resolve exports options = .ok (program.table exports options) := by
  have mapped : program.symbols.mapM (ModuleSymbol.resolve options exports) =
      .ok (program.table exports options).symbols := by
    rw [Program.symbols_eq_map clear.once, mapM_eq_ok, Program.table, List.forall₂_map_left_iff,
      List.forall₂_map_right_iff, List.forall₂_same]
    intro d listed
    have own : d.symbol.kind ≠ .imported := clear.own d listed
    have once : ¬ d.symbol.definitions.length > 1 := by
      simp [Definition.symbol, ModuleSymbol.definitions]
    rw [ModuleSymbol.resolve, if_neg own, if_neg once]
    rfl
  have distinct : checkDistinct program.analyze.globals []
      (program.table exports options).symbols = .ok () := by
    apply checkDistinct_of_nodup
    · rw [List.nil_append, Program.table, List.map_map]
      exact clear.keys
    · rw [List.nil_append, Program.table, List.map_map]
      exact clear.references
    · intro s member global
      obtain ⟨d, listed, rfl⟩ := List.mem_map.mp member
      obtain ⟨undeclared, u, u_member, unbound, same⟩ := Program.mem_globals.mp global
      refine clear.globals d listed u u_member unbound ?_ same.symm
      rwa [same, ← Program.mem_names_iff]
  have checked : program.analyze.references.forM
      (Reference.check (program.table exports options)) = .ok () := by
    rw [forM_eq_ok]
    intro r member
    obtain ⟨u, u_member, refers, rfl⟩ := Program.mem_references.mp member
    obtain ⟨d, listed, same⟩ := List.mem_map.mp (Program.mem_names_iff.mp refers.2)
    have found := clear.get? listed
    rw [same] at found
    exact Reference.check_of_get? found (clear.uncaptured d listed u u_member refers.1 same.symm)
  exact bind_eq_ok.mpr ⟨⟨⟩, ScopeAnalysis.checkExports_eq_ok.mpr clear.exported,
    bind_eq_ok.mpr ⟨_, mapped, bind_eq_ok.mpr ⟨⟨⟩, distinct,
      bind_eq_ok.mpr ⟨⟨⟩, checked, rfl⟩⟩⟩⟩

theorem Program.resolve_eq_ok_iff {table : SymbolTable} :
    program.analyze.resolve exports options = .ok table ↔
      program.Unambiguous exports options ∧ table = program.table exports options := by
  refine ⟨Program.unambiguous_of_resolve, ?_⟩
  rintro ⟨clear, rfl⟩
  exact clear.resolve

/-! ## Failure -/

theorem ResolvedSymbol.checkFresh_eq_error {globals : List Text} {earlier : List ResolvedSymbol}
    {s : ResolvedSymbol} {e : CompileError} (failed : s.checkFresh globals earlier = .error e) :
    ∃ cause, e = .collision cause := by
  unfold ResolvedSymbol.checkFresh at failed
  split at failed
  · exact ⟨_, (Except.error.inj failed).symm⟩
  · exact ⟨_, (Except.error.inj failed).symm⟩
  · split at failed
    · exact ⟨_, (Except.error.inj failed).symm⟩
    · cases failed

theorem checkDistinct_eq_error {globals : List Text} {e : CompileError} :
    ∀ {symbols earlier : List ResolvedSymbol},
      checkDistinct globals earlier symbols = .error e → ∃ cause, e = .collision cause
  | [], _, failed => nomatch failed
  | s :: ss, earlier, failed => by
    rcases bind_eq_error.mp failed with failed | ⟨⟨⟩, -, failed⟩
    · exact ResolvedSymbol.checkFresh_eq_error failed
    · exact checkDistinct_eq_error failed

/-- In a module without imports, names are not resolved only if they collide or if an export names
nothing. -/
theorem Program.resolve_eq_error (own : ∀ d ∈ program.definitions, d.kind ≠ .imported)
    {e : CompileError} (failed : program.analyze.resolve exports options = .error e) :
    (∃ cause, e = .collision cause) ∨ ∃ name, e = .unresolvedExport name := by
  have groups := program.symbols_groups
  rcases bind_eq_error.mp failed with failed | ⟨⟨⟩, -, failed⟩
  · -- An export fails only where its name is not declared.
    obtain ⟨⟨name, target⟩, -, failed⟩ := forM_eq_error failed
    simp only at failed
    split at failed
    · cases failed
    · exact .inr ⟨_, (Except.error.inj failed).symm⟩
  rcases bind_eq_error.mp failed with failed | ⟨symbols, mapped, failed⟩
  · -- A symbol fails for an import, which there is not, or for a second definition.
    obtain ⟨s, member, failed⟩ := mapM_eq_error failed
    unfold ModuleSymbol.resolve at failed
    split at failed
    · next imported => exact absurd imported (own s.first (groups.first_name member).1)
    · split at failed
      · exact .inl ⟨_, (Except.error.inj failed).symm⟩
      · cases failed
  rcases bind_eq_error.mp failed with failed | ⟨⟨⟩, -, failed⟩
  · exact .inl (checkDistinct_eq_error failed)
  rcases bind_eq_error.mp failed with failed | ⟨⟨⟩, -, failed⟩
  · obtain ⟨r, member, failed⟩ := forM_eq_error failed
    unfold Reference.check at failed
    split at failed
    · next missing =>
      -- A reference is to a declared name, and the table has a symbol for each of them.
      obtain ⟨u, -, refers, rfl⟩ := Program.mem_references.mp member
      obtain ⟨s, s_member, named⟩ := List.mem_map.mp refers.2
      obtain ⟨t, t_member, done⟩ := mapM_ok_exists mapped s_member
      have t_name : t.name = u.use.name := by
        rw [(ModuleSymbol.resolve_eq_ok done).1, ← named]
        rfl
      exact absurd (decide_eq_true t_name) (List.find?_eq_none.mp missing t t_member)
    · split at failed
      · exact .inl ⟨_, (Except.error.inj failed).symm⟩
      · cases failed
  · cases failed

end Resolve

end LibraryDescriptor
