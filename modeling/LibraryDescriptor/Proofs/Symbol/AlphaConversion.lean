import LibraryDescriptor.Proofs.Symbol.Resolution

/-!
# Renaming is a conversion of bound names

If a symbol is declared and referred to by the same new name, the analysis of the renamed module is
the analysis of the module under the new names.

* `ScopeAnalysis.image` — an analysis under other names.
* `ScopeAnalysis.Resolved.reference?_rename`, `global?_rename` — a use stays what it is.
* `rename_analyze_eq_image` — the analysis of a renamed module.
-/

namespace LibraryDescriptor

/-! ## Analyses under other names -/

def Occurrence.under (rho : Text → Text) (o : Occurrence) :
    Occurrence := { o with name := rho o.name }

def Reference.image (rho : Text → Text) (r : Reference) : Reference :=
  ⟨r.occurrence.under rho, r.owner.map rho, r.shadowed⟩

def ModuleSymbol.image (rho : Text → Text) (s : ModuleSymbol) : ModuleSymbol :=
  s.map (Occurrence.under rho) rho

/-- An analysis whose symbols have other names. Bound and global names stay. -/
def ScopeAnalysis.image (rho : Text → Text) (a : ScopeAnalysis) : ScopeAnalysis :=
  { symbols := a.symbols.map (ModuleSymbol.image rho)
    references := a.references.map (Reference.image rho)
    globals := a.globals }

def SymbolTable.externalName (table : SymbolTable) (name : Text) : Text :=
  (table.key? name).getD name

/-! ## Conversion -/

theorem SymbolTable.externalName_of_get? {table : SymbolTable} {name : Text} {s : ResolvedSymbol}
    (found : table.get? name = some s) : table.externalName name = s.key := by
  rw [SymbolTable.externalName, SymbolTable.key?, found]
  rfl

theorem SymbolTable.renaming_declares (table : SymbolTable) {program : Program Occurrence}
    (numbered : program.Numbered) :
    Declares (·.rename (table.renaming program.analyze)) table.externalName program.definitions :=
  fun _ member => (table.renaming_serves program).definition numbered member

theorem Occurrence.rename_eq_under {fresh : Renaming} {rho : Text → Text} {o : Occurrence}
    (named : (o.rename fresh).name = rho o.name) : o.rename fresh = o.under rho := by
  rw [Occurrence.under, ← named]
  rfl

theorem Options.names_uniform {options : Options} (uniform : options.style = .uniform) (name : Text)
    (exported : Option Text) :
    (options.names name exported).key = (options.names name exported).reference := by
  unfold Options.names
  rw [uniform]
  cases exported <;> rfl

theorem SymbolTable.ownedUses_rename (table : SymbolTable) {program : Program Occurrence}
    (numbered : program.Numbered) :
    (program.rename (table.renaming program.analyze)).ownedUses =
      program.ownedUses.map
        (OwnedUse.map (·.rename (table.renaming program.analyze)) table.externalName) :=
  Program.ownedUses_map program ((table.renaming_serves program).enclosed numbered)
    (table.renaming_declares numbered)

namespace ScopeAnalysis.Resolved

variable {program : Program Occurrence} {exports : ExportMap} {options : Options}
  {table : SymbolTable} (resolved : program.analyze.Resolved exports options table)
  (numbered : program.Numbered) (uniform : options.style = .uniform)

include resolved

theorem externalName_inj {a b : Text} (a_declared : a ∈ program.names)
    (b_declared : b ∈ program.names) (same : table.externalName a = table.externalName b) :
    a = b := by
  obtain ⟨s, s_member, rfl, s_found⟩ := resolved.exists_get? a_declared
  obtain ⟨t, t_member, rfl, t_found⟩ := resolved.exists_get? b_declared
  rw [SymbolTable.externalName_of_get? s_found, SymbolTable.externalName_of_get? t_found] at same
  rw [resolved.key_inj s_member t_member same]

theorem symbols_rename (numbered : program.Numbered) :
    (program.rename (table.renaming program.analyze)).symbols =
      program.symbols.map (ModuleSymbol.image table.externalName) := by
  have declares := table.renaming_declares numbered
  have same : ∀ d ∈ program.definitions,
      d.map (·.rename (table.renaming program.analyze)) =
        d.map (Occurrence.under table.externalName) := fun d member =>
    congrArg (Definition.mk d.kind) (Occurrence.rename_eq_under (declares d member))
  rw [Program.rename, Program.symbols_map program declares fun a a_declared b b_declared =>
    resolved.externalName_inj a_declared b_declared]
  refine List.map_congr_left fun s member => ?_
  have groups := program.symbols_groups
  have first := same s.first ((groups.mem_definitions member).mp List.mem_cons_self).1
  have others : s.others.map (Definition.map (·.rename (table.renaming program.analyze))) =
      s.others.map (Definition.map (Occurrence.under table.externalName)) :=
    List.map_congr_left fun d d_member =>
      same d ((groups.mem_definitions member).mp (List.mem_cons_of_mem _ d_member)).1
  rw [ModuleSymbol.image, ModuleSymbol.map, ModuleSymbol.map, first, others]

theorem names_rename (numbered : program.Numbered) :
    (program.rename (table.renaming program.analyze)).names =
      program.names.map table.externalName := by
  rw [Program.names, resolved.symbols_rename numbered, Program.names, List.map_map, List.map_map]
  rfl

include uniform

theorem key_eq_reference {s : ResolvedSymbol} (member : s ∈ table.symbols) :
    s.key = s.reference := by
  rw [resolved.symbols] at member
  obtain ⟨m, -, rfl⟩ := List.mem_map.mp member
  exact Options.names_uniform uniform _ _

/-- No global has the new name of a symbol. -/
theorem global_not_renamed {n : Text} (global : n ∈ program.analyze.globals) :
    n ∉ program.names.map table.externalName := by
  intro renamed
  obtain ⟨name, declared, rfl⟩ := List.mem_map.mp renamed
  obtain ⟨s, member, -, found⟩ := resolved.exists_get? declared
  rw [SymbolTable.externalName_of_get? found, resolved.key_eq_reference uniform member] at global
  exact resolved.globals s member global

include numbered

theorem rename_reference {u : OwnedUse} (member : u ∈ program.ownedUses)
    (refers : u.refers program.names) :
    u.use.occurrence.rename (table.renaming program.analyze) =
      u.use.occurrence.under table.externalName := by
  refine Occurrence.rename_eq_under ?_
  obtain ⟨s, s_member, -, found⟩ := resolved.exists_get? refers.2
  have renamed := (table.renaming_serves program).reference numbered member refers
  rw [SymbolTable.reference?, found, Option.map_some, Option.getD_some,
    ← resolved.key_eq_reference uniform s_member] at renamed
  rw [renamed]
  exact (SymbolTable.externalName_of_get? found).symm

theorem reference?_rename {u : OwnedUse} (member : u ∈ program.ownedUses) :
    (u.map (·.rename (table.renaming program.analyze)) table.externalName).reference?
        (program.names.map table.externalName) =
      (u.reference? program.names).map (Reference.image table.externalName) := by
  have isLocal := resolved.isLocal_rename numbered member
  by_cases refers : u.refers program.names
  · have renamed := resolved.rename_reference numbered uniform member refers
    have refers' : (u.map (·.rename (table.renaming program.analyze)) table.externalName).refers
        (program.names.map table.externalName) := by
      refine ⟨isLocal.trans refers.1, ?_⟩
      rw [OwnedUse.map, Use.map, renamed]
      exact List.mem_map_of_mem refers.2
    rw [OwnedUse.reference?_eq_some.mpr ⟨refers', rfl⟩,
      OwnedUse.reference?_eq_some.mpr ⟨refers, rfl⟩, Option.map_some, Reference.image, OwnedUse.map,
      Use.map, renamed]
  · have unchanged := (table.renaming_serves program).unchanged numbered member refers
    have none : u.reference? program.names = none :=
      Option.eq_none_iff_forall_ne_some.mpr fun r found =>
        refers (OwnedUse.reference?_eq_some.mp found).1
    rw [none, Option.map_none]
    refine Option.eq_none_iff_forall_ne_some.mpr fun r found => ?_
    obtain ⟨⟨unbound, declared⟩, -⟩ := OwnedUse.reference?_eq_some.mp found
    -- The use is bound by no scope and has kept its name, so the name is a global.
    have undeclared : u.use.name ∉ program.names := fun declared =>
      refers ⟨isLocal.symm.trans unbound, declared⟩
    have global := Program.mem_globals.mpr
      ⟨undeclared, u, member, isLocal.symm.trans unbound, rfl⟩
    exact resolved.global_not_renamed uniform global (unchanged ▸ declared)

theorem global?_rename {u : OwnedUse} (member : u ∈ program.ownedUses) :
    (u.map (·.rename (table.renaming program.analyze)) table.externalName).global?
        (program.names.map table.externalName) =
      u.global? program.names := by
  have isLocal := resolved.isLocal_rename numbered member
  unfold OwnedUse.global?
  simp only [OwnedUse.map, isLocal]
  cases bound : u.use.isLocal with
  | true => rfl
  | false =>
    by_cases declared : u.use.name ∈ program.names
    · have renamed : (u.use.map (·.rename (table.renaming program.analyze))).name ∈
          program.names.map table.externalName := by
        rw [Use.name, Use.map, resolved.rename_reference numbered uniform member ⟨bound, declared⟩]
        exact List.mem_map_of_mem declared
      simp only [Bool.false_or, List.contains_iff_mem, renamed, declared, if_true]
    · have same : (u.use.map (·.rename (table.renaming program.analyze))).name = u.use.name :=
        (table.renaming_serves program).unchanged numbered member fun refers => declared refers.2
      have still : u.use.name ∉ program.names.map table.externalName :=
        resolved.global_not_renamed uniform
          (Program.mem_globals.mpr ⟨declared, u, member, bound, rfl⟩)
      simp only [Bool.false_or, List.contains_iff_mem, same, still, declared, if_false]

theorem analyze_rename :
    (program.rename (table.renaming program.analyze)).analyze =
      program.analyze.image table.externalName := by
  have uses := table.ownedUses_rename numbered
  have names := resolved.names_rename numbered
  have references : (program.rename (table.renaming program.analyze)).ownedUses.filterMap
      (OwnedUse.reference? (program.rename (table.renaming program.analyze)).names) =
        (program.ownedUses.filterMap (OwnedUse.reference? program.names)).map
          (Reference.image table.externalName) := by
    rw [uses, names, List.filterMap_map, List.map_filterMap]
    exact List.filterMap_congr fun u member => resolved.reference?_rename numbered uniform member
  have globals : (program.rename (table.renaming program.analyze)).ownedUses.filterMap
      (OwnedUse.global? (program.rename (table.renaming program.analyze)).names) =
        program.ownedUses.filterMap (OwnedUse.global? program.names) := by
    rw [uses, names, List.filterMap_map]
    exact List.filterMap_congr fun u member => resolved.global?_rename numbered uniform member
  exact ScopeAnalysis.mk.injEq .. ▸
    ⟨resolved.symbols_rename numbered, references, congrArg Text.nameSet globals⟩

end ScopeAnalysis.Resolved

/-- The analysis of a module whose symbols were renamed is the analysis of the module under the new
names; and its uses stay at their sites, under their scopes, and as bound or unbound as they
were. -/
theorem rename_analyze_eq_image {program : Program Text} {exports : ExportMap}
    {module : Program Occurrence} {options : Options} {table : SymbolTable}
    (exported : program.label.resolveExports = .ok (exports, module))
    (uniform : options.style = .uniform)
    (success : module.analyze.resolve exports options = .ok table) :
    (module.rename (table.renaming module.analyze)).analyze =
        module.analyze.image table.externalName ∧
      (module.rename (table.renaming module.analyze)).ownedUses.map
          (fun u => (u.use.occurrence.site, u.use.scopes, u.use.isLocal)) =
        module.ownedUses.map fun u => (u.use.occurrence.site, u.use.scopes, u.use.isLocal) := by
  obtain ⟨_, -, same⟩ := bind_eq_ok.mp exported
  obtain rfl := congrArg Prod.snd (pure_eq_ok.mp same)
  have numbered := Program.withoutExports_numbered program.label_numbered
  have resolved := ScopeAnalysis.resolve_resolved success
  refine ⟨resolved.analyze_rename numbered uniform, ?_⟩
  rw [table.ownedUses_rename numbered, List.map_map]
  exact List.map_congr_left fun u member =>
    congrArg (Prod.mk _ <| Prod.mk _ ·) (resolved.isLocal_rename numbered member)

/-- A module with a parameter, a loop variable and a caught error that hide symbols. -/
def hidingModule : Program Text :=
  ⟨[.exportDeclaration (.function "f" ["g"]
      [.try [.forOf (.variables .let [.mk "h" none]) (.identifier "h")
          (.expression (.call (.identifier "g") [.identifier "f", .identifier "h"]))]
        (some (.mk (some "f") [.throw (.identifier "f")])) none]),
    .declaration (.variables .const [.mk "g" (some (.identifier "h")), .mk "h" none])]⟩

theorem hidingModule_rename_analyze :
    ∃ exports module table,
      hidingModule.label.resolveExports = .ok (exports, module) ∧
      module.analyze.resolve exports .standard = .ok table ∧
      (table.symbols.map fun s => (s.name, s.key)) =
        ([("f", "f"), ("g", "_unnamed_g"), ("h", "_unnamed_h")] : List (Text × Text)) ∧
      (module.rename (table.renaming module.analyze)).analyze =
        module.analyze.image table.externalName := by
  have exported : hidingModule.label.resolveExports =
      .ok ([("f", "f")], hidingModule.label.withoutExports) := rfl
  have success : hidingModule.label.withoutExports.analyze.resolve [("f", "f")] .standard =
      .ok ⟨[⟨"f", "f", "f", .exported, .function⟩,
        ⟨"g", "_unnamed_g", "_unnamed_g", .internal, .value⟩,
        ⟨"h", "_unnamed_h", "_unnamed_h", .internal, .value⟩]⟩ := by decide +kernel
  exact ⟨_, _, _, exported, success, rfl, (rename_analyze_eq_image exported rfl success).1⟩

end LibraryDescriptor
