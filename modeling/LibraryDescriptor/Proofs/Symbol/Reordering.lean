import Mathlib.Data.List.Perm.Basic
import LibraryDescriptor.Proofs.Symbol.Clashes
import LibraryDescriptor.Proofs.Symbol.LocalNames
import LibraryDescriptor.Proofs.Syntax.Labeling

/-!
# Symbols of reordered modules

The same statements in another order have the same exports, are as unambiguous, and have the same
symbols.

* `Program.Reorders` — two modules have the same statements, up to their order and their sites.
* `Program.Unambiguous.reordered` — whether names clash does not depend on the order.
* `SymbolTable.Same` — two tables have the same symbols; `Program.table_reordered` — those of
  reordered modules do.
-/

namespace LibraryDescriptor

open Occurrence (unsited)

/-! ## The same statements in another order -/

/-- Two modules have the same statements, up to their order and the sites of their names. -/
def Program.Reorders (first second : Program Occurrence) : Prop :=
  (first.map unsited).body.Perm (second.map unsited).body

theorem Program.label_unsited (program : Program Text) :
    program.label.map unsited = program.map fun name => ⟨name, none⟩ := by
  calc program.label.map unsited
      = program.label.erase.map fun name => ⟨name, none⟩ := by
        rw [Program.erase, Program.map_map]
        rfl
    _ = program.map fun name => ⟨name, none⟩ := by rw [program.label_erase]

theorem Program.withoutExports_map {ν μ : Type} (f : ν → μ) (program : Program ν) :
    (program.map f).withoutExports.body = program.withoutExports.body.map (Statement.map f) := by
  rw [Program.withoutExports, Program.withoutExports, Program.body_map, List.filterMap_map,
    List.map_filterMap]
  exact List.filterMap_congr fun s _ => s.withoutExport?_map f

theorem Program.reorders_of_perm {program permuted : Program Text}
    (perm : program.body.Perm permuted.body) :
    program.label.withoutExports.Reorders permuted.label.withoutExports := by
  have statements : ∀ module : Program Text, (module.label.withoutExports.map unsited).body =
      (module.body.map (Statement.map fun name => ⟨name, none⟩)).filterMap
        Statement.withoutExport? := by
    intro module
    rw [Program.body_map, ← Program.withoutExports_map, Program.label_unsited,
      ← Program.body_map]
    rfl
  rw [Program.Reorders, statements, statements]
  exact (perm.map _).filterMap _

theorem Statement.exportPairs_unsited (s : Statement Occurrence) :
    (s.map unsited).exportPairs = s.exportPairs := by
  cases s with
  | exportDeclaration value =>
    simp only [Statement.map, Statement.exportPairs, Declaration.names_map, List.map_map]
    rfl
  | exportList =>
    simp only [Statement.map, Statement.exportPairs, List.map_map]
    rfl
  | «if» _ _ alternate => cases alternate <;> rfl
  | «for» init => cases init <;> rfl
  | _ => rfl

theorem Program.exportPairs_perm {program permuted : Program Text}
    (perm : program.body.Perm permuted.body) :
    program.label.exportPairs.Perm permuted.label.exportPairs := by
  have pairs : ∀ module : Program Text, module.label.exportPairs =
      (module.body.map (Statement.map fun name => ⟨name, none⟩)).flatMap
        Statement.exportPairs := by
    intro module
    rw [← Program.body_map, ← Program.label_unsited, Program.body_map, List.flatMap_map]
    exact congrArg (List.flatMap · module.label.body) (funext fun s => s.exportPairs_unsited.symm)
  rw [pairs, pairs]
  exact (perm.map _).flatMap_right _

theorem Program.ownedUses_unsited (program : Program Occurrence) :
    (program.map unsited).ownedUses = program.ownedUses.map (OwnedUse.map unsited id) :=
  Program.ownedUses_map program (fun _ _ => rfl) fun _ _ => rfl

namespace Program.Reorders

variable {first second : Program Occurrence} (order : first.Reorders second)

include order

theorem definitions : (first.definitions.map (Definition.map unsited)).Perm
    (second.definitions.map (Definition.map unsited)) := by
  rw [← Program.definitions_map, ← Program.definitions_map]
  exact List.Perm.flatMap_right _ order

theorem ownedUses : (first.ownedUses.map (OwnedUse.map unsited id)).Perm
    (second.ownedUses.map (OwnedUse.map unsited id)) := by
  rw [← Program.ownedUses_unsited, ← Program.ownedUses_unsited]
  exact List.Perm.flatMap_right _ order

theorem exists_definition {d : Definition} (member : d ∈ second.definitions) :
    ∃ e ∈ first.definitions, e.map unsited = d.map unsited :=
  List.mem_map.mp (order.definitions.mem_iff.mpr (List.mem_map_of_mem member))

theorem exists_use {u : OwnedUse} (member : u ∈ second.ownedUses) :
    ∃ v ∈ first.ownedUses, v.map unsited id = u.map unsited id :=
  List.mem_map.mp (order.ownedUses.mem_iff.mpr (List.mem_map_of_mem member))

theorem definedNames : first.definedNames.Perm second.definedNames := by
  have names := order.definitions.map fun d : Definition => d.occurrence.name
  rw [List.map_map, List.map_map] at names
  exact names

end Program.Reorders

/-- Uses that differ in their sites have the same name and the same scopes around them. -/
theorem OwnedUse.same_use {u v : OwnedUse} (same : u.map unsited id = v.map unsited id) :
    u.use.name = v.use.name ∧ u.use.scopes = v.use.scopes ∧ u.use.isLocal = v.use.isLocal := by
  have names := congrArg (fun w : OwnedUse => w.use.name) same
  have scopes := congrArg (fun w : OwnedUse => w.use.scopes) same
  have bound := congrArg (fun w : OwnedUse => w.use.isLocal) same
  exact ⟨names, scopes, bound⟩

/-! ## Clashes do not depend on the order -/

section Resolved

variable (options : Options) {exports exports' : ExportMap}
  (lookup : ∀ name, exports.exported? name = exports'.exported? name)

include lookup

theorem Definition.resolved_congr {d e : Definition} (same : d.map unsited = e.map unsited) :
    d.resolved options exports = e.resolved options exports' := by
  -- A symbol does not know the site of its definition.
  have unsited_eq : ∀ c : Definition,
      (c.map unsited).resolved options exports = c.resolved options exports := fun _ => rfl
  rw [← unsited_eq, same, unsited_eq, Definition.resolved, Definition.resolved,
    ModuleSymbol.resolved, ModuleSymbol.resolved, lookup]

theorem Program.Reorders.resolved {first second : Program Occurrence}
    (order : first.Reorders second) :
    (first.definitions.map (Definition.resolved options exports)).Perm
      (second.definitions.map (Definition.resolved options exports')) := by
  have symbols := order.definitions.map (Definition.resolved options exports)
  rw [List.map_map, List.map_map] at symbols
  have same : second.definitions.map (Definition.resolved options exports') =
      second.definitions.map (Definition.resolved options exports ∘ Definition.map unsited) :=
    List.map_congr_left fun d _ => (Definition.resolved_congr options lookup rfl).symm
  rw [same]
  exact symbols

end Resolved

theorem Program.Unambiguous.reordered {first second : Program Occurrence} {options : Options}
    {exports exports' : ExportMap} (order : first.Reorders second)
    (perm : exports.Perm exports') (names : (exports.map Prod.fst).Nodup)
    (clear : first.Unambiguous exports options) : second.Unambiguous exports' options := by
  have lookup := ExportMap.exported?_perm perm names
  have resolved := order.resolved options lookup
  refine ⟨order.definedNames.nodup_iff.mp clear.once, fun d member => ?_, fun pair member => ?_,
    ?_, ?_, fun d d_member u u_member unbound undeclared => ?_,
    fun d d_member u u_member unbound means => ?_⟩
  · obtain ⟨e, e_member, same⟩ := order.exists_definition member
    exact (Definition.mk.inj same).1 ▸ clear.own e e_member
  · exact order.definedNames.mem_iff.mp (clear.exported pair (perm.mem_iff.mpr member))
  · have keys := resolved.map ResolvedSymbol.key
    rw [List.map_map, List.map_map] at keys
    exact keys.nodup_iff.mp clear.keys
  · have references := resolved.map ResolvedSymbol.reference
    rw [List.map_map, List.map_map] at references
    exact references.nodup_iff.mp clear.references
  -- A definition or a use of one module is one of the other, but for the site.
  · obtain ⟨e, e_member, e_same⟩ := order.exists_definition d_member
    obtain ⟨v, v_member, v_same⟩ := order.exists_use u_member
    obtain ⟨v_name, -, v_local⟩ := OwnedUse.same_use v_same
    rw [← Definition.resolved_congr options lookup e_same, ← v_name]
    apply clear.globals e e_member v v_member (v_local.trans unbound)
    rwa [v_name, order.definedNames.mem_iff]
  · obtain ⟨e, e_member, e_same⟩ := order.exists_definition d_member
    obtain ⟨v, v_member, v_same⟩ := order.exists_use u_member
    obtain ⟨v_name, v_scopes, v_local⟩ := OwnedUse.same_use v_same
    have e_name := congrArg (fun c : Definition => c.occurrence.name) e_same
    rw [← Definition.resolved_congr options lookup e_same, ← v_scopes]
    apply clear.uncaptured e e_member v v_member (v_local.trans unbound)
    rw [v_name, means]
    exact e_name.symm

/-! ## Tables with the same symbols -/

/-- Two tables have the same symbols, in whatever order. -/
structure SymbolTable.Same (first second : SymbolTable) : Prop where
  symbols : first.symbols.Perm second.symbols
  names : (first.symbols.map ResolvedSymbol.name).Nodup
  keys : (first.symbols.map ResolvedSymbol.key).Nodup

theorem find?_perm {α β : Type} [DecidableEq β] {key : α → β} {list list' : List α}
    (perm : list.Perm list') (nodup : (list.map key).Nodup) (k : β) :
    list.find? (fun a => key a = k) = list'.find? (fun a => key a = k) := by
  have nodup' : (list'.map key).Nodup := (perm.map key).nodup_iff.mp nodup
  apply Option.ext
  intro a
  rw [find?_eq_some_of_nodup nodup, find?_eq_some_of_nodup nodup', perm.mem_iff]

namespace SymbolTable.Same

variable {first second : SymbolTable} (same : first.Same second)

include same

theorem get? (name : Text) : first.get? name = second.get? name :=
  find?_perm same.symbols same.names name

theorem byKey? (key : Text) : first.byKey? key = second.byKey? key :=
  find?_perm same.symbols same.keys key

theorem newName : Statement.newName first = Statement.newName second := by
  funext s o
  simp only [Statement.newName, SymbolTable.key?, SymbolTable.reference?, same.get?]

theorem standalone : Statement.standalone first = Statement.standalone second := by
  funext s
  simp only [Statement.standalone, same.newName]

end SymbolTable.Same

theorem Program.table_reordered {first second : Program Occurrence} {options : Options}
    {exports exports' : ExportMap} (order : first.Reorders second)
    (perm : exports.Perm exports') (names : (exports.map Prod.fst).Nodup)
    (clear : first.Unambiguous exports options) :
    (first.table exports options).Same (second.table exports' options) := by
  refine ⟨order.resolved options (ExportMap.exported?_perm perm names), ?_, ?_⟩
  · rw [Program.table, List.map_map]
    exact clear.once
  · rw [Program.table, List.map_map]
    exact clear.keys

end LibraryDescriptor
