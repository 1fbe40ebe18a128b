import LibraryDescriptor.Proofs.Bundle.Flattening

/-!
# Globals of a bundle

A declaration that gets a new name avoids the globals of all modules. Two kinds of declarations keep
their names whatever the globals are: those of the entry, and those of a name that its module
imports first. Such a declaration captures a global of the same name.

* `SourceModule.KeepsName` — a module declares a name that it keeps in the bundle.
* `bundle_globals` — the globals of a bundle are those of its modules that no module keeps.
* `capturingModules_globals` — a global of one module under the name of a declaration of the entry.
-/

namespace LibraryDescriptor

/-- A module declares a name, and no new name is looked for. -/
def SourceModule.KeepsName (m : SourceModule) (entry : ModuleId) (name : Text) : Prop :=
  ∃ s ∈ m.analysis.symbols, s.name = name ∧ (m.id = entry ∨ s.kind = .imported) ∧
    ∃ d ∈ s.definitions, d.kind ≠ .imported

instance (m : SourceModule) (entry : ModuleId) (name : Text) : Decidable (m.KeepsName entry name) :=
  inferInstanceAs (Decidable (∃ s ∈ m.analysis.symbols, _ ∧ _ ∧ ∃ d ∈ s.definitions, _))

/-! ## Names avoid globals -/

theorem FinalNames.assign_avoids_globals {modules : List LinkedModule}
    (distinct : DistinctModules modules) {entry : ModuleId} {origin : Origin} {name : Text}
    (named : (assign modules entry).get? origin = some name) (foreign : origin.id ≠ entry)
    {m : LinkedModule} (member : m ∈ modules) : name ∉ m.module.analysis.globals := by
  rcases (assign_added distinct entry).known origin name (mem_of_lookup named) with first | later
  · obtain ⟨k, k_member, listed⟩ := List.mem_flatMap.mp first
    have own := (List.mem_filter.mp k_member).2
    rw [← declaration_id (mem_ofEntry.mp listed).1] at own
    exact absurd (of_decide_eq_true own) foreign
  · intro present
    exact later.2.1 (List.mem_flatMap.mpr ⟨m, member, present⟩)

/-! ## Exports are declared -/

theorem SourceModule.mem_names_of_import {m : SourceModule} {name : Text} {target : ModuleId × Text}
    (bound : latest? m.importBindings name = some target) : name ∈ m.program.names := by
  have listed : (name, target) ∈ m.importBindings := List.mem_reverse.mp (mem_of_lookup bound)
  obtain ⟨item, item_member, inside⟩ := List.mem_flatMap.mp listed
  unfold ModuleItem.importBindings at inside
  split at inside
  · next specifiers _ found =>
    obtain ⟨s, s_member, same⟩ := List.mem_map.mp inside
    apply m.program.symbols_groups.mem_names.mpr
    refine ⟨⟨.imported, s.bound⟩, ?_, congrArg Prod.fst same⟩
    apply List.mem_flatMap.mpr
    refine ⟨item.statement, List.mem_map_of_mem item_member, ?_⟩
    rw [found]
    exact List.mem_map_of_mem (f := fun s => (⟨.imported, s.bound⟩ : Definition)) s_member
  · cases inside

theorem Linked.exists_links {modules : List SourceModule} {linked : List LinkedModule}
    (done : Linked modules linked) {k : LinkedModule} (member : k ∈ linked) :
    ∃ before, LinkedModule.Links before k.module k := by
  induction done with
  | nil => cases member
  | @snoc _ linked m result _ success ih =>
    rcases List.mem_append.mp member with earlier | itself
    · exact ih earlier
    · obtain rfl := List.mem_singleton.mp itself
      have links := SourceModule.link_links success
      exact ⟨linked, links.module_eq.symm ▸ links⟩

theorem SameNames.exists_of_mem {α β : Type} {related : α → β → Prop} {first : List (Text × α)}
    {second : List (Text × β)} (same : SameNames related first second) {pair : Text × α}
    (member : pair ∈ first) : ∃ b, related pair.2 b := by
  induction same with
  | nil => cases member
  | cons both _ ih =>
    rcases List.mem_cons.mp member with rfl | later
    · exact ⟨_, both.2⟩
    · exact ih later

/-- A module that is linked exports nothing that it neither declares nor imports. -/
theorem LinkedModule.Links.mem_names_of_exports {before : List LinkedModule} {k : LinkedModule}
    (links : Links before k.module k) (analyzed : k.module.analysis = k.module.program.analyze)
    {o : Occurrence} (exported : k.module.Exports o) : o.name ∈ k.module.program.names := by
  obtain ⟨item, item_member, specifiers, found, s, s_member, rfl⟩ := exported
  have listed : (s.exported.name, ExportTarget.topLevel s.bound.name) ∈
      k.module.exportBindings := by
    apply List.mem_flatMap.mpr
    refine ⟨item, item_member, ?_⟩
    rw [ModuleItem.exportBindings, found]
    exact List.mem_map.mpr ⟨s, s_member, rfl⟩
  obtain ⟨origin, means⟩ := links.exports.exists_of_mem listed
  rcases links.origin?_cases means with ⟨-, -, symbol, symbol_member, named, -⟩ | ⟨_, _, bound, -⟩
  · rw [analyzed] at symbol_member
    exact named ▸ List.mem_map_of_mem symbol_member
  · exact SourceModule.mem_names_of_import bound

/-! ## Where the names of a bundle come from -/

theorem Statement.kind_of_isKept {isEntry : Bool} {s : Statement Occurrence}
    (kept : s.isKept isEntry = true) {d : Definition} (member : d ∈ s.definitions) :
    d.kind ≠ .imported := by
  cases s with
  | declaration value | exportDeclaration value =>
    cases value with
    | function name params body =>
      obtain rfl := List.mem_singleton.mp member
      simp
    | «variables» kind declarators =>
      obtain ⟨_, -, rfl⟩ := List.mem_map.mp member
      simp
  | importList => cases kept
  | _ =>
    obtain ⟨_, -, rfl⟩ := List.mem_map.mp member
    simp

/-- What is left of a statement that the bundle does not keep declares nothing, and uses names of
the bundle only. -/
theorem LinkedModule.emit_drops {m : LinkedModule} {names : FinalNames} {isEntry : Bool}
    {s : Statement Occurrence} {out : List (Statement Occurrence)}
    (dropped : s.isKept isEntry = false)
    (success : m.emit names isEntry s = .ok out) {t : Statement Occurrence} (t_member : t ∈ out) :
    t.definitions = [] ∧
      ∀ u ∈ t.ownedUses, ∃ origin, names.get? origin = some u.use.name := by
  match s with
  | .importList _ _ =>
    obtain rfl := Except.ok.inj success
    cases t_member
  | .exportList specifiers none =>
    obtain rfl : isEntry = false := dropped
    obtain rfl := Except.ok.inj success
    cases t_member
  | .exportList specifiers (some _) =>
    cases isEntry with
    | false =>
      obtain rfl := Except.ok.inj success
      cases t_member
    | true =>
      obtain ⟨results, mapped, same⟩ := bind_eq_ok.mp success
      obtain rfl := pure_eq_ok.mp same
      obtain rfl := List.mem_singleton.mp t_member
      refine ⟨rfl, fun u u_member => ?_⟩
      obtain ⟨result, result_member, rfl⟩ := List.mem_map.mp u_member
      obtain ⟨specifier, -, done⟩ := mapM_ok_exists_source mapped result_member
      unfold LinkedModule.localExport at done
      split at done
      · next origin _ =>
        obtain ⟨name, found, same⟩ := bind_eq_ok.mp done
        obtain rfl := pure_eq_ok.mp same
        exact ⟨origin, find_eq_ok.mp found⟩
      · cases done

section Sources

variable {modules : List LinkedModule} {entry : ModuleId} {program : Program Occurrence}
  (loaded : LoadedModules modules) (success : flatten modules entry = .ok program)

include success

theorem flatten_definition_source {d : Definition} (member : d ∈ program.definitions) :
    ∃ m ∈ modules, ∃ fresh, m.renaming (.assign modules entry) = .ok fresh ∧
      ∃ e ∈ m.module.program.definitions, e.kind ≠ .imported ∧ d = e.map (·.rename fresh) := by
  obtain ⟨t, t_member, inside⟩ := List.mem_flatMap.mp member
  obtain ⟨m, m_member, fresh, renamed, item, item_member, out, t_member, emits⟩ :=
    flatten_source success t_member
  refine ⟨m, m_member, fresh, renamed, ?_⟩
  cases kept : (item.statement.map (·.rename fresh)).isKept (m.id = entry) with
  | false =>
    rw [(LinkedModule.emit_drops kept emits t_member).1] at inside
    cases inside
  | true =>
    obtain ⟨t', rfl, definitions, -, -⟩ := LinkedModule.emit_keeps kept emits
    obtain rfl := List.mem_singleton.mp t_member
    rw [definitions, Statement.definitions_map] at inside
    obtain ⟨e, e_member, rfl⟩ := List.mem_map.mp inside
    rw [Statement.isKept_map] at kept
    exact ⟨e, List.mem_flatMap.mpr ⟨_, List.mem_map_of_mem item_member, e_member⟩,
      Statement.kind_of_isKept kept e_member, rfl⟩

include loaded

theorem flatten_use_source {v : OwnedUse} (member : v ∈ program.ownedUses) :
    (∃ origin, (FinalNames.assign modules entry).get? origin = some v.use.name) ∨
      ∃ m ∈ modules, ∃ fresh, m.renaming (.assign modules entry) = .ok fresh ∧
        ∃ u ∈ m.module.program.ownedUses, v.use = u.use.map (·.rename fresh) := by
  obtain ⟨t, t_member, inside⟩ := List.mem_flatMap.mp member
  obtain ⟨m, m_member, fresh, renamed, item, item_member, out, t_member, emits⟩ :=
    flatten_source success t_member
  cases kept : (item.statement.map (·.rename fresh)).isKept (m.id = entry) with
  | false => exact .inl ((LinkedModule.emit_drops kept emits t_member).2 v inside)
  | true =>
    obtain ⟨t', rfl, -, uses, -⟩ := LinkedModule.emit_keeps kept emits
    obtain rfl := List.mem_singleton.mp t_member
    rw [uses, renamed_ownedUses loaded m_member renamed item_member] at inside
    obtain ⟨u, u_member, rfl⟩ := List.mem_map.mp inside
    exact .inr ⟨m, m_member, fresh, renamed, u,
      List.mem_flatMap.mpr ⟨_, List.mem_map_of_mem item_member, u_member⟩, rfl⟩

end Sources

/-! ## Captured globals -/

section Captured

variable {bundle : Bundle} {linked : List LinkedModule} (loaded : LoadedModules linked)

/-- A declaration that its module keeps has its own name, and any other one a name that is no global
of a module. -/
theorem LoadedModules.renamed_definition (loaded : LoadedModules linked) {entry : ModuleId}
    {k : LinkedModule} (member : k ∈ linked) {fresh : Renaming}
    (renamed : k.renaming (.assign linked entry) = .ok fresh) {s : ModuleSymbol}
    (s_member : s ∈ k.module.program.symbols) {d : Definition} (d_member : d ∈ s.definitions) :
    if k.id = entry ∨ s.kind = .imported then (d.occurrence.rename fresh).name = s.name
    else ∀ m ∈ linked, (d.occurrence.rename fresh).name ∉ m.module.analysis.globals := by
  have analyzed := loaded.analyzed k member
  obtain ⟨inside, same⟩ := (k.module.program.symbols_groups.mem_definitions s_member).mp d_member
  have new := (LinkedModule.renaming_serves analyzed renamed).definition (loaded.numbered k member)
    inside
  rw [same, LinkedModule.declaredName?_of_mem analyzed s_member] at new
  by_cases imported : s.kind = .imported
  · simpa [imported] using new
  have declared : (⟨k.id, s.name⟩ : Origin) ∈ k.declarations := by
    rw [LinkedModule.declarations, analyzed]
    exact List.mem_map.mpr ⟨s, List.mem_filter.mpr ⟨s_member, decide_eq_true imported⟩, rfl⟩
  obtain ⟨final, named⟩ := FinalNames.exists_assign loaded.distinct entry member declared
  rw [if_neg imported, named, Option.getD_some] at new
  rw [new]
  by_cases own : k.id = entry
  · rw [if_pos (.inl own)]
    exact FinalNames.assign_entry loaded.distinct _ named own
  · rw [if_neg (by simp [own, imported])]
    intro m m_member
    exact FinalNames.assign_avoids_globals loaded.distinct named own m_member

variable (success : flatten linked bundle.entry = .ok bundle.program)

include loaded success

/-- The program declares the name of a global exactly where a module keeps that name. -/
theorem mem_names_iff_keepsName {m : LinkedModule} (member : m ∈ linked) {name : Text}
    (global : name ∈ m.module.analysis.globals) :
    name ∈ bundle.program.names ↔ ∃ k ∈ linked, k.module.KeepsName bundle.entry name := by
  constructor
  · intro declared
    obtain ⟨d, d_member, rfl⟩ := bundle.program.symbols_groups.mem_names.mp declared
    obtain ⟨k, k_member, fresh, renamed, e, e_member, own, rfl⟩ :=
      flatten_definition_source success d_member
    obtain ⟨s, s_member, same, inside⟩ := k.module.program.symbols_groups.exists_symbol e_member
    have new := loaded.renamed_definition k_member renamed s_member inside
    split at new
    · next kept =>
      refine ⟨k, k_member, s, ?_, new.symm, kept, e, inside, own⟩
      rw [loaded.analyzed k k_member]
      exact s_member
    · exact absurd global (new m member)
  · rintro ⟨k, k_member, s, s_member, rfl, kept, d, d_member, own⟩
    rw [loaded.analyzed k k_member] at s_member
    obtain ⟨fresh, renamed, -⟩ := flatten_statements success k_member
    have new := loaded.renamed_definition k_member renamed s_member d_member
    have new : (d.occurrence.rename fresh).name = s.name := by
      simpa only [LinkedModule.id, kept, if_true] using new
    have inside := ((k.module.program.symbols_groups.mem_definitions s_member).mp d_member).1
    apply bundle.program.symbols_groups.mem_names.mpr
    exact ⟨_, flatten_definition loaded success k_member renamed inside own, new⟩

/-- A use that the program leaves open is one that its module leaves open. -/
theorem exists_global_of_use {v : OwnedUse} (member : v ∈ bundle.program.ownedUses)
    (unbound : v.use.isLocal = false) (undeclared : v.use.name ∉ bundle.program.names) :
    ∃ m ∈ linked, v.use.name ∈ m.module.analysis.globals := by
  rcases flatten_use_source loaded success member with
    ⟨origin, named⟩ | ⟨m, m_member, fresh, renamed, u, u_member, same⟩
  · exact absurd (mem_names_of_assign loaded success named) undeclared
  have analyzed := loaded.analyzed m m_member
  have numbered := loaded.numbered m m_member
  have serves := LinkedModule.renaming_serves analyzed renamed
  refine ⟨m, m_member, ?_⟩
  -- A reference would have got the name of a declaration of the bundle.
  have other : ¬ u.refers m.module.program.names := by
    intro refers
    have listed : ⟨u.use.occurrence, u.owner, u.use.scopes.flatten⟩ ∈
        m.module.analysis.references := by
      rw [analyzed]
      exact Program.mem_references.mpr ⟨u, u_member, refers, rfl⟩
    obtain ⟨origin, name, traced, named⟩ := LinkedModule.exists_referredName renamed listed
    have referred : m.referredName? (.assign linked bundle.entry) u.use.name = some name :=
      Option.bind_eq_some_iff.mpr ⟨origin, traced, named⟩
    have new := serves.reference numbered u_member refers
    rw [referred, Option.getD_some] at new
    apply undeclared
    have final : v.use.name = name := by
      rw [same]
      exact new
    exact final ▸ mem_names_of_assign loaded success named
  have new : v.use.name = u.use.name := by
    rw [same]
    exact serves.unchanged numbered u_member other
  have isOpen : u.use.isLocal = false := by
    rw [same, serves.isLocal_map numbered u_member fun refers => absurd refers other] at unbound
    exact unbound
  rw [new, analyzed]
  exact Program.mem_globals.mpr ⟨fun declared => other ⟨isOpen, declared⟩, u, u_member, isOpen, rfl⟩

/-- A global of a module is left open in the program, unless the program declares its name. -/
theorem exists_use_of_global {modules : List SourceModule} (done : Linked modules linked)
    {m : LinkedModule} (member : m ∈ linked) {name : Text}
    (global : name ∈ m.module.analysis.globals) :
    ∃ v ∈ bundle.program.ownedUses, v.use.isLocal = false ∧ v.use.name = name := by
  have analyzed := loaded.analyzed m member
  have numbered := loaded.numbered m member
  obtain ⟨fresh, renamed, -⟩ := flatten_statements success member
  have serves := LinkedModule.renaming_serves analyzed renamed
  rw [analyzed] at global
  obtain ⟨undeclared, u, u_member, unbound, rfl⟩ := Program.mem_globals.mp global
  have other : ¬ u.refers m.module.program.names := fun refers => undeclared refers.2
  have unexported : ¬ m.module.Exports u.use.occurrence := by
    intro exported
    obtain ⟨before, links⟩ := done.exists_links member
    exact undeclared (links.mem_names_of_exports analyzed exported)
  refine ⟨_, flatten_use loaded success member renamed u_member (.inr unexported), ?_, ?_⟩
  · exact (serves.isLocal_map numbered u_member fun refers => absurd refers other).trans unbound
  · exact serves.unchanged numbered u_member other

end Captured

/-- The globals of a bundle are those globals of its modules whose names no module keeps for a
declaration of its own. So all of them are left exactly when there is no such name. -/
theorem bundle_globals {env : Environment} {entry : Text} {bundle : Bundle}
    (success : (env.bundle entry).1 = .ok bundle) :
    (∀ name, name ∈ bundle.program.analyze.globals ↔
      (∃ m ∈ bundle.modules, name ∈ m.analysis.globals) ∧
        ∀ k ∈ bundle.modules, ¬ k.KeepsName bundle.entry name) ∧
    (bundle.program.analyze.globals =
        Text.nameSet (bundle.modules.flatMap fun m => m.analysis.globals) ↔
      ∀ m ∈ bundle.modules, ∀ name ∈ m.analysis.globals,
        ∀ k ∈ bundle.modules, ¬ k.KeepsName bundle.entry name) := by
  obtain ⟨state, loads, makes⟩ := Environment.bundle_eq_ok success
  obtain ⟨-, modules_eq, linked, links, flattens⟩ := Bundle.make_eq_ok makes
  obtain ⟨batch, ids, -⟩ := Environment.loadEntry_loaded loads
  rw [← modules_eq] at batch ids links
  have done := linkAll_linked links
  have loaded := done.loaded batch ids
  have iff_linked : ∀ P : SourceModule → Prop,
      (∃ m ∈ bundle.modules, P m) ↔ ∃ k ∈ linked, P k.module := by
    intro P
    rw [← done.map_module]
    simp
  have members : ∀ name, name ∈ bundle.program.analyze.globals ↔
      (∃ m ∈ bundle.modules, name ∈ m.analysis.globals) ∧
        ¬ ∃ k ∈ bundle.modules, k.KeepsName bundle.entry name := by
    intro name
    rw [iff_linked, iff_linked, Program.mem_globals]
    constructor
    · rintro ⟨undeclared, v, v_member, unbound, rfl⟩
      obtain ⟨m, member, global⟩ :=
        exists_global_of_use loaded flattens v_member unbound undeclared
      rw [mem_names_iff_keepsName loaded flattens member global] at undeclared
      exact ⟨⟨m, member, global⟩, undeclared⟩
    · rintro ⟨⟨m, member, global⟩, unkept⟩
      rw [← mem_names_iff_keepsName loaded flattens member global] at unkept
      exact ⟨unkept, exists_use_of_global loaded flattens done member global⟩
  refine ⟨fun name => by simpa using members name, ?_⟩
  rw [Text.eq_nameSet_iff bundle.program.globals_ascending]
  constructor
  · intro all m member name global k k_member keeps
    have listed : name ∈ bundle.program.analyze.globals :=
      (all name).mpr (List.mem_flatMap.mpr ⟨m, member, global⟩)
    exact ((members name).mp listed).2 ⟨k, k_member, keeps⟩
  · intro unkept name
    rw [members name, List.mem_flatMap]
    constructor
    · exact fun listed => listed.1
    · rintro ⟨m, member, global⟩
      refine ⟨⟨m, member, global⟩, ?_⟩
      rintro ⟨k, k_member, keeps⟩
      exact unkept m member name global k k_member keeps

/-- The entry leaves a name open that the other module declares. -/
def sparingModules : Environment :=
  ⟨⟨[], []⟩, [⟨"memory", some [⟨"a", .all, "a"⟩, ⟨"b", .all, "b"⟩],
    some [("a", "import { f } from 'b'; var x = 1; f(y);"),
      ("b", "export function f() { return y + z; } var y;")]⟩]⟩

/-- The declaration of the other module has a new name, so all globals are left. -/
theorem sparingModules_globals :
    ∃ bundle, (sparingModules.bundle "a").1 = .ok bundle ∧
      bundle.program.analyze.globals =
        Text.nameSet (bundle.modules.flatMap fun m => m.analysis.globals) ∧
      bundle.program.analyze.globals = [("y" : Text), ("z" : Text)] := by
  have found : (sparingModules.bundle "a").1.toOption.map (fun bundle =>
      (decide (∀ m ∈ bundle.modules, ∀ name ∈ m.analysis.globals,
        ∀ k ∈ bundle.modules, ¬ k.KeepsName bundle.entry name),
        bundle.program.analyze.globals)) = some (true, [("y" : Text), ("z" : Text)]) := by
    decide +kernel
  cases success : (sparingModules.bundle "a").1 with
  | error e =>
    rw [success] at found
    cases found
  | ok bundle =>
    rw [success, Except.toOption, Option.map_some, Option.some_inj, Prod.mk.injEq] at found
    exact ⟨bundle, rfl, (bundle_globals success).2.mpr (of_decide_eq_true found.1), found.2⟩

/-- The entry declares a name that the other module leaves open. -/
def capturingModules : Environment :=
  ⟨⟨[], []⟩, [⟨"memory", some [⟨"a", .all, "a"⟩, ⟨"b", .all, "b"⟩],
    some [("a", "import { f } from 'b'; var x = 1; f();"),
      ("b", "export function f() { return x; }")]⟩]⟩

/-- The declaration of the entry captures the global of the other module. -/
theorem capturingModules_globals :
    ∃ bundle, (capturingModules.bundle "a").1 = .ok bundle ∧
      (bundle.modules.map fun m => m.analysis.globals) = [[("x" : Text)], []] ∧
      bundle.program.analyze.globals = [] := by
  have found : (capturingModules.bundle "a").1.toOption.map (fun bundle =>
      (bundle.modules.map fun m => m.analysis.globals, bundle.program.analyze.globals)) =
        some ([[("x" : Text)], []], []) := by
    decide +kernel
  cases success : (capturingModules.bundle "a").1 with
  | error e =>
    rw [success] at found
    cases found
  | ok bundle =>
    rw [success, Except.toOption, Option.map_some, Option.some_inj, Prod.mk.injEq] at found
    exact ⟨bundle, rfl, found⟩

end LibraryDescriptor
