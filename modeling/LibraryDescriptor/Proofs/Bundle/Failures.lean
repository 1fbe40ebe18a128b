import LibraryDescriptor.Command.Run
import LibraryDescriptor.Proofs.Bundle.Globals
import LibraryDescriptor.Proofs.Bundle.LoadFailures
import LibraryDescriptor.Proofs.Printer.Renamed
import LibraryDescriptor.Proofs.Syntax.Relabeling

/-!
# Bundles that cannot be made

Modules from tables that all parse are made into a bundle, or there is a reported error. One lookup
can fail: a module that imports a name and declares it again has no declaration of that name in the
bundle, but can still export it.

* `linkAll_error` — linking fails only for a missing export or an export of nothing.
* `Demanded`, `Orphaned` — a declaration that the bundle needs, and one that has no name in it.
* `Linked.flatten_error`, `Linked.not_orphaned_of_flatten` — linked modules have a program exactly
  if no demanded declaration is orphaned.
* `flatten_prints` — such a program has a text.
* `bundle_fails_only` — why there is no bundle.
* `orphanedModules_unreported` — modules for which a lookup fails.
-/

namespace LibraryDescriptor

open Relation (ReflTransGen)
open Loader (Succeeds)

def BundleError.isReported (e : BundleError) : Bool :=
  (Command.CommandError.library (.bundle e)).isReported

/-! ## Linking -/

/-- Where linking fails, it does at a module that comes after linked ones. -/
theorem foldlM_link_error {modules before : List SourceModule} {linked : List LinkedModule}
    {e : BundleError} (done : Linked before linked)
    (failed : modules.foldlM (fun linked m => do return linked ++ [← m.link linked]) linked =
      .error e) :
    ∃ front m after linked', modules = front ++ m :: after ∧ Linked (before ++ front) linked' ∧
      m.link linked' = .error e := by
  induction modules generalizing before linked with
  | nil => cases failed
  | cons m rest ih =>
    rw [List.foldlM_cons, bind_eq_error] at failed
    rcases failed with failed | ⟨longer, linkedOne, failed⟩
    · rcases bind_eq_error.mp failed with failed | ⟨_, -, impossible⟩
      · exact ⟨[], m, rest, linked, rfl, (List.append_nil before).symm ▸ done, failed⟩
      · cases impossible
    · obtain ⟨one, success, same⟩ := bind_eq_ok.mp linkedOne
      obtain rfl := pure_eq_ok.mp same
      obtain ⟨front, k, after, linked', rfl, further, fails⟩ := ih (done.snoc success) failed
      exact ⟨m :: front, k, after, linked', rfl, by simpa using further, fails⟩

theorem exportedOrigin_error {linked : List LinkedModule} {source : Option ModuleId}
    {importer : ModuleId} {name : Text} {e : BundleError}
    (failed : exportedOrigin linked source importer name = .error e) :
    e.isReported = true ∨ source.getD [] ∉ linked.map LinkedModule.id := by
  unfold exportedOrigin at failed
  simp only at failed
  split at failed
  · next missing =>
    refine .inr fun listed => ?_
    obtain ⟨k, member, same⟩ := List.mem_map.mp listed
    exact List.find?_eq_none.mp missing k member (decide_eq_true same)
  · split at failed
    · cases failed
    · obtain rfl := Except.error.inj failed
      exact .inl rfl

/-- A statement imports or exports from another module. -/
inductive Statement.Fetches {ν : Type} : Statement ν → Prop where
  | importList : Fetches (.importList specifiers source)
  | exportList : Fetches (.exportList specifiers (some source))

/-- An item of the grammar that imports or exports from another module has a specifier. -/
theorem Statement.IsItem.exists_specifier {s : Statement Occurrence} (item : s.erase.IsItem)
    (fetches : s.Fetches) : ∃ specifier, s.specifier? = some specifier := by
  cases fetches with
  | importList =>
    rw [Statement.erase, Statement.map] at item
    cases item with
    | statement grammatical => cases grammatical
    | importList => exact ⟨_, rfl⟩
  | @exportList _ literal =>
    rw [Statement.erase, Statement.map] at item
    generalize from_eq : some literal = fetched at item
    cases item with
    | statement grammatical => cases grammatical
    | exportList text =>
      obtain ⟨value, rfl, rfl⟩ := Option.map_eq_some_iff.mp from_eq.symm
      exact ⟨value, rfl⟩

theorem SourceModule.link_error {linked : List LinkedModule} {m : SourceModule} {e : BundleError}
    (failed : m.link linked = .error e)
    (known : ∀ item ∈ m.items, item.statement.Fetches → item.target ∈ linked.map LinkedModule.id) :
    e.isReported = true := by
  rcases bind_eq_error.mp failed with failed | ⟨imports, -, failed⟩
  · obtain ⟨item, member, failed⟩ := mapM_eq_error failed
    unfold ModuleItem.imports at failed
    split at failed
    · next specifiers source found =>
      obtain ⟨s, -, failed⟩ := mapM_eq_error failed
      rcases bind_eq_error.mp failed with failed | ⟨_, -, impossible⟩
      · exact (exportedOrigin_error failed).resolve_right
          (absurd (known item member (found ▸ .importList)))
      · cases impossible
    · cases failed
  rcases bind_eq_error.mp failed with failed | ⟨_, -, impossible⟩
  · obtain ⟨item, member, failed⟩ := mapM_eq_error failed
    unfold ModuleItem.exports at failed
    split at failed
    · cases failed
    · next specifiers source found =>
      obtain ⟨s, -, failed⟩ := mapM_eq_error failed
      rcases bind_eq_error.mp failed with failed | ⟨_, -, impossible⟩
      · exact (exportedOrigin_error failed).resolve_right
          (absurd (known item member (found ▸ .exportList)))
      · cases impossible
    · obtain ⟨s, -, failed⟩ := mapM_eq_error failed
      split at failed
      · cases failed
      · obtain rfl := Except.error.inj failed
        rfl
    · cases failed
  · cases impossible

/-- Modules that were loaded are linked, or there is a reported error. -/
theorem linkAll_error {env : Environment} {modules : List SourceModule} {e : BundleError}
    (settled : ∀ m ∈ modules, env.Settled m)
    (ordered : env.Ordered (modules.map SourceModule.id))
    (failed : linkAll modules = .error e) : e.isReported = true := by
  obtain ⟨front, m, after, linked, rfl, done, failed⟩ := foldlM_link_error .nil failed
  refine SourceModule.link_error failed fun item member fetches => ?_
  have m_settled := settled m (by simp)
  obtain ⟨specifier, named⟩ := (m_settled.isItem member).exists_specifier fetches
  obtain ⟨target, source, imports⟩ := m_settled.imports_target member named
  rw [done.map_id, ModuleItem.target, source, Option.getD_some, List.nil_append]
  exact ordered (front.map SourceModule.id) m.id (after.map SourceModule.id)
    (by simp) target imports

/-! ## Declarations without a name -/

def SourceModule.reexports (m : SourceModule) : List Text :=
  m.items.flatMap fun item =>
    match item.statement with
    | .exportList specifiers (some _) => specifiers.map (·.exported.name)
    | _ => []

/-- A bundle needs the name of a declaration: a reference means it, or an export of the entry from
another module. -/
inductive Demanded (modules : List SourceModule) (entry : ModuleId) (origin : Origin) : Prop where
  | reference {m : SourceModule} {r : Reference} (member : m ∈ modules)
      (refers : r ∈ m.analysis.references) (traces : Traces modules .inside m.id r.symbol origin) :
      Demanded modules entry origin
  | reexport {m : SourceModule} {name : Text} (member : m ∈ modules) (isEntry : m.id = entry)
      (exports : name ∈ m.reexports) (traces : Traces modules .outside m.id name origin) :
      Demanded modules entry origin

/-- A module imports the name of a declaration before it declares it, so that the bundle has no name
for the declaration. -/
def Orphaned (modules : List SourceModule) (origin : Origin) : Prop :=
  ∃ m ∈ modules, m.id = origin.id ∧
    ∃ s ∈ m.analysis.symbols, s.name = origin.name ∧ s.kind = .imported

theorem latest?_isSome_of_mem {α : Type} {bindings : List (Text × α)} {pair : Text × α}
    (member : pair ∈ bindings) : (latest? bindings pair.1).isSome := by
  rw [latest?, List.lookup_isSome_iff]
  exact ⟨pair, List.mem_reverse.mpr member, beq_self_eq_true _⟩

theorem SourceModule.import_of_definition {m : SourceModule} {d : Definition}
    (member : d ∈ m.program.definitions) (kind : d.kind = .imported) :
    (latest? m.importBindings d.occurrence.name).isSome := by
  obtain ⟨statement, statement_member, inside⟩ := List.mem_flatMap.mp member
  obtain ⟨item, item_member, rfl⟩ := List.mem_map.mp statement_member
  cases found : item.statement with
  | importList specifiers source =>
    rw [found] at inside
    obtain ⟨s, s_member, rfl⟩ := List.mem_map.mp inside
    have bound : (s.bound.name, item.target, s.imported.name) ∈ m.importBindings := by
      refine List.mem_flatMap.mpr ⟨item, item_member, ?_⟩
      rw [ModuleItem.importBindings, found]
      exact List.mem_map_of_mem (f := fun s : ImportSpecifier Occurrence =>
        (s.bound.name, item.target, s.imported.name)) s_member
    exact latest?_isSome_of_mem bound
  | exportList =>
    rw [found] at inside
    cases inside
  | _ =>
    have kept : item.statement.isKept true = true := by rw [found]; rfl
    exact absurd kind (Statement.kind_of_isKept kept inside)

/-- A name that a linked module declares or imports means a declaration. -/
theorem LinkedModule.Links.exists_origin {before : List LinkedModule} {k : LinkedModule}
    (links : Links before k.module k) (analyzed : k.module.analysis = k.module.program.analyze)
    {name : Text} (declared : name ∈ k.module.program.names) :
    ∃ origin, k.origin? name = some origin := by
  obtain ⟨s, s_member, rfl⟩ := List.mem_map.mp declared
  unfold LinkedModule.origin? SourceModule.origin?
  rcases links.imports.latest s.name with ⟨unimported, none⟩ | ⟨_, origin, _, found, _⟩
  · have own : s.kind ≠ .imported := by
      intro imported
      obtain ⟨first, same⟩ := k.module.program.symbols_groups.first_name s_member
      have bound := SourceModule.import_of_definition first imported
      rw [same, unimported] at bound
      cases bound
    rw [Origins.get?, show k.imports.reverse.lookup s.name = Option.none from none, analyzed,
      symbol?_of_mem s_member]
    exact ⟨_, if_neg own⟩
  · rw [Origins.get?, show k.imports.reverse.lookup s.name = some origin from found]
    exact ⟨origin, rfl⟩

/-- What a name means is a symbol of its module. -/
theorem Traces.exists_symbol {modules : List SourceModule}
    (analyzed : ∀ m ∈ modules, m.analysis = m.program.analyze) {side : Side} {id : ModuleId}
    {name : Text} {origin : Origin} (traces : Traces modules side id name origin) :
    ∃ m ∈ modules, m.id = origin.id ∧ ∃ s ∈ m.analysis.symbols, s.name = origin.name := by
  induction traces with
  | @declared m s member _ symbol => exact ⟨m, member, rfl, s, symbol, rfl⟩
  | @exportedDeclaration m exported name member binding =>
    refine ⟨m, member, rfl, ?_⟩
    rw [analyzed m member]
    have listed : (exported, ExportTarget.declaration name) ∈ m.exportBindings :=
      List.mem_reverse.mp (mem_of_lookup binding)
    obtain ⟨item, item_member, inside⟩ := List.mem_flatMap.mp listed
    unfold ModuleItem.exportBindings at inside
    split at inside
    · next value found =>
      obtain ⟨o, o_member, same⟩ := List.mem_map.mp inside
      obtain rfl := ExportTarget.declaration.inj (Prod.mk.inj same).2
      have declares : ∃ d ∈ value.definitions, d.occurrence = o := by
        cases value with
        | function => exact ⟨_, List.mem_singleton_self _, (List.mem_singleton.mp o_member).symm⟩
        | «variables» =>
          obtain ⟨d, d_member, rfl⟩ := List.mem_map.mp o_member
          exact ⟨_, List.mem_map_of_mem d_member, rfl⟩
      obtain ⟨d, d_member, rfl⟩ := declares
      have defined : d ∈ m.program.definitions :=
        List.mem_flatMap.mpr ⟨_, List.mem_map_of_mem item_member, by rw [found]; exact d_member⟩
      obtain ⟨s, s_member, same⟩ :=
        List.mem_map.mp (m.program.symbols_groups.covers d defined)
      exact ⟨s, s_member, same⟩
    · obtain ⟨_, -, same⟩ := List.mem_map.mp inside
      cases (Prod.mk.inj same).2
    · obtain ⟨_, -, same⟩ := List.mem_map.mp inside
      cases (Prod.mk.inj same).2
    · cases inside
  | imported _ _ _ ih | exportedName _ _ _ ih | exportedOther _ _ _ ih => exact ih

/-! ## Sites of exports from other modules -/

theorem Statement.occurrencesList_eq_flatMap {ν : Type} (body : List (Statement ν)) :
    Statement.occurrencesList body = body.flatMap Statement.occurrences := by
  induction body with
  | nil => rfl
  | cons s ss ih => rw [Statement.occurrencesList, ih, List.flatMap_cons]

/-- At the sites of a statement that declares and uses nothing there is no declared name and no
use. -/
theorem Program.Numbered.apart_of_idle {program : Program Occurrence} (numbered : program.Numbered)
    {s : Statement Occurrence} (member : s ∈ program.body) (definitions : s.definitions = [])
    (uses : s.ownedUses = []) {o : Occurrence} (inside : o ∈ s.occurrences) {site : Site}
    (sited : o.site = some site) :
    (∀ d ∈ program.definitions, d.occurrence.site ≠ some site) ∧
      ∀ u ∈ program.ownedUses, u.use.occurrence.site ≠ some site := by
  obtain ⟨body⟩ := program
  obtain ⟨before, after, rfl⟩ := List.append_of_mem member
  -- The occurrence itself is the one at the site, so that none is left for the other statements.
  have here : 0 < s.occurrences.countP (fun o => o.site == some site) :=
    List.countP_pos_iff.mpr ⟨o, inside, by simpa using sited⟩
  have few := numbered.distinct site
  have front := (⟨before⟩ : Program Occurrence).count_le_occurrences (fun o => o.site == some site)
  have back := (⟨after⟩ : Program Occurrence).count_le_occurrences (fun o => o.site == some site)
  simp only [Program.occurrences, Statement.occurrencesList_eq_flatMap, List.flatMap_append,
    List.flatMap_cons, List.countP_append] at few front back
  constructor
  · intro d d_member d_site
    have defined : 0 < countDefined (fun o => o.site == some site)
        (Program.definitions ⟨before ++ s :: after⟩) :=
      List.countP_pos_iff.mpr ⟨d, d_member, by simpa using d_site⟩
    simp only [Program.definitions, List.flatMap_append, List.flatMap_cons, definitions,
      List.nil_append, countDefined, List.countP_append] at defined front back
    omega
  · intro u u_member u_site
    have used : 0 < countOwned (fun o => o.site == some site)
        (Program.ownedUses ⟨before ++ s :: after⟩) :=
      List.countP_pos_iff.mpr ⟨u, u_member, by simpa using u_site⟩
    simp only [Program.ownedUses, List.flatMap_append, List.flatMap_cons, uses,
      List.nil_append, countOwned, List.countP_append] at used front back
    omega

/-- An export from another module keeps its name. -/
theorem Renaming.Serves.reexport {fresh : Renaming} {program : Program Occurrence}
    {declared referred : Text → Option Text} (serves : fresh.Serves program declared referred)
    (numbered : program.Numbered) {specifiers : List (ExportSpecifier Occurrence)}
    {source : Literal}
    (member : .exportList specifiers (some source) ∈ program.body)
    {s : ExportSpecifier Occurrence} (inside : s ∈ specifiers) :
    (s.exported.rename fresh).name = s.exported.name := by
  have occurs : s.exported ∈ (Statement.exportList specifiers (some source)).occurrences :=
    List.mem_flatMap.mpr ⟨s, inside, by simp⟩
  have listed : s.exported ∈ program.occurrences := mem_occurrencesList.mpr ⟨_, member, occurs⟩
  obtain ⟨site, sited⟩ := Option.isSome_iff_exists.mp (numbered.sited _ listed)
  obtain ⟨undeclared, unused⟩ := numbered.apart_of_idle member rfl rfl occurs sited
  have absent : ∀ name, (site, name) ∉ fresh := by
    intro name present
    rcases serves.only site name present with ⟨d, d_member, d_site, -⟩ | ⟨u, u_member, -, u_site, -⟩
    · exact undeclared d d_member d_site
    · exact unused u u_member u_site
  rw [rename_name sited, newName?_eq_none absent]
  rfl

/-! ## The program of linked modules -/

theorem FinalNames.find_error {names : FinalNames} {origin : Origin} {e : BundleError}
    (failed : names.find origin = .error e) : e = .unnamed origin ∧ names.get? origin = none := by
  unfold FinalNames.find at failed
  split at failed
  · cases failed
  · next missing => exact ⟨(Except.error.inj failed).symm, missing⟩

section Flatten

variable {modules : List SourceModule} {linked : List LinkedModule} {entry : ModuleId}
  (done : Linked modules linked) (loaded : LoadedModules linked)

include done

/-- An export from another module that a linked module makes has an origin. -/
theorem Linked.exists_reexport {k : LinkedModule} (member : k ∈ linked) {name : Text}
    (exports : name ∈ k.module.reexports) : ∃ origin, k.exports.get? name = some origin := by
  obtain ⟨before, links⟩ := done.exists_links member
  obtain ⟨item, item_member, inside⟩ := List.mem_flatMap.mp exports
  have bound : ∃ target, (name, target) ∈ k.module.exportBindings := by
    split at inside
    · next specifiers source found =>
      obtain ⟨s, s_member, rfl⟩ := List.mem_map.mp inside
      refine ⟨.other item.target s.bound.name, List.mem_flatMap.mpr ⟨item, item_member, ?_⟩⟩
      rw [ModuleItem.exportBindings, found]
      exact List.mem_map_of_mem (f := fun s : ExportSpecifier Occurrence =>
        (s.exported.name, ExportTarget.other item.target s.bound.name)) s_member
    · cases inside
  obtain ⟨target, bound⟩ := bound
  have known := latest?_isSome_of_mem bound
  rcases links.exports.latest name with ⟨none, -⟩ | ⟨_, origin, -, found, -⟩
  · rw [none] at known
    cases known
  · exact ⟨origin, found⟩

include loaded

/-- What a name means has a name in the bundle, unless its module imports that name. -/
theorem Linked.orphaned_of_unnamed {side : Side} {id : ModuleId} {name : Text} {origin : Origin}
    (traces : Traces modules side id name origin)
    (missing : (FinalNames.assign linked entry).get? origin = none) : Orphaned modules origin := by
  have linked_of : ∀ m ∈ modules, ∃ k ∈ linked, k.module = m := fun m member =>
    List.mem_map.mp (done.map_module.symm ▸ member)
  have analyzed : ∀ m ∈ modules, m.analysis = m.program.analyze := fun m member => by
    obtain ⟨k, k_member, rfl⟩ := linked_of m member
    exact loaded.analyzed k k_member
  obtain ⟨m, member, same_id, s, symbol, same_name⟩ := traces.exists_symbol analyzed
  refine ⟨m, member, same_id, s, symbol, same_name, ?_⟩
  by_contra own
  obtain ⟨k, k_member, rfl⟩ := linked_of m member
  have declared : origin ∈ k.declarations := by
    refine List.mem_map.mpr ⟨s, List.mem_filter.mpr ⟨symbol, decide_eq_true own⟩, ?_⟩
    exact congrArg₂ Origin.mk same_id same_name
  obtain ⟨name, named⟩ := FinalNames.exists_assign loaded.distinct entry k_member declared
  rw [missing] at named
  cases named

/-- What has a name in the bundle is no orphan. -/
theorem Linked.not_orphaned_of_named {origin : Origin} {name : Text}
    (named : (FinalNames.assign linked entry).get? origin = some name) :
    ¬ Orphaned modules origin := by
  rintro ⟨m, member, same_id, s, symbol, same_name, imported⟩
  obtain ⟨k, k_member, rfl⟩ := List.mem_map.mp (done.map_module.symm ▸ member)
  obtain ⟨k', k'_member, declared⟩ := FinalNames.exists_declaration loaded.distinct entry named
  have same : k' = k := loaded.distinct.id_inj k'_member k_member
    ((FinalNames.declaration_id declared).symm.trans same_id.symm)
  subst same
  obtain ⟨t, t_member, rfl⟩ := List.mem_map.mp declared
  obtain ⟨t_member, own⟩ := List.mem_filter.mp t_member
  have same : s = t :=
    List.inj_on_of_nodup_map (loaded.distinct.symbols k' k_member) symbol t_member same_name
  exact of_decide_eq_true own (same ▸ imported)

/-- New names are missing only for references to orphans. -/
theorem Linked.renaming_error {k : LinkedModule} (member : k ∈ linked) {e : BundleError}
    (failed : k.renaming (.assign linked entry) = .error e) :
    ∃ origin, e = .unnamed origin ∧ Demanded modules entry origin ∧ Orphaned modules origin := by
  have k_module : k.module ∈ modules := done.map_module ▸ List.mem_map_of_mem member
  rcases bind_eq_error.mp failed with failed | ⟨_, -, failed⟩
  · -- The module's own declarations have names.
    obtain ⟨s, s_member, failed⟩ := mapM_eq_error failed
    unfold LinkedModule.symbolRenaming at failed
    split at failed
    · cases failed
    next own =>
    rcases bind_eq_error.mp failed with failed | ⟨_, -, impossible⟩
    · have declared : (⟨k.id, s.name⟩ : Origin) ∈ k.declarations :=
        List.mem_map.mpr ⟨s, List.mem_filter.mpr ⟨s_member, decide_eq_true own⟩, rfl⟩
      obtain ⟨name, named⟩ := FinalNames.exists_assign loaded.distinct entry member declared
      rw [(FinalNames.find_error failed).2] at named
      cases named
    · cases impossible
  rcases bind_eq_error.mp failed with failed | ⟨_, -, impossible⟩
  · obtain ⟨r, r_member, failed⟩ := mapM_eq_error failed
    rcases bind_eq_error.mp failed with failed | ⟨_, -, impossible⟩
    · have declared : r.symbol ∈ k.module.program.names := by
        rw [loaded.analyzed k member] at r_member
        obtain ⟨u, -, refers, rfl⟩ := Program.mem_references.mp r_member
        exact refers.2
      obtain ⟨before, links⟩ := done.exists_links member
      obtain ⟨origin, means⟩ := links.exists_origin (loaded.analyzed k member) declared
      have traces := (done.traces (List.Subset.refl modules) k member).2 _ _ means
      rw [LinkedModule.finalName, means] at failed
      obtain ⟨rfl, missing⟩ := FinalNames.find_error failed
      exact ⟨origin, rfl, .reference k_module r_member traces,
        done.orphaned_of_unnamed loaded traces missing⟩
    · cases impossible
  · cases impossible

/-- What is left of a statement is missing only for exports of orphans. -/
theorem Linked.emit_error {k : LinkedModule} (member : k ∈ linked) {fresh : Renaming}
    (renamed : k.renaming (.assign linked entry) = .ok fresh) {item : ModuleItem}
    (item_member : item ∈ k.module.items) {e : BundleError}
    (failed : k.emit (.assign linked entry) (k.id = entry) (item.statement.map (·.rename fresh)) =
      .error e) :
    ∃ origin, e = .unnamed origin ∧ Demanded modules entry origin ∧ Orphaned modules origin := by
  have k_module : k.module ∈ modules := done.map_module ▸ List.mem_map_of_mem member
  have listed : item.statement ∈ k.module.program.body := List.mem_map_of_mem item_member
  match found : item.statement with
  | .exportList specifiers (some source) =>
    rw [found] at failed listed
    simp only [Statement.map, LinkedModule.emit] at failed
    split at failed
    · next isEntry =>
      rcases bind_eq_error.mp failed with failed | ⟨_, -, impossible⟩
      · obtain ⟨_, mapped, failed⟩ := mapM_eq_error failed
        obtain ⟨s, s_member, rfl⟩ := List.mem_map.mp mapped
        have serves := LinkedModule.renaming_serves (loaded.analyzed k member) renamed
        have kept := serves.reexport (loaded.numbered k member) listed s_member
        have exports : s.exported.name ∈ k.module.reexports := by
          refine List.mem_flatMap.mpr ⟨item, item_member, ?_⟩
          rw [found]
          exact List.mem_map_of_mem (f := fun s : ExportSpecifier Occurrence => s.exported.name)
            s_member
        obtain ⟨origin, means⟩ := done.exists_reexport member exports
        have traces := (done.traces (List.Subset.refl modules) k member).1 _ _ means
        rw [LinkedModule.localExport, kept, means] at failed
        rcases bind_eq_error.mp failed with failed | ⟨_, -, impossible⟩
        · obtain ⟨rfl, missing⟩ := FinalNames.find_error failed
          exact ⟨origin, rfl, .reexport k_module (of_decide_eq_true isEntry) exports traces,
            done.orphaned_of_unnamed loaded traces missing⟩
        · cases impossible
      · cases impossible
    · cases failed
  | .exportList _ none | .importList _ _ | .declaration _ | .exportDeclaration _ | .expression _
  | .block _ | .return _ | .if _ _ none | .if _ _ (some _) | .for none _ _ _ | .for (some _) _ _ _
  | .forIn _ _ _ | .forOf _ _ _ | .while _ _ | .doWhile _ _ | .break | .continue | .throw _
  | .try _ _ _ | .switch _ _ | .empty =>
    rw [found] at failed
    cases failed

/-- Linked modules have a program, unless it needs an orphan. -/
theorem Linked.flatten_error {e : BundleError} (failed : flatten linked entry = .error e) :
    ∃ origin, e = .unnamed origin ∧ Demanded modules entry origin ∧ Orphaned modules origin := by
  rcases bind_eq_error.mp failed with failed | ⟨_, -, impossible⟩
  · obtain ⟨k, member, failed⟩ := mapM_eq_error failed
    rcases bind_eq_error.mp failed with failed | ⟨fresh, renamed, failed⟩
    · exact done.renaming_error loaded member failed
    rcases bind_eq_error.mp failed with failed | ⟨_, -, impossible⟩
    · obtain ⟨_, mapped, failed⟩ := mapM_eq_error failed
      obtain ⟨item, item_member, rfl⟩ := List.mem_map.mp mapped
      exact done.emit_error loaded member renamed item_member failed
    · cases impossible
  · cases impossible

/-- The program of linked modules needs no orphan. -/
theorem Linked.not_orphaned_of_flatten {program : Program Occurrence}
    (success : flatten linked entry = .ok program) {origin : Origin}
    (demanded : Demanded modules entry origin) : ¬ Orphaned modules origin := by
  have ids : (modules.map SourceModule.id).Nodup := done.map_id ▸ loaded.distinct.ids
  have all_traces := done.traces (List.Subset.refl modules)
  cases demanded with
  | reference member refers traces =>
    obtain ⟨k, k_member, rfl⟩ := List.mem_map.mp (done.map_module.symm ▸ member)
    obtain ⟨fresh, renamed, -⟩ := flatten_statements success k_member
    obtain ⟨origin', name, means, named⟩ := LinkedModule.exists_referredName renamed refers
    obtain rfl := traces.unique ids ((all_traces k k_member).2 _ _ means)
    exact done.not_orphaned_of_named loaded named
  | reexport member isEntry exports traces =>
    obtain ⟨k, k_member, rfl⟩ := List.mem_map.mp (done.map_module.symm ▸ member)
    obtain ⟨fresh, renamed, emitted⟩ := flatten_statements success k_member
    obtain ⟨item, item_member, inside⟩ := List.mem_flatMap.mp exports
    split at inside
    · next specifiers source found =>
      obtain ⟨s, s_member, rfl⟩ := List.mem_map.mp inside
      obtain ⟨out, emits, -⟩ := emitted item item_member
      have listed : item.statement ∈ k.module.program.body := List.mem_map_of_mem item_member
      rw [found] at emits listed
      have serves := LinkedModule.renaming_serves (loaded.analyzed k k_member) renamed
      have kept := serves.reexport (loaded.numbered k k_member) listed s_member
      obtain ⟨origin', means⟩ := done.exists_reexport k_member exports
      obtain rfl := traces.unique ids ((all_traces k k_member).1 _ _ means)
      have isEntry : decide (k.id = entry) = true := decide_eq_true isEntry
      rw [Statement.map, LinkedModule.emit, if_pos isEntry] at emits
      obtain ⟨results, mapped, -⟩ := bind_eq_ok.mp emits
      obtain ⟨_, -, done_one⟩ := mapM_ok_exists mapped (List.mem_map_of_mem s_member)
      rw [LinkedModule.localExport, kept, means] at done_one
      obtain ⟨name, named, -⟩ := bind_eq_ok.mp done_one
      exact done.not_orphaned_of_named loaded (LinkedModule.find_eq_ok.mp named)
    · cases inside

end Flatten

/-! ## The text of the program -/

theorem Statement.prints_exportList (specifiers : List (ExportSpecifier Text)) :
    (Statement.exportList specifiers none).Prints :=
  fun _ noIn => Printer.ok_past (past_zero noIn).symm

/-- What is left of a statement of the grammar can be printed, whatever its new names are. -/
theorem LinkedModule.emit_prints {m : LinkedModule} {names : FinalNames} {isEntry : Bool}
    {s : Statement Occurrence} (item : s.erase.IsItem) {f : Occurrence → Occurrence}
    {out : List (Statement Occurrence)} (success : m.emit names isEntry (s.map f) = .ok out) :
    ∀ t ∈ out, t.erase.Prints := by
  intro t t_member
  match s with
  | .importList _ _ =>
    obtain rfl := Except.ok.inj success
    cases t_member
  | .exportDeclaration value =>
    obtain rfl := Except.ok.inj success
    obtain rfl := List.mem_singleton.mp t_member
    have prints : ((value.map f).map Occurrence.name).Prints := by
      rw [value.map_map_congr (f := f) (h := Occurrence.name ∘ f) fun _ _ => rfl]
      cases item with
      | statement grammatical => cases grammatical
      | exportDeclaration grammatical => exact value.prints_map _ _ grammatical
    cases isEntry with
    | true => exact .exportDeclaration prints
    | false => exact .declaration prints
  | .exportList specifiers none =>
    obtain rfl := Except.ok.inj success
    cases isEntry with
    | true =>
      obtain rfl := List.mem_singleton.mp t_member
      exact Statement.prints_exportList _
    | false => cases t_member
  | .exportList specifiers (some _) =>
    cases isEntry with
    | true =>
      obtain ⟨results, -, same⟩ := bind_eq_ok.mp success
      obtain rfl := pure_eq_ok.mp same
      obtain rfl := List.mem_singleton.mp t_member
      exact Statement.prints_exportList _
    | false =>
      obtain rfl := Except.ok.inj success
      cases t_member
  | .declaration _ | .expression _ | .block _ | .return _ | .if _ _ none | .if _ _ (some _)
  | .for none _ _ _ | .for (some _) _ _ _ | .forIn _ _ _ | .forOf _ _ _ | .while _ _
  | .doWhile _ _ | .break | .continue | .throw _ | .try _ _ _ | .switch _ _ | .empty =>
    obtain rfl := Except.ok.inj success
    obtain rfl := List.mem_singleton.mp t_member
    cases item with
    | statement grammatical =>
      rw [Statement.erase, Statement.map_map]
      exact Statement.prints_map Occurrence.name _ _ grammatical

/-- The program of modules of the grammar has a text. -/
theorem flatten_prints {linked : List LinkedModule} {entry : ModuleId}
    {program : Program Occurrence}
    (items : ∀ k ∈ linked, ∀ item ∈ k.module.items, item.statement.erase.IsItem)
    (success : flatten linked entry = .ok program) : ∃ text, program.erase.print = .ok text := by
  have prints : ∀ s ∈ program.erase.body, s.Prints := by
    rw [Program.erase, Program.body_map]
    intro s member
    obtain ⟨t, t_member, rfl⟩ := List.mem_map.mp member
    obtain ⟨k, k_member, fresh, -, item, item_member, out, t_member, emits⟩ :=
      flatten_source success t_member
    exact LinkedModule.emit_prints (items k k_member item item_member) emits t t_member
  refine ⟨_, bind_eq_ok.mpr ⟨_, Statement.layoutList_eq prints 0 false, rfl⟩⟩

/-! ## Bundles -/

/-- The modules of an entry are loaded and linked. -/
def Environment.Gathers (env : Environment) (entry : Text) (modules : List SourceModule) : Prop :=
  (∃ s, Succeeds (env.loadEntry entry) .initial (env.root entry) s ∧ s.modules = modules) ∧
    ∃ linked, linkAll modules = .ok linked

section Bundle

variable {env : Environment} {entry : Text}

theorem Environment.bundle_of_succeeds {id : ModuleId} {s : LoadState}
    (success : Succeeds (env.loadEntry entry) .initial id s) :
    (env.bundle entry).1 = Bundle.make id s.modules := by
  rw [Environment.bundle, show (env.loadEntry entry).run.run .initial = (.ok id, s) from success]

theorem Environment.bundle_of_fails {e : BundleError} {s : LoadState}
    (failed : Loader.Fails (env.loadEntry entry) .initial e s) :
    (env.bundle entry).1 = .error e := by
  rw [Environment.bundle, show (env.loadEntry entry).run.run .initial = (.error e, s) from failed]

/-- Loaded modules are made into a bundle, unless linking fails or an orphan is needed. -/
theorem Bundle.make_error (unreadable : env.Unreadable) {id : ModuleId} {s : LoadState}
    (success : Succeeds (env.loadEntry entry) .initial id s) {e : BundleError}
    (failed : Bundle.make id s.modules = .error e) :
    e.isReported = true ∨ (∃ linked, linkAll s.modules = .ok linked) ∧
      ∃ origin, e = .unnamed origin ∧ Demanded s.modules id origin ∧ Orphaned s.modules origin := by
  obtain ⟨rfl, holds, -⟩ := Environment.loadEntry_succeeds success unreadable
  obtain ⟨batch, ids, -⟩ := Environment.loadEntry_loaded success
  have settled := Environment.loadEntry_settled success
  rcases bind_eq_error.mp failed with failed | ⟨linked, links, failed⟩
  · exact .inl (linkAll_error settled holds.ordered failed)
  have done := linkAll_linked links
  have loaded := done.loaded batch ids
  rcases bind_eq_error.mp failed with failed | ⟨program, flattens, failed⟩
  · exact .inr ⟨⟨linked, links⟩, done.flatten_error loaded failed⟩
  -- The program of the modules can always be printed.
  have items : ∀ k ∈ linked, ∀ item ∈ k.module.items, item.statement.erase.IsItem := by
    intro k member item inside
    exact (settled _ (done.map_module ▸ List.mem_map_of_mem member)).isItem inside
  obtain ⟨text, prints⟩ := flatten_prints items flattens
  rcases bind_eq_error.mp failed with failed | ⟨_, -, impossible⟩
  · rw [prints] at failed
    cases failed
  · cases impossible

end Bundle

/-- Modules from tables that all parse are made into a bundle, or there is a reported error, unless
a path cannot be asked for or an orphan is needed. Where an orphan is needed there is no bundle. -/
theorem bundle_fails_only {env : Environment} (unreadable : env.Unreadable) (entry : Text)
    (parses : ∀ id, ReflTransGen env.Imports (env.root entry) id →
      ∀ text, env.text? id = some text → ∃ program, parse text = .ok program) :
    (∀ e, (env.bundle entry).1 = .error e →
      e.isReported = true ∨
      (∃ id cause, e = .unreadable id cause ∧
        env.disk.readText (Path.tidy id) = .error cause ∧ ∀ fault, cause ≠ .file fault) ∨
      ∃ origin modules, e = .unnamed origin ∧ env.Gathers entry modules ∧
        Demanded modules (env.root entry) origin ∧ Orphaned modules origin) ∧
    ∀ modules origin, env.Gathers entry modules → Demanded modules (env.root entry) origin →
      Orphaned modules origin → ∃ other, (env.bundle entry).1 = .error (.unnamed other) := by
  refine ⟨fun e failed => ?_, fun modules origin gathers demanded orphaned => ?_⟩
  · rcases Loader.succeeds_or_fails (env.loadEntry entry) .initial with
      ⟨id, s, success⟩ | ⟨e', s, stopped⟩
    · rw [Environment.bundle_of_succeeds success] at failed
      obtain ⟨rfl, -⟩ := Environment.loadEntry_succeeds success unreadable
      rcases Bundle.make_error unreadable success failed with
        reported | ⟨linked, origin, same, demanded, orphaned⟩
      · exact .inl reported
      · exact .inr (.inr ⟨origin, s.modules, same, ⟨⟨s, success, rfl⟩, linked⟩, demanded, orphaned⟩)
    · rw [Environment.bundle_of_fails stopped] at failed
      obtain rfl := Except.error.inj failed
      obtain ⟨m, reaches, refuses⟩ := Environment.loadEntry_refuses unreadable stopped
      cases refuses with
      | @unreadable cause read =>
        cases cause with
        | file => exact .inl rfl
        | undecodable | nulInPath | surrogateInPath => exact .inr (.inl ⟨m, _, rfl, read, nofun⟩)
      | invalid found fails =>
        obtain ⟨program, parsed⟩ := parses m reaches _ found
        rw [parsed] at fails
        cases fails
      | bareSpecifier | circular => exact .inl rfl
  · obtain ⟨⟨s, success, rfl⟩, linked, links⟩ := gathers
    obtain ⟨batch, ids, -⟩ := Environment.loadEntry_loaded success
    have done := linkAll_linked links
    have loaded := done.loaded batch ids
    cases flattens : flatten linked (env.root entry) with
    | ok program => exact (done.not_orphaned_of_flatten loaded flattens demanded orphaned).elim
    | error e =>
      obtain ⟨other, rfl, -⟩ := done.flatten_error loaded flattens
      refine ⟨other, ?_⟩
      rw [Environment.bundle_of_succeeds success]
      exact bind_eq_error.mpr (.inr ⟨linked, links, bind_eq_error.mpr (.inl flattens)⟩)

/-- A module exports a declaration of a name that it imports before. -/
def orphanedModules : Environment :=
  ⟨.empty [], [⟨"memory", some [⟨"a", .all, "a"⟩, ⟨"b", .all, "b"⟩, ⟨"c", .all, "c"⟩],
    some [("a", "import { x } from 'b'; x();"),
      ("b", "import { x } from 'c'; export var x = 1;"),
      ("c", "export var x = 2;")]⟩]⟩

theorem orphanedModules_bundle :
    (orphanedModules.bundle "a").1 = .error (.unnamed ⟨"b", "x"⟩) := by
  have failed : ((orphanedModules.bundle "a").1.map fun _ => ()) =
      .error (.unnamed ⟨"b", "x"⟩) := by
    decide +kernel
  cases found : (orphanedModules.bundle "a").1 with
  | ok bundle =>
    rw [found] at failed
    cases failed
  | error e =>
    rw [found] at failed
    rw [Except.error.inj failed]

theorem Environment.mem_rows_of_text? {env : Environment} (unreadable : env.Unreadable)
    {id : ModuleId} {text : Text} (found : env.text? id = some text) :
    ∃ plugin ∈ env.plugins, ∃ rows, plugin.load = some rows ∧ (id, text) ∈ rows := by
  obtain ⟨cause, failed⟩ := unreadable (Path.tidy id)
  rw [text?, failed, Except.toOption, Option.or_none] at found
  obtain ⟨plugin, member, row⟩ := List.exists_of_findSome?_eq_some found
  obtain ⟨rows, loads, row⟩ := Option.bind_eq_some_iff.mp row
  exact ⟨plugin, member, rows, loads, mem_of_lookup row⟩

theorem orphanedModules_parse {id : ModuleId} {text : Text}
    (found : orphanedModules.text? id = some text) : ∃ program, parse text = .ok program := by
  have unreadable : orphanedModules.Unreadable := Disk.readText_empty []
  obtain ⟨plugin, member, rows, loads, row⟩ := Environment.mem_rows_of_text? unreadable found
  have all : ∀ plugin ∈ orphanedModules.plugins, ∀ row ∈ plugin.load.getD [],
      (parse row.2).toOption.isSome := by
    decide +kernel
  have parsed := all plugin member (id, text) (loads ▸ row)
  cases success : parse text with
  | ok program => exact ⟨program, rfl⟩
  | error e =>
    simp only at parsed
    rw [success] at parsed
    cases parsed

theorem orphanedModules_demand_orphan :
    orphanedModules.Unreadable ∧
      (∀ id text, orphanedModules.text? id = some text → ∃ program, parse text = .ok program) ∧
      ∃ modules, orphanedModules.Gathers "a" modules ∧
        Demanded modules (orphanedModules.root "a") ⟨"b", "x"⟩ ∧ Orphaned modules ⟨"b", "x"⟩ := by
  have unreadable : orphanedModules.Unreadable := Disk.readText_empty []
  refine ⟨unreadable, fun _ _ found => orphanedModules_parse found, ?_⟩
  rcases (bundle_fails_only unreadable "a" fun _ _ _ found => orphanedModules_parse found).1 _
    orphanedModules_bundle with reported | ⟨_, _, other, -⟩ | ⟨origin, modules, same, needs⟩
  · cases reported
  · cases other
  · obtain rfl := BundleError.unnamed.inj same
    exact ⟨modules, needs⟩

/-- The lookup of the final name of a declaration fails, and the error is none that is reported. -/
theorem orphanedModules_unreported :
    (orphanedModules.bundle "a").1 = .error (.unnamed ⟨"b", "x"⟩) ∧
      (BundleError.unnamed ⟨"b", "x"⟩).isReported = false :=
  ⟨orphanedModules_bundle, rfl⟩

end LibraryDescriptor
