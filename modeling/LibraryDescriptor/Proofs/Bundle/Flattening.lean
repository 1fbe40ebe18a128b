import LibraryDescriptor.Bundle.Flatten
import LibraryDescriptor.Proofs.Bundle.FinalName
import LibraryDescriptor.Proofs.Bundle.Loading
import LibraryDescriptor.Proofs.Bundle.Tracing
import LibraryDescriptor.Proofs.Syntax.Words
import Mathlib.Data.List.Pairwise

/-!
# References in a bundle

In the program of a bundle, each reference of a module has the name of the declaration it means, and
means that declaration.

* `LinkedModule.renaming_serves` — the new names in a module.
* `LinkedModule.emit_keeps` — what a bundle keeps of a module.
* `Linked.own_of_last` — only the entry refers to declarations of the entry.
* `Bundle.Carries`, `Bundle.Faithful` — references and declarations of all modules in the program of
  a bundle.
* `bundle_faithful` — every bundle is faithful to its modules.
-/

namespace LibraryDescriptor

/-! ## New names in a module -/

namespace LinkedModule

def declaredName? (m : LinkedModule) (names : FinalNames) (name : Text) : Option Text :=
  (m.module.analysis.symbol? name).bind fun s =>
    if s.kind = .imported then none else names.get? ⟨m.id, name⟩

def referredName? (m : LinkedModule) (names : FinalNames) (name : Text) : Option Text :=
  (m.origin? name).bind names.get?

theorem find_eq_ok {names : FinalNames} {origin : Origin} {name : Text} :
    names.find origin = .ok name ↔ names.get? origin = some name := by
  unfold FinalNames.find
  cases names.get? origin <;> simp

theorem finalName_eq_ok {m : LinkedModule} {names : FinalNames} {name final : Text} :
    m.finalName names name = .ok final ↔ m.referredName? names name = some final := by
  unfold finalName referredName?
  cases m.origin? name with
  | none => simp
  | some origin => exact find_eq_ok

/-- A symbol of an analyzed module by its name. -/
theorem symbol?_of_mem {program : Program Occurrence} {s : ModuleSymbol}
    (member : s ∈ program.symbols) : program.analyze.symbol? s.name = some s :=
  (find?_eq_some_of_nodup program.symbols_groups.nodup).mpr ⟨member, rfl⟩

variable {m : LinkedModule} {names : FinalNames}

theorem declaredName?_of_mem (analyzed : m.module.analysis = m.module.program.analyze)
    {s : ModuleSymbol} (member : s ∈ m.module.program.symbols) :
    m.declaredName? names s.name =
      if s.kind = .imported then none else names.get? ⟨m.id, s.name⟩ := by
  rw [declaredName?, analyzed, symbol?_of_mem member, Option.bind_some]

theorem mem_symbolRenaming (analyzed : m.module.analysis = m.module.program.analyze)
    {s : ModuleSymbol} (member : s ∈ m.module.program.symbols) {fresh : Renaming}
    (success : m.symbolRenaming names s = .ok fresh) {site : Site} {name : Text} :
    (site, name) ∈ fresh ↔
      ∃ d ∈ s.definitions, d.occurrence.site = some site ∧
        m.declaredName? names s.name = some name := by
  rw [declaredName?_of_mem analyzed member]
  unfold symbolRenaming at success
  split at success
  · next imported =>
    obtain rfl := Except.ok.inj success
    simp [imported]
  · next own =>
    obtain ⟨final, found, same⟩ := bind_eq_ok.mp success
    obtain rfl := pure_eq_ok.mp same
    rw [if_neg own, find_eq_ok.mp found]
    simp [List.mem_filterMap]

theorem mem_referenceRenaming {r : Reference} {fresh : Renaming}
    (success : m.referenceRenaming names r = .ok fresh) {site : Site} {name : Text} :
    (site, name) ∈ fresh ↔
      r.occurrence.site = some site ∧ m.referredName? names r.symbol = some name := by
  obtain ⟨final, found, same⟩ := bind_eq_ok.mp success
  obtain rfl := pure_eq_ok.mp same
  rw [finalName_eq_ok.mp found]
  simp [Option.mem_toList]

theorem renaming_serves (analyzed : m.module.analysis = m.module.program.analyze)
    {fresh : Renaming} (success : m.renaming names = .ok fresh) :
    fresh.Serves m.module.program (m.declaredName? names) (m.referredName? names) := by
  obtain ⟨definitions, defined, success⟩ := bind_eq_ok.mp success
  obtain ⟨references, referred, success⟩ := bind_eq_ok.mp success
  obtain rfl := pure_eq_ok.mp success
  have groups := m.module.program.symbols_groups
  rw [analyzed] at defined referred
  refine ⟨fun site name present => ?_, fun d member site sited name named => ?_,
    fun u member refers site sited name named => ?_⟩
  · rcases List.mem_append.mp present with declares | refers
    · obtain ⟨part, part_member, declares⟩ := List.mem_flatten.mp declares
      obtain ⟨s, s_member, done⟩ := mapM_ok_exists_source defined part_member
      obtain ⟨d, d_member, sited, named⟩ := (mem_symbolRenaming analyzed s_member done).mp declares
      obtain ⟨d_member, same⟩ := (groups.mem_definitions s_member).mp d_member
      exact .inl ⟨d, d_member, sited, same ▸ named⟩
    · obtain ⟨part, part_member, refers⟩ := List.mem_flatten.mp refers
      obtain ⟨r, r_member, done⟩ := mapM_ok_exists_source referred part_member
      obtain ⟨sited, named⟩ := (mem_referenceRenaming done).mp refers
      obtain ⟨u, u_member, refers, rfl⟩ := Program.mem_references.mp r_member
      exact .inr ⟨u, u_member, refers, sited, named⟩
  · obtain ⟨s, s_member, same, d_member⟩ := groups.exists_symbol member
    obtain ⟨part, part_member, done⟩ := mapM_ok_exists defined s_member
    refine List.mem_append_left _ (List.mem_flatten.mpr ⟨part, part_member, ?_⟩)
    exact (mem_symbolRenaming analyzed s_member done).mpr ⟨d, d_member, sited, same ▸ named⟩
  · obtain ⟨part, part_member, done⟩ :=
      mapM_ok_exists referred (Program.mem_references.mpr ⟨u, member, refers, rfl⟩)
    refine List.mem_append_right _ (List.mem_flatten.mpr ⟨part, part_member, ?_⟩)
    exact (mem_referenceRenaming done).mpr ⟨sited, named⟩

/-- Every reference of a module whose occurrences were renamed has a name in the bundle. -/
theorem exists_referredName {fresh : Renaming} (success : m.renaming names = .ok fresh)
    {r : Reference} (member : r ∈ m.module.analysis.references) :
    ∃ origin name, m.origin? r.symbol = some origin ∧ names.get? origin = some name := by
  obtain ⟨_, -, success⟩ := bind_eq_ok.mp success
  obtain ⟨_, referred, -⟩ := bind_eq_ok.mp success
  obtain ⟨_, -, done⟩ := mapM_ok_exists referred member
  obtain ⟨name, found, -⟩ := bind_eq_ok.mp done
  obtain ⟨origin, traced, named⟩ := Option.bind_eq_some_iff.mp (finalName_eq_ok.mp found)
  exact ⟨origin, name, traced, named⟩

end LinkedModule

/-! ## What is left of a module -/

/-- A bundle keeps all statements but imports and exports from other modules, and the export lists
of the entry only. -/
def Statement.isKept {ν : Type} (isEntry : Bool) : Statement ν → Bool
  | .importList _ _ | .exportList _ (some _) => false
  | .exportList _ none => isEntry
  | _ => true

theorem Statement.isKept_map {ν μ : Type} {isEntry : Bool} (f : ν → μ) (s : Statement ν) :
    (s.map f).isKept isEntry = s.isKept isEntry := by
  cases s with
  | exportList _ source => cases source <;> rfl
  | «if» _ _ alternate => cases alternate <;> rfl
  | «for» init => cases init <;> rfl
  | _ => rfl

theorem LinkedModule.emit_keeps {m : LinkedModule} {names : FinalNames} {isEntry : Bool}
    {s : Statement Occurrence} {out : List (Statement Occurrence)} (kept : s.isKept isEntry = true)
    (success : m.emit names isEntry s = .ok out) :
    ∃ t, out = [t] ∧ t.definitions = s.definitions ∧ t.ownedUses = s.ownedUses ∧
      t.occurrences = s.occurrences := by
  cases s with
  | exportDeclaration value =>
    obtain rfl := Except.ok.inj success
    cases isEntry <;> exact ⟨_, rfl, rfl, rfl, rfl⟩
  | exportList specifiers source =>
    cases source with
    | none =>
      obtain rfl : isEntry = true := kept
      obtain rfl := Except.ok.inj success
      exact ⟨_, rfl, rfl, rfl, rfl⟩
    | some => cases kept
  | importList => cases kept
  | _ =>
    obtain rfl := Except.ok.inj success
    exact ⟨_, rfl, rfl, rfl, rfl⟩

theorem LinkedModule.localExport_occurrences {m : LinkedModule} {names : FinalNames}
    {specifiers results : List (ExportSpecifier Occurrence)}
    (success : specifiers.mapM (m.localExport names) = .ok results) :
    ∀ o ∈ results.flatMap (fun s => [s.bound, s.exported]),
      o.site = none ∨ o ∈ specifiers.flatMap (fun s => [s.bound, s.exported]) := by
  intro o member
  obtain ⟨result, result_member, listed⟩ := List.mem_flatMap.mp member
  obtain ⟨s, s_member, done⟩ := mapM_ok_exists_source success result_member
  unfold LinkedModule.localExport at done
  split at done
  · obtain ⟨name, -, same⟩ := bind_eq_ok.mp done
    obtain rfl := pure_eq_ok.mp same
    rcases List.mem_cons.mp listed with rfl | listed
    · exact .inl rfl
    · obtain rfl := List.mem_singleton.mp listed
      exact .inr (List.mem_flatMap.mpr ⟨s, s_member, by simp⟩)
  · cases done

/-- A bundle has no occurrences but those of its modules and such as have no site. -/
theorem LinkedModule.emit_occurrences {m : LinkedModule} {names : FinalNames} {isEntry : Bool}
    {s : Statement Occurrence} {out : List (Statement Occurrence)}
    (success : m.emit names isEntry s = .ok out) :
    ∀ o ∈ Statement.occurrencesList out, o.site = none ∨ o ∈ s.occurrences := by
  intro o member
  cases kept : s.isKept isEntry with
  | true =>
    obtain ⟨t, rfl, -, -, same⟩ := emit_keeps kept success
    rw [Statement.occurrencesList, Statement.occurrencesList, List.append_nil, same] at member
    exact .inr member
  | false =>
    cases s with
    | importList =>
      obtain rfl := Except.ok.inj success
      cases member
    | exportList specifiers source =>
      cases source with
      | none =>
        obtain rfl : isEntry = false := kept
        obtain rfl := Except.ok.inj success
        cases member
      | some =>
        cases isEntry with
        | false =>
          obtain rfl := Except.ok.inj success
          cases member
        | true =>
          obtain ⟨results, mapped, same⟩ := bind_eq_ok.mp success
          obtain rfl := pure_eq_ok.mp same
          refine localExport_occurrences mapped o ?_
          simpa [Statement.occurrencesList, Statement.occurrences] using member
    | _ => cases kept

section Flatten

variable {modules : List LinkedModule} {entry : ModuleId} {program : Program Occurrence}
  (success : flatten modules entry = .ok program)

include success

/-- Every statement of a module is renamed, and what is left of it is in the program. -/
theorem flatten_statements {m : LinkedModule} (member : m ∈ modules) :
    ∃ fresh, m.renaming (.assign modules entry) = .ok fresh ∧
      ∀ item ∈ m.module.items, ∃ out,
        m.emit (.assign modules entry) (m.id = entry) (item.statement.map (·.rename fresh)) =
          .ok out ∧ out ⊆ program.body := by
  obtain ⟨parts, mapped, same⟩ := bind_eq_ok.mp success
  obtain rfl := pure_eq_ok.mp same
  obtain ⟨part, part_member, done⟩ := mapM_ok_exists mapped member
  obtain ⟨fresh, renamed, rest⟩ := bind_eq_ok.mp done
  obtain ⟨outs, emitted, same⟩ := bind_eq_ok.mp rest
  obtain rfl := pure_eq_ok.mp same
  refine ⟨fresh, renamed, fun item item_member => ?_⟩
  obtain ⟨out, out_member, emits⟩ := mapM_ok_exists emitted (List.mem_map_of_mem item_member)
  exact ⟨out, emits, fun t t_member => List.mem_flatten.mpr
    ⟨_, part_member, List.mem_flatten.mpr ⟨out, out_member, t_member⟩⟩⟩

/-- Every statement of the program is left of a renamed statement of a module. -/
theorem flatten_source {t : Statement Occurrence} (t_member : t ∈ program.body) :
    ∃ m ∈ modules, ∃ fresh, m.renaming (.assign modules entry) = .ok fresh ∧
      ∃ item ∈ m.module.items, ∃ out, t ∈ out ∧
        m.emit (.assign modules entry) (m.id = entry) (item.statement.map (·.rename fresh)) =
          .ok out := by
  obtain ⟨parts, mapped, same⟩ := bind_eq_ok.mp success
  obtain rfl := pure_eq_ok.mp same
  obtain ⟨part, part_member, t_member⟩ := List.mem_flatten.mp t_member
  obtain ⟨m, m_member, done⟩ := mapM_ok_exists_source mapped part_member
  obtain ⟨fresh, renamed, rest⟩ := bind_eq_ok.mp done
  obtain ⟨outs, emitted, same⟩ := bind_eq_ok.mp rest
  obtain rfl := pure_eq_ok.mp same
  obtain ⟨out, out_member, t_member⟩ := List.mem_flatten.mp t_member
  obtain ⟨s, s_member, emits⟩ := mapM_ok_exists_source emitted out_member
  obtain ⟨item, item_member, rfl⟩ := List.mem_map.mp s_member
  exact ⟨m, m_member, fresh, renamed, item, item_member, out, t_member, emits⟩

/-- An occurrence with a site is a renamed occurrence of a module. -/
theorem flatten_occurrence {o : Occurrence} (member : o ∈ program.occurrences)
    (sited : o.site ≠ none) :
    ∃ m ∈ modules, ∃ fresh, m.renaming (.assign modules entry) = .ok fresh ∧
      ∃ p ∈ m.module.program.occurrences, o = p.rename fresh := by
  obtain ⟨t, t_member, inside⟩ := mem_occurrencesList.mp member
  obtain ⟨m, m_member, fresh, renamed, item, item_member, out, t_member, emits⟩ :=
    flatten_source success t_member
  have source := (LinkedModule.emit_occurrences emits o
    (mem_occurrencesList.mpr ⟨t, t_member, inside⟩)).resolve_left sited
  rw [Statement.occurrences_map] at source
  obtain ⟨p, p_member, same⟩ := List.mem_map.mp source
  exact ⟨m, m_member, fresh, renamed, p,
    mem_occurrencesList.mpr ⟨item.statement, List.mem_map_of_mem item_member, p_member⟩, same.symm⟩

end Flatten

/-! ## The entry -/

/-- A module that is linked last is the only one that refers to its declarations, and does so under
their own names. -/
theorem Linked.own_of_last {modules : List SourceModule} {linked : List LinkedModule}
    {last : SourceModule} (done : Linked (modules ++ [last]) linked)
    (ids : ((modules ++ [last]).map SourceModule.id).Nodup) {k : LinkedModule} (member : k ∈ linked)
    {name : Text} {origin : Origin} (found : k.origin? name = some origin)
    (own : origin.id = last.id) : k.id = last.id ∧ origin.name = name := by
  generalize whole : modules ++ [last] = all at done
  cases done with
  | nil => simp at whole
  | @snoc before linked m result earlier success =>
    obtain ⟨rfl, same⟩ := List.append_inj' whole rfl
    obtain rfl := List.singleton_inj.mp same
    rw [List.map_append, List.map_singleton, ← List.concat_eq_append, List.nodup_concat] at ids
    have outer : ∀ {side id name}, Traces modules side id name origin → False := fun traces =>
      ids.1 (own ▸ traces.origin_id)
    have traces := earlier.traces (List.Subset.refl modules)
    have links := SourceModule.link_links success
    rcases List.mem_append.mp member with before | itself
    · exact (outer ((traces k before).2 name origin found)).elim
    · obtain rfl := List.mem_singleton.mp itself
      rw [LinkedModule.origin?, links.module_eq] at found
      rcases links.origin?_cases found with ⟨-, rfl, -⟩ | ⟨_, _, -, exported⟩
      · exact ⟨congrArg SourceModule.id links.module_eq, rfl⟩
      · obtain ⟨k, k_member, -, exports⟩ := exportedOrigin_eq_ok exported
        exact (outer ((traces k k_member).1 _ _ exports)).elim

/-! ## The program of a bundle -/

/-- What is known about the modules of a bundle. -/
structure LoadedModules (modules : List LinkedModule) : Prop where
  distinct : DistinctModules modules
  analyzed : ∀ m ∈ modules, m.module.analysis = m.module.program.analyze
  numbered : ∀ m ∈ modules, m.module.program.Numbered
  separate : ∀ m ∈ modules, ∀ k ∈ modules, ∀ o ∈ m.module.program.occurrences,
    ∀ p ∈ k.module.program.occurrences, o.site = p.site → m = k

theorem Linked.loaded {modules : List SourceModule} {linked : List LinkedModule} {last : Nat}
    (done : Linked modules linked) (batch : Batch 0 last modules)
    (ids : (modules.map SourceModule.id).Nodup) : LoadedModules linked := by
  have listed : ∀ m ∈ linked, m.module ∈ modules := fun m member =>
    done.map_module ▸ List.mem_map_of_mem member
  have distinct : DistinctModules linked := {
    ids := done.map_id ▸ ids
    symbols := fun m member => by
      rw [batch.analyzed _ (listed m member)]
      exact m.module.program.symbols_groups.nodup }
  refine ⟨distinct, fun m member => batch.analyzed _ (listed m member),
    fun m member => batch.numbered _ (listed m member), ?_⟩
  intro m m_member k k_member o o_member p p_member same
  by_contra differ
  have apart : m.module ≠ k.module := fun equal =>
    differ (distinct.id_inj m_member k_member (congrArg SourceModule.id equal))
  exact batch.separate.forall (listed m m_member) (listed k k_member) apart o o_member
    p p_member same

/-- An occurrence stands in a list of exports of the module itself. -/
def SourceModule.Exports (m : SourceModule) (o : Occurrence) : Prop :=
  ∃ item ∈ m.items, ∃ specifiers, item.statement = .exportList specifiers none ∧
    ∃ s ∈ specifiers, s.bound = o

section Program

variable {modules : List LinkedModule} {entry : ModuleId} {program : Program Occurrence}
  (loaded : LoadedModules modules) (success : flatten modules entry = .ok program)
  {m : LinkedModule} (member : m ∈ modules) {fresh : Renaming}
  (renamed : m.renaming (.assign modules entry) = .ok fresh)

theorem mem_enclosedList {body : List (Statement Occurrence)} {s : Statement Occurrence}
    (member : s ∈ body) : s.enclosed ⊆ Statement.enclosedList body := by
  induction body with
  | nil => cases member
  | cons first rest ih =>
    rw [Statement.enclosedList]
    rcases List.mem_cons.mp member with rfl | later
    · exact List.subset_append_left _ _
    · exact List.Subset.trans (ih later) (List.subset_append_right _ _)

section Renamed

include loaded member renamed

/-- The uses of a renamed statement are its uses under their new names. -/
theorem renamed_ownedUses {item : ModuleItem} (item_member : item ∈ m.module.items) :
    (item.statement.map (·.rename fresh)).ownedUses =
      item.statement.ownedUses.map (OwnedUse.map (·.rename fresh)
        fun n => (m.declaredName? (.assign modules entry) n).getD n) := by
  have serves := LinkedModule.renaming_serves (loaded.analyzed m member) renamed
  have numbered := loaded.numbered m member
  have listed : item.statement ∈ m.module.program.body := List.mem_map_of_mem item_member
  have enclosed : Keeps (·.rename fresh) item.statement.enclosed := fun o o_member =>
    serves.enclosed numbered o (mem_enclosedList listed o_member)
  have declares : Declares (·.rename fresh)
      (fun n => (m.declaredName? (.assign modules entry) n).getD n) item.statement.definitions :=
    fun d d_member => serves.definition numbered (List.mem_flatMap.mpr ⟨_, listed, d_member⟩)
  exact Statement.ownedUses_map item.statement enclosed declares

end Renamed

include loaded success member renamed

/-- What the bundle keeps of a statement has its definitions and uses under their new names. -/
theorem flatten_keeps {item : ModuleItem} (item_member : item ∈ m.module.items)
    (kept : item.statement.isKept (m.id = entry) = true) :
    (∀ d ∈ item.statement.definitions, d.map (·.rename fresh) ∈ program.definitions) ∧
      ∀ u ∈ item.statement.ownedUses, u.map (·.rename fresh)
        (fun n => (m.declaredName? (.assign modules entry) n).getD n) ∈ program.ownedUses := by
  obtain ⟨fresh', renamed', emitted⟩ := flatten_statements success member
  obtain rfl := Except.ok.inj (renamed.symm.trans renamed')
  obtain ⟨out, emits, inside⟩ := emitted item item_member
  obtain ⟨t, rfl, definitions, uses, -⟩ :=
    LinkedModule.emit_keeps ((Statement.isKept_map _ _).trans kept) emits
  have t_member : t ∈ program.body := inside (List.mem_singleton_self t)
  rw [Statement.definitions_map] at definitions
  rw [renamed_ownedUses loaded member renamed item_member] at uses
  exact ⟨fun d d_member => List.mem_flatMap.mpr
      ⟨t, t_member, definitions ▸ List.mem_map_of_mem d_member⟩,
    fun u u_member => List.mem_flatMap.mpr ⟨t, t_member, uses ▸ List.mem_map_of_mem u_member⟩⟩

/-- The occurrences of the program at the site of an occurrence of a module are that one,
renamed. -/
theorem flatten_occurrence_eq {o q : Occurrence} (o_member : o ∈ m.module.program.occurrences)
    (q_member : q ∈ program.occurrences) (same : q.site = o.site) : q = o.rename fresh := by
  have numbered := loaded.numbered m member
  obtain ⟨site, sited⟩ := Option.isSome_iff_exists.mp (numbered.sited o o_member)
  obtain ⟨k, k_member, fresh', renamed', p, p_member, rfl⟩ :=
    flatten_occurrence success q_member (by simp [same, sited])
  obtain rfl := loaded.separate m member k k_member o o_member p p_member same.symm
  obtain rfl := Except.ok.inj (renamed.symm.trans renamed')
  have p_sited : p.site = some site := same.trans sited
  rw [eq_of_countP_le_one (numbered.distinct site) p_member (by simpa using p_sited) o_member
    (by simpa using sited)]

/-- A definition other than an import is in the program under its new name. -/
theorem flatten_definition {d : Definition} (d_member : d ∈ m.module.program.definitions)
    (own : d.kind ≠ .imported) : d.map (·.rename fresh) ∈ program.definitions := by
  obtain ⟨s, s_member, inside⟩ := List.mem_flatMap.mp d_member
  obtain ⟨item, item_member, rfl⟩ := List.mem_map.mp s_member
  refine (flatten_keeps loaded success member renamed item_member ?_).1 d inside
  cases kept : item.statement with
  | importList =>
    rw [kept] at inside
    obtain ⟨_, -, rfl⟩ := List.mem_map.mp inside
    exact absurd rfl own
  | exportList =>
    rw [kept] at inside
    cases inside
  | _ => rfl

/-- A use is in the program under its new name, unless it is in an export list of a module other
than the entry. -/
theorem flatten_use {u : OwnedUse} (u_member : u ∈ m.module.program.ownedUses)
    (kept : m.id = entry ∨ ¬ m.module.Exports u.use.occurrence) :
    u.map (·.rename fresh) (fun n => (m.declaredName? (.assign modules entry) n).getD n) ∈
      program.ownedUses := by
  obtain ⟨s, s_member, inside⟩ := List.mem_flatMap.mp u_member
  obtain ⟨item, item_member, rfl⟩ := List.mem_map.mp s_member
  refine (flatten_keeps loaded success member renamed item_member ?_).2 u inside
  cases found : item.statement with
  | importList =>
    rw [found] at inside
    cases inside
  | exportList specifiers source =>
    rw [found] at inside
    cases source with
    | none =>
      obtain ⟨s, s_member, rfl⟩ := List.mem_map.mp inside
      exact decide_eq_true (kept.resolve_right fun other =>
        other ⟨item, item_member, specifiers, found, s, s_member, rfl⟩)
    | some => cases inside
  | _ => rfl

/-- A declaration is in the program under its name in the bundle. -/
theorem flatten_symbol {s : ModuleSymbol} (s_member : s ∈ m.module.program.symbols)
    (own : s.kind ≠ .imported) {name : Text}
    (named : (FinalNames.assign modules entry).get? ⟨m.id, s.name⟩ = some name) {d : Definition}
    (d_member : d ∈ s.definitions) (declares : d.kind ≠ .imported) :
    ⟨d.kind, name, d.occurrence.site⟩ ∈ program.definitions := by
  have analyzed := loaded.analyzed m member
  obtain ⟨d_member, same⟩ := (m.module.program.symbols_groups.mem_definitions s_member).mp d_member
  have inside := flatten_definition loaded success member renamed d_member declares
  have new := (LinkedModule.renaming_serves analyzed renamed).definition
    (loaded.numbered m member) d_member
  rw [same, LinkedModule.declaredName?_of_mem analyzed s_member, if_neg own, named] at new
  have renamed_eq : d.occurrence.rename fresh = ⟨name, d.occurrence.site⟩ :=
    congrArg (Occurrence.mk · d.occurrence.site) new
  rwa [Definition.map, renamed_eq] at inside

end Program

theorem OwnedUse.refers.name_not_mem {names : List Text} {u : OwnedUse} (refers : u.refers names) :
    u.use.name ∉ u.use.scopes.flatten := by
  intro bound
  obtain ⟨scope, scope_member, inside⟩ := List.mem_flatten.mp bound
  exact List.any_eq_false.mp refers.1 scope scope_member (List.contains_iff_mem.mpr inside)

/-- No scope around a reference binds the name that it gets. The declarations of the entry keep
their names, which only the entry refers to; all others avoid the names around their references. -/
theorem Linked.name_not_shadowed {modules : List SourceModule} {linked : List LinkedModule}
    {last : SourceModule} (done : Linked (modules ++ [last]) linked)
    (ids : ((modules ++ [last]).map SourceModule.id).Nodup) (loaded : LoadedModules linked)
    {m : LinkedModule} (member : m ∈ linked) {r : Reference}
    (r_member : r ∈ m.module.analysis.references) {origin : Origin} {name : Text}
    (traced : m.origin? r.symbol = some origin)
    (named : (FinalNames.assign linked last.id).get? origin = some name) : name ∉ r.shadowed := by
  by_cases own : origin.id = last.id
  · rw [loaded.analyzed m member] at r_member
    obtain ⟨u, -, refers, rfl⟩ := Program.mem_references.mp r_member
    rw [FinalNames.assign_entry loaded.distinct _ named own,
      (done.own_of_last ids member traced own).2]
    exact refers.name_not_mem
  · intro bound
    refine FinalNames.assign_avoids loaded.distinct _ named own ?_
    refine List.mem_flatMap.mpr ⟨m, member, List.mem_flatMap.mpr ⟨r, ?_, bound⟩⟩
    exact List.mem_filter.mpr ⟨r_member, decide_eq_true traced⟩

/-! ## References of a bundle -/

/-- A reference of a module in the program of a bundle: the declaration that it means, and the name
under which it means it. -/
structure Bundle.Carries (bundle : Bundle) (names : FinalNames) (m : SourceModule) (r : Reference)
    (origin : Origin) (name : Text) : Prop where
  traces : Traces bundle.modules .inside m.id r.symbol origin
  only : ∀ other, Traces bundle.modules .inside m.id r.symbol other → other = origin
  named : names.get? origin = some name
  unbound : name ∉ r.shadowed
  occurrence : ∀ q ∈ bundle.program.occurrences, q.site = r.occurrence.site → q.name = name
  reference : m.id = bundle.entry ∨ ¬ m.Exports r.occurrence →
    ∃ owner, ⟨⟨name, r.occurrence.site⟩, owner, r.shadowed⟩ ∈ bundle.program.analyze.references

/-- The program of a bundle says what its modules say, under the names of the bundle. -/
structure Bundle.Faithful (bundle : Bundle) (names : FinalNames) : Prop where
  analyzed : ∀ m ∈ bundle.modules, m.analysis = m.program.analyze
  distinct : ∀ a b name, names.get? a = some name → names.get? b = some name → a = b
  definitions : ∀ m ∈ bundle.modules, ∀ s ∈ m.analysis.symbols, s.kind ≠ .imported →
    ∃ name, names.get? ⟨m.id, s.name⟩ = some name ∧ ∀ d ∈ s.definitions, d.kind ≠ .imported →
      ⟨d.kind, name, d.occurrence.site⟩ ∈ bundle.program.definitions
  references : ∀ m ∈ bundle.modules, ∀ r ∈ m.analysis.references,
    ∃ origin name, bundle.Carries names m r origin name

section Faithful

variable {bundle : Bundle} {linked : List LinkedModule} (loaded : LoadedModules linked)
  (success : flatten linked bundle.entry = .ok bundle.program)

include loaded success

/-- Every name in the bundle is declared in its program. -/
theorem mem_names_of_assign {origin : Origin} {name : Text}
    (named : (FinalNames.assign linked bundle.entry).get? origin = some name) :
    name ∈ bundle.program.names := by
  obtain ⟨k, k_member, declared⟩ := FinalNames.exists_declaration loaded.distinct _ named
  obtain ⟨s, s_member, rfl⟩ := List.mem_map.mp declared
  obtain ⟨s_member, own⟩ := List.mem_filter.mp s_member
  have own : s.kind ≠ .imported := of_decide_eq_true own
  rw [loaded.analyzed k k_member] at s_member
  obtain ⟨fresh, renamed, -⟩ := flatten_statements success k_member
  exact bundle.program.symbols_groups.mem_names.mpr
    ⟨_, flatten_symbol loaded success k_member renamed s_member own named List.mem_cons_self
      own, rfl⟩

/-- A reference whose new name no scope around it binds is a reference of the program. -/
theorem flatten_reference {m : LinkedModule} (member : m ∈ linked) {u : OwnedUse}
    (u_member : u ∈ m.module.program.ownedUses)
    (refers : u.refers m.module.program.names) {origin : Origin} {name : Text}
    (traced : m.origin? u.use.name = some origin)
    (named : (FinalNames.assign linked bundle.entry).get? origin = some name)
    (unbound : name ∉ u.use.scopes.flatten) :
    (∀ q ∈ bundle.program.occurrences, q.site = u.use.occurrence.site → q.name = name) ∧
      (m.id = bundle.entry ∨ ¬ m.module.Exports u.use.occurrence →
        ∃ owner, ⟨⟨name, u.use.occurrence.site⟩, owner, u.use.scopes.flatten⟩ ∈
          bundle.program.analyze.references) := by
  obtain ⟨fresh, renamed, -⟩ := flatten_statements success member
  have serves := LinkedModule.renaming_serves (loaded.analyzed m member) renamed
  have numbered := loaded.numbered m member
  have referred : m.referredName? (.assign linked bundle.entry) u.use.name = some name :=
    Option.bind_eq_some_iff.mpr ⟨origin, traced, named⟩
  have new : (u.use.occurrence.rename fresh).name = name := by
    rw [serves.reference numbered u_member refers, referred, Option.getD_some]
  refine ⟨fun q q_member same => ?_, fun kept => ?_⟩
  · have inside := Program.use_mem_occurrences u_member
    rw [flatten_occurrence_eq loaded success member renamed inside q_member same, new]
  · have inside := flatten_use loaded success member renamed u_member kept
    have unlocal : (u.use.map (·.rename fresh)).isLocal = false :=
      (serves.isLocal_map numbered u_member fun _ => by rwa [referred]).trans refers.1
    have declared : (u.use.occurrence.rename fresh).name ∈ bundle.program.names :=
      new ▸ mem_names_of_assign loaded success named
    have same : u.use.occurrence.rename fresh = ⟨name, u.use.occurrence.site⟩ :=
      congrArg (Occurrence.mk · u.use.occurrence.site) new
    rw [← same]
    exact ⟨_, Program.mem_references.mpr ⟨_, inside, ⟨unlocal, declared⟩, rfl⟩⟩

end Faithful

/-- The parts of a bundle. -/
theorem Bundle.make_eq_ok {entry : ModuleId} {modules : List SourceModule} {bundle : Bundle}
    (success : Bundle.make entry modules = .ok bundle) :
    bundle.entry = entry ∧ bundle.modules = modules ∧
      ∃ linked, linkAll modules = .ok linked ∧ flatten linked entry = .ok bundle.program := by
  obtain ⟨linked, links, success⟩ := bind_eq_ok.mp success
  obtain ⟨program, flattens, success⟩ := bind_eq_ok.mp success
  obtain ⟨code, -, same⟩ := bind_eq_ok.mp success
  obtain rfl := pure_eq_ok.mp same
  exact ⟨rfl, rfl, linked, links, flattens⟩

theorem Environment.bundle_eq_ok {env : Environment} {entry : Text} {bundle : Bundle}
    (success : (env.bundle entry).1 = .ok bundle) :
    ∃ state, Loader.Succeeds (env.loadEntry entry) LoadState.initial bundle.entry state ∧
      Bundle.make bundle.entry state.modules = .ok bundle := by
  unfold Environment.bundle at success
  split at success
  · cases success
  · next id state loads =>
    obtain ⟨same, -⟩ := Bundle.make_eq_ok success
    exact ⟨state, same ▸ loads, same ▸ success⟩

/-- In a bundle no two declarations share a name, and each reference of a module has the name of the
declaration that it traces to and means that declaration. -/
theorem bundle_faithful {env : Environment} {entry : Text} {bundle : Bundle}
    (success : (env.bundle entry).1 = .ok bundle) :
    ∃ linked, linkAll bundle.modules = .ok linked ∧
      bundle.Faithful (.assign linked bundle.entry) := by
  obtain ⟨state, loads, makes⟩ := Environment.bundle_eq_ok success
  obtain ⟨-, modules_eq, linked, links, flattens⟩ := Bundle.make_eq_ok makes
  obtain ⟨batch, ids, last, is_last, last_id⟩ := Environment.loadEntry_loaded loads
  rw [← modules_eq] at batch ids is_last links
  have done := linkAll_linked links
  have loaded := done.loaded batch ids
  have exists_linked : ∀ m ∈ bundle.modules, ∃ k ∈ linked, k.module = m := fun m member =>
    List.mem_map.mp (done.map_module.symm ▸ member)
  refine ⟨linked, links, batch.analyzed, fun a b name => FinalNames.assign_inj loaded.distinct _,
    fun m member s s_member own => ?_, fun m member r r_member => ?_⟩
  · obtain ⟨k, k_member, rfl⟩ := exists_linked m member
    have declared : (⟨k.module.id, s.name⟩ : Origin) ∈ k.declarations :=
      List.mem_map.mpr ⟨s, List.mem_filter.mpr ⟨s_member, decide_eq_true own⟩, rfl⟩
    obtain ⟨name, named⟩ :=
      FinalNames.exists_assign loaded.distinct bundle.entry k_member declared
    obtain ⟨fresh, renamed, -⟩ := flatten_statements flattens k_member
    rw [batch.analyzed _ member] at s_member
    exact ⟨name, named, fun d d_member declares =>
      flatten_symbol loaded flattens k_member renamed s_member own named d_member declares⟩
  · obtain ⟨k, k_member, rfl⟩ := exists_linked m member
    obtain ⟨fresh, renamed, -⟩ := flatten_statements flattens k_member
    obtain ⟨origin, name, traced, named⟩ := LinkedModule.exists_referredName renamed r_member
    obtain ⟨before, split⟩ := List.getLast?_eq_some_iff.mp is_last
    have unbound : name ∉ r.shadowed := by
      rw [split] at done ids
      rw [← last_id] at named
      exact done.name_not_shadowed ids loaded k_member r_member traced named
    have traces := (done.traces (List.Subset.refl _) k k_member).2 _ _ traced
    rw [batch.analyzed _ member] at r_member
    obtain ⟨u, u_member, refers, rfl⟩ := Program.mem_references.mp r_member
    obtain ⟨occurrence, reference⟩ :=
      flatten_reference loaded flattens k_member u_member refers traced named unbound
    exact ⟨origin, name, traces, fun other again => again.unique ids traces, named, unbound,
      occurrence, reference⟩

/-- Two modules that declare one name, with a parameter around a reference that has the next name in
its sequence. -/
def clashingModules : Environment :=
  ⟨⟨[], []⟩, [⟨"memory", some [⟨"a", .all, "a"⟩, ⟨"b", .all, "b"⟩],
    some [("a", "import { f as g } from 'b'; var f; function h(f$1) { g(f); }"),
      ("b", "export function f() {}")]⟩]⟩

theorem clashingModules_faithful :
    ∃ bundle linked, (clashingModules.bundle "a").1 = .ok bundle ∧
      linkAll bundle.modules = .ok linked ∧
      (FinalNames.assign linked bundle.entry).get? ⟨"b", "f"⟩ = some "f$2" ∧
      bundle.Faithful (.assign linked bundle.entry) := by
  have named : ((clashingModules.bundle "a").1.toOption.bind fun bundle =>
      (linkAll bundle.modules).toOption.bind fun linked =>
        (FinalNames.assign linked bundle.entry).get? ⟨"b", "f"⟩) = some "f$2" := by
    decide +kernel
  cases success : (clashingModules.bundle "a").1 with
  | error e =>
    rw [success] at named
    cases named
  | ok bundle =>
    obtain ⟨linked, links, faithful⟩ := bundle_faithful success
    rw [success, Except.toOption, Option.bind_some, links] at named
    exact ⟨bundle, linked, rfl, links, named, faithful⟩

end LibraryDescriptor
