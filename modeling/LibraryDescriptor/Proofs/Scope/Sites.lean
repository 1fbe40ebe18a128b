import LibraryDescriptor.Proofs.Scope.Symbols
import LibraryDescriptor.Proofs.Syntax.Labeling
import LibraryDescriptor.Proofs.Text.Order

/-!
# Renaming by sites

In a numbered module the uses, the declared names and the binders inside are at different sites, so
new names for some of them leave all others as they are.

* `Program.Numbered` — each occurrence has a site of its own.
* `Program.count_le_occurrences` — uses, declared names and inner binders are different occurrences.
* `Renaming.Serves` — a renaming has new names for the symbols of a module and for the references.
* `Renaming.Serves.definition`, `reference`, `unchanged`, `enclosed` — what it does to a numbered
  module.
-/

namespace LibraryDescriptor

/-! ## Numbered modules -/

/-- Each occurrence has a site, and no two have the same. -/
structure Program.Numbered (program : Program Occurrence) : Prop where
  sited : ∀ o ∈ program.occurrences, o.site.isSome
  distinct : ∀ site, program.occurrences.countP (fun o => o.site == some site) ≤ 1

theorem Program.Numbered.of_sublist {program part : Program Occurrence}
    (numbered : program.Numbered) (sublist : part.occurrences.Sublist program.occurrences) :
    part.Numbered :=
  ⟨fun o member => numbered.sited o (sublist.subset member),
    fun site => Nat.le_trans sublist.countP_le (numbered.distinct site)⟩

theorem Program.labelFrom_numbered (program : Program Text) (first : Site) :
    (program.labelFrom.run first).1.Numbered := by
  obtain ⟨count, sites, -⟩ := program.labelFrom_numbers first
  refine ⟨fun o member => ?_, fun site => ?_⟩
  · have known : o.site ∈ (List.range' first count).map some :=
      sites ▸ List.mem_map_of_mem member
    obtain ⟨site, -, same⟩ := List.mem_map.mp known
    rw [← same, Option.isSome_some]
  · have nodup : ((List.range' first count).map some).Nodup :=
      List.Nodup.map (fun _ _ => Option.some.inj) List.nodup_range'
    have counted := List.nodup_iff_count_le_one.mp (sites ▸ nodup) (some site)
    rwa [List.count, List.countP_map] at counted

theorem Program.label_numbered (program : Program Text) : program.label.Numbered :=
  program.labelFrom_numbered 0

/-! ## Counting the occurrences of a module -/

section Count

variable (p : Occurrence → Bool)

def countOwned (uses : List OwnedUse) : Nat := uses.countP fun u => p u.use.occurrence

def countDefined (definitions : List Definition) : Nat :=
  definitions.countP fun d => p d.occurrence

theorem countOwned_map (owner : Option Text) (uses : List Use) :
    countOwned p (uses.map fun u => ⟨owner, u⟩) = countUses p uses :=
  List.countP_map

theorem countDefined_map (kind : SymbolKind) (names : List Occurrence) :
    countDefined p (names.map (Definition.mk kind)) = names.countP p :=
  List.countP_map

theorem Declarator.countOwned_eq :
    ∀ ds : List (Declarator Occurrence),
      countOwned p (ds.flatMap Declarator.ownedUses) = countUses p (Declarator.usesList ds [])
  | [] => rfl
  | .mk name init :: ds => by
    have head : countOwned p (Declarator.mk name init).ownedUses =
        countUses p (Expression.usesOption init []) := countOwned_map p _ _
    have tail := Declarator.countOwned_eq ds
    rw [Declarator.usesList, countUses_append, List.flatMap_cons, countOwned, List.countP_append]
    exact congrArg₂ (· + ·) head tail

theorem Declaration.countOwned_le_occurrences (d : Declaration Occurrence) :
    countOwned p d.ownedUses + countDefined p d.definitions + d.enclosed.countP p ≤
      d.occurrences.countP p := by
  have counted := d.count_le_occurrences p []
  match d with
  | .function name params body =>
    have owned : countOwned p (Declaration.function name params body).ownedUses =
        countUses p ((Declaration.function name params body).uses []) := countOwned_map p _ _
    have defined : countDefined p (Declaration.function name params body).definitions =
        (Declaration.function name params body).lexicals.countP p :=
      countDefined_map p .function [name]
    omega
  | .variables kind declarators =>
    have owned : countOwned p (Declaration.variables kind declarators).ownedUses =
        countUses p ((Declaration.variables kind declarators).uses []) :=
      Declarator.countOwned_eq p declarators
    have defined : countDefined p (Declaration.variables kind declarators).definitions =
        (declarators.map Declarator.name).countP p := by
      rw [Declaration.definitions, value_definitions, countDefined_map]
    have binders : (declarators.map Declarator.name).countP p =
        (Declaration.variables kind declarators).vars.countP p +
          (Declaration.variables kind declarators).lexicals.countP p := by
      cases kind <;> simp [Declaration.vars, Declaration.lexicals]
    omega

theorem ExportSpecifier.countOwned_le_occurrences (specifiers : List (ExportSpecifier Occurrence)) :
    countOwned p (specifiers.map fun s => ⟨none, s.bound, []⟩) ≤
      (specifiers.flatMap fun s => [s.bound, s.exported]).countP p := by
  induction specifiers with
  | nil => exact Nat.le_refl 0
  | cons s ss ih =>
    simp only [countOwned, List.map_cons, List.flatMap_cons, List.countP_cons, List.countP_append,
      List.countP_nil] at ih ⊢
    omega

theorem ImportSpecifier.countDefined_le_occurrences
    (specifiers : List (ImportSpecifier Occurrence)) :
    countDefined p (specifiers.map fun s => ⟨.imported, s.bound⟩) ≤
      (specifiers.flatMap fun s => [s.imported, s.bound]).countP p := by
  induction specifiers with
  | nil => exact Nat.le_refl 0
  | cons s ss ih =>
    simp only [countDefined, List.map_cons, List.flatMap_cons, List.countP_cons,
      List.countP_append, List.countP_nil] at ih ⊢
    omega

theorem Statement.countOwned_le_occurrences (s : Statement Occurrence) :
    countOwned p s.ownedUses + countDefined p s.definitions + s.enclosed.countP p ≤
      s.occurrences.countP p := by
  have plain : countOwned p ((s.uses []).map fun u => ⟨none, u⟩) +
      countDefined p (s.hoisted.map fun d => ⟨.value, d.name⟩) + s.enclosed.countP p ≤
        s.occurrences.countP p := by
    have counted := s.count_le_occurrences p []
    rw [hoisted_definitions, countDefined_map, countOwned_map]
    omega
  cases s with
  | declaration value | exportDeclaration value => exact value.countOwned_le_occurrences p
  | exportList specifiers source =>
    cases source with
    | none => exact ExportSpecifier.countOwned_le_occurrences p specifiers
    | some => exact plain
  | importList specifiers =>
    have counted := ImportSpecifier.countDefined_le_occurrences p specifiers
    rwa [← Nat.zero_add (countDefined _ _)] at counted
  | _ => exact plain

theorem Program.count_le_occurrences (program : Program Occurrence) :
    countOwned p program.ownedUses + countDefined p program.definitions +
        program.enclosed.countP p ≤
      program.occurrences.countP p := by
  obtain ⟨body⟩ := program
  induction body with
  | nil => exact Nat.le_refl 0
  | cons s ss ih =>
    have head := s.countOwned_le_occurrences p
    simp only [Program.ownedUses, Program.definitions, Program.enclosed, Program.occurrences,
      countOwned, countDefined] at head ih ⊢
    simp only [List.flatMap_cons, Statement.enclosedList, Statement.occurrencesList,
      List.countP_append]
    omega

end Count

/-! ## New names by site -/

theorem mem_of_lookup {α β : Type} [BEq α] [LawfulBEq α] {pairs : List (α × β)} {key : α}
    {value : β} (found : pairs.lookup key = some value) : (key, value) ∈ pairs := by
  obtain ⟨before, after, rfl, -⟩ := List.lookup_eq_some_iff.mp found
  exact List.mem_append_right _ List.mem_cons_self

namespace Renaming

theorem newName?_eq_none {fresh : Renaming} {site : Site}
    (absent : ∀ name, (site, name) ∉ fresh) : fresh.newName? site = none := by
  refine List.lookup_eq_none_iff.mpr fun pair member => ?_
  rw [bne_iff_ne]
  rintro rfl
  exact absent pair.2 (List.mem_reverse.mp member)

theorem newName?_eq_some {fresh : Renaming} {site : Site} {name : Text}
    (present : (site, name) ∈ fresh) (only : ∀ other, (site, other) ∈ fresh → other = name) :
    fresh.newName? site = some name := by
  cases found : fresh.newName? site with
  | none =>
    have differs := List.lookup_eq_none_iff.mp found _ (List.mem_reverse.mpr present)
    exact absurd rfl (bne_iff_ne.mp differs)
  | some other =>
    rw [only other (List.mem_reverse.mp (mem_of_lookup found))]

end Renaming

theorem eq_of_countP_le_one {α : Type} {list : List α} {p : α → Bool} (few : list.countP p ≤ 1)
    {a b : α} (a_member : a ∈ list) (a_holds : p a = true) (b_member : b ∈ list)
    (b_holds : p b = true) : a = b := by
  have a_found := List.mem_filter.mpr ⟨a_member, a_holds⟩
  have b_found := List.mem_filter.mpr ⟨b_member, b_holds⟩
  rw [List.countP_eq_length_filter] at few
  match list.filter p, few, a_found, b_found with
  | [c], _, a_found, b_found => rw [List.mem_singleton.mp a_found, List.mem_singleton.mp b_found]

theorem Program.mem_occurrences {program : Program Occurrence} {o : Occurrence}
    (counted : 0 < countOwned (· == o) program.ownedUses +
      countDefined (· == o) program.definitions + program.enclosed.countP (· == o)) :
    o ∈ program.occurrences := by
  have found := Nat.lt_of_lt_of_le counted (program.count_le_occurrences (· == o))
  obtain ⟨a, member, same⟩ := List.countP_pos_iff.mp found
  exact beq_iff_eq.mp same ▸ member

theorem Program.use_mem_occurrences {program : Program Occurrence} {u : OwnedUse}
    (member : u ∈ program.ownedUses) : u.use.occurrence ∈ program.occurrences := by
  have used : 0 < countOwned (· == u.use.occurrence) program.ownedUses :=
    List.countP_pos_iff.mpr ⟨u, member, beq_self_eq_true _⟩
  exact mem_occurrences (by omega)

theorem Program.definition_mem_occurrences {program : Program Occurrence} {d : Definition}
    (member : d ∈ program.definitions) : d.occurrence ∈ program.occurrences := by
  have defined : 0 < countDefined (· == d.occurrence) program.definitions :=
    List.countP_pos_iff.mpr ⟨d, member, beq_self_eq_true _⟩
  exact mem_occurrences (by omega)

namespace Program.Numbered

variable {program : Program Occurrence} (numbered : program.Numbered) {site : Site}

include numbered

/-- At a site there is at most one use, one declared name or one inner binder. -/
theorem count_le_one (site : Site) :
    countOwned (fun o => o.site == some site) program.ownedUses +
        countDefined (fun o => o.site == some site) program.definitions +
        program.enclosed.countP (fun o => o.site == some site) ≤ 1 :=
  Nat.le_trans (program.count_le_occurrences _) (numbered.distinct site)

theorem use_eq {u v : OwnedUse} (u_member : u ∈ program.ownedUses)
    (u_site : u.use.occurrence.site = some site) (v_member : v ∈ program.ownedUses)
    (v_site : v.use.occurrence.site = some site) : u = v := by
  have few := numbered.count_le_one site
  refine eq_of_countP_le_one (p := fun u => u.use.occurrence.site == some site) ?_
    u_member (by simpa using u_site) v_member (by simpa using v_site)
  simp only [countOwned] at few
  omega

theorem definition_eq {d e : Definition} (d_member : d ∈ program.definitions)
    (d_site : d.occurrence.site = some site) (e_member : e ∈ program.definitions)
    (e_site : e.occurrence.site = some site) : d = e := by
  have few := numbered.count_le_one site
  refine eq_of_countP_le_one (p := fun d => d.occurrence.site == some site) ?_
    d_member (by simpa using d_site) e_member (by simpa using e_site)
  simp only [countDefined] at few
  omega

theorem use_ne_definition {u : OwnedUse} {d : Definition} (u_member : u ∈ program.ownedUses)
    (u_site : u.use.occurrence.site = some site) (d_member : d ∈ program.definitions)
    (d_site : d.occurrence.site = some site) : False := by
  have few := numbered.count_le_one site
  have used : 0 < countOwned (fun o => o.site == some site) program.ownedUses :=
    List.countP_pos_iff.mpr ⟨u, u_member, by simpa using u_site⟩
  have defined : 0 < countDefined (fun o => o.site == some site) program.definitions :=
    List.countP_pos_iff.mpr ⟨d, d_member, by simpa using d_site⟩
  omega

theorem use_ne_enclosed {u : OwnedUse} {o : Occurrence} (u_member : u ∈ program.ownedUses)
    (u_site : u.use.occurrence.site = some site) (o_member : o ∈ program.enclosed)
    (o_site : o.site = some site) : False := by
  have few := numbered.count_le_one site
  have used : 0 < countOwned (fun o => o.site == some site) program.ownedUses :=
    List.countP_pos_iff.mpr ⟨u, u_member, by simpa using u_site⟩
  have bound : 0 < program.enclosed.countP (fun o => o.site == some site) :=
    List.countP_pos_iff.mpr ⟨o, o_member, by simpa using o_site⟩
  omega

theorem definition_ne_enclosed {d : Definition} {o : Occurrence}
    (d_member : d ∈ program.definitions) (d_site : d.occurrence.site = some site)
    (o_member : o ∈ program.enclosed) (o_site : o.site = some site) : False := by
  have few := numbered.count_le_one site
  have defined : 0 < countDefined (fun o => o.site == some site) program.definitions :=
    List.countP_pos_iff.mpr ⟨d, d_member, by simpa using d_site⟩
  have bound : 0 < program.enclosed.countP (fun o => o.site == some site) :=
    List.countP_pos_iff.mpr ⟨o, o_member, by simpa using o_site⟩
  omega

theorem exists_site_use {u : OwnedUse} (member : u ∈ program.ownedUses) :
    ∃ site, u.use.occurrence.site = some site :=
  Option.isSome_iff_exists.mp (numbered.sited _ (Program.use_mem_occurrences member))

theorem exists_site_definition {d : Definition} (member : d ∈ program.definitions) :
    ∃ site, d.occurrence.site = some site :=
  Option.isSome_iff_exists.mp (numbered.sited _ (Program.definition_mem_occurrences member))

end Program.Numbered

/-! ## References -/

def Program.names (program : Program Occurrence) : List Text :=
  program.symbols.map ModuleSymbol.name

/-- A use that no scope inside the module binds and whose name the module declares. -/
def OwnedUse.refers (names : List Text) (u : OwnedUse) : Prop :=
  u.use.isLocal = false ∧ u.use.name ∈ names

theorem OwnedUse.reference?_eq_some {names : List Text} {u : OwnedUse} {r : Reference} :
    u.reference? names = some r ↔
      u.refers names ∧ r = ⟨u.use.occurrence, u.owner, u.use.scopes.flatten⟩ := by
  unfold OwnedUse.reference? OwnedUse.refers
  cases u.use.isLocal with
  | true => simp
  | false =>
    by_cases known : u.use.name ∈ names
    · simp [known, eq_comm (b := r)]
    · simp [known]

theorem Program.mem_references {program : Program Occurrence} {r : Reference} :
    r ∈ program.analyze.references ↔
      ∃ u ∈ program.ownedUses, u.refers program.names ∧
        r = ⟨u.use.occurrence, u.owner, u.use.scopes.flatten⟩ := by
  rw [Program.analyze, List.mem_filterMap]
  exact exists_congr fun u => and_congr_right fun _ => OwnedUse.reference?_eq_some

/-! ## Global names -/

theorem Program.mem_globals {program : Program Occurrence} {n : Text} :
    n ∈ program.analyze.globals ↔
      n ∉ program.names ∧ ∃ u ∈ program.ownedUses, u.use.isLocal = false ∧ u.use.name = n := by
  rw [Program.analyze, Text.mem_nameSet, List.mem_filterMap]
  constructor
  · rintro ⟨u, member, found⟩
    unfold OwnedUse.global? at found
    split at found
    · cases found
    · next open? =>
      simp only [Bool.or_eq_true, not_or, Bool.not_eq_true, List.contains_iff_mem] at open?
      obtain rfl := Option.some.inj found
      exact ⟨open?.2, u, member, open?.1, rfl⟩
  · rintro ⟨undeclared, u, member, unbound, rfl⟩
    refine ⟨u, member, ?_⟩
    unfold OwnedUse.global?
    rw [if_neg]
    simpa [unbound, Program.names] using undeclared

theorem Program.globals_ascending (program : Program Occurrence) :
    program.analyze.globals.Pairwise Text.Before :=
  Text.nameSet_ascending _

/-! ## Renamings of symbols and references -/

/-- A renaming gives the symbols of a module, and the references to them, the names that two tables
have for them, and renames nothing else. -/
structure Renaming.Serves (fresh : Renaming) (program : Program Occurrence)
    (declared referred : Text → Option Text) : Prop where
  only : ∀ site name, (site, name) ∈ fresh →
    (∃ d ∈ program.definitions, d.occurrence.site = some site ∧
      declared d.occurrence.name = some name) ∨
    (∃ u ∈ program.ownedUses, u.refers program.names ∧ u.use.occurrence.site = some site ∧
      referred u.use.name = some name)
  definitions : ∀ d ∈ program.definitions, ∀ site, d.occurrence.site = some site →
    ∀ name, declared d.occurrence.name = some name → (site, name) ∈ fresh
  references : ∀ u ∈ program.ownedUses, u.refers program.names → ∀ site,
    u.use.occurrence.site = some site →
    ∀ name, referred u.use.name = some name → (site, name) ∈ fresh

namespace Renaming.Serves

variable {fresh : Renaming} {program : Program Occurrence} {declared referred : Text → Option Text}
  (serves : fresh.Serves program declared referred) (numbered : program.Numbered)

theorem rename_name {o : Occurrence} {site : Site} (sited : o.site = some site) :
    (o.rename fresh).name = (fresh.newName? site).getD o.name := by
  rw [Occurrence.rename, sited, Option.bind_some]

include serves numbered

theorem definition {d : Definition} (member : d ∈ program.definitions) :
    (d.occurrence.rename fresh).name =
      (declared d.occurrence.name).getD d.occurrence.name := by
  obtain ⟨site, sited⟩ := numbered.exists_site_definition member
  have only : ∀ name, (site, name) ∈ fresh → declared d.occurrence.name = some name := by
    intro name present
    rcases serves.only site name present
      with ⟨e, e_member, e_site, named⟩ | ⟨u, u_member, _, u_site, _⟩
    · rwa [numbered.definition_eq member sited e_member e_site]
    · exact (numbered.use_ne_definition u_member u_site member sited).elim
  rw [rename_name sited]
  cases named : declared d.occurrence.name with
  | none =>
    rw [newName?_eq_none fun name present => by simp [only name present] at named]
  | some name =>
    rw [newName?_eq_some (serves.definitions d member site sited name named) fun other present =>
      Option.some.inj ((only other present).symm.trans named)]

theorem reference {u : OwnedUse} (member : u ∈ program.ownedUses)
    (refers : u.refers program.names) :
    (u.use.occurrence.rename fresh).name = (referred u.use.name).getD u.use.name := by
  obtain ⟨site, sited⟩ := numbered.exists_site_use member
  have only : ∀ name, (site, name) ∈ fresh → referred u.use.name = some name := by
    intro name present
    rcases serves.only site name present
      with ⟨d, d_member, d_site, _⟩ | ⟨v, v_member, _, v_site, named⟩
    · exact (numbered.use_ne_definition member sited d_member d_site).elim
    · rwa [numbered.use_eq member sited v_member v_site]
  rw [rename_name sited]
  cases named : referred u.use.name with
  | none =>
    rw [newName?_eq_none fun name present => by simp [only name present] at named]
    rfl
  | some name =>
    rw [newName?_eq_some (serves.references u member refers site sited name named)
      fun other present =>
      Option.some.inj ((only other present).symm.trans named)]
    rfl

theorem unchanged {u : OwnedUse} (member : u ∈ program.ownedUses)
    (other : ¬ u.refers program.names) : (u.use.occurrence.rename fresh).name = u.use.name := by
  obtain ⟨site, sited⟩ := numbered.exists_site_use member
  have absent : ∀ name, (site, name) ∉ fresh := by
    intro name present
    rcases serves.only site name present
      with ⟨d, d_member, d_site, _⟩ | ⟨v, v_member, refers, v_site, _⟩
    · exact numbered.use_ne_definition member sited d_member d_site
    · exact other (numbered.use_eq member sited v_member v_site ▸ refers)
  rw [rename_name sited, newName?_eq_none absent]
  rfl

theorem enclosed : Keeps (·.rename fresh) program.enclosed := by
  intro o member
  cases sited : o.site with
  | none => simp only [Occurrence.rename, sited, Option.bind_none, Option.getD_none]
  | some site =>
    have absent : ∀ name, (site, name) ∉ fresh := by
      intro name present
      rcases serves.only site name present
        with ⟨d, d_member, d_site, _⟩ | ⟨u, u_member, _, u_site, _⟩
      · exact numbered.definition_ne_enclosed d_member d_site member sited
      · exact numbered.use_ne_enclosed u_member u_site member sited
    rw [rename_name sited, newName?_eq_none absent]
    rfl

/-- Where the scopes around a reference do not bind its new name, the renaming changes no use from
bound to unbound or back. -/
theorem isLocal_map {u : OwnedUse} (member : u ∈ program.ownedUses)
    (free : u.refers program.names →
      (referred u.use.name).getD u.use.name ∉ u.use.scopes.flatten) :
    (u.use.map (·.rename fresh)).isLocal = u.use.isLocal := by
  by_cases refers : u.refers program.names
  · rw [refers.1, Use.isLocal, List.any_eq_false]
    intro scope scope_member bound
    refine free refers (List.mem_flatten.mpr ⟨scope, scope_member, ?_⟩)
    rw [← serves.reference numbered member refers]
    exact List.contains_iff_mem.mp bound
  · have same := serves.unchanged numbered member refers
    unfold Use.isLocal Use.name Use.map
    rw [same]
    rfl

end Renaming.Serves

end LibraryDescriptor
