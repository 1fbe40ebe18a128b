import LibraryDescriptor.Descriptor.Compile
import LibraryDescriptor.Proofs.Descriptor.Code
import LibraryDescriptor.Proofs.Symbol.Resolution

/-!
# Dependencies are free names

The dependencies that a descriptor lists for a symbol are the symbols whose names occur free in its
renamed code.

* `DependencyGraph.mem_dependenciesOf` — dependencies are references in the code of the symbol.
* `ScopeAnalysis.Resolved.mem_freeNames_rename` — what occurs free in renamed code.
* `compile_dependencies_iff_free` — the dependencies of a compiled module.
-/

namespace LibraryDescriptor

/-! ## Lists without repetition -/

theorem nodup_eraseDups {α : Type} [BEq α] [LawfulBEq α] (list : List α) :
    list.eraseDups.Nodup := by
  match list with
  | [] => simp
  | a :: rest =>
    rw [List.eraseDups_cons, List.nodup_cons, List.mem_eraseDups]
    exact ⟨by simp, nodup_eraseDups _⟩
termination_by list.length
decreasing_by exact Nat.lt_succ_of_le (List.length_filter_le _ _)

theorem lookup_map_of_nodup {α β γ : Type} [BEq β] [LawfulBEq β] {key : α → β} {value : α → γ} :
    ∀ {list : List α}, (list.map key).Nodup → ∀ {a : α}, a ∈ list →
      (list.map fun a => (key a, value a)).lookup (key a) = some (value a)
  | first :: rest, nodup, a, member => by
    rw [List.map_cons, List.nodup_cons] at nodup
    rw [List.map_cons, List.lookup_cons]
    rcases List.mem_cons.mp member with rfl | later
    · rw [beq_self_eq_true]
    · have differs : (key a == key first) = false := beq_eq_false_iff_ne.mpr fun same =>
        nodup.1 (List.mem_map.mpr ⟨a, later, same⟩)
      rw [differs]
      exact lookup_map_of_nodup nodup.2 later

/-! ## Dependencies as references -/

theorem Reference.dependency?_eq_ok {table : SymbolTable} {r : Reference}
    {pair : ResolvedSymbol × ResolvedSymbol} :
    r.dependency? table = .ok (some pair) ↔
      ∃ owner, r.owner = some owner ∧ owner ≠ r.symbol ∧ table.get? owner = some pair.1 ∧
        table.get? r.symbol = some pair.2 := by
  unfold Reference.dependency?
  split
  · next unowned => simp [unowned]
  · next owner owned =>
    split
    · next missing => simp [owned, missing]
    · next missing => simp [owned, missing]
    · next source target source_found target_found =>
      by_cases same : owner = r.symbol
      · simp [owned, same]
      · simp [owned, same, source_found, target_found, Prod.ext_iff]

namespace ScopeAnalysis.Resolved

variable {program : Program Occurrence} {exports : ExportMap} {options : Options}
  {table : SymbolTable} (resolved : program.analyze.Resolved exports options table)

include resolved

/-- The dependencies of a symbol are the references in its code to other symbols. -/
theorem mem_dependenciesOf {graph : DependencyGraph}
    (success : program.analyze.dependencies table = .ok graph) {s : ResolvedSymbol}
    (member : s ∈ table.symbols) :
    (graph.dependenciesOf s.key).Nodup ∧
      ∀ key, key ∈ graph.dependenciesOf s.key ↔
        ∃ t ∈ table.symbols, t ≠ s ∧ t.key = key ∧
          ∃ r ∈ program.analyze.references, r.owner = some s.name ∧ r.symbol = t.name := by
  obtain ⟨found, mapped, success⟩ := bind_eq_ok.mp success
  obtain rfl := pure_eq_ok.mp success
  rw [DependencyGraph.dependenciesOf, lookup_map_of_nodup resolved.keys member, Option.getD_some]
  refine ⟨nodup_eraseDups _, fun key => ?_⟩
  simp only [List.mem_eraseDups, List.mem_map, List.mem_filter, List.mem_filterMap, id_eq,
    exists_eq_right, decide_eq_true_eq]
  constructor
  · rintro ⟨⟨source, target⟩, ⟨listed, source_key⟩, rfl⟩
    obtain ⟨r, r_member, done⟩ := mapM_ok_exists_source mapped listed
    obtain ⟨owner, owned, differs, source_found, target_found⟩ :=
      Reference.dependency?_eq_ok.mp done
    obtain ⟨source_member, rfl⟩ := SymbolTable.get?_some source_found
    obtain ⟨target_member, target_name⟩ := SymbolTable.get?_some target_found
    obtain rfl := resolved.key_inj source_member member source_key
    exact ⟨target, target_member, fun same => differs (same ▸ target_name), rfl, r, r_member, owned,
      target_name.symm⟩
  · rintro ⟨t, t_member, differs, rfl, r, r_member, owned, means⟩
    obtain ⟨result, listed, done⟩ := mapM_ok_exists mapped r_member
    have pair : r.dependency? table = .ok (some (s, t)) := Reference.dependency?_eq_ok.mpr
      ⟨s.name, owned, fun same => differs (resolved.name_inj t_member member (means ▸ same.symm)),
        resolved.get?_of_mem member, means ▸ resolved.get?_of_mem t_member⟩
    rw [done] at pair
    exact ⟨(s, t), ⟨Except.ok.inj pair ▸ listed, rfl⟩, rfl⟩

end ScopeAnalysis.Resolved

/-! ## Free names of renamed code -/

namespace ScopeAnalysis.Resolved

variable {program : Program Occurrence} {exports : ExportMap} {options : Options}
  {table : SymbolTable} (resolved : program.analyze.Resolved exports options table)
  (numbered : program.Numbered)

include resolved numbered

/-- A name occurs free in the renamed code of a declared name if the code refers to the symbol it
belongs to, or if it occurred free there as a global. -/
theorem mem_freeNames_rename {o : Occurrence} {code : Code} (listed : (o, code) ∈ program.codes)
    (unique : ∀ entry ∈ program.codes, entry.1.name = o.name → entry.2 = code) {n : Text} :
    n ∈ (code.map (·.rename (table.renaming program.analyze))).freeNames ↔
      (∃ t ∈ table.symbols, t.reference = n ∧
        ∃ r ∈ program.analyze.references, r.owner = some o.name ∧ r.symbol = t.name) ∨
      (n ∈ code.freeNames ∧ n ∉ program.names) := by
  have serves := table.renaming_serves program
  have kept : Keeps (·.rename (table.renaming program.analyze)) code.enclosed := fun b inside =>
    serves.enclosed numbered b (Program.mem_enclosed_of_code listed inside)
  rw [Code.mem_freeNames, Code.uses_map kept]
  constructor
  · rintro ⟨_, renamed, unbound, named⟩
    obtain ⟨u, used, rfl⟩ := List.mem_map.mp renamed
    have owned := program.mem_ownedUses_iff.mpr ⟨o, code, listed, rfl, used⟩
    rw [resolved.isLocal_rename numbered owned] at unbound
    by_cases refers : OwnedUse.refers program.names ⟨some o.name, u⟩
    · obtain ⟨t, t_member, t_name, found, -⟩ := resolved.exists_target owned refers
      have renamed := serves.reference numbered owned refers
      rw [found] at renamed
      exact .inl ⟨t, t_member, renamed.symm.trans named, _,
        Program.mem_references.mpr ⟨_, owned, refers, rfl⟩, rfl, t_name.symm⟩
    · have same : u.name = n := (serves.unchanged numbered owned refers).symm.trans named
      refine .inr ⟨Code.mem_freeNames.mpr ⟨u, used, unbound, same⟩, fun declared => refers ?_⟩
      exact ⟨unbound, same ▸ declared⟩
  · rintro (⟨t, t_member, rfl, r, r_member, owner, means⟩ | ⟨free, undeclared⟩)
    · obtain ⟨⟨_, u⟩, owned, refers, rfl⟩ := Program.mem_references.mp r_member
      obtain rfl : _ = some o.name := owner
      obtain ⟨o', code', listed', same, used⟩ := program.mem_ownedUses_iff.mp owned
      obtain rfl : code' = code := unique (o', code') listed' same
      obtain ⟨t', t'_member, t'_name, found, -⟩ := resolved.exists_target owned refers
      obtain rfl := resolved.name_inj t'_member t_member (t'_name.trans means)
      have renamed := serves.reference numbered owned refers
      rw [found] at renamed
      exact ⟨_, List.mem_map_of_mem used, (resolved.isLocal_rename numbered owned).trans refers.1,
        renamed⟩
    · obtain ⟨u, used, unbound, rfl⟩ := Code.mem_freeNames.mp free
      have owned := program.mem_ownedUses_iff.mpr ⟨o, code, listed, rfl, used⟩
      exact ⟨_, List.mem_map_of_mem used, (resolved.isLocal_rename numbered owned).trans unbound,
        serves.unchanged numbered owned fun refers => undeclared refers.2⟩

/-- The name of a symbol occurs free in renamed code exactly if the code refers to the symbol. -/
theorem reference_mem_freeNames {o : Occurrence} {code : Code} (listed : (o, code) ∈ program.codes)
    (unique : ∀ entry ∈ program.codes, entry.1.name = o.name → entry.2 = code)
    {t : ResolvedSymbol} (member : t ∈ table.symbols) :
    t.reference ∈ (code.map (·.rename (table.renaming program.analyze))).freeNames ↔
      ∃ r ∈ program.analyze.references, r.owner = some o.name ∧ r.symbol = t.name := by
  rw [resolved.mem_freeNames_rename numbered listed unique]
  constructor
  · rintro (⟨t', t'_member, same, refers⟩ | ⟨free, undeclared⟩)
    · rwa [← resolved.reference_inj t'_member member same]
    · -- A global keeps its name, and no symbol may have the name of a global.
      obtain ⟨u, used, unbound, named⟩ := Code.mem_freeNames.mp free
      have owned := program.mem_ownedUses_iff.mpr ⟨o, code, listed, rfl, used⟩
      exact (resolved.globals t member
        (Program.mem_globals.mpr ⟨undeclared, _, owned, unbound, named⟩)).elim
  · exact fun refers => .inl ⟨t, member, rfl, refers⟩

end ScopeAnalysis.Resolved

/-! ## Compiled modules -/

def Program.DeclaresOnly (program : Program Occurrence) : Prop :=
  ∀ s ∈ program.body, ∃ d, s = .declaration d

/-- The variables that a module declares at the top level, in order. -/
def Program.declarators {ν : Type} (program : Program ν) : List (Declarator ν) :=
  program.body.flatMap Statement.declarators

theorem Declarator.validate_eq_ok [Serializer] {policy : InitializerPolicy}
    {d : Declarator Occurrence} :
    d.validate policy = .ok () ↔ d.isPure = true ∨ policy = .postset := by
  rw [Declarator.validate]
  split
  · next accepted => simpa using accepted
  · next refused =>
    refine ⟨fun done => ?_, fun accepted => absurd (by simpa using accepted) refused⟩
    obtain ⟨_, -, failed⟩ := bind_eq_ok.mp done
    cases failed

/-- A module is valid if it has supported statements only, and no impure initializer is against the
policy. -/
theorem Program.validate_eq_ok [Serializer] {policy : InitializerPolicy}
    {program : Program Occurrence} :
    program.validate policy = .ok () ↔ (∀ s ∈ program.body, s.isSupported = true) ∧
      ∀ d ∈ program.declarators, d.isPure = true ∨ policy = .postset := by
  have each : ∀ s : Statement Occurrence, s.validate policy = .ok () ↔ s.isSupported = true ∧
      ∀ d ∈ s.declarators, d.isPure = true ∨ policy = .postset := by
    intro s
    rw [Statement.validate]
    split
    · next supported =>
      simp only [forM_eq_ok, Declarator.validate_eq_ok, supported, true_and]
    · next refused =>
      refine ⟨fun done => ?_, fun valid => absurd valid.1 refused⟩
      obtain ⟨_, -, failed⟩ := bind_eq_ok.mp done
      cases failed
  simp only [Program.validate, forM_eq_ok, each, Program.declarators, List.mem_flatMap]
  grind

theorem Program.declaresOnly_of_validate [Serializer] {policy : InitializerPolicy}
    {program : Program Occurrence} (valid : program.validate policy = .ok ()) :
    program.withoutExports.DeclaresOnly := by
  intro t member
  obtain ⟨s, s_member, kept⟩ := List.mem_filterMap.mp member
  have supported := (Program.validate_eq_ok.mp valid).1 s s_member
  match s with
  | .declaration d | .exportDeclaration d => exact ⟨d, (Option.some.inj kept).symm⟩
  | .exportList _ none => cases kept

theorem Declaration.codes_names (d : Declaration Occurrence) :
    d.codes.map Prod.fst = d.definitions.map Definition.occurrence := by
  match d with
  | .function _ _ _ => rfl
  | .variables _ _ =>
    rw [Declaration.codes, Declaration.definitions, List.map_map, List.map_map]
    rfl

theorem Program.codes_names {program : Program Occurrence} (only : program.DeclaresOnly) :
    program.codes.map Prod.fst = program.definitions.map Definition.occurrence := by
  obtain ⟨body⟩ := program
  induction body with
  | nil => rfl
  | cons s ss ih =>
    obtain ⟨d, rfl⟩ := only s List.mem_cons_self
    have tail := ih fun t member => only t (List.mem_cons_of_mem _ member)
    simp only [Program.codes, Program.definitions] at tail ⊢
    simp only [List.flatMap_cons, List.map_append, tail]
    exact congrArg (· ++ _) d.codes_names

theorem compile_eq_ok [Serializer] {options : Options} {program : Program Text}
    {compiled : Compiled}
    (success : compile options program = .ok compiled) :
    ∃ exports, program.label.validate options.policy = .ok () ∧
      program.label.resolveExports = .ok (exports, program.label.withoutExports) ∧
      program.label.withoutExports.analyze.resolve exports options = .ok compiled.table ∧
      program.label.withoutExports.analyze.dependencies compiled.table = .ok compiled.graph ∧
      (program.label.withoutExports.rename
          (compiled.table.renaming program.label.withoutExports.analyze)).describe
        compiled.table compiled.graph options.policy = .ok compiled.descriptor := by
  obtain ⟨⟨⟩, valid, success⟩ := bind_eq_ok.mp success
  obtain ⟨⟨exports, module⟩, exported, success⟩ := bind_eq_ok.mp success
  obtain ⟨table, resolved, success⟩ := bind_eq_ok.mp success
  obtain ⟨graph, linked, success⟩ := bind_eq_ok.mp success
  obtain ⟨descriptor, described, success⟩ := bind_eq_ok.mp success
  obtain rfl := pure_eq_ok.mp success
  obtain ⟨_, -, same⟩ := bind_eq_ok.mp exported
  obtain rfl := congrArg Prod.snd (pure_eq_ok.mp same)
  exact ⟨exports, valid, exported, resolved, linked, described⟩

namespace ScopeAnalysis.Resolved

variable {program : Program Occurrence} {exports : ExportMap} {options : Options}
  {table : SymbolTable} (resolved : program.analyze.Resolved exports options table)
  (only : program.DeclaresOnly)

include resolved only

/-- A symbol is declared once, so it has the code of one declaration. -/
theorem exists_code {s : ResolvedSymbol} (member : s ∈ table.symbols) :
    ∃ entry, program.codes.filter (fun (o, _) => o.name = s.name) = [entry] := by
  have groups := program.symbols_groups
  have declared : s.name ∈ program.names := resolved.names_eq ▸ List.mem_map_of_mem member
  obtain ⟨m, m_member, named⟩ := List.mem_map.mp declared
  have once : program.definitions.filter (fun d => d.occurrence.name = s.name) = [m.first] := by
    rw [← named, ← groups.definitions_eq m m_member, ModuleSymbol.definitions,
      (resolved.declared m m_member).2]
  have names : (program.codes.filter (fun (o, _) => o.name = s.name)).map Prod.fst =
      [m.first.occurrence] := by
    calc (program.codes.filter (fun (o, _) => o.name = s.name)).map Prod.fst
        = (program.codes.map Prod.fst).filter (fun o => o.name = s.name) := by
          rw [List.filter_map]
          rfl
      _ = (program.definitions.filter (fun d => d.occurrence.name = s.name)).map
            Definition.occurrence := by
          rw [Program.codes_names only, List.filter_map]
          rfl
      _ = [m.first.occurrence] := by rw [once, List.map_singleton]
  obtain ⟨entry, found, -⟩ := List.map_eq_singleton_iff.mp names
  exact ⟨entry, found⟩

/-- The renamed code of a symbol stands under its key. -/
theorem code?_rename (numbered : program.Numbered) {s : ResolvedSymbol}
    (member : s ∈ table.symbols) :
    (program.rename (table.renaming program.analyze)).code? s.key =
      (program.code? s.name).map (Code.map (·.rename (table.renaming program.analyze))) := by
  have keyed : ∀ entry ∈ program.codes,
      decide ((entry.1.rename (table.renaming program.analyze)).name = s.key) =
        decide (entry.1.name = s.name) := by
    intro entry listed
    have defined : entry.1 ∈ program.definitions.map Definition.occurrence :=
      Program.codes_names only ▸ List.mem_map_of_mem listed
    obtain ⟨d, d_member, same⟩ := List.mem_map.mp defined
    have declared := program.symbols_groups.covers d d_member
    obtain ⟨t, t_member, t_name, found⟩ := resolved.exists_get? declared
    have renamed := (table.renaming_serves program).definition numbered d_member
    rw [SymbolTable.key?, found, Option.map_some, Option.getD_some] at renamed
    rw [← same, renamed, ← t_name, decide_eq_decide]
    exact ⟨fun keys => congrArg _ (resolved.key_inj t_member member keys),
      fun names => congrArg _ (resolved.name_inj t_member member names)⟩
  rw [Program.code?, Program.code?, Program.rename, Program.codes_map, List.find?_map,
    ← List.head?_filter, ← List.head?_filter]
  have filtered : program.codes.filter ((fun (o, _) => decide (o.name = s.key)) ∘
      Prod.map (·.rename (table.renaming program.analyze))
        (Code.map (·.rename (table.renaming program.analyze)))) =
        program.codes.filter (fun (o, _) => o.name = s.name) :=
    List.filter_congr keyed
  rw [filtered, Option.map_map, Option.map_map]
  rfl

end ScopeAnalysis.Resolved

/-- Keys list what occurs free in the code of a symbol: they are the keys of the other symbols whose
names occur free in the renamed code, each once; what else occurs free there is the symbol itself,
or a global that occurred free in the code before. -/
structure ListsFree (table : SymbolTable) (declared : List Text) (s : ResolvedSymbol)
    (before renamed : Code) (keys : List Text) : Prop where
  nodup : keys.Nodup
  not_self : s.key ∉ keys
  mem_iff : ∀ key, key ∈ keys ↔
    ∃ t ∈ table.symbols, t ≠ s ∧ t.key = key ∧ t.reference ∈ renamed.freeNames
  others : ∀ n ∈ renamed.freeNames, (∀ t ∈ table.symbols, t ≠ s → t.reference ≠ n) →
    n = s.reference ∨ n ∈ before.freeNames ∧ n ∉ declared

/-- The dependencies of every symbol of a compiled module list what occurs free in its code. -/
theorem compile_dependencies_iff_free [Serializer] {options : Options} {program : Program Text}
    {compiled : Compiled} (success : compile options program = .ok compiled) :
    let module := program.label.withoutExports
    let renamed := module.rename (compiled.table.renaming module.analyze)
    renamed.describe compiled.table compiled.graph options.policy = .ok compiled.descriptor ∧
      (∀ entry ∈ module.codes, ∃ s ∈ compiled.table.symbols, s.name = entry.1.name) ∧
      ∀ s ∈ compiled.table.symbols, ∃ before after,
        module.code? s.name = some before ∧ renamed.code? s.key = some after ∧
        ListsFree compiled.table module.names s before after
          (compiled.graph.dependenciesOf s.key) := by
  intro module renamed
  obtain ⟨exports, valid, -, success, linked, described⟩ := compile_eq_ok success
  have resolved := ScopeAnalysis.resolve_resolved success
  have numbered : module.Numbered := Program.withoutExports_numbered program.label_numbered
  have only : module.DeclaresOnly := Program.declaresOnly_of_validate valid
  refine ⟨described, fun entry listed => ?_, fun s member => ?_⟩
  · have defined : entry.1 ∈ module.definitions.map Definition.occurrence :=
      Program.codes_names only ▸ List.mem_map_of_mem listed
    obtain ⟨d, d_member, same⟩ := List.mem_map.mp defined
    obtain ⟨s, s_member, named, -⟩ :=
      resolved.exists_get? (module.symbols_groups.covers d d_member)
    exact ⟨s, s_member, named.trans (congrArg _ same)⟩
  obtain ⟨⟨o, before⟩, found⟩ := resolved.exists_code only member
  have found_mem : (o, before) ∈ module.codes.filter (fun (o, _) => o.name = s.name) :=
    found ▸ List.mem_singleton_self _
  obtain ⟨listed, named⟩ := List.mem_filter.mp found_mem
  have o_name : o.name = s.name := of_decide_eq_true named
  have unique : ∀ entry ∈ module.codes, entry.1.name = o.name → entry.2 = before := by
    intro entry entry_listed same
    have again : entry ∈ module.codes.filter (fun (o, _) => o.name = s.name) :=
      List.mem_filter.mpr ⟨entry_listed, decide_eq_true (same.trans o_name)⟩
    rw [found, List.mem_singleton] at again
    rw [again]
  have code : module.code? s.name = some before := by
    rw [Program.code?, ← List.head?_filter, found]
    rfl
  have edges := resolved.mem_dependenciesOf linked member
  have free := fun t (t_member : t ∈ compiled.table.symbols) =>
    resolved.reference_mem_freeNames numbered listed unique t_member
  rw [o_name] at free
  have renamed_code : renamed.code? s.key =
      some (before.map (·.rename (compiled.table.renaming module.analyze))) := by
    rw [resolved.code?_rename only numbered member, code, Option.map_some]
  refine ⟨before, _, code, renamed_code, edges.1, fun self => ?_, fun key => ?_,
    fun n free_n others => ?_⟩
  · obtain ⟨t, t_member, differs, same, -⟩ := (edges.2 s.key).mp self
    exact differs (resolved.key_inj t_member member same)
  · rw [edges.2 key]
    exact exists_congr fun t => and_congr_right fun t_member => by rw [free t t_member]
  · rcases (resolved.mem_freeNames_rename numbered listed unique).mp free_n with
      ⟨t, t_member, same, -⟩ | global
    · by_cases itself : t = s
      · exact .inl (itself ▸ same.symm)
      · exact (others t t_member itself same).elim
    · exact .inr global

/-- A module with a parameter that hides a symbol, a symbol that refers to itself, and a global. -/
def callingModule : Program Text :=
  ⟨[.exportDeclaration (.function "f" ["g"] [.return (some (.call (.identifier "h")
      [.identifier "g", .identifier "f", .identifier "print"]))]),
    .declaration (.variables .var [.mk "h" (some (.function none []
      [.return (some (.call (.identifier "g") []))])), .mk "g" none])]⟩

theorem callingModule_dependencies :
    ∃ compiled, compile { style := .emscripten } callingModule = .ok compiled ∧
      compiled.graph = ([("f", ["$unnamed_h"]), ("$unnamed_h", ["$unnamed_g"]),
        ("$unnamed_g", [])] : List (Text × List Text)) ∧
      ∀ s ∈ compiled.table.symbols, ∃ before after,
        callingModule.label.withoutExports.code? s.name = some before ∧
        ListsFree compiled.table ["f", "h", "g"] s before after
          (compiled.graph.dependenciesOf s.key) := by
  have graph : (compile { style := .emscripten } callingModule).map Compiled.graph =
      .ok ([("f", ["$unnamed_h"]), ("$unnamed_h", ["$unnamed_g"]),
        ("$unnamed_g", [])] : List (Text × List Text)) := by decide +kernel
  cases success : compile { style := .emscripten } callingModule with
  | error e => rw [success] at graph; cases graph
  | ok compiled =>
    rw [success] at graph
    refine ⟨compiled, rfl, Except.ok.inj graph, fun s member => ?_⟩
    have names : callingModule.label.withoutExports.names = (["f", "h", "g"] : List Text) := by
      decide +kernel
    obtain ⟨before, after, code, -, lists⟩ := (compile_dependencies_iff_free success).2.2 s member
    exact ⟨before, after, code, names ▸ lists⟩

end LibraryDescriptor
