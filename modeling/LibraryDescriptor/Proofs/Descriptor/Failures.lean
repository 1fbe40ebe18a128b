import LibraryDescriptor.Proofs.Descriptor.Validation
import LibraryDescriptor.Proofs.Parser.Soundness
import LibraryDescriptor.Proofs.Printer.Renamed
import LibraryDescriptor.Proofs.Symbol.Clashes
import LibraryDescriptor.Proofs.Syntax.Relabeling

/-!
# How compilation fails

A module that was parsed is rejected for a statement or an initializer, or its names collide, or it
exports what it does not declare. No later stage fails: references are to symbols of the table, the
statements that are left are declarations, and every initializer can be printed.

* `Rejected.exists_print` — a rejected piece of a parsed module can be printed.
* `ScopeAnalysis.Resolved.exists_dependencies`, `Program.exists_entries` — the later stages succeed.
* `compile_fails_only` — a parsed module fails for a reason in the module, or because the serializer
  refuses the piece to be shown.
-/

namespace LibraryDescriptor

open Descriptor

/-! ## Printing succeeds -/

theorem Expression.Prints.exists_print {e : Expression Text} (prints : e.Prints) :
    ∃ text, e.print = .ok text := by
  refine ⟨(e.pieces 0 false).text, ?_⟩
  change ((e.layout 0 >>= fun written => pure written.1 : Printer Layout) false >>= _) = _
  rw [Printer.bind_ok (prints 0 false)]
  rfl

theorem Statement.Prints.exists_print {s : Statement Text} (prints : s.Prints) :
    ∃ text, s.print = .ok text := by
  refine ⟨(s.pieces 0 false).text, ?_⟩
  change (s.layout 0 false >>= _) = _
  rw [prints]
  rfl

theorem Declarator.Prints.exists_print {d : Declarator Text} (prints : d.Prints) :
    ∃ text, d.print = .ok text := by
  refine ⟨(d.pieces 0 false).text, ?_⟩
  change (d.layout 0 false >>= _) = _
  rw [prints]
  rfl

/-- The variables of a module item are those of the grammar. -/
theorem Statement.IsItem.grammatical_declarator {s : Statement Text} (item : s.IsItem)
    {d : Declarator Text} (member : d ∈ s.declarators) : d.Grammatical := by
  have declared : ∀ {value : Declaration Text}, value.Grammatical → d ∈ value.declarators →
      d.Grammatical := by
    intro value grammatical listed
    match value, grammatical with
    | .function _ _ _, _ => exact nomatch listed
    | .variables _ _, .variables _ _ each => exact each d listed
  cases item with
  | statement grammatical =>
    cases grammatical with
    | declaration value => exact declared value member
    | _ => exact nomatch member
  | exportDeclaration value => exact declared value member
  | exportList => exact nomatch member
  | importList => exact nomatch member

theorem Rejected.exists_print {policy : InitializerPolicy} {program : Program Text}
    (items : ∀ s ∈ program.body, s.IsItem) {piece : Rejected}
    (rejected : program.rejected? policy = some piece) : ∃ text, piece.print = .ok text := by
  obtain ⟨s, member, rejected⟩ := List.exists_of_findSome?_eq_some rejected
  rw [Statement.rejected?] at rejected
  split at rejected
  · obtain ⟨d, listed, rejected⟩ := List.exists_of_findSome?_eq_some rejected
    split at rejected
    · cases rejected
    · obtain rfl := Option.some.inj rejected
      exact ((items s member).grammatical_declarator listed).prints.exists_print
  · obtain rfl := Option.some.inj rejected
    exact (items s member).prints.exists_print

/-! ## Dependencies are found -/

theorem Program.DeclaresOnly.own {program : Program Occurrence} (only : program.DeclaresOnly) :
    ∀ d ∈ program.definitions, d.kind ≠ .imported := by
  intro d member
  obtain ⟨s, listed, member⟩ := List.mem_flatMap.mp member
  obtain ⟨value, rfl⟩ := only s listed
  match value with
  | .function _ _ _ =>
    obtain rfl := List.mem_singleton.mp member
    simp
  | .variables _ _ =>
    obtain ⟨_, -, rfl⟩ := List.mem_map.mp member
    simp

theorem Reference.dependency?_of_get? {table : SymbolTable} {r : Reference} {owner : Text}
    (owned : r.owner = some owner) {source target : ResolvedSymbol}
    (source_found : table.get? owner = some source)
    (target_found : table.get? r.symbol = some target) :
    r.dependency? table = .ok (if owner = r.symbol then none else some (source, target)) := by
  rw [Reference.dependency?, owned]
  simp only [source_found, target_found]

namespace ScopeAnalysis.Resolved

variable {program : Program Occurrence} {exports : ExportMap} {options : Options}
  {table : SymbolTable} (resolved : program.analyze.Resolved exports options table)
  (only : program.DeclaresOnly)

include resolved only

theorem exists_get?_of_code {declared : Occurrence × Code} (listed : declared ∈ program.codes) :
    ∃ s ∈ table.symbols, s.name = declared.1.name ∧ table.get? declared.1.name = some s := by
  have defined : declared.1 ∈ program.definitions.map Definition.occurrence :=
    Program.codes_names only ▸ List.mem_map_of_mem listed
  obtain ⟨d, d_member, same⟩ := List.mem_map.mp defined
  exact resolved.exists_get? (same ▸ program.symbols_groups.covers d d_member)

/-- Each reference is in the code of a symbol, and to one. -/
theorem exists_dependencies :
    ∃ graph, program.analyze.dependencies table = .ok graph := by
  have each : ∀ r ∈ program.analyze.references, ∃ pair, r.dependency? table = .ok pair := by
    intro r member
    obtain ⟨u, u_member, refers, rfl⟩ := Program.mem_references.mp member
    obtain ⟨owner, use⟩ := u
    obtain ⟨target, -, -, target_found⟩ := resolved.exists_get? refers.2
    cases owner with
    | none => exact ⟨none, rfl⟩
    | some owner =>
      obtain ⟨o, code, listed, rfl, -⟩ := program.mem_ownedUses_iff.mp u_member
      obtain ⟨source, -, -, source_found⟩ := resolved.exists_get?_of_code only listed
      exact ⟨_, Reference.dependency?_of_get? rfl source_found target_found⟩
  obtain ⟨found, mapped⟩ := mapM_ok_of_forall each
  exact ⟨_, bind_eq_ok.mpr ⟨found, mapped, rfl⟩⟩

end ScopeAnalysis.Resolved

/-! ## Entries are found -/

/-- A variable whose initializer can be an entry: it is pure or may be deferred, the table has the
symbol that it is assigned to, and it can be printed. -/
structure Declarator.Describable (d : Declarator Occurrence) (table : SymbolTable)
    (policy : InitializerPolicy) (f : Occurrence → Occurrence) : Prop where
  accepted : d.isPure = true ∨ policy = .postset
  found : ∃ s, table.byKey? (f d.name).name = some s
  grammatical : d.erase.Grammatical

section Entries

variable {table : SymbolTable} {policy : InitializerPolicy} {f : Occurrence → Occurrence}

theorem Declarator.Describable.exists_entries {d : Declarator Occurrence}
    (describable : d.Describable table policy f) :
    ∃ group, (d.map f).entries table policy = .ok group := by
  obtain ⟨accepted, ⟨s, found⟩, grammatical⟩ := describable
  obtain ⟨name, _ | init⟩ := d
  · exact ⟨_, rfl⟩
  have same : (init.map f).isPure = init.isPure := Expression.isPure_map f init
  by_cases pure : init.isPure = true
  · refine ⟨[entry (f name).name (init.map f)], ?_⟩
    simp only [Declarator.entries, Declarator.map, Declarator.init, Declarator.name, same, pure]
    rfl
  · have deferred : policy = .postset := accepted.resolve_left pure
    have prints : (init.map f).erase.Prints := by
      cases grammatical with
      | mk _ each =>
        rw [Expression.erase, Expression.map_map]
        exact Expression.prints_map Occurrence.name _ init (each _ rfl)
    -- The target of the assignment is a name, which is always printed.
    obtain ⟨text, written⟩ := Expression.Prints.exists_print
      (Expression.Prints.assignment .identifier prints : (Expression.assignment .assign
        (.identifier s.reference) (init.map f).erase).Prints)
    have written : (Expression.assignment .assign (nameExpression s.reference)
        (init.map f)).erase.print = .ok text := written
    have found : table.byKey? (f name).name = some s := found
    refine ⟨[entry (f name).name voidZero,
      entry ((f name).name ++ postsetSuffix) (stringExpression text)], ?_⟩
    simp only [Declarator.entries, Declarator.map, Declarator.init, Declarator.name, same, pure,
      deferred, found, written]
    rfl

theorem Program.exists_entries {program : Program Occurrence} (only : program.DeclaresOnly)
    (each : ∀ s ∈ program.body, ∀ d ∈ s.declarators, d.Describable table policy f) :
    ∃ entries, (program.map f).entries table policy = .ok entries := by
  have statements : ∀ s ∈ (program.map f).body, ∃ part, s.entries table policy = .ok part := by
    intro s member
    rw [Program.body_map] at member
    obtain ⟨t, t_member, rfl⟩ := List.mem_map.mp member
    obtain ⟨value, rfl⟩ := only t t_member
    match value with
    | .function _ _ _ => exact ⟨_, rfl⟩
    | .variables kind declarators =>
      have groups : ∀ d ∈ Declarator.mapList f declarators,
          ∃ group, d.entries table policy = .ok group := by
        intro d listed
        rw [Declarator.mapList_eq_map] at listed
        obtain ⟨source, in_source, rfl⟩ := List.mem_map.mp listed
        exact (each _ t_member source in_source).exists_entries
      obtain ⟨groups, mapped⟩ := mapM_ok_of_forall groups
      exact ⟨_, bind_eq_ok.mpr ⟨groups, mapped, rfl⟩⟩
  obtain ⟨parts, mapped⟩ := mapM_ok_of_forall statements
  exact ⟨_, bind_eq_ok.mpr ⟨parts, mapped, rfl⟩⟩

end Entries

/-! ## Failures of parsed modules -/

/-- Whether an error is about what a module says: a statement or an initializer that cannot be in a
descriptor, names that collide, or an export of nothing. -/
def CompileError.isAboutModule : CompileError → Bool
  | .unsupportedStatement _ | .impureInitializer _ _ | .collision _ | .unresolvedExport _ => true
  | .inconsistency _ | .unprintable _ | .undescribable => false

theorem Rejected.isAboutModule_error (piece : Rejected) (excerpt : Excerpt) :
    (piece.error excerpt).isAboutModule = true := by
  cases piece <;> rfl

section Compile

variable {options : Options} {program : Program Text}

theorem compile_of_rejected [Serializer] {piece : Rejected}
    (rejected : program.rejected? options.policy = some piece) :
    compile options program = .error piece.refusal := by
  have failed := program.validate_label options.policy
  rw [rejected] at failed
  exact bind_eq_error.mpr (.inl failed)

/-- What is declared in a module that is not rejected can be an entry. -/
theorem Program.describable_of_accepted (items : ∀ s ∈ program.body, s.IsItem)
    (accepted : program.rejected? options.policy = none)
    {exports : ExportMap} {table : SymbolTable} (only : program.label.withoutExports.DeclaresOnly)
    (resolved : program.label.withoutExports.analyze.Resolved exports options table) :
    ∀ s ∈ program.label.withoutExports.body, ∀ d ∈ s.declarators,
      d.Describable table options.policy
        (·.rename (table.renaming program.label.withoutExports.analyze)) := by
  intro s member d listed
  have numbered := Program.withoutExports_numbered program.label_numbered
  -- The statement of the source that declares the variable.
  obtain ⟨t, t_member, kept⟩ := List.mem_filterMap.mp member
  have source : t.erase ∈ program.body := by
    rw [← program.label_erase]
    exact Program.erase_mem_body t_member
  have same : t.declarators = s.declarators := by
    cases t <;> cases kept <;> rfl
  have d_source : d.erase ∈ t.erase.declarators := by
    rw [Statement.erase, Statement.declarators_map, same]
    exact List.mem_map_of_mem listed
  have coded : (d.name, Code.value d.init) ∈ program.label.withoutExports.codes := by
    refine List.mem_flatMap.mpr ⟨s, member, ?_⟩
    obtain ⟨value, rfl⟩ := only s member
    rcases value with ⟨_, _, _⟩ | ⟨_, _⟩
    · cases listed
    · exact List.mem_map.mpr ⟨d, listed, rfl⟩
  obtain ⟨symbol, in_table, named, -⟩ := resolved.exists_get?_of_code only coded
  have stands := resolved.standsFor numbered only in_table coded named
  refine ⟨?_, ⟨symbol, stands.key ▸ stands.found⟩, (items _ source).grammatical_declarator d_source⟩
  have fits := List.findSome?_eq_none_iff.mp accepted _ source
  rw [Statement.rejected?] at fits
  split at fits
  · have fits := List.findSome?_eq_none_iff.mp fits _ d_source
    rw [Declarator.erase, Declarator.isPure_map] at fits
    simpa [or_iff_not_imp_left] using fits
  · cases fits

/-- Once a parsed module is not rejected, only its names and exports can stand against it. -/
theorem compile_eq_error [Serializer] (items : ∀ s ∈ program.body, s.IsItem)
    (accepted : program.rejected? options.policy = none) {e : CompileError}
    (failed : compile options program = .error e) :
    (∃ cause, e = .collision cause) ∨ ∃ name, e = .unresolvedExport name := by
  have valid := Program.validate_label_eq_ok.mpr accepted
  have only := Program.declaresOnly_of_validate valid
  rcases bind_eq_error.mp failed with failed | ⟨⟨⟩, -, failed⟩
  · rw [valid] at failed
    cases failed
  rcases bind_eq_error.mp failed with failed | ⟨⟨exports, module⟩, exported, failed⟩
  · rcases bind_eq_error.mp failed with failed | ⟨_, -, failed⟩
    · exact .inl (ExportMap.ofPairs_eq_error failed)
    · cases failed
  obtain ⟨_, -, same⟩ := bind_eq_ok.mp exported
  obtain rfl := congrArg Prod.snd (pure_eq_ok.mp same)
  rcases bind_eq_error.mp failed with failed | ⟨table, success, failed⟩
  · exact Program.resolve_eq_error only.own failed
  -- From here on every stage succeeds.
  have resolved := ScopeAnalysis.resolve_resolved success
  obtain ⟨graph, linked⟩ := resolved.exists_dependencies only
  obtain ⟨entries, listed⟩ := Program.exists_entries only
    (Program.describable_of_accepted items accepted only resolved)
  rcases bind_eq_error.mp failed with failed | ⟨graph', -, failed⟩
  · rw [linked] at failed
    cases failed
  rcases bind_eq_error.mp failed with failed | ⟨_, -, failed⟩
  · rcases bind_eq_error.mp failed with failed | ⟨_, -, failed⟩
    · cases failed.symm.trans listed
    · cases failed
  · cases failed

/-- The error for a rejected piece cannot be made if the serializer refuses the piece. -/
theorem compile_of_refused [Serializer] (items : ∀ s ∈ program.body, s.IsItem) {piece : Rejected}
    (rejected : program.rejected? options.policy = some piece)
    (refused : Serializer.describe? piece.outline = none) :
    compile options program = .error .undescribable := by
  obtain ⟨text, printed⟩ := Rejected.exists_print items rejected
  rw [compile_of_rejected rejected, Rejected.refusal_of_refused printed refused]

theorem isAboutModule_or_refused [Serializer] (items : ∀ s ∈ program.body, s.IsItem)
    {e : CompileError} (failed : compile options program = .error e) :
    e.isAboutModule = true ∨ e = .undescribable ∧ ∃ piece,
      program.rejected? options.policy = some piece ∧
        Serializer.describe? piece.outline = none := by
  cases rejected : program.rejected? options.policy with
  | none =>
    -- Nothing is rejected, so nothing has to be shown.
    obtain ⟨cause, rfl⟩ | ⟨name, rfl⟩ := compile_eq_error items rejected failed
    · exact .inl rfl
    · exact .inl rfl
  | some piece =>
    cases described : Serializer.describe? piece.outline with
    | none =>
      rw [compile_of_refused items rejected described] at failed
      exact .inr ⟨(Except.error.inj failed).symm, piece, rfl, described⟩
    | some description =>
      obtain ⟨text, printed⟩ := Rejected.exists_print items rejected
      rw [compile_of_rejected rejected, Rejected.refusal_of_described printed described] at failed
      obtain rfl := Except.error.inj failed
      exact .inl (piece.isAboutModule_error _)

end Compile

/-- A module with a lone surrogate in a pure value, and an initializer that calls a function. -/
def impureSource : Text := "export var s = '\\uD800'; var x = f(s);"

/-- A module whose only statement declares nothing, and holds a lone surrogate. -/
def surrogateSource : Text := "'\\uD800';"

theorem surrogateSource_rejected :
    ∃ program piece, parse surrogateSource = .ok program ∧
      program.rejected? .reject = some piece ∧ piece.outline.HasSurrogate := by
  have found : (parse surrogateSource).toOption.map (fun program =>
      (program.rejected? .reject).map fun piece => piece.outline.texts.any Text.hasSurrogate) =
      some (some true) := by
    decide +kernel
  cases parsed : parse surrogateSource with
  | error e =>
    rw [parsed] at found
    cases found
  | ok program =>
    rw [parsed, Except.toOption, Option.map_some, Option.some_inj] at found
    obtain ⟨piece, rejected, lone⟩ := Option.map_eq_some_iff.mp found
    exact ⟨program, piece, rfl, rejected, List.any_eq_true.mp lone⟩

end LibraryDescriptor
