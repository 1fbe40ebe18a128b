import LibraryDescriptor.Proofs.Descriptor.Validation

/-!
# Rejecting and deferring

A module that is compiled where no initializer may be deferred has the same descriptor where they
may. What is deferred then are the variables whose initializers are impure in the source.

* `Statement.entries_policy`, `compile_policy` — without impure initializers the policy does not
  matter.
* `Compiled.Defers` — a variable is assigned later.
* `compile_declarator` — the entries of a variable, by its symbol.
* `policies_agree` — the two policies on one module.
-/

namespace LibraryDescriptor

open Descriptor

theorem Program.withoutExports_declarators {ν : Type} (program : Program ν) :
    program.withoutExports.declarators = program.declarators := by
  obtain ⟨body⟩ := program
  simp only [Program.declarators, Program.withoutExports]
  induction body with
  | nil => rfl
  | cons s ss ih =>
    rw [List.filterMap_cons, List.flatMap_cons, ← ih]
    cases s <;> rfl

/-! ## Pure initializers -/

section Pure

variable {table : SymbolTable} {p q : InitializerPolicy}

theorem Declarator.entries_policy {d : Declarator Occurrence} (pure : d.isPure = true) :
    d.entries table p = d.entries table q := by
  obtain ⟨name, _ | init⟩ := d
  · rfl
  · have pure : init.isPure = true := pure
    simp [Declarator.entries, Declarator.init, pure]

theorem Statement.entries_policy {s : Statement Occurrence}
    (pure : ∀ d ∈ s.declarators, d.isPure = true) : s.entries table p = s.entries table q := by
  cases s with
  | declaration value =>
    cases value with
    | function => rfl
    | «variables» kind declarators =>
      have same : declarators.mapM (Declarator.entries table p) =
          declarators.mapM (Declarator.entries table q) :=
        mapM_congr fun d member => Declarator.entries_policy (pure d member)
      rw [Statement.entries, Statement.entries, same]
  | _ => rfl

/-- Without impure initializers a module is compiled in the same way under each policy. -/
theorem compile_policy [Serializer] {options : Options} {program : Program Text}
    {compiled : Compiled}
    (pure : ∀ d ∈ program.label.declarators, d.isPure = true)
    (success : compile { options with policy := p } program = .ok compiled) :
    compile { options with policy := q } program = .ok compiled := by
  obtain ⟨exports, valid, exported, resolved, linked, described⟩ := compile_eq_ok success
  have valid' : program.label.validate q = .ok () :=
    Program.validate_eq_ok.mpr ⟨(Program.validate_eq_ok.mp valid).1, fun d member =>
      .inl (pure d member)⟩
  have entries : ∀ f : Occurrence → Occurrence,
      (program.label.withoutExports.map f).entries compiled.table p =
        (program.label.withoutExports.map f).entries compiled.table q := by
    intro f
    rw [Program.entries, Program.entries, Program.body_map]
    refine congrArg (· >>= _) (mapM_congr fun s member =>
      Statement.entries_policy fun d inside => ?_)
    obtain ⟨source, source_member, rfl⟩ := List.mem_map.mp member
    rw [Statement.declarators_map] at inside
    obtain ⟨declarator, declared, rfl⟩ := List.mem_map.mp inside
    rw [Declarator.isPure_map]
    refine pure declarator ?_
    rw [← Program.withoutExports_declarators]
    exact List.mem_flatMap.mpr ⟨source, source_member, declared⟩
  refine bind_eq_ok.mpr ⟨⟨⟩, valid', bind_eq_ok.mpr ⟨_, exported, bind_eq_ok.mpr ⟨_, resolved,
    bind_eq_ok.mpr ⟨_, linked, bind_eq_ok.mpr ⟨_, ?_, rfl⟩⟩⟩⟩⟩
  rw [← described, Program.describe, Program.describe, Program.rename, entries]

end Pure

/-! ## Deferred variables -/

/-- The new names that a compiled module gives to the occurrences of its source. -/
def Compiled.rename (compiled : Compiled) (program : Program Text) (o : Occurrence) : Occurrence :=
  o.rename (compiled.table.renaming program.label.withoutExports.analyze)

/-- The entries of a variable that is assigned later. -/
def deferral (key text : Text) : List (Property Occurrence) :=
  [entry key voidZero, entry (key ++ postsetSuffix) (stringExpression text)]

/-- A compiled module defers a variable of its source: the entries of the renamed declarator are
`void 0` and the text of an assignment. -/
def Compiled.Defers (compiled : Compiled) (program : Program Text) (d : Declarator Occurrence)
    (text : Text) : Prop :=
  (d.map (compiled.rename program)).entries compiled.table .postset =
    .ok (deferral (compiled.rename program d.name).name text)

theorem Program.DeclaresOnly.mem_codes {program : Program Occurrence} (only : program.DeclaresOnly)
    {d : Declarator Occurrence} (member : d ∈ program.declarators) :
    (d.name, Code.value d.init) ∈ program.codes := by
  obtain ⟨s, s_member, inside⟩ := List.mem_flatMap.mp member
  obtain ⟨declared, rfl⟩ := only s s_member
  refine List.mem_flatMap.mpr ⟨_, s_member, ?_⟩
  cases declared with
  | function => cases inside
  | «variables» => exact List.mem_map_of_mem inside

theorem Program.DeclaresOnly.exists_entries {program : Program Occurrence}
    (only : program.DeclaresOnly) {table : SymbolTable} {policy : InitializerPolicy}
    {f : Occurrence → Occurrence} {entries : List (Property Occurrence)}
    (success : (program.map f).entries table policy = .ok entries) {d : Declarator Occurrence}
    (member : d ∈ program.declarators) : ∃ group, (d.map f).entries table policy = .ok group := by
  obtain ⟨s, s_member, inside⟩ := List.mem_flatMap.mp member
  obtain ⟨declared, rfl⟩ := only s s_member
  obtain ⟨parts, mapped, -⟩ := bind_eq_ok.mp success
  rw [Program.body_map] at mapped
  obtain ⟨part, -, done⟩ := mapM_ok_exists mapped (List.mem_map_of_mem s_member)
  cases declared with
  | function => cases inside
  | «variables» kind declarators =>
    obtain ⟨groups, each, -⟩ := bind_eq_ok.mp done
    rw [Declarator.mapList_eq_map] at each
    obtain ⟨group, -, found⟩ := mapM_ok_exists each (List.mem_map_of_mem inside)
    exact ⟨group, found⟩

/-- The entries of a variable are those of its symbol. -/
theorem compile_declarator [Serializer] {options : Options} {program : Program Text}
    {compiled : Compiled}
    (success : compile options program = .ok compiled) {d : Declarator Occurrence}
    (member : d ∈ program.label.declarators) :
    ∃ s ∈ compiled.table.symbols, s.name = d.name.name ∧
      (compiled.rename program d.name).name = s.key ∧
      program.label.code? s.name = some (.value d.init) ∧
      ∃ group, (d.map (compiled.rename program)).entries compiled.table options.policy = .ok group ∧
        s.Entries options.policy (compiled.rename program) (.value d.init) group := by
  obtain ⟨exports, valid, -, success, -, described⟩ := compile_eq_ok success
  have resolved := ScopeAnalysis.resolve_resolved success
  have numbered := Program.withoutExports_numbered program.label_numbered
  have only := Program.declaresOnly_of_validate valid
  rw [← Program.withoutExports_declarators] at member
  have listed := only.mem_codes member
  have named : d.name.name ∈ compiled.table.symbols.map ResolvedSymbol.name := by
    rw [resolved.names_eq_codes only]
    exact List.mem_map_of_mem (f := fun declared => declared.1.name) listed
  obtain ⟨s, s_member, named⟩ := List.mem_map.mp named
  have stands := resolved.standsFor numbered only s_member listed named
  have code := resolved.code?_eq only s_member listed named
  rw [Program.code?, Program.withoutExports_codes] at code
  obtain ⟨entries, found, -⟩ := bind_eq_ok.mp described
  obtain ⟨group, done⟩ := only.exists_entries found member
  exact ⟨s, s_member, named, stands.key, code, group, done, Declarator.entries_map done stands⟩

/-- The text of the assignment that a deferred variable gets. -/
structure Compiled.Assigns (compiled : Compiled) (program : Program Text)
    (d : Declarator Occurrence)
    (text : Text) : Prop where
  /-- The renamed initializer is assigned to the name by which code refers to the variable. -/
  written : ∃ init s, d.init = some init ∧ s ∈ compiled.table.symbols ∧ s.name = d.name.name ∧
    (Expression.assignment .assign (nameExpression s.reference)
      (init.map (compiled.rename program))).erase.print = .ok text
  /-- The entries of the variable stand side by side in the descriptor. -/
  described : ∃ before after, compiled.descriptor = ofEntries
    (before ++ deferral (compiled.rename program d.name).name text ++ after)

theorem Compiled.defers_iff [Serializer] {options : Options} {program : Program Text}
    {compiled : Compiled}
    (success : compile { options with policy := .postset } program = .ok compiled)
    {d : Declarator Occurrence} (member : d ∈ program.label.declarators) :
    (d.isPure = true ∧ ∀ text, ¬ compiled.Defers program d text) ∨
      d.isPure = false ∧ ∃ text, compiled.Assigns program d text ∧
        ∀ text', compiled.Defers program d text' ↔ text' = text := by
  obtain ⟨s, s_member, named, key, code, group, done, entries⟩ := compile_declarator success member
  obtain ⟨groups, related, descriptor⟩ := (compile_describes success).entries
  obtain ⟨group', group_member, code', same, entries'⟩ := forall₂_exists related s_member
  obtain rfl := Option.some.inj (code.symm.trans same)
  simp only [Compiled.Defers, key]
  have done : (d.map (compiled.rename program)).entries compiled.table .postset = .ok group := done
  rw [done]
  obtain ⟨name, init⟩ := d
  cases entries with
  | missing => exact .inl ⟨rfl, by simp [deferral]⟩
  | pure init pure => exact .inl ⟨pure, by simp [deferral]⟩
  | deferred init text impure _ written =>
    refine .inr ⟨impure, text, ⟨⟨init, s, rfl, s_member, named, written⟩, ?_⟩, fun text' => ?_⟩
    · cases entries' with
      | pure _ pure => exact absurd (impure.symm.trans pure) Bool.false_ne_true
      | deferred _ text' _ _ written' =>
        obtain rfl := Except.ok.inj (written'.symm.trans written)
        obtain ⟨before, after, rfl⟩ := List.append_of_mem group_member
        rw [descriptor, key]
        exact ⟨before.flatten, _, by simp [deferral]; rfl⟩
    · simp [deferral, entry, stringExpression, eq_comm]

/-- A module is compiled where no initializer may be deferred exactly if it is compiled without
deferring one where they may, and to the same. Those deferred are the impure ones of the source. -/
theorem policies_agree [Serializer] (options : Options) (program : Program Text) :
    (∀ compiled, compile { options with policy := .reject } program = .ok compiled ↔
      compile { options with policy := .postset } program = .ok compiled ∧
        ∀ d ∈ program.label.declarators, ∀ text, ¬ compiled.Defers program d text) ∧
    ∀ compiled, compile { options with policy := .postset } program = .ok compiled →
      ∀ d ∈ program.label.declarators,
        ((∃ text, compiled.Defers program d text) ↔ d.isPure = false) ∧
        ∀ text, compiled.Defers program d text → compiled.Assigns program d text := by
  refine ⟨fun compiled => ⟨fun success => ?_, fun ⟨success, undeferred⟩ => ?_⟩, ?_⟩
  · obtain ⟨_, valid, -⟩ := compile_eq_ok success
    have pure : ∀ d ∈ program.label.declarators, d.isPure = true := fun d member =>
      ((Program.validate_eq_ok.mp valid).2 d member).resolve_right nofun
    have success' := compile_policy (q := .postset) pure success
    refine ⟨success', fun d member => ?_⟩
    rcases Compiled.defers_iff success' member with ⟨-, none⟩ | ⟨impure, -⟩
    · exact none
    · exact absurd (impure.symm.trans (pure d member)) Bool.false_ne_true
  · refine compile_policy (fun d member => ?_) success
    rcases Compiled.defers_iff success member with ⟨pure, -⟩ | ⟨-, text, -, defers⟩
    · exact pure
    · exact absurd ((defers text).mpr rfl) (undeferred d member text)
  · intro compiled success d member
    rcases Compiled.defers_iff success member with ⟨pure, none⟩ | ⟨impure, text, assigns, defers⟩
    · refine ⟨⟨fun ⟨text, deferred⟩ => absurd deferred (none text), fun impure => ?_⟩,
        fun text deferred => absurd deferred (none text)⟩
      exact absurd (impure.symm.trans pure) Bool.false_ne_true
    · exact ⟨⟨fun _ => impure, fun _ => ⟨text, (defers text).mpr rfl⟩⟩,
        fun text' deferred => (defers text').mp deferred ▸ assigns⟩

/-- A module whose variables have pure values or none. -/
def settledModule : Program Text :=
  ⟨[.exportDeclaration (.variables .let [.mk "g" (some (.function none [] [])), .mk "h" none])]⟩

theorem deferringModule_policies :
    (∃ compiled, compile { policy := .postset } deferringModule = .ok compiled ∧
      deferringModule.label.declarators.map Declarator.isPure = [true, true, false] ∧
      ∀ d ∈ deferringModule.label.declarators,
        ((∃ text, compiled.Defers deferringModule d text) ↔ d.isPure = false) ∧
        ∀ text, compiled.Defers deferringModule d text → compiled.Assigns deferringModule d text) ∧
    ∃ compiled, compile { policy := .reject } settledModule = .ok compiled ∧
      compile { policy := .postset } settledModule = .ok compiled ∧
      ∀ d ∈ settledModule.label.declarators, ∀ text, ¬ compiled.Defers settledModule d text := by
  have compiles : (compile { policy := .postset } deferringModule).toOption.isSome = true ∧
      (compile { policy := .reject } settledModule).toOption.isSome = true := by
    decide +kernel
  constructor
  · cases success : compile { policy := .postset } deferringModule with
    | error e =>
      rw [success] at compiles
      cases compiles.1
    | ok compiled => exact ⟨compiled, rfl, by decide, (policies_agree {} _).2 compiled success⟩
  · cases success : compile { policy := .reject } settledModule with
    | error e =>
      rw [success] at compiles
      cases compiles.2
    | ok compiled => exact ⟨compiled, rfl, ((policies_agree {} _).1 compiled).mp success⟩

end LibraryDescriptor
