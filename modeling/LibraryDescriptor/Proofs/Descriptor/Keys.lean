import LibraryDescriptor.Proofs.Descriptor.Entries

/-!
# Keys of a descriptor

The entries of a descriptor stand under the keys of its symbols and under keys that are derived from
them: one for each deferred assignment and one for each list of dependencies. Symbols have different
keys, and so have derived entries, but a symbol may have the key of a derived entry.

* `Code.keys` — the keys of the entries that a symbol has by its code.
* `Compiled.derivedKeys` — the derived keys of a descriptor.
* `Compiled.derivedKeys_nodup` — they are pairwise distinct.
* `compile_keys_nodup_iff` — when all keys of a descriptor are.
-/

namespace LibraryDescriptor

open Descriptor

/-! ## Keys by code -/

def Code.isDeferred : Code → Bool
  | .function _ _ | .value none => false
  | .value (some init) => !init.isPure

def Code.keys (key : Text) (code : Code) : List Text :=
  key :: if code.isDeferred then [key ++ postsetSuffix] else []

def Descriptor.entriesOf (pairs : List (Text × Expression Occurrence)) :
    List (Property Occurrence) :=
  pairs.map fun (key, value) => entry key value

theorem Descriptor.entriesOf_append (pairs others : List (Text × Expression Occurrence)) :
    entriesOf (pairs ++ others) = entriesOf pairs ++ entriesOf others :=
  List.map_append

theorem ResolvedSymbol.Entries.exists_pairs {s : ResolvedSymbol} {policy : InitializerPolicy}
    {f : Occurrence → Occurrence} {code : Code} {group : List (Property Occurrence)}
    (made : s.Entries policy f code group) :
    ∃ pairs, group = entriesOf pairs ∧ pairs.map Prod.fst = code.keys s.key := by
  cases made with
  | function params body => exact ⟨[(s.key, _)], rfl, rfl⟩
  | missing => exact ⟨[(s.key, _)], rfl, rfl⟩
  | pure init pure => exact ⟨[(s.key, _)], rfl, by simp [Code.keys, Code.isDeferred, pure]⟩
  | deferred init text impure postset written =>
    exact ⟨[(s.key, _), (s.key ++ postsetSuffix, _)], rfl,
      by simp [Code.keys, Code.isDeferred, impure]⟩

/-! ## Keys of a table -/

def Compiled.keys (compiled : Compiled) : List Text :=
  compiled.table.symbols.map ResolvedSymbol.key

/-- Whether a module gives a name a value that is assigned later. -/
def Program.defers (program : Program Text) (name : Text) : Bool :=
  (program.label.code? name).any Code.isDeferred

def Compiled.deferring (compiled : Compiled) (program : Program Text) : List ResolvedSymbol :=
  compiled.table.symbols.filter fun s => program.defers s.name

def Compiled.depending (compiled : Compiled) : List ResolvedSymbol :=
  compiled.table.symbols.filter fun s => compiled.graph.dependenciesOf s.key ≠ []

def Compiled.derivedKeys (compiled : Compiled) (program : Program Text) : List Text :=
  (compiled.deferring program).map (·.key ++ postsetSuffix) ++
    compiled.depending.map (·.key ++ depsSuffix)

/-- A deferred assignment never stands under the key of a list of dependencies: the two suffixes end
in different letters. -/
theorem append_postsetSuffix_ne (a b : Text) : a ++ postsetSuffix ≠ b ++ depsSuffix := by
  intro same
  have last := congrArg List.getLast? same
  rw [List.getLast?_append, List.getLast?_append] at last
  revert last
  simp only [show postsetSuffix.getLast? = some (.scalar 't') by decide,
    show depsSuffix.getLast? = some (.scalar 's') by decide, Option.some_or]
  decide

theorem nodup_suffixed {symbols : List ResolvedSymbol}
    (keys : (symbols.map ResolvedSymbol.key).Nodup) (keep : ResolvedSymbol → Bool) (suffix : Text) :
    ((symbols.filter keep).map (·.key ++ suffix)).Nodup := by
  have suffixed : (symbols.filter keep).map (·.key ++ suffix) =
      ((symbols.filter keep).map ResolvedSymbol.key).map (· ++ suffix) := by
    rw [List.map_map]
    rfl
  have kept : ((symbols.filter keep).map ResolvedSymbol.key).Nodup :=
    keys.sublist (List.filter_sublist.map _)
  rw [suffixed]
  exact kept.map (List.append_left_injective suffix)

theorem Compiled.derivedKeys_nodup {compiled : Compiled} (keys : compiled.keys.Nodup)
    (program : Program Text) : (compiled.derivedKeys program).Nodup := by
  refine List.nodup_append.mpr ⟨nodup_suffixed keys _ _, nodup_suffixed keys _ _, ?_⟩
  intro a deferred b listed
  obtain ⟨s, -, rfl⟩ := List.mem_map.mp deferred
  obtain ⟨t, -, rfl⟩ := List.mem_map.mp listed
  exact append_postsetSuffix_ne _ _

/-! ## Keys of a descriptor -/

section Groups

variable {program : Program Text} {policy : InitializerPolicy} {f : Occurrence → Occurrence}

/-- The keys of the entries of symbols are the keys of the symbols and those of the values that are
assigned later. -/
theorem exists_pairs_of_groups {symbols : List ResolvedSymbol}
    {groups : List (List (Property Occurrence))}
    (made : List.Forall₂ (fun s group => ∃ code, program.label.code? s.name = some code ∧
      s.Entries policy f code group) symbols groups) :
    ∃ pairs, groups.flatten = entriesOf pairs ∧
      (pairs.map Prod.fst).Perm (symbols.map ResolvedSymbol.key ++
        (symbols.filter fun s => program.defers s.name).map (·.key ++ postsetSuffix)) := by
  induction made with
  | nil => exact ⟨[], rfl, .refl _⟩
  | @cons s group symbols groups head tail ih =>
    obtain ⟨code, found, entries⟩ := head
    obtain ⟨firsts, rfl, first_keys⟩ := entries.exists_pairs
    obtain ⟨others, flat, other_keys⟩ := ih
    refine ⟨firsts ++ others, by rw [List.flatten_cons, flat, entriesOf_append], ?_⟩
    have defers : program.defers s.name = code.isDeferred := by simp [Program.defers, found]
    rw [List.map_append, first_keys, Code.keys, List.filter_cons, defers]
    cases code.isDeferred with
    | false => simpa using other_keys
    | true =>
      -- The key of the assignment moves behind the keys of the other symbols.
      simp only [↓reduceIte, List.map_cons, List.cons_append, List.nil_append]
      exact .cons _ ((other_keys.cons _).trans List.perm_middle.symm)

end Groups

theorem Compiled.dependencyEntries_pairs (compiled : Compiled) :
    ∃ pairs, compiled.table.dependencyEntries compiled.graph = entriesOf pairs ∧
      pairs.map Prod.fst = compiled.depending.map (·.key ++ depsSuffix) := by
  refine ⟨compiled.depending.map fun s => (s.key ++ depsSuffix,
    .array ((compiled.graph.dependenciesOf s.key).map fun key => some (stringExpression key))),
    ?_, ?_⟩
  · rw [SymbolTable.dependencyEntries_eq, entriesOf, List.map_map]
    rfl
  · rw [List.map_map]
    rfl

/-- A descriptor has the keys of its symbols and the derived ones, so its keys are pairwise distinct
exactly when no symbol has the key of a deferred assignment or of a list of dependencies. -/
theorem compile_keys_nodup_iff [Serializer] {options : Options} {program : Program Text}
    {compiled : Compiled}
    (success : compile options program = .ok compiled) :
    ∃ pairs : List (Text × Expression Occurrence),
      compiled.descriptor = Descriptor.ofEntries (entriesOf pairs) ∧
      (pairs.map Prod.fst).Perm (compiled.keys ++ compiled.derivedKeys program) ∧
      ((pairs.map Prod.fst).Nodup ↔ ∀ key ∈ compiled.derivedKeys program, key ∉ compiled.keys) := by
  obtain ⟨exports, valid, -, success, -, described⟩ := compile_eq_ok success
  have resolved := ScopeAnalysis.resolve_resolved success
  have numbered := Program.withoutExports_numbered program.label_numbered
  have only := Program.declaresOnly_of_validate valid
  obtain ⟨entries, listed, same⟩ := bind_eq_ok.mp described
  obtain ⟨groups, rfl, made⟩ := resolved.entries_by_symbol numbered only listed
  rw [Program.withoutExports_code?] at made
  obtain ⟨firsts, flat, first_keys⟩ := exists_pairs_of_groups made
  obtain ⟨lists, derived, list_keys⟩ := compiled.dependencyEntries_pairs
  have keys : ((firsts ++ lists).map Prod.fst).Perm
      (compiled.keys ++ compiled.derivedKeys program) := by
    rw [List.map_append, list_keys, Compiled.derivedKeys, ← List.append_assoc]
    exact first_keys.append_right _
  refine ⟨firsts ++ lists, ?_, keys, ?_⟩
  · rw [← pure_eq_ok.mp same, flat, derived, entriesOf_append]
  · rw [keys.nodup_iff, List.nodup_append']
    have symbol_keys : compiled.keys.Nodup := resolved.keys
    have derived_keys := Compiled.derivedKeys_nodup symbol_keys program
    exact ⟨fun distinct key is_derived is_key => distinct.2.2 is_key is_derived,
      fun apart => ⟨symbol_keys, derived_keys, fun key is_key is_derived =>
        apart key is_derived is_key⟩⟩

/-- In a module with a deferred value and two lists of dependencies, every entry has its own key. -/
theorem deferringModule_keys :
    ∃ compiled pairs, compile { policy := .postset } deferringModule = .ok compiled ∧
      compiled.descriptor = Descriptor.ofEntries (entriesOf pairs) ∧
      compiled.derivedKeys deferringModule =
        [("_unnamed_k__postset" : Text), ("f__deps" : Text), ("_unnamed_k__deps" : Text)] ∧
      (pairs.map Prod.fst).Nodup := by
  have derived : (compile { policy := .postset } deferringModule).toOption.map (fun compiled =>
      (decide (∀ key ∈ compiled.derivedKeys deferringModule, key ∉ compiled.keys),
        compiled.derivedKeys deferringModule)) =
      some (true, [("_unnamed_k__postset" : Text), ("f__deps" : Text),
        ("_unnamed_k__deps" : Text)]) := by
    decide +kernel
  cases success : compile { policy := .postset } deferringModule with
  | error e =>
    rw [success] at derived
    cases derived
  | ok compiled =>
    rw [success, Except.toOption, Option.map_some, Option.some_inj, Prod.mk.injEq] at derived
    obtain ⟨pairs, described, -, distinct⟩ := compile_keys_nodup_iff success
    exact ⟨compiled, pairs, rfl, described, derived.2,
      distinct.mpr (of_decide_eq_true derived.1)⟩

/-- A function that calls another one, and a function whose name is the key of the dependencies of
the first. -/
def overwritingModule : Program Text :=
  ⟨[.exportDeclaration (.function "f" [] [.expression (.call (.identifier "g") [])]),
    .exportDeclaration (.function "g" [] []),
    .exportDeclaration (.function "f__deps" [] [])]⟩

/-- The list of dependencies overwrites the function. -/
theorem overwritingModule_keys :
    ∃ compiled, compile {} overwritingModule = .ok compiled ∧
      compiled.descriptor = Descriptor.ofEntries (entriesOf
        [("f", .function none [] [.expression (.call (.identifier ⟨"g", some 1⟩) [])]),
          ("g", .function none [] []),
          ("f__deps", .function none [] []),
          ("f__deps", .array [some (stringExpression "g")])]) :=
  ⟨_, rfl, rfl⟩

end LibraryDescriptor
