import LibraryDescriptor.Proofs.Bundle.LoadOrder
import LibraryDescriptor.Proofs.Parser.Soundness

/-!
# Modules that cannot be loaded

Which errors loading ends with, and what the items of a loaded module are.

* `Environment.loadEntry_refuses` — where loading an entry fails, the entry reaches a module that
  cannot be loaded.
* `Environment.Settled` — the items of a module are the statements of its tree, each with the module
  that its specifier means.
* `Environment.loadEntry_settled` — every module of an entry is settled.
-/

namespace LibraryDescriptor

open Relation (ReflTransGen)
open Loader

/-! ## Errors of loading -/

namespace Environment

variable {env : Environment}

theorem loadModule_refuses (env : Environment) :
    ∀ (fuel : Nat) (active : List ModuleId) (id : ModuleId) (s s' : LoadState) (e : BundleError),
      Fails (env.loadModule fuel active id) s e s' →
        e = .endless ∨ ∃ m, ReflTransGen env.Imports id m ∧ env.Refuses m e
  | 0, _, _, _, _, _, failed => .inl (fails_throw failed).symm
  | fuel + 1, active, id, s, s', e, failed => by
    match loadModule_fault failed with
    | .circular _ => exact .inr ⟨id, .refl, .circular⟩
    | .lacking _ refuses => exact .inr ⟨id, .refl, refuses⟩
    | .nested _ imports failed =>
      exact (loadModule_refuses env fuel _ _ _ _ _ failed).imp_right
        fun ⟨m, reaches, refuses⟩ => ⟨m, .head imports reaches, refuses⟩

/-- Where loading an entry from tables fails, the entry reaches a module that cannot be loaded. -/
theorem loadEntry_refuses (unreadable : env.Unreadable) {entry : Text} {e : BundleError}
    {s' : LoadState} (failed : Fails (env.loadEntry entry) .initial e s') :
    ∃ m, ReflTransGen env.Imports (env.root entry) m ∧ env.Refuses m e := by
  have finite : e ≠ .endless :=
    (loadEntry_fails failed).not_endless unreadable .nil nofun (Nat.le_refl _)
  obtain ⟨t, failed⟩ := loadEntry_fault failed
  exact (loadModule_refuses env _ _ _ _ _ _ failed).resolve_left finite

/-! ## Items of loaded modules -/

/-- A module has the tree of its text, and its items name the modules that their specifiers mean. -/
structure Settled (env : Environment) (m : SourceModule) : Prop where
  tree : env.tree? m.id = some m.program.erase
  source : ∀ item ∈ m.items, ∀ specifier, item.statement.specifier? = some specifier →
    ∃ target, item.source = some target ∧ env.target? specifier (some m.id) = some target

/-- The modules of a state that are not those of an earlier one are settled. -/
def Settles (env : Environment) (s s' : LoadState) : Prop :=
  ∀ m ∈ s'.modules, m ∈ s.modules ∨ env.Settled m

theorem Settles.trans {s t u : LoadState} (first : env.Settles s t) (second : env.Settles t u) :
    env.Settles s u := by
  intro m member
  rcases second m member with earlier | settled
  · exact first m earlier
  · exact .inr settled

theorem Settles.of_eq {s t : LoadState} (modules : t.modules = s.modules) : env.Settles s t :=
  fun _ member => .inl (modules ▸ member)

mutual

theorem Loading.settles : ∀ {active : List ModuleId} {id : ModuleId} {s s' : LoadState},
    env.Loading active id s s' → env.Settles s s'
  | _, _, _, _, .known _ => .of_eq rfl
  | _, _, _, _, @Loading.complete _ _ _ _ _ s t _ _ _ parsed resolving => by
    obtain ⟨nested, sources⟩ := resolving.settles
    have first : env.Settles s t := .of_eq (program_succeeds parsed).1
    intro m member
    rcases List.mem_append.mp member with earlier | itself
    · exact first.trans nested m earlier
    · obtain rfl := List.mem_singleton.mp itself
      exact .inr ⟨resolving.program_eq ▸ (program_tree parsed).1, sources⟩

theorem Resolving.settles : ∀ {active : List ModuleId} {id : ModuleId}
    {body : List (Statement Occurrence)} {items : List ModuleItem} {s s' : LoadState},
    env.Resolving active id body items s s' → env.Settles s s' ∧
      ∀ item ∈ items, ∀ specifier, item.statement.specifier? = some specifier →
        ∃ target, item.source = some target ∧ env.target? specifier (some id) = some target
  | _, _, _, _, _, _, .nil => ⟨.of_eq rfl, nofun⟩
  | _, _, _, _, _, _, .plain unnamed rest => by
    obtain ⟨settles, sources⟩ := rest.settles
    refine ⟨settles, List.forall_mem_cons.mpr ⟨fun specifier names => ?_, sources⟩⟩
    rw [unnamed] at names
    cases names
  | _, _, _, _, _, _, @Resolving.named _ _ _ source _ _ _ _ s t _ _ names resolved
      loading rest => by
    obtain ⟨settles, sources⟩ := rest.settles
    have first : env.Settles s t := .of_eq (resolve_succeeds resolved).1
    refine ⟨(first.trans loading.settles).trans settles,
      List.forall_mem_cons.mpr ⟨fun specifier' names' => ?_, sources⟩⟩
    obtain rfl := Option.some.inj (names.symm.trans names')
    exact ⟨source, rfl, (resolve_target resolved).1⟩

end

theorem loadEntry_settled {entry : Text} {id : ModuleId} {s : LoadState}
    (success : Succeeds (env.loadEntry entry) .initial id s) : ∀ m ∈ s.modules, env.Settled m := by
  intro m member
  obtain ⟨t, resolved, loading⟩ := loadEntry_loading success
  have first : env.Settles .initial t := .of_eq (resolve_succeeds resolved).1
  rcases first.trans loading.settles m member with earlier | settled
  · cases earlier
  · exact settled

/-- The statements of a settled module are those of the grammar. -/
theorem Settled.isItem {m : SourceModule} (settled : env.Settled m) {item : ModuleItem}
    (member : item ∈ m.items) : item.statement.erase.IsItem := by
  obtain ⟨text, -, parsed⟩ := Option.bind_eq_some_iff.mp settled.tree
  have inside : item.statement ∈ m.program.body := List.mem_map_of_mem member
  cases success : parse text with
  | error cause =>
    rw [success] at parsed
    cases parsed
  | ok program =>
    rw [success] at parsed
    obtain rfl := Option.some.inj parsed
    exact (parse_sound success).1 _ (Program.erase_mem_body inside)

/-- An item that names a module has the module, which its own module imports. -/
theorem Settled.imports_target {m : SourceModule} (settled : env.Settled m) {item : ModuleItem}
    (member : item ∈ m.items) {specifier : Text}
    (named : item.statement.specifier? = some specifier) :
    ∃ target, item.source = some target ∧ env.Imports m.id target := by
  obtain ⟨target, source, means⟩ := settled.source item member specifier named
  have inside : item.statement ∈ m.program.body := List.mem_map_of_mem member
  exact ⟨target, source, imports_of_statement settled.tree inside named means⟩

end Environment

end LibraryDescriptor
