import LibraryDescriptor.Bundle.Load
import LibraryDescriptor.Proofs.Scope.Sites

/-!
# Loaded modules

What is known about modules once they have been loaded.

* `Batch` — modules that were loaded one after the other: each is analyzed and numbered, and no two
  share a site.
* `Idle` — no module was loaded twice, and none that is being loaded is complete.
* `Environment.Loading`, `Environment.Resolving` — the runs of the loader, step by step;
  `Environment.loading_of_success` — every success is one.
* `Loads` — what loading does to the state; `Environment.Loading.loads` — a module and all that it
  needs.
* `Environment.loadEntry_loaded` — the modules of an entry, which comes last.
-/

namespace LibraryDescriptor

def SourceModule.program (m : SourceModule) : Program Occurrence :=
  ⟨m.items.map ModuleItem.statement⟩

def SourceModule.ofItems (id : ModuleId) (items : List ModuleItem) : SourceModule :=
  ⟨id, items, (⟨items.map ModuleItem.statement⟩ : Program Occurrence).analyze⟩

/-! ## Batches of modules -/

def SitesWithin (first last : Nat) (program : Program Occurrence) : Prop :=
  ∀ o ∈ program.occurrences, ∀ site : Nat, o.site = some site → first ≤ site ∧ site < last

/-- No occurrence of one module has the site of an occurrence of the other. -/
def Separate (m k : SourceModule) : Prop :=
  ∀ o ∈ m.program.occurrences, ∀ p ∈ k.program.occurrences, o.site ≠ p.site

instance : Std.Symm Separate :=
  ⟨fun _ _ apart o o_member p p_member same => apart p p_member o o_member same.symm⟩

/-- Modules that were loaded while the next site went from `first` to `last`. -/
structure Batch (first last : Nat) (modules : List SourceModule) : Prop where
  le : first ≤ last
  analyzed : ∀ m ∈ modules, m.analysis = m.program.analyze
  numbered : ∀ m ∈ modules, m.program.Numbered
  within : ∀ m ∈ modules, SitesWithin first last m.program
  separate : modules.Pairwise Separate

theorem SitesWithin.mono {first last first' last' : Nat} {program : Program Occurrence}
    (within : SitesWithin first last program) (lower : first' ≤ first) (upper : last ≤ last') :
    SitesWithin first' last' program := by
  intro o member site sited
  have bounds := within o member site sited
  omega

theorem separate_of_within {first middle last : Nat} {m k : SourceModule}
    (numbered : m.program.Numbered) (m_within : SitesWithin first middle m.program)
    (k_within : SitesWithin middle last k.program) : Separate m k := by
  intro o o_member p p_member same
  obtain ⟨site, sited⟩ := Option.isSome_iff_exists.mp (numbered.sited o o_member)
  have o_bounds := m_within o o_member site sited
  have p_bounds := k_within p p_member site (same.symm.trans sited)
  omega

namespace Batch

theorem nil (site : Nat) : Batch site site [] := ⟨Nat.le_refl site, by simp, by simp, by simp, .nil⟩

theorem append {first middle last : Nat} {modules more : List SourceModule}
    (batch : Batch first middle modules) (next : Batch middle last more) :
    Batch first last (modules ++ more) where
  le := Nat.le_trans batch.le next.le
  analyzed := List.forall_mem_append.mpr ⟨batch.analyzed, next.analyzed⟩
  numbered := List.forall_mem_append.mpr ⟨batch.numbered, next.numbered⟩
  within := List.forall_mem_append.mpr
    ⟨fun m member => (batch.within m member).mono (Nat.le_refl _) next.le,
      fun m member => (next.within m member).mono batch.le (Nat.le_refl _)⟩
  separate := List.pairwise_append.mpr ⟨batch.separate, next.separate, fun m m_member k k_member =>
    separate_of_within (batch.numbered m m_member) (batch.within m m_member)
      (next.within k k_member)⟩

/-- A module gets its sites before the modules it names, and is complete after them. -/
theorem complete {first middle last : Nat} {modules : List SourceModule} {m : SourceModule}
    (le : first ≤ middle) (analyzed : m.analysis = m.program.analyze)
    (numbered : m.program.Numbered) (within : SitesWithin first middle m.program)
    (nested : Batch middle last modules) : Batch first last (modules ++ [m]) where
  le := Nat.le_trans le nested.le
  analyzed := List.forall_mem_append.mpr ⟨nested.analyzed, by simpa using analyzed⟩
  numbered := List.forall_mem_append.mpr ⟨nested.numbered, by simpa using numbered⟩
  within := List.forall_mem_append.mpr
    ⟨fun k member => (nested.within k member).mono le (Nat.le_refl _),
      by simpa using within.mono (Nat.le_refl _) nested.le⟩
  separate := by
    refine List.pairwise_append.mpr ⟨nested.separate, List.pairwise_singleton _ _, ?_⟩
    intro k k_member m' m_member o o_member p p_member same
    obtain rfl := List.mem_singleton.mp m_member
    exact separate_of_within numbered within (nested.within k k_member) p p_member o o_member
      same.symm

end Batch

/-! ## Computations that load -/

namespace Loader

variable {α β : Type}

def Succeeds (x : Loader α) (s : LoadState) (a : α) (s' : LoadState) : Prop :=
  x.run.run s = (.ok a, s')

theorem succeeds_bind {x : Loader α} {next : α → Loader β} {s s' : LoadState} {b : β} :
    Succeeds (x >>= next) s b s' ↔ ∃ a t, Succeeds x s a t ∧ Succeeds (next a) t b s' := by
  unfold Succeeds
  rw [ExceptT.run_bind, StateT.run_bind]
  cases x.run.run s with
  | mk result t =>
    cases result with
    | error e =>
      refine ⟨fun failed => ?_, fun ⟨_, _, failed, _⟩ => (nomatch failed)⟩
      exact nomatch congrArg Prod.fst failed
    | ok a =>
      refine ⟨fun done => ⟨a, t, rfl, done⟩, fun ⟨a', t', same, done⟩ => ?_⟩
      obtain ⟨value, rfl⟩ := Prod.mk.inj same
      obtain rfl := Except.ok.inj value
      exact done

theorem succeeds_pure {a b : α} {s s' : LoadState} :
    Succeeds (pure a) s b s' ↔ a = b ∧ s = s' := by
  constructor
  · intro done
    obtain ⟨value, state⟩ := Prod.mk.inj done
    exact ⟨Except.ok.inj value, state⟩
  · rintro ⟨rfl, rfl⟩
    rfl

theorem succeeds_get {s s' t : LoadState} : Succeeds get s t s' ↔ t = s ∧ s' = s := by
  constructor
  · intro done
    obtain ⟨value, state⟩ := Prod.mk.inj done
    exact ⟨(Except.ok.inj value).symm, state.symm⟩
  · rintro ⟨rfl, rfl⟩
    rfl

theorem succeeds_set {s s' t : LoadState} : Succeeds (set t) s ⟨⟩ s' ↔ s' = t := by
  constructor
  · exact fun done => (Prod.mk.inj done).2.symm
  · rintro rfl
    rfl

theorem succeeds_modify {change : LoadState → LoadState} {s s' : LoadState} :
    Succeeds (modify change) s ⟨⟩ s' ↔ s' = change s := by
  constructor
  · exact fun done => (Prod.mk.inj done).2.symm
  · rintro rfl
    rfl

theorem not_succeeds_throw {e : BundleError} {s s' : LoadState} {a : α} :
    ¬ Succeeds (throw e) s a s' :=
  fun done => nomatch (Prod.mk.inj done).1

end Loader

open Loader (Succeeds succeeds_bind succeeds_pure succeeds_get succeeds_set succeeds_modify
  not_succeeds_throw)

/-! ## What loading does to the state -/

/-- No module was loaded twice, and none of those being loaded is complete. -/
structure Idle (active : List ModuleId) (s : LoadState) : Prop where
  ids : (s.modules.map SourceModule.id).Nodup
  incomplete : ∀ id ∈ active, id ∉ s.modules.map SourceModule.id

/-- Modules were loaded. -/
structure Loads (active : List ModuleId) (s s' : LoadState) : Prop where
  batch : ∃ more, s'.modules = s.modules ++ more ∧ Batch s.nextSite s'.nextSite more
  idle : Idle active s'

theorem Loads.refl {active : List ModuleId} {s : LoadState} (idle : Idle active s) :
    Loads active s s :=
  ⟨⟨[], by simp, .nil _⟩, idle⟩

theorem Loads.trans {active : List ModuleId} {s t u : LoadState} (first : Loads active s t)
    (second : Loads active t u) : Loads active s u := by
  obtain ⟨more, modules, batch⟩ := first.batch
  obtain ⟨more', modules', batch'⟩ := second.batch
  exact ⟨⟨more ++ more', by rw [modules', modules, List.append_assoc], batch.append batch'⟩,
    second.idle⟩

/-- A step that loads nothing. -/
theorem Loads.of_eq {active : List ModuleId} {s s' : LoadState} (idle : Idle active s)
    (modules : s'.modules = s.modules) (nextSite : s'.nextSite = s.nextSite) :
    Loads active s s' :=
  ⟨⟨[], by simp [modules], nextSite ▸ .nil _⟩, ⟨modules ▸ idle.ids, modules ▸ idle.incomplete⟩⟩

namespace Environment

variable {env : Environment}

theorem record_succeeds {calls : List HookCall} {s s' : LoadState}
    (success : Succeeds (record calls) s ⟨⟩ s') :
    s'.modules = s.modules ∧ s'.nextSite = s.nextSite := by
  rw [succeeds_modify.mp success]
  exact ⟨rfl, rfl⟩

theorem resolve_succeeds {specifier : Text} {importer : Option ModuleId} {s s' : LoadState}
    {id : ModuleId} (success : Succeeds (env.resolve specifier importer) s id s') :
    s'.modules = s.modules ∧ s'.nextSite = s.nextSite := by
  obtain ⟨⟨⟩, t, recorded, rest⟩ := succeeds_bind.mp success
  have same : s' = t := by
    split at rest
    · exact (succeeds_pure.mp rest).2.symm
    · exact (succeeds_pure.mp rest).2.symm
    · split at rest
      · exact (succeeds_pure.mp rest).2.symm
      · exact (not_succeeds_throw rest).elim
  exact same ▸ record_succeeds recorded

theorem text_succeeds {id : ModuleId} {s s' : LoadState} {text : Text}
    (success : Succeeds (env.text id) s text s') :
    s'.modules = s.modules ∧ s'.nextSite = s.nextSite := by
  obtain ⟨⟨⟩, t, recorded, rest⟩ := succeeds_bind.mp success
  have same : s' = t := by
    split at rest
    · exact (succeeds_pure.mp rest).2.symm
    · split at rest
      · exact (succeeds_pure.mp rest).2.symm
      · exact (not_succeeds_throw rest).elim
  exact same ▸ record_succeeds recorded

/-- The sites of a numbered tree are consecutive. -/
theorem labelFrom_within (program : Program Text) (first : Nat) :
    first ≤ (program.labelFrom.run first).2 ∧
      SitesWithin first (program.labelFrom.run first).2 (program.labelFrom.run first).1 := by
  obtain ⟨count, sites, next⟩ := program.labelFrom_numbers first
  rw [next]
  refine ⟨Nat.le_add_right first count, fun o member site sited => ?_⟩
  have listed : some site ∈ (List.range' first count).map some := by
    rw [← sited]
    exact sites ▸ List.mem_map_of_mem member
  obtain ⟨n, n_member, same⟩ := List.mem_map.mp listed
  obtain rfl := Option.some.inj same
  exact List.mem_range'_1.mp n_member

theorem program_succeeds {id : ModuleId} {s s' : LoadState} {program : Program Occurrence}
    (success : Succeeds (env.program id) s program s') :
    s'.modules = s.modules ∧ s.nextSite ≤ s'.nextSite ∧ program.Numbered ∧
      SitesWithin s.nextSite s'.nextSite program := by
  obtain ⟨source, t, read, rest⟩ := succeeds_bind.mp success
  obtain ⟨modules, nextSite⟩ := text_succeeds read
  split at rest
  · exact (not_succeeds_throw rest).elim
  · next parsed _ =>
    obtain ⟨_, u, got, numbered⟩ := succeeds_bind.mp rest
    obtain ⟨rfl, rfl⟩ := succeeds_get.mp got
    obtain ⟨⟨⟩, _, stored, returned⟩ := succeeds_bind.mp numbered
    obtain rfl := succeeds_set.mp stored
    obtain ⟨rfl, rfl⟩ := succeeds_pure.mp returned
    rw [← modules, ← nextSite]
    have bounds := labelFrom_within parsed u.nextSite
    exact ⟨rfl, bounds.1, parsed.labelFrom_numbered _, bounds.2⟩

def item (env : Environment) (fuel : Nat) (active : List ModuleId) (id : ModuleId)
    (statement : Statement Occurrence) : Loader ModuleItem := do
  match statement.specifier? with
  | none => return ⟨statement, none⟩
  | some specifier =>
    let source ← env.resolve specifier (some id)
    env.loadModule fuel (id :: active) source
    return ⟨statement, some source⟩

theorem loadModule_succ (env : Environment) (fuel : Nat) (active : List ModuleId) (id : ModuleId) :
    env.loadModule (fuel + 1) active id = (do
      let s ← get
      if (s.module? id).isSome then return
      else if active.contains id then throw (.circular id)
      else
        let program ← env.program id
        let items ← program.body.mapM (env.item fuel active id)
        complete id items) := by
  rw [loadModule]
  rfl

theorem mem_ids_of_module? {s : LoadState} {id : ModuleId} :
    (s.module? id).isSome ↔ id ∈ s.modules.map SourceModule.id := by
  rw [LoadState.module?, List.find?_isSome, List.mem_map]
  simp only [decide_eq_true_eq]

/-! ## Runs of the loader -/

mutual

/-- Loading a module while others are being loaded, from a state to another. -/
inductive Loading (env : Environment) :
    List ModuleId → ModuleId → LoadState → LoadState → Prop where
  | known {active : List ModuleId} {id : ModuleId} {s : LoadState}
      (member : id ∈ s.modules.map SourceModule.id) : Loading env active id s s
  | complete {active : List ModuleId} {id : ModuleId} {program : Program Occurrence}
      {items : List ModuleItem} {s t u : LoadState} (absent : id ∉ s.modules.map SourceModule.id)
      (inactive : id ∉ active) (parsed : Succeeds (env.program id) s program t)
      (resolving : Resolving env active id program.body items t u) :
      Loading env active id s { u with modules := u.modules ++ [.ofItems id items] }

/-- Resolving statements of a module one after the other; a module that a statement names is loaded
before the next statement. -/
inductive Resolving (env : Environment) : List ModuleId → ModuleId → List (Statement Occurrence) →
    List ModuleItem → LoadState → LoadState → Prop where
  | nil {active : List ModuleId} {id : ModuleId} {s : LoadState} : Resolving env active id [] [] s s
  | plain {active : List ModuleId} {id : ModuleId} {statement : Statement Occurrence}
      {body : List (Statement Occurrence)} {items : List ModuleItem} {s s' : LoadState}
      (unnamed : statement.specifier? = none) (rest : Resolving env active id body items s s') :
      Resolving env active id (statement :: body) (⟨statement, none⟩ :: items) s s'
  | named {active : List ModuleId} {id source : ModuleId} {statement : Statement Occurrence}
      {specifier : Text} {body : List (Statement Occurrence)} {items : List ModuleItem}
      {s t u s' : LoadState} (names : statement.specifier? = some specifier)
      (resolved : Succeeds (env.resolve specifier (some id)) s source t)
      (loading : Loading env (id :: active) source t u)
      (rest : Resolving env active id body items u s') :
      Resolving env active id (statement :: body) (⟨statement, some source⟩ :: items) s s'

end

theorem resolving_of_success {fuel : Nat} {active : List ModuleId} {id : ModuleId}
    (loads : ∀ source s s', Succeeds (env.loadModule fuel (id :: active) source) s ⟨⟩ s' →
      env.Loading (id :: active) source s s') :
    ∀ {body : List (Statement Occurrence)} {items : List ModuleItem} {s s' : LoadState},
      Succeeds (body.mapM (env.item fuel active id)) s items s' →
      env.Resolving active id body items s s'
  | [], items, s, s', success => by
    obtain ⟨rfl, rfl⟩ := succeeds_pure.mp (List.mapM_nil (f := env.item fuel active id) ▸ success)
    exact .nil
  | statement :: body, items, s, s', success => by
    rw [List.mapM_cons] at success
    obtain ⟨first, t, found, rest⟩ := succeeds_bind.mp success
    obtain ⟨others, u, mapped, returned⟩ := succeeds_bind.mp rest
    obtain ⟨rfl, rfl⟩ := succeeds_pure.mp returned
    have later := resolving_of_success loads mapped
    unfold item at found
    split at found
    · next unnamed =>
      obtain ⟨rfl, rfl⟩ := succeeds_pure.mp found
      exact .plain unnamed later
    · next specifier names =>
      obtain ⟨source, v, resolved, rest⟩ := succeeds_bind.mp found
      obtain ⟨⟨⟩, w, loaded, returned⟩ := succeeds_bind.mp rest
      obtain ⟨rfl, rfl⟩ := succeeds_pure.mp returned
      exact .named names resolved (loads source v w loaded) later

theorem loading_of_success (env : Environment) :
    ∀ (fuel : Nat) (active : List ModuleId) (id : ModuleId) (s s' : LoadState),
      Succeeds (env.loadModule fuel active id) s ⟨⟩ s' → env.Loading active id s s'
  | 0, _, _, _, _, success => (not_succeeds_throw success).elim
  | fuel + 1, active, id, s, s', success => by
    rw [loadModule_succ] at success
    obtain ⟨_, s, got, checked⟩ := succeeds_bind.mp success
    obtain ⟨rfl, rfl⟩ := succeeds_get.mp got
    split at checked
    · next known =>
      obtain ⟨-, rfl⟩ := succeeds_pure.mp checked
      exact .known (mem_ids_of_module?.mp known)
    next unknown =>
    split at checked
    · exact (not_succeeds_throw checked).elim
    next inactive =>
    obtain ⟨program, t, parsed, rest⟩ := succeeds_bind.mp checked
    obtain ⟨items, u, mapped, completed⟩ := succeeds_bind.mp rest
    obtain rfl := succeeds_modify.mp completed
    exact .complete (mt mem_ids_of_module?.mpr unknown) (mt List.contains_iff_mem.mpr inactive)
      parsed (resolving_of_success (loading_of_success env fuel (id :: active)) mapped)

theorem loadEntry_loading {entry : Text} {id : ModuleId} {s : LoadState}
    (success : Succeeds (env.loadEntry entry) .initial id s) :
    ∃ t, Succeeds (env.resolve entry none) .initial id t ∧ env.Loading [] id t s := by
  obtain ⟨_, t, resolved, rest⟩ := succeeds_bind.mp success
  obtain ⟨⟨⟩, u, loaded, returned⟩ := succeeds_bind.mp rest
  obtain ⟨rfl, rfl⟩ := succeeds_pure.mp returned
  exact ⟨t, resolved, loading_of_success env _ _ _ _ _ loaded⟩

theorem Resolving.statements {active : List ModuleId} {id : ModuleId} :
    ∀ {body : List (Statement Occurrence)} {items : List ModuleItem} {s s' : LoadState},
      env.Resolving active id body items s s' → items.map ModuleItem.statement = body
  | _, _, _, _, .nil => rfl
  | _, _, _, _, .plain _ rest | _, _, _, _, .named _ _ _ rest => congrArg (_ :: ·) rest.statements

/-- A module that is loaded has the statements of its tree. -/
theorem Resolving.program_eq {active : List ModuleId} {id : ModuleId} {program : Program Occurrence}
    {items : List ModuleItem} {s s' : LoadState}
    (resolving : env.Resolving active id program.body items s s') :
    (SourceModule.ofItems id items).program = program :=
  congrArg Program.mk resolving.statements

/-! ## What a run loads -/

/-- A module that is loaded, or was before, and the modules loaded for it. -/
def LoadsModule (active : List ModuleId) (id : ModuleId) (s s' : LoadState) : Prop :=
  Loads active s s' ∧
    (id ∈ s.modules.map SourceModule.id ∨ ∃ m, s'.modules.getLast? = some m ∧ m.id = id)

mutual

theorem Loading.loads : ∀ {active : List ModuleId} {id : ModuleId} {s s' : LoadState},
    env.Loading active id s s' → Idle active s → LoadsModule active id s s'
  | _, _, _, _, .known member, idle => ⟨.refl idle, .inl member⟩
  | _, _, _, _, @Loading.complete _ active id _ items _ t u
      absent inactive parsed resolving, idle => by
    obtain ⟨modules, le, numbered, within⟩ := program_succeeds parsed
    have t_idle : Idle (id :: active) t := by
      rw [← modules] at absent
      exact ⟨modules ▸ idle.ids, List.forall_mem_cons.mpr ⟨absent, modules ▸ idle.incomplete⟩⟩
    have loads := resolving.loads t_idle
    obtain ⟨more, u_modules, batch⟩ := loads.batch
    obtain ⟨u_absent, u_incomplete⟩ := List.forall_mem_cons.mp loads.idle.incomplete
    have tree := resolving.program_eq
    refine ⟨⟨⟨more ++ [.ofItems id items], ?_, ?_⟩, ?_, ?_⟩, .inr ⟨.ofItems id items, ?_, rfl⟩⟩
    · change u.modules ++ _ = _
      rw [u_modules, modules, List.append_assoc]
    · exact Batch.complete le rfl (tree ▸ numbered) (tree ▸ within) batch
    · rw [List.map_append, List.map_singleton, ← List.concat_eq_append, List.nodup_concat]
      exact ⟨u_absent, loads.idle.ids⟩
    · intro other member
      rw [List.map_append, List.mem_append, not_or]
      refine ⟨u_incomplete other member, fun same => inactive ?_⟩
      rwa [List.mem_singleton.mp same] at member
    · exact List.getLast?_concat

theorem Resolving.loads : ∀ {active : List ModuleId} {id : ModuleId}
    {body : List (Statement Occurrence)} {items : List ModuleItem} {s s' : LoadState},
    env.Resolving active id body items s s' → Idle (id :: active) s → Loads (id :: active) s s'
  | _, _, _, _, _, _, .nil, idle => .refl idle
  | _, _, _, _, _, _, .plain _ rest, idle => rest.loads idle
  | _, _, _, _, _, _, .named _ resolved loading rest, idle => by
    obtain ⟨modules, nextSite⟩ := resolve_succeeds resolved
    have first := Loads.of_eq idle modules nextSite
    have nested := first.trans (loading.loads first.idle).1
    exact nested.trans (rest.loads nested.idle)

end

/-- The modules of an entry: no two of one identity or with a common site, and the entry last. -/
theorem loadEntry_loaded {entry : Text} {id : ModuleId} {s : LoadState}
    (success : Succeeds (env.loadEntry entry) LoadState.initial id s) :
    Batch 0 s.nextSite s.modules ∧ (s.modules.map SourceModule.id).Nodup ∧
      ∃ m, s.modules.getLast? = some m ∧ m.id = id := by
  obtain ⟨t, resolved, loading⟩ := loadEntry_loading success
  obtain ⟨modules, nextSite⟩ := resolve_succeeds resolved
  have idle : Idle [] t := ⟨modules ▸ List.nodup_nil, by simp⟩
  obtain ⟨loads, last⟩ := loading.loads idle
  obtain ⟨more, s_modules, batch⟩ := loads.batch
  rw [modules] at s_modules last
  rw [nextSite] at batch
  exact ⟨s_modules ▸ batch, loads.idle.ids, last.resolve_left (by simp [LoadState.initial])⟩

end Environment

end LibraryDescriptor
