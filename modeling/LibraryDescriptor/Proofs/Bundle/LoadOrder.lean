import LibraryDescriptor.Proofs.Bundle.ImportGraph
import LibraryDescriptor.Proofs.Success

/-!
# The order of loading

Loading from an entry is a depth-first search of the import graph. It always comes to an end, and
when it succeeds, it has found what the entry reaches.

* `Loader.Fails` — a computation fails; `Environment.Fault` — why loading a module fails.
* `Visits` — what loading adds; `Environment.Loading.visits` — a module and what it reaches.
* `LoadState.Holds` — a state holds the modules that an entry reaches, in order.
* `loadEntry_holds` — loading an entry succeeds exactly if what the entry reaches is complete and
  has no cycle, and then it holds these modules.
-/

namespace LibraryDescriptor

open Relation (ReflTransGen TransGen)

/-! ## Computations that fail -/

namespace Loader

variable {α β : Type}

def Fails (x : Loader α) (s : LoadState) (e : BundleError) (s' : LoadState) : Prop :=
  x.run.run s = (.error e, s')

theorem fails_bind {x : Loader α} {next : α → Loader β} {s s' : LoadState} {e : BundleError} :
    Fails (x >>= next) s e s' ↔
      Fails x s e s' ∨ ∃ a t, Succeeds x s a t ∧ Fails (next a) t e s' := by
  unfold Fails Succeeds
  rw [ExceptT.run_bind, StateT.run_bind]
  cases x.run.run s with
  | mk result t =>
    cases result with
    | error e' =>
      refine ⟨fun failed => ?_, fun failed => ?_⟩
      · obtain ⟨value, rfl⟩ := Prod.mk.inj failed
        obtain rfl := Except.error.inj value
        exact .inl rfl
      · rcases failed with failed | ⟨_, _, failed, _⟩
        · obtain ⟨value, rfl⟩ := Prod.mk.inj failed
          obtain rfl := Except.error.inj value
          rfl
        · exact nomatch congrArg Prod.fst failed
    | ok a =>
      refine ⟨fun failed => .inr ⟨a, t, rfl, failed⟩, fun failed => ?_⟩
      rcases failed with failed | ⟨a', t', same, failed⟩
      · exact nomatch congrArg Prod.fst failed
      · obtain ⟨value, rfl⟩ := Prod.mk.inj same
        obtain rfl := Except.ok.inj value
        exact failed

theorem not_fails_pure {a : α} {s s' : LoadState} {e : BundleError} :
    ¬ Fails (pure a) s e s' :=
  fun failed => nomatch (Prod.mk.inj failed).1

theorem not_fails_modify {change : LoadState → LoadState} {s s' : LoadState} {e : BundleError} :
    ¬ Fails (modify change) s e s' :=
  fun failed => nomatch (Prod.mk.inj failed).1

theorem not_fails_get {s s' : LoadState} {e : BundleError} : ¬ Fails get s e s' :=
  fun failed => nomatch (Prod.mk.inj failed).1

theorem not_fails_set {s s' t : LoadState} {e : BundleError} : ¬ Fails (set t) s e s' :=
  fun failed => nomatch (Prod.mk.inj failed).1

theorem fails_throw {e e' : BundleError} {s s' : LoadState} :
    Fails (throw e : Loader α) s e' s' → e = e' :=
  fun failed => Except.error.inj (Prod.mk.inj failed).1

theorem succeeds_or_fails (x : Loader α) (s : LoadState) :
    (∃ a s', Succeeds x s a s') ∨ ∃ e s', Fails x s e s' := by
  cases run : x.run.run s with
  | mk result s' =>
    cases result with
    | ok a => exact .inl ⟨a, s', run⟩
    | error e => exact .inr ⟨e, s', run⟩

/-- Where a list of computations fails, one of them does. -/
theorem fails_mapM {f : α → Loader β} :
    ∀ {list : List α} {s s' : LoadState} {e : BundleError}, Fails (list.mapM f) s e s' →
      ∃ a ∈ list, ∃ t t', Fails (f a) t e t'
  | [], _, _, _, failed => (not_fails_pure (List.mapM_nil (f := f) ▸ failed)).elim
  | a :: list, s, s', e, failed => by
    rw [List.mapM_cons, fails_bind] at failed
    rcases failed with failed | ⟨_, t, -, failed⟩
    · exact ⟨a, List.mem_cons_self, s, s', failed⟩
    · rcases fails_bind.mp failed with failed | ⟨_, _, -, failed⟩
      · obtain ⟨b, member, fails⟩ := fails_mapM failed
        exact ⟨b, List.mem_cons_of_mem a member, fails⟩
      · exact (not_fails_pure failed).elim

end Loader

open Loader

theorem Statement.specifier?_map {ν μ : Type} (f : ν → μ) (s : Statement ν) :
    (s.map f).specifier? = s.specifier? := by
  cases s with
  | «if» _ _ alternate => cases alternate <;> rfl
  | «for» init => cases init <;> rfl
  | _ => rfl

/-! ## Questions to plugins -/

namespace LoadState

def ids (s : LoadState) : List ModuleId := s.modules.map SourceModule.id

def deliveries (s : LoadState) (id : ModuleId) : Nat := s.calls.countP (HookCall.delivers id)

end LoadState

namespace Environment

variable {env : Environment}

theorem record_deliveries {calls : List HookCall} {s s' : LoadState}
    (success : Succeeds (record calls) s ⟨⟩ s') (id : ModuleId) :
    s'.deliveries id = s.deliveries id + calls.countP (HookCall.delivers id) := by
  rw [succeeds_modify.mp success]
  simp only [LoadState.deliveries, List.countP_append, List.countP_reverse]
  omega

theorem resolve_target {specifier : Text} {importer : Option ModuleId} {s s' : LoadState}
    {id : ModuleId} (success : Succeeds (env.resolve specifier importer) s id s') :
    env.target? specifier importer = some id ∧ ∀ m, s'.deliveries m = s.deliveries m := by
  obtain ⟨⟨⟩, t, recorded, rest⟩ := succeeds_bind.mp success
  have delivered : ∀ m, t.deliveries m = s.deliveries m := by
    intro m
    rw [record_deliveries recorded, askResolve_delivers, Nat.add_zero]
  rw [askResolve_result] at rest
  cases found : env.plugins.findSome? (·.target? specifier importer) with
  | some target =>
    rw [found] at rest
    obtain ⟨rfl, rfl⟩ := succeeds_pure.mp rest
    exact ⟨by simp [target?, found], delivered⟩
  | none =>
    rw [found] at rest
    cases importer with
    | none =>
      obtain ⟨rfl, rfl⟩ := succeeds_pure.mp rest
      exact ⟨by simp [target?, found], delivered⟩
    | some importer =>
      simp only at rest
      split at rest
      · next path =>
        obtain ⟨rfl, rfl⟩ := succeeds_pure.mp rest
        exact ⟨by simp [target?, found, path], delivered⟩
      · exact (not_succeeds_throw rest).elim

/-- A module cannot be loaded. -/
inductive Refuses (env : Environment) (id : ModuleId) : BundleError → Prop where
  | unreadable {cause : ReadError} (read : env.disk.readText (Path.tidy id) = .error cause) :
      Refuses env id (.unreadable id cause)
  | invalid {text : Text} {cause : SourceError} (found : env.text? id = some text)
      (fails : parse text = .error cause) : Refuses env id (.invalid id cause)
  | bareSpecifier (specifier : Text) : Refuses env id (.bareSpecifier specifier id)
  | circular : Refuses env id (.circular id)

theorem Refuses.ne_endless {id : ModuleId} {e : BundleError} (refuses : env.Refuses id e) :
    e ≠ .endless := by
  cases refuses <;> nofun

theorem resolve_fails {specifier : Text} {importer : Option ModuleId} {s s' : LoadState}
    {e : BundleError} (failed : Fails (env.resolve specifier importer) s e s') :
    env.target? specifier importer = none ∧ ∃ id, importer = some id ∧ env.Refuses id e := by
  rcases fails_bind.mp failed with failed | ⟨⟨⟩, t, -, failed⟩
  · exact (not_fails_modify failed).elim
  rw [askResolve_result] at failed
  cases found : env.plugins.findSome? (·.target? specifier importer) with
  | some target =>
    rw [found] at failed
    exact (not_fails_pure failed).elim
  | none =>
    rw [found] at failed
    cases importer with
    | none => exact (not_fails_pure failed).elim
    | some importer =>
      simp only at failed
      split at failed
      · exact (not_fails_pure failed).elim
      · next bare =>
        obtain rfl := fails_throw failed
        exact ⟨by simp [target?, found, bare], importer, rfl, .bareSpecifier specifier⟩

theorem text_delivered {id : ModuleId} {s s' : LoadState} {text : Text}
    (success : Succeeds (env.text id) s text s') :
    env.text? id = some text ∧
      (env.Unreadable → ∀ m, s'.deliveries m = s.deliveries m + [id].count m) := by
  obtain ⟨⟨⟩, t, recorded, rest⟩ := succeeds_bind.mp success
  have delivered := record_deliveries recorded
  unfold text?
  rw [askLoad_result] at rest
  split at rest
  · next _ found =>
    obtain ⟨rfl, rfl⟩ := succeeds_pure.mp rest
    rw [found, Option.some_or]
    exact ⟨rfl, fun _ m => by rw [delivered, askLoad_delivers m found]⟩
  · next missing =>
    split at rest
    · next read =>
      obtain ⟨rfl, rfl⟩ := succeeds_pure.mp rest
      rw [missing, read, Option.none_or]
      refine ⟨rfl, fun unreadable => ?_⟩
      obtain ⟨cause, unread⟩ := unreadable (Path.tidy id)
      rw [read] at unread
      cases unread
    · exact (not_succeeds_throw rest).elim

theorem text_fails {id : ModuleId} {s s' : LoadState} {e : BundleError}
    (failed : Fails (env.text id) s e s') : env.text? id = none ∧ env.Refuses id e := by
  rcases fails_bind.mp failed with failed | ⟨⟨⟩, t, -, failed⟩
  · exact (not_fails_modify failed).elim
  unfold text?
  rw [askLoad_result] at failed
  split at failed
  · exact (not_fails_pure failed).elim
  · next missing =>
    split at failed
    · exact (not_fails_pure failed).elim
    · next unread =>
      obtain rfl := fails_throw failed
      rw [missing, unread, Option.none_or]
      exact ⟨rfl, .unreadable unread⟩

theorem program_tree {id : ModuleId} {s s' : LoadState} {program : Program Occurrence}
    (success : Succeeds (env.program id) s program s') :
    env.tree? id = some program.erase ∧
      (env.Unreadable → ∀ m, s'.deliveries m = s.deliveries m + [id].count m) := by
  obtain ⟨source, t, read, rest⟩ := succeeds_bind.mp success
  obtain ⟨text, delivered⟩ := text_delivered read
  rw [tree?, text, Option.bind_some]
  split at rest
  · exact (not_succeeds_throw rest).elim
  · next parsed parses =>
    obtain ⟨_, u, got, numbered⟩ := succeeds_bind.mp rest
    obtain ⟨rfl, rfl⟩ := succeeds_get.mp got
    obtain ⟨⟨⟩, _, stored, returned⟩ := succeeds_bind.mp numbered
    obtain rfl := succeeds_set.mp stored
    obtain ⟨rfl, rfl⟩ := succeeds_pure.mp returned
    rw [parses, Except.toOption, Option.some_inj]
    exact ⟨(parsed.labelFrom_erase u.nextSite).symm, delivered⟩

theorem program_fails {id : ModuleId} {s s' : LoadState} {e : BundleError}
    (failed : Fails (env.program id) s e s') : env.tree? id = none ∧ env.Refuses id e := by
  unfold tree?
  rcases fails_bind.mp failed with failed | ⟨source, t, read, failed⟩
  · obtain ⟨missing, refuses⟩ := text_fails failed
    rw [missing]
    exact ⟨rfl, refuses⟩
  · have found := (text_delivered read).1
    rw [found, Option.bind_some]
    split at failed
    · next invalid =>
      obtain rfl := fails_throw failed
      rw [invalid]
      exact ⟨rfl, .invalid found invalid⟩
    · -- The rest only takes sites for the tree.
      rcases fails_bind.mp failed with failed | ⟨_, _, -, failed⟩
      · exact (not_fails_get failed).elim
      rcases fails_bind.mp failed with failed | ⟨_, _, -, failed⟩
      · exact (not_fails_set failed).elim
      · exact (not_fails_pure failed).elim

/-! ## Why loading fails -/

/-- The statements of a numbered tree name the modules that the tree of their module names. -/
theorem imports_of_statement {id target : ModuleId} {program : Program Occurrence}
    (tree : env.tree? id = some program.erase) {statement : Statement Occurrence}
    (member : statement ∈ program.body) {specifier : Text}
    (named : statement.specifier? = some specifier)
    (means : env.target? specifier (some id) = some target) : env.Imports id target := by
  refine ⟨program.erase, tree, statement.erase, Program.erase_mem_body member, specifier, ?_, means⟩
  rw [Statement.erase, Statement.specifier?_map, named]

theorem not_complete_of_statement {id : ModuleId} {program : Program Occurrence}
    (tree : env.tree? id = some program.erase) {statement : Statement Occurrence}
    (member : statement ∈ program.body) {specifier : Text}
    (named : statement.specifier? = some specifier)
    (unknown : env.target? specifier (some id) = none) : ¬ env.Complete id := by
  rintro ⟨program', tree', complete⟩
  obtain rfl := Option.some.inj (tree.symm.trans tree')
  obtain ⟨target, means⟩ := complete _ (Program.erase_mem_body member) specifier
    (by rw [Statement.erase, Statement.specifier?_map, named])
  rw [unknown] at means
  cases means

/-- Where loading a module fails: the module is being loaded or has no tree, or a statement of it
names no module or one that is not loaded. -/
inductive Fault (env : Environment) (fuel : Nat) (active : List ModuleId) (id : ModuleId) :
    BundleError → Prop where
  | circular (again : id ∈ active) : Fault env fuel active id (.circular id)
  | lacking {e : BundleError} (lacks : ¬ env.Complete id) (refuses : env.Refuses id e) :
      Fault env fuel active id e
  | nested {target : ModuleId} {e : BundleError} {s s' : LoadState} (first : id ∉ active)
      (imports : env.Imports id target)
      (failed : Fails (env.loadModule fuel (id :: active) target) s e s') :
      Fault env fuel active id e

theorem loadModule_fault {fuel : Nat} {active : List ModuleId} {id : ModuleId} {s s' : LoadState}
    {e : BundleError} (failed : Fails (env.loadModule (fuel + 1) active id) s e s') :
    env.Fault fuel active id e := by
  rw [loadModule_succ] at failed
  rcases fails_bind.mp failed with failed | ⟨t, _, -, failed⟩
  · exact (not_fails_get failed).elim
  split at failed
  · exact (not_fails_pure failed).elim
  split at failed
  · next again =>
    obtain rfl := fails_throw failed
    exact .circular (List.contains_iff_mem.mp again)
  next first =>
  rcases fails_bind.mp failed with failed | ⟨program, _, parsed, failed⟩
  · obtain ⟨missing, refuses⟩ := program_fails failed
    refine .lacking ?_ refuses
    rintro ⟨_, tree, -⟩
    rw [missing] at tree
    cases tree
  have tree := (program_tree parsed).1
  rcases fails_bind.mp failed with failed | ⟨_, _, -, failed⟩
  · -- A statement fails: its specifier means no module, or the module is not loaded.
    obtain ⟨statement, member, _, _, failed⟩ := fails_mapM failed
    unfold item at failed
    split at failed
    · exact (not_fails_pure failed).elim
    next specifier named =>
    rcases fails_bind.mp failed with failed | ⟨target, _, resolved, failed⟩
    · obtain ⟨unknown, _, same, refuses⟩ := resolve_fails failed
      obtain rfl := Option.some.inj same
      exact .lacking (not_complete_of_statement tree member named unknown) refuses
    rcases fails_bind.mp failed with failed | ⟨_, _, -, failed⟩
    · exact .nested (mt List.contains_iff_mem.mpr first)
        (imports_of_statement tree member named (resolve_target resolved).1) failed
    · exact (not_fails_pure failed).elim
  · exact (not_fails_modify failed).elim

theorem loadModule_stops (env : Environment) :
    ∀ (fuel : Nat) (active : List ModuleId) (id : ModuleId) (s s' : LoadState) (e : BundleError),
      Fails (env.loadModule fuel active id) s e s' → env.Stops fuel active id e
  | 0, _, _, _, _, _, failed => fails_throw failed ▸ .tooDeep
  | fuel + 1, _, _, _, _, e, failed =>
    match loadModule_fault failed with
    | .circular again => .circular again
    | .lacking lacks refuses => .incomplete lacks refuses.ne_endless
    | .nested first imports failed =>
      .deeper first imports (loadModule_stops env fuel _ _ _ _ _ failed)

end Environment

/-! ## What loading adds -/

/-- Complete modules among some were added, each after the modules it names, and a plugin had the
text of each once. -/
structure Visits (env : Environment) (among : ModuleId → Prop) (s s' : LoadState) : Prop where
  added : ∃ more, s'.ids = s.ids ++ more ∧ (∀ m ∈ more, among m ∧ env.Complete m) ∧
    ∀ m, s'.deliveries m = s.deliveries m + more.count m
  ordered : env.Ordered s.ids → env.Ordered s'.ids

namespace Visits

variable {env : Environment} {among : ModuleId → Prop} {s t u : LoadState}

/-- A step that adds nothing. -/
theorem of_eq (modules : t.modules = s.modules) (delivered : ∀ m, t.deliveries m = s.deliveries m) :
    Visits env among s t := by
  have ids : t.ids = s.ids := congrArg (List.map SourceModule.id) modules
  exact ⟨⟨[], by simp [ids], by simp, by simp [delivered]⟩, fun ordered => ids ▸ ordered⟩

theorem trans (first : Visits env among s t) (second : Visits env among t u) :
    Visits env among s u := by
  obtain ⟨more, t_ids, found, delivered⟩ := first.added
  obtain ⟨more', u_ids, found', delivered'⟩ := second.added
  refine ⟨⟨more ++ more', by rw [u_ids, t_ids, List.append_assoc],
    List.forall_mem_append.mpr ⟨found, found'⟩, fun m => ?_⟩,
    fun ordered => second.ordered (first.ordered ordered)⟩
  rw [delivered', delivered, List.count_append, Nat.add_assoc]

theorem mono {among' : ModuleId → Prop} (visits : Visits env among s t)
    (weaker : ∀ m, among m → among' m) : Visits env among' s t := by
  obtain ⟨more, ids, found, delivered⟩ := visits.added
  exact ⟨⟨more, ids, fun m member => (found m member).imp_left (weaker m), delivered⟩,
    visits.ordered⟩

theorem mem_ids (visits : Visits env among s t) {id : ModuleId} (member : id ∈ s.ids) :
    id ∈ t.ids := by
  obtain ⟨more, ids, -⟩ := visits.added
  exact ids ▸ List.mem_append_left more member

end Visits

namespace Environment

variable {env : Environment}

/-- A module is complete, and what it reaches was added. -/
def VisitsModule (env : Environment) (id : ModuleId) (s s' : LoadState) : Prop :=
  Visits env (ReflTransGen env.Imports id) s s' ∧ id ∈ s'.ids

mutual

theorem Loading.visits (unreadable : env.Unreadable) :
    ∀ {active : List ModuleId} {id : ModuleId} {s s' : LoadState}, env.Loading active id s s' →
      env.VisitsModule id s s'
  | _, _, _, _, .known member => ⟨.of_eq rfl fun _ => rfl, member⟩
  | _, _, _, _, @Loading.complete _ _ id program items s t u _ _ parsed resolving => by
    obtain ⟨tree, t_delivered⟩ := program_tree parsed
    have t_ids : t.ids = s.ids := congrArg (List.map _) (program_succeeds parsed).1
    obtain ⟨nested, named⟩ := resolving.visits unreadable
      fun _ member _ _ named means => imports_of_statement tree member named means
    obtain ⟨more, u_ids, found, u_delivered⟩ := nested.added
    have s'_ids : LoadState.ids { u with modules := u.modules ++ [.ofItems id items] } =
        u.ids ++ [id] := List.map_append
    -- The statements of the numbered tree are those of the tree that the graph speaks of.
    have statements : ∀ statement ∈ program.erase.body, ∀ specifier,
        statement.specifier? = some specifier →
        ∃ target, env.target? specifier (some id) = some target ∧ target ∈ u.ids := by
      rw [Program.erase, Program.body_map]
      intro erased erased_member specifier erased_named
      obtain ⟨statement, member, rfl⟩ := List.mem_map.mp erased_member
      rw [Statement.specifier?_map] at erased_named
      exact named statement member specifier erased_named
    have complete : env.Complete id := by
      refine ⟨program.erase, tree, fun statement member specifier names => ?_⟩
      obtain ⟨target, means, -⟩ := statements statement member specifier names
      exact ⟨target, means⟩
    have before : ∀ target, env.Imports id target → target ∈ u.ids := by
      rintro target ⟨program', tree', statement, member, specifier, names, means⟩
      obtain rfl := Option.some.inj (tree.symm.trans tree')
      obtain ⟨target', means', loaded⟩ := statements statement member specifier names
      obtain rfl := Option.some.inj (means.symm.trans means')
      exact loaded
    -- The module itself is added last, after all that it names.
    refine ⟨⟨⟨more ++ [id], ?_, ?_, fun m => ?_⟩, fun ordered => ?_⟩, ?_⟩
    · rw [s'_ids, u_ids, t_ids, List.append_assoc]
    · exact List.forall_mem_append.mpr ⟨found, by simpa using ⟨ReflTransGen.refl, complete⟩⟩
    · change u.deliveries m = _
      rw [u_delivered, t_delivered unreadable, List.count_append]
      omega
    · rw [s'_ids]
      exact (nested.ordered (t_ids ▸ ordered)).concat before
    · rw [s'_ids]
      exact List.mem_concat_self

/-- Statements of a module name modules that are complete, and what they reach was added. -/
theorem Resolving.visits (unreadable : env.Unreadable) :
    ∀ {active : List ModuleId} {id : ModuleId} {body : List (Statement Occurrence)}
      {items : List ModuleItem} {s s' : LoadState}, env.Resolving active id body items s s' →
      (∀ statement ∈ body, ∀ specifier target, statement.specifier? = some specifier →
        env.target? specifier (some id) = some target → env.Imports id target) →
      Visits env (ReflTransGen env.Imports id) s s' ∧
        ∀ statement ∈ body, ∀ specifier, statement.specifier? = some specifier →
          ∃ target, env.target? specifier (some id) = some target ∧ target ∈ s'.ids
  | _, _, _, _, _, _, .nil, _ => ⟨.of_eq rfl fun _ => rfl, nofun⟩
  | _, _, _, _, _, _, .plain unnamed rest, imports => by
    obtain ⟨visits, named⟩ := rest.visits unreadable (List.forall_mem_cons.mp imports).2
    refine ⟨visits, List.forall_mem_cons.mpr ⟨fun specifier names => ?_, named⟩⟩
    rw [unnamed] at names
    cases names
  | _, _, _, _, _, _, @Resolving.named _ _ id source _ specifier _ _ s t _ _ names resolved loading
      rest, imports => by
    obtain ⟨imports_first, imports_rest⟩ := List.forall_mem_cons.mp imports
    obtain ⟨rest_visits, rest_named⟩ := rest.visits unreadable imports_rest
    obtain ⟨means, delivered⟩ := resolve_target resolved
    obtain ⟨source_visits, source_loaded⟩ := loading.visits unreadable
    have source_named : env.Imports id source := imports_first specifier source names means
    have resolved_visits : Visits env (ReflTransGen env.Imports id) s t :=
      .of_eq (resolve_succeeds resolved).1 delivered
    have nested := source_visits.mono fun m reaches => ReflTransGen.head source_named reaches
    refine ⟨(resolved_visits.trans nested).trans rest_visits,
      List.forall_mem_cons.mpr ⟨fun specifier' names' => ?_, rest_named⟩⟩
    obtain rfl := Option.some.inj (names.symm.trans names')
    exact ⟨source, means, rest_visits.mem_ids source_loaded⟩

end

end Environment

/-! ## Loading an entry -/

/-- A state holds the modules that an entry reaches, each once and after the modules it names, with
the entry last; a plugin had the text of each of them once, and of no other. -/
structure LoadState.Holds (s : LoadState) (env : Environment) (root : ModuleId) : Prop where
  nodup : s.ids.Nodup
  mem_iff : ∀ m, m ∈ s.ids ↔ ReflTransGen env.Imports root m
  ordered : env.Ordered s.ids
  last : s.ids.getLast? = some root
  delivered : ∀ m, s.deliveries m = if m ∈ s.ids then 1 else 0

namespace Environment

variable {env : Environment}

theorem loadEntry_succeeds {entry : Text} {id : ModuleId} {s' : LoadState}
    (success : Succeeds (env.loadEntry entry) .initial id s') (unreadable : env.Unreadable) :
    id = env.root entry ∧ s'.Holds env id ∧ ∀ m ∈ s'.ids, env.Complete m := by
  obtain ⟨-, distinct, last, last_module, last_id⟩ := loadEntry_loaded success
  obtain ⟨t, resolved, loading⟩ := loadEntry_loading success
  obtain ⟨means, t_delivered⟩ := resolve_target resolved
  have t_ids : t.ids = [] := congrArg (List.map _) (resolve_succeeds resolved).1
  obtain ⟨visits, member⟩ := loading.visits unreadable
  obtain ⟨more, ids, found, delivered⟩ := visits.added
  rw [t_ids, List.nil_append] at ids
  have ordered : env.Ordered s'.ids := visits.ordered (t_ids ▸ .nil)
  refine ⟨Option.some.inj (means.symm.trans (target?_entry entry)),
    ⟨distinct, fun m => ⟨fun listed => (found m (ids ▸ listed)).1, ordered.mem_of_reaches member⟩,
      ordered, ?_, fun m => ?_⟩, fun m listed => (found m (ids ▸ listed)).2⟩
  · rw [LoadState.ids, List.getLast?_map, last_module, Option.map_some, last_id]
  · have once : more.count m = if m ∈ more then 1 else 0 :=
      List.Nodup.count (ids ▸ distinct)
    rw [delivered, t_delivered, once, ids]
    exact Nat.zero_add _

/-- An entry always means a module, so where loading it fails, this module is not loaded. -/
theorem loadEntry_fault {entry : Text} {e : BundleError} {s' : LoadState}
    (failed : Fails (env.loadEntry entry) .initial e s') :
    ∃ t, Fails (env.loadModule (env.moduleBound + 2) [] (env.root entry)) t e s' := by
  rcases fails_bind.mp failed with failed | ⟨id, t, resolved, failed⟩
  · obtain ⟨-, _, impossible, -⟩ := resolve_fails failed
    cases impossible
  obtain ⟨means, -⟩ := resolve_target resolved
  obtain rfl := Option.some.inj (means.symm.trans (target?_entry entry))
  rcases fails_bind.mp failed with failed | ⟨_, _, -, failed⟩
  · exact ⟨t, failed⟩
  · exact (not_fails_pure failed).elim

theorem loadEntry_fails {entry : Text} {e : BundleError} {s' : LoadState}
    (failed : Fails (env.loadEntry entry) .initial e s') :
    env.Stops (env.moduleBound + 2) [] (env.root entry) e := by
  obtain ⟨t, failed⟩ := loadEntry_fault failed
  exact loadModule_stops env _ _ _ _ _ _ failed

end Environment

/-- Loading an entry from tables never runs out of depth. It succeeds exactly if every module that
the entry reaches is complete and none of them reaches itself, and then it holds these modules. -/
theorem loadEntry_holds {env : Environment} (unreadable : env.Unreadable) (entry : Text) :
    (∀ e s, Fails (env.loadEntry entry) .initial e s → e ≠ .endless) ∧
      (∀ id s, Succeeds (env.loadEntry entry) .initial id s →
        id = env.root entry ∧ s.Holds env id) ∧
      ((∃ id s, Succeeds (env.loadEntry entry) .initial id s) ↔
        ∀ m, ReflTransGen env.Imports (env.root entry) m →
          env.Complete m ∧ ¬ TransGen env.Imports m m) := by
  have finite : ∀ e s, Fails (env.loadEntry entry) .initial e s → e ≠ .endless := by
    intro e s failed
    exact (Environment.loadEntry_fails failed).not_endless unreadable .nil nofun (Nat.le_refl _)
  refine ⟨finite, fun id s success => ?_, fun ⟨id, s, success⟩ m reaches => ?_, fun sound => ?_⟩
  · obtain ⟨same, holds, -⟩ := Environment.loadEntry_succeeds success unreadable
    exact ⟨same, holds⟩
  · obtain ⟨rfl, holds, complete⟩ := Environment.loadEntry_succeeds success unreadable
    have member := (holds.mem_iff m).mpr reaches
    exact ⟨complete m member, holds.ordered.acyclic holds.nodup member⟩
  · rcases succeeds_or_fails (env.loadEntry entry) .initial with success | ⟨e, s, failed⟩
    · exact success
    · obtain ⟨m, reaches, obstacle⟩ :=
        (Environment.loadEntry_fails failed).obstacle (finite e s failed) nofun
      obtain ⟨complete, acyclic⟩ := sound m reaches
      exact (obstacle.elim (absurd complete) acyclic).elim

/-- Where nothing but a working directory is known, a path never leads to a file. -/
theorem Disk.follow_empty (current : List Text) (content : ByteArray) :
    ∀ (components place : List Text),
      (Disk.empty current).follow place components ≠ .ok (.file content)
  | [], place => by
    rw [Disk.follow, Disk.node?]
    split <;> simp [Disk.empty, Option.elim]
  | component :: rest, place => by
    rw [Disk.follow]
    split
    · simp
    · simp
    · simp
    · split
      · simp
      · exact Disk.follow_empty current content rest _

theorem Disk.readText_empty (current : List Text) (path : Text) :
    ∃ cause, (Disk.empty current).readText path = .error cause := by
  cases read : (Disk.empty current).readText path with
  | error cause => exact ⟨cause, rfl⟩
  | ok text =>
    obtain ⟨⟨⟩, -, read⟩ := bind_eq_ok.mp read
    obtain ⟨content, found, -⟩ := bind_eq_ok.mp read
    obtain ⟨node, found, is_file⟩ := bind_eq_ok.mp (mapError_eq_ok.mp found)
    cases node with
    | directory => cases is_file
    | fault cause => cases is_file
    | file content =>
      rw [Disk.find] at found
      split at found
      · cases found
      · exact (Disk.follow_empty _ _ _ _ found).elim

/-- Four modules; two of them name the same one, which one of them names twice, by a specifier that
means another module to the entry. -/
def diamondModules : Environment :=
  ⟨.empty [], [⟨"memory",
    some [⟨"a", .only none, "a"⟩, ⟨"next", .only (some "a"), "b"⟩, ⟨"next", .all, "d"⟩,
      ⟨"c", .all, "c"⟩],
    some [("a", "import { x } from 'next'; import { y } from 'c'; x(y);"),
      ("b", "import { z } from 'next'; export { w } from 'next'; export function x() {}"),
      ("c", "export { z as y } from 'next';"),
      ("d", "export var z = 1; export var w = 2;")]⟩]⟩

theorem diamondModules_holds :
    ∃ id s, Succeeds (diamondModules.loadEntry "a") .initial id s ∧
      s.ids = [("d" : Text), ("b" : Text), ("c" : Text), ("a" : Text)] ∧
      s.Holds diamondModules "a" := by
  have unreadable : diamondModules.Unreadable := Disk.readText_empty []
  have found : ((diamondModules.loadEntry "a").run.run .initial).1.toOption =
      some ("a" : Text) ∧
      ((diamondModules.loadEntry "a").run.run .initial).2.ids =
        [("d" : Text), ("b" : Text), ("c" : Text), ("a" : Text)] := by
    decide +kernel
  rcases succeeds_or_fails (diamondModules.loadEntry "a") .initial with
    ⟨id, s, success⟩ | ⟨e, s, failed⟩
  · have run : (diamondModules.loadEntry "a").run.run .initial = (.ok id, s) := success
    rw [run] at found
    obtain rfl := Option.some.inj found.1
    exact ⟨_, s, success, found.2, ((loadEntry_holds unreadable "a").2.1 _ s success).2⟩
  · have run : (diamondModules.loadEntry "a").run.run .initial = (.error e, s) := failed
    rw [run] at found
    cases found.1

end LibraryDescriptor
