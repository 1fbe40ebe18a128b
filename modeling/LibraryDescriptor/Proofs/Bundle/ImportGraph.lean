import LibraryDescriptor.Proofs.Bundle.Loading
import LibraryDescriptor.Proofs.Syntax.Labeling
import Mathlib.Data.List.Perm.Subperm
import Mathlib.Logic.Relation

/-!
# The import graph

Which modules a module names, told from the tables of the plugins and the texts of the modules.

* `Environment.target?`, `Environment.tree?` — the module that a specifier means, and the tree of a
  module.
* `Environment.Imports` — a module names another in an import or an export.
* `Environment.Complete` — a module has a tree, and all that it names are modules.
* `Environment.Ordered` — every module comes after the modules it names.
* `Environment.Stops` — why a search of the graph stops before its end.
-/

namespace LibraryDescriptor

open Relation (ReflTransGen TransGen)

/-! ## Tables of plugins -/

namespace Plugin

/-- The answer of a plugin to the question for a specifier. -/
def target? (plugin : Plugin) (specifier : Text) (importer : Option ModuleId) : Option ModuleId :=
  plugin.resolve.bind fun table => (table.find? (·.fits specifier importer)).map Route.target

def text? (plugin : Plugin) (id : ModuleId) : Option Text := plugin.load.bind (·.lookup id)

end Plugin

/-- The first answer to the question for a specifier counts. -/
theorem askResolve_result (specifier : Text) (importer : Option ModuleId) (plugins : List Plugin) :
    (askResolve specifier importer plugins).2 =
      plugins.findSome? (·.target? specifier importer) := by
  induction plugins with
  | nil => rfl
  | cons plugin plugins ih =>
    rw [askResolve, List.findSome?_cons, Plugin.target?, ← ih]
    cases plugin.resolve with
    | none => rfl
    | some table => cases found : table.find? (·.fits specifier importer) <;> simp [found]

theorem askLoad_result (id : ModuleId) (plugins : List Plugin) :
    (askLoad id plugins).2 = plugins.findSome? (·.text? id) := by
  induction plugins with
  | nil => rfl
  | cons plugin plugins ih =>
    rw [askLoad, List.findSome?_cons, Plugin.text?, ← ih]
    cases plugin.load with
    | none => rfl
    | some table => cases row : table.lookup id <;> simp [row]

def HookCall.delivers (id : ModuleId) : HookCall → Bool
  | .resolve _ _ _ _ => false
  | .load _ asked found => found && asked = id

/-- No text comes from a question for a specifier. -/
theorem askResolve_delivers (id : ModuleId) (specifier : Text) (importer : Option ModuleId)
    (plugins : List Plugin) :
    (askResolve specifier importer plugins).1.countP (HookCall.delivers id) = 0 := by
  induction plugins with
  | nil => rfl
  | cons plugin plugins ih =>
    rw [askResolve]
    cases plugin.resolve with
    | none => exact ih
    | some table =>
      cases found : table.find? (·.fits specifier importer) with
      | none => simpa [found, HookCall.delivers] using ih
      | some route => simp [found, HookCall.delivers]

/-- A text comes from one plugin. -/
theorem askLoad_delivers (id : ModuleId) {asked : ModuleId} {plugins : List Plugin} {text : Text}
    (found : plugins.findSome? (·.text? asked) = some text) :
    (askLoad asked plugins).1.countP (HookCall.delivers id) = [asked].count id := by
  induction plugins with
  | nil => cases found
  | cons plugin plugins ih =>
    rw [List.findSome?_cons, Plugin.text?] at found
    rw [askLoad]
    cases loads : plugin.load with
    | none => exact ih (by simpa [loads] using found)
    | some table =>
      cases row : table.lookup asked with
      | none => simpa [row, HookCall.delivers] using ih (by simpa [loads, row] using found)
      | some text =>
        simp only [row, List.countP_singleton, HookCall.delivers, Bool.true_and, decide_eq_true_eq,
          List.count_singleton, beq_iff_eq]

/-! ## Modules -/

namespace Environment

variable {env : Environment}

/-- The module that a specifier means. Only the entry has no importer. -/
def target? (env : Environment) (specifier : Text) (importer : Option ModuleId) :
    Option ModuleId :=
  match env.plugins.findSome? (·.target? specifier importer), importer with
  | some id, _ => some id
  | none, none => some (Path.absolute env.disk.currentPath specifier)
  | none, some importer =>
    if isPathSpecifier specifier then some (importedPath importer specifier) else none

def text? (env : Environment) (id : ModuleId) : Option Text :=
  (env.plugins.findSome? (·.text? id)).or (env.disk.readText (Path.tidy id)).toOption

def tree? (env : Environment) (id : ModuleId) : Option (Program Text) :=
  (env.text? id).bind fun text => (parse text).toOption

/-- A module names another one in an import or an export. -/
def Imports (env : Environment) (id target : ModuleId) : Prop :=
  ∃ program, env.tree? id = some program ∧ ∃ s ∈ program.body, ∃ specifier,
    s.specifier? = some specifier ∧ env.target? specifier (some id) = some target

/-- A module has a tree, and every specifier in it means a module. -/
def Complete (env : Environment) (id : ModuleId) : Prop :=
  ∃ program, env.tree? id = some program ∧ ∀ s ∈ program.body, ∀ specifier,
    s.specifier? = some specifier → ∃ target, env.target? specifier (some id) = some target

/-- No text is on the disk. -/
def Unreadable (env : Environment) : Prop :=
  ∀ path, ∃ cause, env.disk.readText path = .error cause

def root (env : Environment) (entry : Text) : ModuleId :=
  (env.plugins.findSome? (·.target? entry none)).getD (Path.absolute env.disk.currentPath entry)

theorem target?_entry (entry : Text) : env.target? entry none = some (env.root entry) := by
  unfold target? root
  cases env.plugins.findSome? (·.target? entry none) <;> rfl

theorem Imports.tree?_isSome {id target : ModuleId} (imports : env.Imports id target) :
    (env.tree? id).isSome := by
  obtain ⟨program, tree, -⟩ := imports
  simp [tree]

/-! ## The number of modules with a text -/

def delivered (env : Environment) : List ModuleId :=
  env.plugins.flatMap fun plugin => (plugin.load.getD []).map Prod.fst

theorem mem_keys_of_lookup {α : Type} {rows : List (Text × α)} {key : Text} {value : α}
    (found : rows.lookup key = some value) : key ∈ rows.map Prod.fst := by
  by_contra absent
  have missing : rows.lookup key = none := by
    rw [List.lookup_eq_none_iff]
    intro row member
    rw [bne_iff_ne]
    rintro rfl
    exact absent (List.mem_map_of_mem member)
  rw [missing] at found
  cases found

theorem mem_delivered (unreadable : env.Unreadable) {id : ModuleId}
    (tree : (env.tree? id).isSome) : id ∈ env.delivered := by
  obtain ⟨cause, failed⟩ := unreadable (Path.tidy id)
  rw [tree?, text?, failed, Except.toOption, Option.or_none] at tree
  cases found : env.plugins.findSome? (·.text? id) with
  | none => simp [found] at tree
  | some text =>
    obtain ⟨plugin, member, row⟩ := List.exists_of_findSome?_eq_some found
    obtain ⟨rows, loads, row⟩ := Option.bind_eq_some_iff.mp row
    rw [delivered, List.mem_flatMap]
    exact ⟨plugin, member, by rw [loads]; exact mem_keys_of_lookup row⟩

theorem length_flatMap_le_foldl (plugins : List Plugin) (start : Nat) :
    start + (plugins.flatMap fun plugin => (plugin.load.getD []).map Prod.fst).length ≤
      plugins.foldl (fun n plugin => n + plugin.size) start := by
  induction plugins generalizing start with
  | nil => exact Nat.le_refl start
  | cons plugin plugins ih =>
    have rows : ((plugin.load.getD []).map Prod.fst).length ≤ plugin.size := by
      rw [List.length_map, Plugin.size]
      cases plugin.load <;> simp
    have rest := ih (start + plugin.size)
    rw [List.flatMap_cons, List.length_append, List.foldl_cons]
    omega

theorem length_delivered_le (env : Environment) : env.delivered.length ≤ env.moduleBound :=
  Nat.le_trans (Nat.le_add_left ..) (length_flatMap_le_foldl env.plugins (2 * env.disk.fileCount))

/-- A chain of different modules that have texts is no longer than the bound. -/
theorem length_le_moduleBound (unreadable : env.Unreadable) {ids : List ModuleId}
    (distinct : ids.Nodup) (trees : ∀ id ∈ ids, (env.tree? id).isSome) :
    ids.length ≤ env.moduleBound := by
  have listed : ids ⊆ env.delivered := fun id member => mem_delivered unreadable (trees id member)
  exact Nat.le_trans (List.subperm_of_subset distinct listed).length_le env.length_delivered_le

/-! ## Orders -/

/-- Every module comes after the modules it names. -/
def Ordered (env : Environment) (ids : List ModuleId) : Prop :=
  ∀ before id after, ids = before ++ id :: after → ∀ target, env.Imports id target →
    target ∈ before

theorem Ordered.nil : env.Ordered [] := by
  intro before id after same
  simp at same

theorem Ordered.concat {ids : List ModuleId} (ordered : env.Ordered ids) {id : ModuleId}
    (named : ∀ target, env.Imports id target → target ∈ ids) : env.Ordered (ids ++ [id]) := by
  intro before m after same target imports
  -- With nothing after it, the module is the new one; else it has its place in the old order.
  rcases List.eq_nil_or_concat after with rfl | ⟨rest, last, rfl⟩
  · obtain ⟨rfl, single⟩ := List.append_inj' same rfl
    obtain rfl := List.singleton_inj.mp single
    exact named target imports
  · rw [List.concat_eq_append, ← List.cons_append, ← List.append_assoc] at same
    obtain ⟨rfl, -⟩ := List.append_inj' same rfl
    exact ordered before m rest rfl target imports

theorem Ordered.mem_of_imports {ids : List ModuleId} (ordered : env.Ordered ids)
    {id target : ModuleId}
    (member : id ∈ ids) (imports : env.Imports id target) : target ∈ ids := by
  obtain ⟨before, after, rfl⟩ := List.append_of_mem member
  exact List.mem_append_left _ (ordered before id after rfl target imports)

theorem Ordered.mem_of_reaches {ids : List ModuleId} (ordered : env.Ordered ids)
    {id target : ModuleId} (member : id ∈ ids) (reaches : ReflTransGen env.Imports id target) :
    target ∈ ids := by
  induction reaches with
  | refl => exact member
  | tail _ imports ih => exact ordered.mem_of_imports ih imports

/-- What a module reaches is before it, so no module of an order reaches itself. -/
theorem Ordered.acyclic {ids : List ModuleId} (ordered : env.Ordered ids) (distinct : ids.Nodup)
    {id : ModuleId} (member : id ∈ ids) : ¬ TransGen env.Imports id id := by
  intro cycle
  obtain ⟨before, after, rfl⟩ := List.append_of_mem member
  have before_ordered : env.Ordered before := by
    intro front m rest same
    refine ordered front m (rest ++ id :: after) ?_
    rw [same, List.append_assoc, List.cons_append]
  have earlier : ∀ {target}, TransGen env.Imports id target → target ∈ before := by
    intro target chain
    induction chain with
    | single imports => exact ordered before id after rfl _ imports
    | tail _ imports ih => exact before_ordered.mem_of_imports ih imports
  exact (List.nodup_append.mp distinct).2.2 id (earlier cycle) id List.mem_cons_self rfl

/-! ## Why a search stops -/

/-- A search that goes at most `fuel` modules deep, with `active` modules above it, stops at
`id`. -/
inductive Stops (env : Environment) : Nat → List ModuleId → ModuleId → BundleError → Prop where
  | tooDeep {active : List ModuleId} {id : ModuleId} : Stops env 0 active id .endless
  | circular {fuel : Nat} {active : List ModuleId} {id : ModuleId} (again : id ∈ active) :
      Stops env (fuel + 1) active id (.circular id)
  | incomplete {fuel : Nat} {active : List ModuleId} {id : ModuleId} {e : BundleError}
      (lacks : ¬ env.Complete id) (other : e ≠ .endless) : Stops env (fuel + 1) active id e
  | deeper {fuel : Nat} {active : List ModuleId} {id target : ModuleId} {e : BundleError}
      (first : id ∉ active) (imports : env.Imports id target)
      (stops : Stops env fuel (id :: active) target e) : Stops env (fuel + 1) active id e

/-- The modules above a search are different and have texts, so the search is never too deep. -/
theorem Stops.not_endless (unreadable : env.Unreadable) {fuel : Nat} {active : List ModuleId}
    {id : ModuleId} {e : BundleError} (stops : env.Stops fuel active id e)
    (distinct : active.Nodup) (trees : ∀ m ∈ active, (env.tree? m).isSome)
    (enough : env.moduleBound + 2 ≤ fuel + active.length) : e ≠ .endless := by
  induction stops with
  | tooDeep =>
    -- All of the depth is in the modules above, which would be more than there are texts.
    have short := length_le_moduleBound unreadable distinct trees
    omega
  | circular again => exact nofun
  | incomplete lacks other => exact other
  | deeper first imports stops ih =>
    refine ih (List.nodup_cons.mpr ⟨first, distinct⟩)
      (List.forall_mem_cons.mpr ⟨imports.tree?_isSome, trees⟩) ?_
    rw [List.length_cons]
    omega

/-- A search stops only at a cycle or at a module that is not complete. -/
theorem Stops.obstacle {fuel : Nat} {active : List ModuleId} {id : ModuleId} {e : BundleError}
    (stops : env.Stops fuel active id e) (other : e ≠ .endless)
    (above : ∀ m ∈ active, TransGen env.Imports m id) :
    ∃ m, ReflTransGen env.Imports id m ∧ (¬ env.Complete m ∨ TransGen env.Imports m m) := by
  induction stops with
  | tooDeep => exact absurd rfl other
  | @circular _ _ id again => exact ⟨id, .refl, .inr (above id again)⟩
  | @incomplete _ _ id _ lacks _ => exact ⟨id, .refl, .inl lacks⟩
  | @deeper _ active id target _ _ imports _ ih =>
    -- Each module above names the next, down to the one where the search goes on.
    have nested : ∀ m ∈ id :: active, TransGen env.Imports m target := by
      intro m member
      rcases List.mem_cons.mp member with rfl | earlier
      · exact .single imports
      · exact (above m earlier).tail imports
    obtain ⟨m, reaches, obstacle⟩ := ih other nested
    exact ⟨m, .head imports reaches, obstacle⟩

end Environment

end LibraryDescriptor
