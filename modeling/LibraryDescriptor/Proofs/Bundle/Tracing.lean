import LibraryDescriptor.Bundle.Link
import LibraryDescriptor.Proofs.Scope.Sites
import LibraryDescriptor.Proofs.Success

/-!
# Tracing names to declarations

What a name means across modules, as a relation on the modules as they are written, and linking as a
way to compute it.

* `Traces` — a name of a module means a declaration: directly, or through imports and exports.
* `Traces.unique` — it means one declaration only.
* `Linked` — modules linked one after the other; `Linked.traces` — what linking finds is what the
  names mean.
-/

namespace LibraryDescriptor

/-! ## What names mean -/

/-- What is exported: a name of a declaration in the export itself, a top-level name, or an export
of another module. -/
inductive ExportTarget where
  | declaration (name : Text)
  | topLevel (name : Text)
  | other (source : ModuleId) (name : Text)

def ModuleItem.target (item : ModuleItem) : ModuleId := item.source.getD []

def ModuleItem.importBindings (item : ModuleItem) : List (Text × ModuleId × Text) :=
  match item.statement with
  | .importList specifiers _ => specifiers.map fun s => (s.bound.name, item.target, s.imported.name)
  | _ => []

def ModuleItem.exportBindings (item : ModuleItem) : List (Text × ExportTarget) :=
  match item.statement with
  | .exportDeclaration value => value.names.map fun o => (o.name, .declaration o.name)
  | .exportList specifiers (some _) =>
    specifiers.map fun s => (s.exported.name, .other item.target s.bound.name)
  | .exportList specifiers none => specifiers.map fun s => (s.exported.name, .topLevel s.bound.name)
  | _ => []

def SourceModule.importBindings (m : SourceModule) : List (Text × ModuleId × Text) :=
  m.items.flatMap ModuleItem.importBindings

def SourceModule.exportBindings (m : SourceModule) : List (Text × ExportTarget) :=
  m.items.flatMap ModuleItem.exportBindings

def latest? {α : Type} (bindings : List (Text × α)) (name : Text) : Option α :=
  bindings.reverse.lookup name

/-- A name of a module as its own code sees it, or as other modules do. -/
inductive Side where
  | inside | outside

/-- A name of a module means a declaration. Imports hide declarations of the same name, and of
several imports or exports of one name the last holds. -/
inductive Traces (modules : List SourceModule) : Side → ModuleId → Text → Origin → Prop where
  | declared {m : SourceModule} {s : ModuleSymbol} (member : m ∈ modules)
      (unimported : latest? m.importBindings s.name = none) (symbol : s ∈ m.analysis.symbols)
      (kind : s.kind ≠ .imported) : Traces modules .inside m.id s.name ⟨m.id, s.name⟩
  | imported {m : SourceModule} {name imported : Text} {source : ModuleId} {origin : Origin}
      (member : m ∈ modules) (binding : latest? m.importBindings name = some (source, imported))
      (exported : Traces modules .outside source imported origin) :
      Traces modules .inside m.id name origin
  | exportedDeclaration {m : SourceModule} {exported name : Text} (member : m ∈ modules)
      (binding : latest? m.exportBindings exported = some (.declaration name)) :
      Traces modules .outside m.id exported ⟨m.id, name⟩
  | exportedName {m : SourceModule} {exported name : Text} {origin : Origin} (member : m ∈ modules)
      (binding : latest? m.exportBindings exported = some (.topLevel name))
      (inner : Traces modules .inside m.id name origin) :
      Traces modules .outside m.id exported origin
  | exportedOther {m : SourceModule} {exported name : Text} {source : ModuleId} {origin : Origin}
      (member : m ∈ modules)
      (binding : latest? m.exportBindings exported = some (.other source name))
      (further : Traces modules .outside source name origin) :
      Traces modules .outside m.id exported origin

namespace Traces

variable {modules : List SourceModule} (ids : (modules.map SourceModule.id).Nodup)
  {m : SourceModule} (member : m ∈ modules) {name : Text} {origin : Origin}

include ids member

theorem inside_inv (traces : Traces modules .inside m.id name origin) :
    latest? m.importBindings name = none ∧ origin = ⟨m.id, name⟩ ∨
      ∃ source imported, latest? m.importBindings name = some (source, imported) ∧
        Traces modules .outside source imported origin := by
  generalize id_eq : m.id = id at traces
  cases traces with
  | declared member' unimported =>
    obtain rfl := List.inj_on_of_nodup_map ids member member' id_eq
    exact .inl ⟨unimported, rfl⟩
  | imported member' binding exported =>
    obtain rfl := List.inj_on_of_nodup_map ids member member' id_eq
    exact .inr ⟨_, _, binding, exported⟩

theorem outside_inv (traces : Traces modules .outside m.id name origin) :
    ∃ target, latest? m.exportBindings name = some target ∧
      match target with
      | .declaration own => origin = ⟨m.id, own⟩
      | .topLevel inner => Traces modules .inside m.id inner origin
      | .other source further => Traces modules .outside source further origin := by
  generalize id_eq : m.id = id at traces
  cases traces with
  | exportedDeclaration member' binding =>
    obtain rfl := List.inj_on_of_nodup_map ids member member' id_eq
    exact ⟨_, binding, rfl⟩
  | exportedName member' binding inner =>
    obtain rfl := List.inj_on_of_nodup_map ids member member' id_eq
    exact ⟨_, binding, inner⟩
  | exportedOther member' binding further =>
    obtain rfl := List.inj_on_of_nodup_map ids member member' id_eq
    exact ⟨_, binding, further⟩

end Traces

theorem Traces.unique {modules : List SourceModule} (ids : (modules.map SourceModule.id).Nodup)
    {side : Side} {id : ModuleId} {name : Text} {first second : Origin}
    (traces : Traces modules side id name first) (again : Traces modules side id name second) :
    first = second := by
  induction traces generalizing second with
  | declared member unimported =>
    rcases again.inside_inv ids member with ⟨-, same⟩ | ⟨_, _, binding, -⟩
    · exact same.symm
    · rw [unimported] at binding
      cases binding
  | imported member binding _ ih =>
    rcases again.inside_inv ids member with ⟨unimported, -⟩ | ⟨_, _, binding', exported⟩
    · rw [binding] at unimported
      cases unimported
    · rw [binding] at binding'
      cases binding'
      exact ih exported
  | exportedDeclaration member binding =>
    obtain ⟨target, binding', means⟩ := again.outside_inv ids member
    rw [binding] at binding'
    cases binding'
    exact means.symm
  | exportedName member binding _ ih | exportedOther member binding _ ih =>
    obtain ⟨target, binding', means⟩ := again.outside_inv ids member
    rw [binding] at binding'
    cases binding'
    exact ih means

theorem Traces.origin_id {modules : List SourceModule} {side : Side} {id : ModuleId} {name : Text}
    {origin : Origin} (traces : Traces modules side id name origin) :
    origin.id ∈ modules.map SourceModule.id := by
  induction traces with
  | declared member | exportedDeclaration member => exact List.mem_map_of_mem member
  | imported _ _ _ ih | exportedName _ _ _ ih | exportedOther _ _ _ ih => exact ih

/-! ## Linking -/

/-- Modules linked one after the other. -/
inductive Linked : List SourceModule → List LinkedModule → Prop where
  | nil : Linked [] []
  | snoc {modules : List SourceModule} {linked : List LinkedModule} {m : SourceModule}
      {result : LinkedModule} (before : Linked modules linked)
      (success : m.link linked = .ok result) : Linked (modules ++ [m]) (linked ++ [result])

theorem foldlM_link_linked {modules before : List SourceModule} {linked result : List LinkedModule}
    (done : Linked before linked)
    (success : modules.foldlM (fun linked m => do return linked ++ [← m.link linked]) linked =
      .ok result) : Linked (before ++ modules) result := by
  induction modules generalizing before linked with
  | nil =>
    obtain rfl := pure_eq_ok.mp success
    rwa [List.append_nil]
  | cons m rest ih =>
    rw [List.foldlM_cons] at success
    obtain ⟨longer, linkedOne, success⟩ := bind_eq_ok.mp success
    obtain ⟨one, success', same⟩ := bind_eq_ok.mp linkedOne
    obtain rfl := pure_eq_ok.mp same
    have further := ih (done.snoc success') success
    rwa [List.append_assoc] at further

theorem linkAll_linked {modules : List SourceModule} {linked : List LinkedModule}
    (success : linkAll modules = .ok linked) : Linked modules linked :=
  foldlM_link_linked .nil success

/-- Bindings of the same names in the same order, whose values are related. -/
def SameNames {α β : Type} (related : α → β → Prop) (first : List (Text × α))
    (second : List (Text × β)) : Prop :=
  List.Forall₂ (fun a b => a.1 = b.1 ∧ related a.2 b.2) first second

theorem SameNames.lookup {α β : Type} {related : α → β → Prop} {first : List (Text × α)}
    {second : List (Text × β)} (same : SameNames related first second) (name : Text) :
    first.lookup name = none ∧ second.lookup name = none ∨
      ∃ a b, first.lookup name = some a ∧ second.lookup name = some b ∧ related a b := by
  induction same with
  | nil => exact .inl ⟨rfl, rfl⟩
  | @cons x y _ _ both _ ih =>
    obtain ⟨k, a⟩ := x
    obtain ⟨l, b⟩ := y
    obtain ⟨rfl : k = l, related⟩ := both
    rw [List.lookup_cons, List.lookup_cons]
    cases name == k with
    | true => exact .inr ⟨a, b, rfl, rfl, related⟩
    | false => exact ih

theorem SameNames.latest {α β : Type} {related : α → β → Prop} {first : List (Text × α)}
    {second : List (Text × β)} (same : SameNames related first second) (name : Text) :
    latest? first name = none ∧ latest? second name = none ∨
      ∃ a b, latest? first name = some a ∧ latest? second name = some b ∧ related a b :=
  SameNames.lookup (List.forall₂_reverse_iff.mpr same) name

theorem sameNames_flatten {ε α β γ : Type} {related : α → β → Prop}
    {bindings : γ → List (Text × α)} {compute : γ → Except ε (List (Text × β))}
    (each : ∀ item result, compute item = .ok result → SameNames related (bindings item) result)
    {items : List γ} {results : List (List (Text × β))}
    (success : items.mapM compute = .ok results) :
    SameNames related (items.flatMap bindings) results.flatten := by
  rw [mapM_eq_ok] at success
  induction success with
  | nil => exact .nil
  | cons first _ ih => exact List.rel_append (each _ _ first) ih

def ExportTarget.Means (linked : List LinkedModule) (m : SourceModule) (imports : Origins) :
    ExportTarget → Origin → Prop
  | .declaration name, origin => origin = ⟨m.id, name⟩
  | .topLevel name, origin => m.origin? imports name = some origin
  | .other source name, origin => exportedOrigin linked (some source) m.id name = .ok origin

theorem exportedOrigin_eq_ok {linked : List LinkedModule} {source : Option ModuleId}
    {importer : ModuleId} {name : Text} {origin : Origin}
    (success : exportedOrigin linked source importer name = .ok origin) :
    ∃ k ∈ linked, k.id = source.getD [] ∧ k.exports.get? name = some origin := by
  unfold exportedOrigin at success
  simp only at success
  split at success
  · cases success
  · next k found =>
    split at success
    · next exported =>
      obtain rfl := Except.ok.inj success
      exact ⟨k, List.mem_of_find?_eq_some found, by simpa using List.find?_some found, exported⟩
    · cases success

theorem ModuleItem.imports_sameNames {linked : List LinkedModule} {importer : ModuleId}
    (item : ModuleItem) (result : Origins)
    (success : item.imports linked importer = .ok result) :
    SameNames (fun binding origin =>
        exportedOrigin linked (some binding.1) importer binding.2 = .ok origin)
      item.importBindings result := by
  obtain ⟨statement, _⟩ := item
  cases statement with
  | importList =>
    refine List.forall₂_map_left_iff.mpr
      ((mapM_eq_ok.mp success).imp fun specifier binding done => ?_)
    obtain ⟨origin, found, same⟩ := bind_eq_ok.mp done
    obtain rfl := pure_eq_ok.mp same
    exact ⟨rfl, found⟩
  | _ =>
    obtain rfl := Except.ok.inj success
    exact .nil

theorem ModuleItem.exports_sameNames {linked : List LinkedModule} {m : SourceModule}
    {imports : Origins} (item : ModuleItem) (result : Origins)
    (success : item.exports linked m imports = .ok result) :
    SameNames (ExportTarget.Means linked m imports) item.exportBindings result := by
  obtain ⟨statement, _⟩ := item
  cases statement with
  | exportDeclaration =>
    obtain rfl := Except.ok.inj success
    exact List.forall₂_map_left_iff.mpr (List.forall₂_map_right_iff.mpr
      (List.forall₂_same.mpr fun o _ => ⟨rfl, rfl⟩))
  | exportList specifiers source =>
    cases source with
    | some =>
      refine List.forall₂_map_left_iff.mpr ((mapM_eq_ok.mp success).imp fun _ _ done => ?_)
      obtain ⟨origin, found, same⟩ := bind_eq_ok.mp done
      obtain rfl := pure_eq_ok.mp same
      exact ⟨rfl, found⟩
    | none =>
      refine List.forall₂_map_left_iff.mpr ((mapM_eq_ok.mp success).imp fun _ _ done => ?_)
      split at done
      · next found =>
        obtain rfl := Except.ok.inj done
        exact ⟨rfl, found⟩
      · cases done
  | _ =>
    obtain rfl := Except.ok.inj success
    exact .nil

/-- What linking knows about a module. -/
structure LinkedModule.Links (linked : List LinkedModule) (m : SourceModule)
    (result : LinkedModule) : Prop where
  module_eq : result.module = m
  imports : SameNames (fun binding origin =>
      exportedOrigin linked (some binding.1) m.id binding.2 = .ok origin)
    m.importBindings result.imports
  exports : SameNames (ExportTarget.Means linked m result.imports) m.exportBindings result.exports

theorem SourceModule.link_links {linked : List LinkedModule} {m : SourceModule}
    {result : LinkedModule} (success : m.link linked = .ok result) :
    LinkedModule.Links linked m result := by
  obtain ⟨imports, imported, success⟩ := bind_eq_ok.mp success
  obtain ⟨exports, exported, success⟩ := bind_eq_ok.mp success
  obtain rfl := pure_eq_ok.mp success
  exact ⟨rfl, sameNames_flatten ModuleItem.imports_sameNames imported,
    sameNames_flatten ModuleItem.exports_sameNames exported⟩

/-- A name that a linked module declares or imports. -/
theorem LinkedModule.Links.origin?_cases {linked : List LinkedModule} {m : SourceModule}
    {result : LinkedModule} (links : LinkedModule.Links linked m result) {name : Text}
    {origin : Origin} (found : m.origin? result.imports name = some origin) :
    (latest? m.importBindings name = none ∧ origin = ⟨m.id, name⟩ ∧
      ∃ s ∈ m.analysis.symbols, s.name = name ∧ s.kind ≠ .imported) ∨
    ∃ source imported, latest? m.importBindings name = some (source, imported) ∧
      exportedOrigin linked (some source) m.id imported = .ok origin := by
  unfold SourceModule.origin? at found
  rcases links.imports.latest name
    with ⟨unimported, none⟩ | ⟨⟨source, imported⟩, o, binding, some, related⟩
  · simp only [Origins.get?, latest?] at none found
    rw [none] at found
    split at found
    · next impossible => cases impossible
    · next s _ symbol =>
      unfold ScopeAnalysis.symbol? at symbol
      split at found
      · cases found
      · next kind =>
        exact .inl ⟨unimported, (Option.some.inj found).symm, s, List.mem_of_find?_eq_some symbol,
          by simpa using List.find?_some symbol, kind⟩
    · cases found
  · simp only [Origins.get?, latest?] at some found
    rw [some] at found
    obtain rfl := Option.some.inj found
    exact .inr ⟨source, imported, binding, related⟩

namespace Linked

variable {modules : List SourceModule} {linked : List LinkedModule}

theorem map_module (done : Linked modules linked) : linked.map LinkedModule.module = modules := by
  induction done with
  | nil => rfl
  | snoc _ success ih =>
    rw [List.map_append, ih, List.map_singleton, (SourceModule.link_links success).module_eq]

theorem map_id (done : Linked modules linked) :
    linked.map LinkedModule.id = modules.map SourceModule.id := by
  rw [← done.map_module, List.map_map]
  rfl

/-- What linking finds is what names mean. -/
theorem traces (done : Linked modules linked) {all : List SourceModule} (within : modules ⊆ all) :
    ∀ k ∈ linked,
      (∀ name origin, k.exports.get? name = some origin → Traces all .outside k.id name origin) ∧
      (∀ name origin, k.origin? name = some origin → Traces all .inside k.id name origin) := by
  induction done with
  | nil => exact fun k member => nomatch member
  | @snoc modules linked m result _ success ih =>
    obtain ⟨earlier, here⟩ := List.append_subset.mp within
    have ih := ih earlier
    have m_member : m ∈ all := here (List.mem_singleton_self m)
    have links := SourceModule.link_links success
    have id_eq : result.id = m.id := congrArg SourceModule.id links.module_eq
    have origin_eq : ∀ name, result.origin? name = m.origin? result.imports name := fun name => by
      rw [LinkedModule.origin?, links.module_eq]
    have exported : ∀ {source name origin},
        exportedOrigin linked (some source) m.id name = .ok origin →
          Traces all .outside source name origin := fun success => by
      obtain ⟨k, member, rfl, found⟩ := exportedOrigin_eq_ok success
      exact (ih k member).1 _ _ found
    have inside : ∀ name origin, result.origin? name = some origin →
        Traces all .inside result.id name origin := fun name origin found => by
      rw [origin_eq] at found
      rw [id_eq]
      rcases links.origin?_cases found with
        ⟨unimported, rfl, s, symbol, rfl, kind⟩ | ⟨source, imported, binding, success⟩
      · exact .declared m_member unimported symbol kind
      · exact .imported m_member binding (exported success)
    refine List.forall_mem_append.mpr ⟨ih,
      List.forall_mem_singleton.mpr ⟨fun name origin found => ?_,
      inside⟩⟩
    rcases links.exports.latest name with ⟨-, none⟩ | ⟨target, o, binding, some, means⟩
    · exact (nomatch none.symm.trans found)
    · obtain rfl := Option.some.inj (some.symm.trans found)
      rw [id_eq]
      match target, means with
      | .declaration _, rfl => exact .exportedDeclaration m_member binding
      | .topLevel inner, means =>
        exact .exportedName m_member binding (id_eq ▸ inside inner _ (origin_eq inner ▸ means))
      | .other _ _, means => exact .exportedOther m_member binding (exported means)

end Linked

end LibraryDescriptor
