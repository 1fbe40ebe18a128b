import LibraryDescriptor.Proofs.Symbol.Resolution
import LibraryDescriptor.Symbol.Export
import Mathlib.Data.List.Nodup

/-!
# Maps of exports

* `ExportMap.ofPairs_eq_ok` — pairs make a map exactly if no symbol and no exported name is in two
  of them, and they are the map.
* `ExportMap.ofPairs_eq_error` — otherwise names collide.
* `ExportMap.exported?_perm` — a map does not depend on the order of its pairs.
* `Unwraps` — the exports of a module and what is left without them, statement by statement.
* `Program.resolveExports_unwraps` — that is what resolving the exports gives, or names collide.
-/

namespace LibraryDescriptor

theorem nodup_map_concat {α β : Type} {f : α → β} {list : List α} {a : α} :
    ((list ++ [a]).map f).Nodup ↔ f a ∉ list.map f ∧ (list.map f).Nodup := by
  rw [List.map_append, List.map_singleton, ← List.concat_eq_append, List.nodup_concat]

namespace ExportMap

theorem exported?_eq_none {m : ExportMap} {name : Text} :
    m.exported? name = none ↔ name ∉ m.map Prod.fst := by
  rw [exported?, List.lookup_eq_none_iff, List.mem_map]
  constructor
  · rintro absent ⟨pair, member, rfl⟩
    exact bne_iff_ne.mp (absent pair member) rfl
  · intro absent pair member
    rw [bne_iff_ne]
    rintro rfl
    exact absent ⟨pair, member, rfl⟩

theorem exporter?_eq_none {m : ExportMap} {exported : Text} :
    m.exporter? exported = none ↔ exported ∉ m.map Prod.snd := by
  rw [exporter?, Option.map_eq_none_iff, List.find?_eq_none, List.mem_map]
  constructor
  · rintro absent ⟨pair, member, same⟩
    exact absent pair member (decide_eq_true same)
  · intro absent pair member same
    exact absent ⟨pair, member, of_decide_eq_true same⟩

theorem register_eq_ok {m m' : ExportMap} {name exported : Text} :
    m.register name exported = .ok m' ↔
      name ∉ m.map Prod.fst ∧ exported ∉ m.map Prod.snd ∧ m ++ [(name, exported)] = m' := by
  rw [← exported?_eq_none, ← exporter?_eq_none, register]
  cases m.exported? name with
  | some first => simp
  | none => cases m.exporter? exported <;> simp

theorem register_eq_error {m : ExportMap} {name exported : Text} {e : CompileError}
    (failed : m.register name exported = .error e) : ∃ cause, e = .collision cause := by
  unfold register at failed
  split at failed
  · exact ⟨_, (Except.error.inj failed).symm⟩
  · exact ⟨_, (Except.error.inj failed).symm⟩
  · cases failed

/-- Pairs can be added to a map exactly if they share no name with it or with each other. -/
theorem foldlM_register_eq_ok :
    ∀ {pairs m m' : ExportMap}, (m.map Prod.fst).Nodup → (m.map Prod.snd).Nodup →
      (pairs.foldlM (fun m (name, exported) => m.register name exported) m = .ok m' ↔
        ((m ++ pairs).map Prod.fst).Nodup ∧ ((m ++ pairs).map Prod.snd).Nodup ∧ m ++ pairs = m')
  | [], m, m', names, exported => by
    rw [List.foldlM_nil, pure_eq_ok, List.append_nil]
    exact ⟨fun same => ⟨names, exported, same⟩, fun done => done.2.2⟩
  | (name, target) :: pairs, m, m', names, exported => by
    rw [List.foldlM_cons, bind_eq_ok, List.append_cons m]
    constructor
    · rintro ⟨next, registered, rest⟩
      obtain ⟨fresh, unused, rfl⟩ := register_eq_ok.mp registered
      exact (foldlM_register_eq_ok (nodup_map_concat.mpr ⟨fresh, names⟩)
        (nodup_map_concat.mpr ⟨unused, exported⟩)).mp rest
    · rintro ⟨all_names, all_exported, same⟩
      -- The map after one more pair is a part of the whole, so no name is in it twice.
      have next_names : ((m ++ [(name, target)]).map Prod.fst).Nodup :=
        all_names.sublist ((List.sublist_append_left _ pairs).map _)
      have next_exported : ((m ++ [(name, target)]).map Prod.snd).Nodup :=
        all_exported.sublist ((List.sublist_append_left _ pairs).map _)
      exact ⟨m ++ [(name, target)],
        register_eq_ok.mpr
          ⟨(nodup_map_concat.mp next_names).1, (nodup_map_concat.mp next_exported).1, rfl⟩,
        (foldlM_register_eq_ok next_names next_exported).mpr ⟨all_names, all_exported, same⟩⟩

theorem ofPairs_eq_ok {pairs m : ExportMap} :
    ofPairs pairs = .ok m ↔ (pairs.map Prod.fst).Nodup ∧ (pairs.map Prod.snd).Nodup ∧ pairs = m :=
  foldlM_register_eq_ok List.nodup_nil List.nodup_nil

theorem ofPairs_eq_error {pairs : ExportMap} {e : CompileError}
    (failed : ofPairs pairs = .error e) :
    ∃ cause, e = .collision cause := by
  unfold ofPairs at failed
  generalize ([] : ExportMap) = m at failed
  induction pairs generalizing m with
  | nil => cases failed
  | cons pair pairs ih =>
    rcases bind_eq_error.mp failed with failed | ⟨next, -, failed⟩
    · exact register_eq_error failed
    · exact ih next failed

theorem exported?_eq_some {m : ExportMap} (names : (m.map Prod.fst).Nodup) {name exported : Text} :
    m.exported? name = some exported ↔ (name, exported) ∈ m := by
  have listed : ∀ {other}, m.exported? name = some other → (name, other) ∈ m := by
    intro other found
    obtain ⟨before, after, rfl, -⟩ := List.lookup_eq_some_iff.mp found
    exact List.mem_append_right _ List.mem_cons_self
  refine ⟨listed, fun member => ?_⟩
  cases found : m.exported? name with
  | none => exact absurd (List.mem_map_of_mem member) (exported?_eq_none.mp found)
  | some other =>
    have same := List.inj_on_of_nodup_map names (listed found) member rfl
    rw [(Prod.mk.inj same).2]

/-- A map in which no symbol is twice does not depend on the order of its pairs. -/
theorem exported?_perm {m m' : ExportMap} (perm : m.Perm m') (names : (m.map Prod.fst).Nodup)
    (name : Text) : m.exported? name = m'.exported? name := by
  have names' : (m'.map Prod.fst).Nodup := (perm.map _).nodup_iff.mp names
  apply Option.ext
  intro exported
  rw [exported?_eq_some names, exported?_eq_some names', perm.mem_iff]

end ExportMap

/-! ## Resolving the exports of a module -/

/-- Whether two of the pairs have the same symbol or the same exported name. -/
def ExportMap.Shares (m : ExportMap) : Prop :=
  ∃ (i j : Nat) (p q : Text × Text),
    i < j ∧ m[i]? = some p ∧ m[j]? = some q ∧ (p.1 = q.1 ∨ p.2 = q.2)

theorem ExportMap.not_shares_iff {m : ExportMap} :
    ¬m.Shares ↔ (m.map Prod.fst).Nodup ∧ (m.map Prod.snd).Nodup := by
  unfold List.Nodup
  rw [List.pairwise_map, List.pairwise_map, ← List.pairwise_and_iff,
    List.pairwise_iff_getElem]
  constructor
  · intro apart i j first second lt
    exact not_or.mp fun same => apart ⟨i, j, _, _, lt, List.getElem?_eq_getElem first,
      List.getElem?_eq_getElem second, same⟩
  · rintro apart ⟨i, j, p, q, lt, atFirst, atSecond, same⟩
    obtain ⟨first, rfl⟩ := List.getElem?_eq_some_iff.mp atFirst
    obtain ⟨second, rfl⟩ := List.getElem?_eq_some_iff.mp atSecond
    exact not_or.mpr (apart i j first second lt) same

theorem ExportMap.ofPairs_of_not_shares {m : ExportMap} (apart : ¬m.Shares) :
    ofPairs m = .ok m := by
  obtain ⟨names, exported⟩ := not_shares_iff.mp apart
  exact ofPairs_eq_ok.mpr ⟨names, exported, rfl⟩

theorem ExportMap.ofPairs_collides_iff {m : ExportMap} :
    (∃ cause, ofPairs m = .error (.collision cause)) ↔ m.Shares := by
  constructor
  · rintro ⟨cause, failed⟩
    by_contra apart
    rw [ofPairs_of_not_shares apart] at failed
    cases failed
  · intro shares
    cases result : ofPairs m with
    | ok _ =>
      obtain ⟨names, exported, -⟩ := ofPairs_eq_ok.mp result
      exact absurd shares (not_shares_iff.mpr ⟨names, exported⟩)
    | error e =>
      obtain ⟨cause, rfl⟩ := ofPairs_eq_error result
      exact ⟨cause, rfl⟩

def Statement.isExport {ν : Type} : Statement ν → Bool
  | .exportDeclaration _ | .exportList _ _ => true
  | _ => false

/-- The statements of a module one after the other, the exports that they make, and what is left: an
exported declaration stays as a declaration, and a list of exports is dropped. -/
inductive Unwraps :
    List (Statement Occurrence) → ExportMap → List (Statement Occurrence) → Prop
  | nil : Unwraps [] [] []
  | other {s ss pairs body} (plain : s.isExport = false) (rest : Unwraps ss pairs body) :
    Unwraps (s :: ss) pairs (s :: body)
  | function {name params block ss pairs body} (rest : Unwraps ss pairs body) :
    Unwraps (.exportDeclaration (.function name params block) :: ss)
      ((name.name, name.name) :: pairs) (.declaration (.function name params block) :: body)
  | «variables» {kind items ss pairs body} (rest : Unwraps ss pairs body) :
    Unwraps (.exportDeclaration (.variables kind items) :: ss)
      (items.map (fun d => (d.name.name, d.name.name)) ++ pairs)
      (.declaration (.variables kind items) :: body)
  | list {specifiers source ss pairs body} (rest : Unwraps ss pairs body) :
    Unwraps (.exportList specifiers source :: ss)
      (specifiers.map (fun s => (s.bound.name, s.exported.name)) ++ pairs) body

theorem unwraps (ss : List (Statement Occurrence)) :
    Unwraps ss (ss.flatMap Statement.exportPairs) (ss.filterMap Statement.withoutExport?) := by
  induction ss with
  | nil => exact .nil
  | cons s ss ih =>
    rw [List.flatMap_cons, List.filterMap_cons]
    cases s with
    | exportDeclaration value =>
      cases value with
      | function => exact .function ih
      | «variables» kind items =>
        rw [Statement.exportPairs, Declaration.names, List.map_map]
        exact .variables ih
    | exportList => exact .list ih
    | _ => exact .other rfl ih

theorem Unwraps.plain {ss body : List (Statement Occurrence)} {pairs : ExportMap}
    (unwraps : Unwraps ss pairs body) : ∀ s ∈ body, s.isExport = false := by
  induction unwraps with
  | nil => exact List.forall_mem_nil _
  | other plain _ ih => exact List.forall_mem_cons.mpr ⟨plain, ih⟩
  | function _ ih | «variables» _ ih => exact List.forall_mem_cons.mpr ⟨rfl, ih⟩
  | list _ ih => exact ih

/-- Resolving the exports of a module fails exactly if two of them share a symbol or an exported
name. Otherwise it gives them in order, as an injective map, and the module without exports. -/
theorem Program.resolveExports_unwraps (program : Program Occurrence) :
    ∃ (pairs : ExportMap) (body : List (Statement Occurrence)), Unwraps program.body pairs body ∧
      ((∃ cause, program.resolveExports = .error (.collision cause)) ↔ pairs.Shares) ∧
      (¬pairs.Shares → program.resolveExports = .ok (pairs, ⟨body⟩) ∧
        (∀ name exported, pairs.exported? name = some exported ↔ (name, exported) ∈ pairs) ∧
        ∀ name other exported, pairs.exported? name = some exported →
          pairs.exported? other = some exported → name = other) ∧
      (∀ s ∈ body, s.isExport = false) ∧
      (⟨body⟩ : Program Occurrence).definitions = program.definitions := by
  refine ⟨program.exportPairs, program.withoutExports.body, unwraps program.body, ?_,
    fun apart => ?_, (unwraps program.body).plain, program.withoutExports_definitions⟩
  · refine (exists_congr fun cause => ?_).trans ExportMap.ofPairs_collides_iff
    rw [Program.resolveExports, bind_eq_error]
    exact or_iff_left (by simp [pure, Except.pure])
  · obtain ⟨names, exported⟩ := ExportMap.not_shares_iff.mp apart
    have listed {name target : Text} :
        ExportMap.exported? _ name = some target ↔ (name, target) ∈ program.exportPairs :=
      ExportMap.exported?_eq_some names
    refine ⟨?_, fun _ _ => listed, fun name other target first second => ?_⟩
    · unfold Program.resolveExports
      rw [ExportMap.ofPairs_of_not_shares apart]
      rfl
    · exact congrArg Prod.fst
        (List.inj_on_of_nodup_map exported (listed.mp first) (listed.mp second) rfl)

end LibraryDescriptor
