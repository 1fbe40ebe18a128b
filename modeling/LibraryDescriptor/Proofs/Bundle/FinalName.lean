import LibraryDescriptor.Bundle.FinalName
import LibraryDescriptor.Proofs.Scope.Sites
import Mathlib.Data.List.Perm.Subperm

/-!
# Names in a bundle

* `freeName_first` — a free name is the first candidate that is none of those to avoid.
* `FinalNames.assign_inj` — different declarations have different names in a bundle.
* `FinalNames.assign_entry` — the declarations of the entry keep their names.
* `FinalNames.assign_avoids` — no other name is bound around a reference to its declaration.
* `FinalNames.exists_assign` — every declaration has a name.
* `Search` — the search for a name, step by step, and `FinalNames.assign_chosen` — it ends for every
  declaration, and the names given earlier stay.
-/

namespace LibraryDescriptor

/-! ## Free names -/

theorem candidateName_injective (name : Text) : Function.Injective (candidateName name) := by
  have scalar_inj : Function.Injective CodePoint.scalar := fun _ _ => CodePoint.scalar.inj
  intro j k same
  match j, k with
  | 0, 0 => rfl
  | 0, k + 1 | k + 1, 0 =>
    have lengths := congrArg List.length same
    simp [candidateName, Text.join, Text.ofString] at lengths
  | j + 1, k + 1 =>
    simp only [candidateName, Text.join, List.flatten_cons, List.flatten_nil, List.append_nil,
      List.append_cancel_left_eq] at same
    have digits := List.map_injective_iff.mpr scalar_inj same
    calc j + 1 = Nat.ofDigitChars 10 (Nat.toDigits 10 (j + 1)) 0 :=
          Nat.ofDigitChars_ten_toDigits.symm
      _ = k + 1 := by rw [digits, Nat.ofDigitChars_ten_toDigits]

/-- There are more candidates than names to avoid, so one of them is free. -/
theorem exists_free_candidate (name : Text) (avoid : List Text) :
    ∃ k ∈ List.range (avoid.length + 1), candidateName name k ∉ avoid := by
  by_contra taken
  simp only [not_exists, not_and, not_not] at taken
  have nodup : ((List.range (avoid.length + 1)).map (candidateName name)).Nodup :=
    List.nodup_range.map (candidateName_injective name)
  have subset : (List.range (avoid.length + 1)).map (candidateName name) ⊆ avoid :=
    fun n member => by
    obtain ⟨k, k_member, rfl⟩ := List.mem_map.mp member
    exact taken k k_member
  have few := (List.subperm_of_subset nodup subset).length_le
  rw [List.length_map, List.length_range] at few
  omega

/-- A free name is the first candidate that is not to be avoided. -/
theorem freeName_first (name : Text) (avoid : List Text) :
    ∃ k, freeName name avoid = candidateName name k ∧ candidateName name k ∉ avoid ∧
      ∀ j < k, candidateName name j ∈ avoid := by
  obtain ⟨k, k_member, free⟩ := exists_free_candidate name avoid
  unfold freeName
  cases found : (List.range (avoid.length + 1)).find?
      fun k => !avoid.contains (candidateName name k) with
  | none => simpa [free] using List.find?_eq_none.mp found k k_member
  | some k =>
    obtain ⟨free, -, earlier⟩ := List.find?_range_eq_some.mp found
    exact ⟨k, rfl, by simpa using free, fun j lt => by simpa using earlier j lt⟩

theorem freeName_not_mem (name : Text) (avoid : List Text) : freeName name avoid ∉ avoid := by
  obtain ⟨k, same, free, -⟩ := freeName_first name avoid
  rwa [same]

/-! ## Modules of a bundle -/

/-- Modules of different identities, each with different names for its symbols. -/
structure DistinctModules (modules : List LinkedModule) : Prop where
  ids : (modules.map LinkedModule.id).Nodup
  symbols : ∀ m ∈ modules, (m.module.analysis.symbols.map ModuleSymbol.name).Nodup

namespace DistinctModules

variable {modules : List LinkedModule} (distinct : DistinctModules modules)

include distinct

theorem id_inj {m k : LinkedModule} (m_member : m ∈ modules) (k_member : k ∈ modules)
    (same : m.id = k.id) : m = k :=
  List.inj_on_of_nodup_map distinct.ids m_member k_member same

theorem filter_id (id : ModuleId) :
    modules.filter (·.id = id) = [] ∨ ∃ m ∈ modules, modules.filter (·.id = id) = [m] := by
  have nodup : ((modules.filter (·.id = id)).map LinkedModule.id).Nodup :=
    (List.Sublist.map _ List.filter_sublist).nodup distinct.ids
  have has_id : ∀ m ∈ modules.filter (·.id = id), m ∈ modules ∧ m.id = id := fun m member => by
    simpa using List.mem_filter.mp member
  cases found : modules.filter (·.id = id) with
  | nil => exact .inl rfl
  | cons m rest =>
    rw [found] at nodup has_id
    cases rest with
    | nil => exact .inr ⟨m, (has_id m (by simp)).1, rfl⟩
    | cons k _ =>
      have same : m.id = k.id := (has_id m (by simp)).2.trans (has_id k (by simp)).2.symm
      simp [same] at nodup

end DistinctModules

/-! ## Assignment of names -/

namespace FinalNames

variable {modules : List LinkedModule} {globals : List Text}

/-- What is known about names that were added one after the other. -/
structure Added (modules : List LinkedModule) (globals : List Text) (before after : FinalNames)
    (origins : List Origin) : Prop where
  keys : after.map Prod.fst = before.map Prod.fst ++ origins
  nodup : after.taken.Nodup
  known : ∀ origin name, (origin, name) ∈ after → (origin, name) ∈ before ∨
    origin ∈ origins ∧ name ∉ globals ∧ name ∉ namesAround modules origin

theorem add_added {before : FinalNames} (nodup : before.taken.Nodup) (origin : Origin) :
    Added modules globals before (add modules globals before origin) [origin] := by
  have free := freeName_not_mem origin.name
    (before.taken ++ globals ++ namesAround modules origin)
  simp only [List.mem_append, not_or] at free
  refine ⟨by simp [add], ?_, fun o name member => ?_⟩
  · rw [taken, add, List.map_append, List.map_singleton, ← List.concat_eq_append,
      List.nodup_concat]
    exact ⟨free.1.1, nodup⟩
  · rcases List.mem_append.mp member with old | new
    · exact .inl old
    · obtain ⟨rfl, rfl⟩ := Prod.mk.inj (List.mem_singleton.mp new)
      exact .inr ⟨List.mem_singleton_self _, free.1.2, free.2⟩

theorem foldl_add_added {before : FinalNames} (nodup : before.taken.Nodup)
    (origins : List Origin) :
    Added modules globals before (origins.foldl (add modules globals) before) origins := by
  induction origins generalizing before with
  | nil => exact ⟨by simp, nodup, fun _ _ member => .inl member⟩
  | cons origin rest ih =>
    have step : Added modules globals before _ [origin] := add_added nodup origin
    have run := ih step.nodup
    refine ⟨by simp [run.keys, step.keys], run.nodup, fun o name member => ?_⟩
    rcases run.known o name member with old | ⟨later, free⟩
    · rcases step.known o name old with first | ⟨new, free⟩
      · exact .inl first
      · exact .inr ⟨List.mem_cons.mpr (.inl (List.mem_singleton.mp new)), free⟩
    · exact .inr ⟨List.mem_cons_of_mem _ later, free⟩

/-! ## The names of a bundle -/

section Assign

variable (distinct : DistinctModules modules) (entry : ModuleId)

theorem assign_eq :
    assign modules entry =
      ((modules.filter fun m => !decide (m.id = entry)).flatMap LinkedModule.declarations).foldl
        (add modules (modules.flatMap (·.module.analysis.globals)))
        ((modules.filter (·.id = entry)).flatMap ofEntry) := by
  rw [assign, List.partition_eq_filter_filter]
  rfl

theorem mem_ofEntry {m : LinkedModule} {origin : Origin} {name : Text} :
    (origin, name) ∈ ofEntry m ↔ origin ∈ m.declarations ∧ origin.name = name := by
  rw [ofEntry, List.mem_map]
  exact ⟨fun ⟨_, member, same⟩ => (Prod.mk.inj same).1 ▸ ⟨member, (Prod.mk.inj same).2⟩,
    fun ⟨member, same⟩ => ⟨origin, member, same ▸ rfl⟩⟩

theorem taken_ofEntry (m : LinkedModule) :
    taken (ofEntry m) = (m.module.analysis.symbols.filter (·.kind ≠ .imported)).map
      ModuleSymbol.name := by
  rw [taken, ofEntry, LinkedModule.declarations, List.map_map, List.map_map]
  rfl

theorem declaration_id {m : LinkedModule} {origin : Origin} (member : origin ∈ m.declarations) :
    origin.id = m.id := by
  obtain ⟨_, -, rfl⟩ := List.mem_map.mp member
  rfl

include distinct

theorem entry_taken_nodup :
    (taken ((modules.filter (·.id = entry)).flatMap ofEntry)).Nodup := by
  rcases distinct.filter_id entry with none | ⟨m, member, one⟩
  · rw [none]
    exact List.nodup_nil
  · rw [one, List.flatMap_singleton, taken_ofEntry]
    exact (List.Sublist.map _ List.filter_sublist).nodup (distinct.symbols m member)

theorem assign_added :
    Added modules (modules.flatMap (·.module.analysis.globals))
      ((modules.filter (·.id = entry)).flatMap ofEntry) (assign modules entry)
      ((modules.filter fun m => !decide (m.id = entry)).flatMap LinkedModule.declarations) := by
  rw [assign_eq]
  exact foldl_add_added (entry_taken_nodup distinct entry) _

theorem assign_inj {a b : Origin} {name : Text}
    (a_named : (assign modules entry).get? a = some name)
    (b_named : (assign modules entry).get? b = some name) : a = b :=
  congrArg Prod.fst (List.inj_on_of_nodup_map (assign_added distinct entry).nodup
    (mem_of_lookup a_named) (mem_of_lookup b_named) rfl)

theorem assign_entry {origin : Origin} {name : Text}
    (named : (assign modules entry).get? origin = some name) (own : origin.id = entry) :
    name = origin.name := by
  rcases (assign_added distinct entry).known origin name (mem_of_lookup named)
    with first | ⟨later, -⟩
  · obtain ⟨m, -, listed⟩ := List.mem_flatMap.mp first
    exact (mem_ofEntry.mp listed).2.symm
  · obtain ⟨m, m_member, declared⟩ := List.mem_flatMap.mp later
    have other := (List.mem_filter.mp m_member).2
    rw [← declaration_id declared, own] at other
    simp at other

theorem assign_avoids {origin : Origin} {name : Text}
    (named : (assign modules entry).get? origin = some name) (foreign : origin.id ≠ entry) :
    name ∉ namesAround modules origin := by
  rcases (assign_added distinct entry).known origin name (mem_of_lookup named) with first | later
  · obtain ⟨m, m_member, listed⟩ := List.mem_flatMap.mp first
    have own := (List.mem_filter.mp m_member).2
    rw [← declaration_id (mem_ofEntry.mp listed).1] at own
    exact absurd (of_decide_eq_true own) foreign
  · exact later.2.2

theorem exists_assign {m : LinkedModule} (member : m ∈ modules) {origin : Origin}
    (declared : origin ∈ m.declarations) :
    ∃ name, (assign modules entry).get? origin = some name := by
  have listed : origin ∈ (assign modules entry).map Prod.fst := by
    rw [(assign_added distinct entry).keys, List.mem_append]
    by_cases own : m.id = entry
    · refine .inl (List.mem_map.mpr ⟨(origin, origin.name), ?_, rfl⟩)
      exact List.mem_flatMap.mpr ⟨m, List.mem_filter.mpr ⟨member, decide_eq_true own⟩,
        mem_ofEntry.mpr ⟨declared, rfl⟩⟩
    · exact .inr (List.mem_flatMap.mpr
        ⟨m, List.mem_filter.mpr ⟨member, by simpa using own⟩, declared⟩)
  obtain ⟨pair, pair_member, rfl⟩ := List.mem_map.mp listed
  exact Option.isSome_iff_exists.mp
    (List.lookup_isSome_iff.mpr ⟨pair, pair_member, beq_self_eq_true _⟩)

theorem exists_declaration {origin : Origin} {name : Text}
    (named : (assign modules entry).get? origin = some name) :
    ∃ m ∈ modules, origin ∈ m.declarations := by
  have listed := List.mem_map_of_mem (f := Prod.fst) (mem_of_lookup named)
  rw [(assign_added distinct entry).keys, List.mem_append] at listed
  rcases listed with first | later
  · obtain ⟨⟨_, _⟩, member, rfl⟩ := List.mem_map.mp first
    obtain ⟨m, m_member, inside⟩ := List.mem_flatMap.mp member
    exact ⟨m, (List.mem_filter.mp m_member).1, (mem_ofEntry.mp inside).1⟩
  · obtain ⟨m, m_member, declared⟩ := List.mem_flatMap.mp later
    exact ⟨m, (List.mem_filter.mp m_member).1, declared⟩

end Assign

end FinalNames

/-! ## The search for a name -/

/-- The search for a name, from a candidate on: a candidate that is not blocked is found, and after
one that is blocked comes the next. -/
inductive Search (blocked : Text → Prop) (name : Text) : Nat → Text → Prop
  | found {k} (free : ¬blocked (candidateName name k)) :
    Search blocked name k (candidateName name k)
  | next {k result} (clash : blocked (candidateName name k))
    (rest : Search blocked name (k + 1) result) : Search blocked name k result

theorem Search.of_first {blocked : Text → Prop} {name : Text} {k : Nat}
    (free : ¬blocked (candidateName name k)) (earlier : ∀ j < k, blocked (candidateName name j)) :
    Search blocked name 0 (candidateName name k) := by
  have behind (j : Nat) (le : j ≤ k) : Search blocked name j (candidateName name k) := by
    induction le using Nat.decreasingInduction with
    | self => exact .found free
    | of_succ j lt rest => exact .next (earlier j lt) rest
  exact behind 0 (Nat.zero_le k)

namespace FinalNames

/-- Whether a declaration cannot get a name after others have got theirs: the name is taken, it is a
global of a module, or it is bound around a reference to the declaration. -/
def Blocks (given : FinalNames) (modules : List LinkedModule) (origin : Origin) (name : Text) :
    Prop :=
  name ∈ given.taken ∨ (∃ m ∈ modules, name ∈ m.module.analysis.globals) ∨
    ∃ m ∈ modules, ∃ r ∈ m.module.analysis.references,
      m.origin? r.symbol = some origin ∧ name ∈ r.shadowed

theorem blocks_iff {given : FinalNames} {modules : List LinkedModule} {origin : Origin}
    {name : Text} :
    given.Blocks modules origin name ↔ name ∈ given.taken ++
      modules.flatMap (·.module.analysis.globals) ++ namesAround modules origin := by
  simp only [Blocks, namesAround, LinkedModule.namesAround, List.mem_append, List.mem_flatMap,
    List.mem_filter, decide_eq_true_eq, or_assoc, and_assoc]

/-- The names that come out give a declaration the first candidate that was not blocked when it was
its turn, and keep all names given before. -/
structure Chosen (names given : FinalNames) (modules : List LinkedModule) (origin : Origin)
    (k : Nat) : Prop where
  turn : given ++ [(origin, candidateName origin.name k)] <+: names
  found : Search (given.Blocks modules origin) origin.name 0 (candidateName origin.name k)
  free : ¬given.Blocks modules origin (candidateName origin.name k)
  first : ∀ j < k, given.Blocks modules origin (candidateName origin.name j)
  kept : ¬given.Blocks modules origin origin.name → candidateName origin.name k = origin.name
  named : names.get? origin = some (candidateName origin.name k)
  stays : ∀ o name, given.get? o = some name → names.get? o = some name

theorem foldl_add_eq {modules : List LinkedModule} {globals : List Text} (before : FinalNames)
    (origins : List Origin) :
    ∃ more : FinalNames, origins.foldl (add modules globals) before = before ++ more ∧
      more.map Prod.fst = origins := by
  induction origins generalizing before with
  | nil => exact ⟨[], (List.append_nil _).symm, rfl⟩
  | cons origin rest ih =>
    obtain ⟨more, same, keys⟩ := ih (add modules globals before origin)
    rw [List.foldl_cons, same, add, List.append_assoc, List.singleton_append]
    exact ⟨_ :: more, rfl, congrArg (origin :: ·) keys⟩

theorem get?_append {names more : FinalNames} {origin : Origin} :
    get? (names ++ more) origin = (names.get? origin).or (get? more origin) := List.lookup_append

theorem get?_eq_none {names : FinalNames} {origin : Origin} (absent : origin ∉ names.map Prod.fst) :
    names.get? origin = none := by
  cases found : names.get? origin with
  | none => rfl
  | some name => exact absurd (List.mem_map_of_mem (mem_of_lookup found)) absent

/-- A declaration that has no name yet gets its name at its first turn. -/
theorem foldl_add_chosen {modules : List LinkedModule} {entryNames : FinalNames}
    {origins : List Origin} {origin : Origin} (unnamed : origin ∉ entryNames.map Prod.fst)
    (listed : origin ∈ origins) :
    ∃ given k, entryNames <+: given ∧
      Chosen (origins.foldl (add modules (modules.flatMap (·.module.analysis.globals))) entryNames)
        given modules origin k := by
  -- Names are added at the end, so only the declarations before the turn can be in the way.
  obtain ⟨before, after, rfl, fresh⟩ := List.eq_append_cons_of_mem listed
  rw [List.foldl_append, List.foldl_cons]
  obtain ⟨earlier, given, keys⟩ := foldl_add_eq entryNames before
  obtain ⟨later, rest, -⟩ := foldl_add_eq (add modules _ (entryNames ++ earlier) origin) after
  obtain ⟨k, chosen, free, tried⟩ := freeName_first origin.name _
  rw [given, rest, add, chosen]
  simp only [← blocks_iff] at free tried
  have new : get? (entryNames ++ earlier) origin = none := by
    refine get?_eq_none ?_
    rw [List.map_append, keys, List.mem_append]
    exact not_or.mpr ⟨unnamed, fresh⟩
  refine ⟨entryNames ++ earlier, k, List.prefix_append _ _, List.prefix_append _ _,
    .of_first free tried, free, tried, fun unblocked => ?_, ?_, fun o name named => ?_⟩
  · obtain _ | k := k
    · rfl
    · exact absurd (tried 0 (Nat.succ_pos k)) unblocked
  · rw [get?_append, get?_append, new]
    simp [get?]
  · rw [get?_append, get?_append, named]
    rfl

/-- Every declaration outside of the entry gets the first candidate that is not blocked, after the
names of the entry have been given. -/
theorem assign_chosen {modules : List LinkedModule} (entry : ModuleId) {m : LinkedModule}
    (member : m ∈ modules) (foreign : m.id ≠ entry) {origin : Origin}
    (declared : origin ∈ m.declarations) :
    ∃ given k, (modules.filter (·.id = entry)).flatMap ofEntry <+: given ∧
      Chosen (assign modules entry) given modules origin k := by
  rw [assign_eq]
  refine foldl_add_chosen (fun own => ?_)
    (List.mem_flatMap.mpr ⟨m, List.mem_filter.mpr ⟨member, by simpa using foreign⟩, declared⟩)
  obtain ⟨_, named, rfl⟩ := List.mem_map.mp own
  obtain ⟨k, k_member, named⟩ := List.mem_flatMap.mp named
  have same := (declaration_id declared).symm.trans (declaration_id (mem_ofEntry.mp named).1)
  exact foreign (same.trans (of_decide_eq_true (List.mem_filter.mp k_member).2))

/-- A module that declares `x`, uses `x$1` as a global, and refers to `x` where `x$2` is bound. -/
def crowded : LinkedModule :=
  ⟨⟨"b", [], ⟨[⟨"x", ⟨.value, ⟨"x", some 0⟩⟩, []⟩], [⟨⟨"x", some 1⟩, none, ["x$2"]⟩], ["x$1"]⟩⟩,
    [], []⟩

/-- An entry that declares `x`, and a module that must give up that name and two more. -/
def crowdedModules : List LinkedModule :=
  [⟨⟨"a", [], ⟨[⟨"x", ⟨.value, ⟨"x", some 0⟩⟩, []⟩], [], []⟩⟩, [], []⟩, crowded]

theorem assign_chosen_crowded :
    crowded ∈ crowdedModules ∧ crowded.id ≠ "a" ∧ ⟨"b", "x"⟩ ∈ crowded.declarations ∧
      (∃ given k, (crowdedModules.filter (·.id = ("a" : Text))).flatMap ofEntry <+: given ∧
        Chosen (assign crowdedModules "a") given crowdedModules ⟨"b", "x"⟩ k) ∧
      (assign crowdedModules "a").get? ⟨"b", "x"⟩ = some "x$3" :=
  ⟨by simp [crowdedModules], by decide, by decide,
    assign_chosen "a" (m := crowded) (by simp [crowdedModules]) (by decide) (by decide), by decide⟩

end FinalNames

end LibraryDescriptor
