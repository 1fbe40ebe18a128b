import LibraryDescriptor.Proofs.Scope.Renaming
import Mathlib.Data.List.Nodup

/-!
# Symbols of a module

The symbols of a module are its definitions, grouped by name.

* `find?_eq_some_of_nodup` — what a search by name finds where no two names are the same.
* `Groups` — symbols group definitions; `Program.symbols_groups` — those of a module do.
* `Program.symbols_map` — the symbols of a renamed module, if its new names differ as the old ones.
-/

namespace LibraryDescriptor

/-! ## Search by a name -/

theorem find?_eq_some_of_nodup {α β : Type} [DecidableEq β] {key : α → β} {list : List α}
    (nodup : (list.map key).Nodup) {k : β} {a : α} :
    list.find? (fun b => key b = k) = some a ↔ a ∈ list ∧ key a = k := by
  constructor
  · intro found
    exact ⟨List.mem_of_find?_eq_some found, by simpa using List.find?_some found⟩
  · rintro ⟨member, same⟩
    cases found : list.find? (fun b => key b = k) with
    | none => exact absurd (decide_eq_true same) (List.find?_eq_none.mp found a member)
    | some b =>
      have b_key : key b = k := by simpa using List.find?_some found
      rw [List.inj_on_of_nodup_map nodup (List.mem_of_find?_eq_some found) member
        (b_key.trans same.symm)]

/-! ## Grouping -/

/-- Symbols group definitions by their names: each name has one symbol, which has all definitions
of the name. -/
structure Groups (symbols : List ModuleSymbol) (definitions : List Definition) : Prop where
  nodup : (symbols.map ModuleSymbol.name).Nodup
  definitions_eq : ∀ s ∈ symbols,
    s.definitions = definitions.filter fun d => d.occurrence.name = s.name
  covers : ∀ d ∈ definitions, d.occurrence.name ∈ symbols.map ModuleSymbol.name

theorem groups_nil : Groups [] [] := ⟨by simp, by simp, by simp⟩

theorem declare_fresh :
    ∀ {symbols : List ModuleSymbol} {d : Definition},
      d.occurrence.name ∉ symbols.map ModuleSymbol.name →
      declare symbols d = symbols ++ [⟨d.occurrence.name, d, []⟩]
  | [], _, _ => rfl
  | s :: ss, d, fresh => by
    rw [List.map_cons, List.mem_cons, not_or] at fresh
    rw [declare, if_neg fun same => fresh.1 same.symm, declare_fresh fresh.2, List.cons_append]

def ModuleSymbol.extend (d : Definition) (s : ModuleSymbol) : ModuleSymbol :=
  if s.name = d.occurrence.name then { s with others := s.others ++ [d] } else s

@[simp] theorem ModuleSymbol.extend_name (d : Definition) (s : ModuleSymbol) :
    (s.extend d).name = s.name := by
  unfold ModuleSymbol.extend
  split <;> rfl

theorem ModuleSymbol.extend_definitions (d : Definition) (s : ModuleSymbol) :
    (s.extend d).definitions =
      s.definitions ++ if d.occurrence.name = s.name then [d] else [] := by
  unfold ModuleSymbol.extend
  split
  · next same => simp [ModuleSymbol.definitions, same]
  · next other => simp [Ne.symm other]

theorem declare_known :
    ∀ {symbols : List ModuleSymbol} {d : Definition},
      (symbols.map ModuleSymbol.name).Nodup → d.occurrence.name ∈ symbols.map ModuleSymbol.name →
      declare symbols d = symbols.map (ModuleSymbol.extend d)
  | s :: ss, d, nodup, known => by
    rw [List.map_cons, List.nodup_cons] at nodup
    rw [declare, List.map_cons, ModuleSymbol.extend]
    split
    · next same =>
      -- No later symbol has the name, so extending them all changes nothing.
      have others : ∀ t ∈ ss, ModuleSymbol.extend d t = id t := fun t member =>
        if_neg fun again => nodup.1 (List.mem_map.mpr ⟨t, member, again.trans same.symm⟩)
      rw [List.map_congr_left others, List.map_id]
    · next other =>
      have later := (List.mem_cons.mp known).resolve_left (Ne.symm other)
      rw [declare_known nodup.2 later]

theorem Groups.declare {symbols : List ModuleSymbol} {definitions : List Definition}
    (groups : Groups symbols definitions) (d : Definition) :
    Groups (declare symbols d) (definitions ++ [d]) := by
  by_cases known : d.occurrence.name ∈ symbols.map ModuleSymbol.name
  · have names : (symbols.map (ModuleSymbol.extend d)).map ModuleSymbol.name =
        symbols.map ModuleSymbol.name := by
      rw [List.map_map]
      exact List.map_congr_left fun s _ => s.extend_name d
    rw [declare_known groups.nodup known]
    refine ⟨names ▸ groups.nodup, fun s member => ?_, fun e member => ?_⟩
    · obtain ⟨t, t_member, rfl⟩ := List.mem_map.mp member
      rw [ModuleSymbol.extend_definitions, ModuleSymbol.extend_name,
        groups.definitions_eq t t_member, List.filter_append]
      simp [List.filter_cons]
    · rw [names]
      rcases List.mem_append.mp member with old | new
      · exact groups.covers e old
      · exact List.mem_singleton.mp new ▸ known
  · have unused : definitions.filter (fun e => e.occurrence.name = d.occurrence.name) = [] :=
      List.filter_eq_nil_iff.mpr fun e member same =>
        known (of_decide_eq_true same ▸ groups.covers e member)
    rw [declare_fresh known]
    refine ⟨?_, fun s member => ?_, fun e member => ?_⟩
    · rw [List.map_append, List.map_singleton, ← List.concat_eq_append, List.nodup_concat]
      exact ⟨known, groups.nodup⟩
    · rw [List.filter_append]
      rcases List.mem_append.mp member with old | new
      · have other : d.occurrence.name ≠ s.name := fun same =>
          known (same ▸ List.mem_map_of_mem old)
        rw [groups.definitions_eq s old]
        simp [other]
      · obtain rfl := List.mem_singleton.mp new
        rw [unused]
        simp [ModuleSymbol.definitions]
    · rw [List.map_append, List.mem_append]
      rcases List.mem_append.mp member with old | new
      · exact .inl (groups.covers e old)
      · exact .inr (List.mem_singleton.mp new ▸ List.mem_singleton_self _)

theorem Groups.foldl_declare {symbols : List ModuleSymbol} {before : List Definition}
    (groups : Groups symbols before) (definitions : List Definition) :
    Groups (definitions.foldl LibraryDescriptor.declare symbols) (before ++ definitions) := by
  induction definitions generalizing symbols before with
  | nil => simpa using groups
  | cons d ds ih => simpa using ih (groups.declare d)

theorem Program.symbols_groups (program : Program Occurrence) :
    Groups program.symbols program.definitions :=
  groups_nil.foldl_declare program.definitions

namespace Groups

variable {symbols : List ModuleSymbol} {definitions : List Definition}

theorem mem_definitions (groups : Groups symbols definitions) {s : ModuleSymbol}
    (member : s ∈ symbols) {d : Definition} :
    d ∈ s.definitions ↔ d ∈ definitions ∧ d.occurrence.name = s.name := by
  rw [groups.definitions_eq s member, List.mem_filter, decide_eq_true_iff]

theorem first_name (groups : Groups symbols definitions) {s : ModuleSymbol}
    (member : s ∈ symbols) : s.first ∈ definitions ∧ s.first.occurrence.name = s.name :=
  (groups.mem_definitions member).mp List.mem_cons_self

theorem mem_names (groups : Groups symbols definitions) {n : Text} :
    n ∈ symbols.map ModuleSymbol.name ↔ ∃ d ∈ definitions, d.occurrence.name = n := by
  refine ⟨fun member => ?_, fun ⟨d, member, name⟩ => name ▸ groups.covers d member⟩
  obtain ⟨s, s_member, rfl⟩ := List.mem_map.mp member
  exact ⟨s.first, groups.first_name s_member⟩

theorem exists_symbol (groups : Groups symbols definitions) {d : Definition}
    (member : d ∈ definitions) :
    ∃ s ∈ symbols, s.name = d.occurrence.name ∧ d ∈ s.definitions := by
  obtain ⟨s, s_member, same⟩ := List.mem_map.mp (groups.covers d member)
  exact ⟨s, s_member, same, (groups.mem_definitions s_member).mpr ⟨member, same.symm⟩⟩

end Groups

/-! ## Symbols of renamed modules -/

def ModuleSymbol.map (f : Occurrence → Occurrence) (declared : Text → Text) (s : ModuleSymbol) :
    ModuleSymbol :=
  ⟨declared s.name, s.first.map f, s.others.map (Definition.map f)⟩

section Map

variable {f : Occurrence → Occurrence} {declared : Text → Text}

theorem declare_map :
    ∀ {symbols : List ModuleSymbol} {d : Definition},
      (f d.occurrence).name = declared d.occurrence.name →
      (∀ s ∈ symbols, declared s.name = declared d.occurrence.name → s.name = d.occurrence.name) →
      declare (symbols.map (ModuleSymbol.map f declared)) (d.map f) =
        (declare symbols d).map (ModuleSymbol.map f declared)
  | [], d, declares, _ => by
    simp only [List.map_nil, declare, List.map_cons, ModuleSymbol.map, Definition.map, declares]
  | s :: ss, d, declares, distinct => by
    have distinct_tail : ∀ t ∈ ss, declared t.name = declared d.occurrence.name →
        t.name = d.occurrence.name := fun t member => distinct t (List.mem_cons_of_mem _ member)
    have tail := declare_map declares distinct_tail
    have same_iff : declared s.name = (f d.occurrence).name ↔ s.name = d.occurrence.name := by
      rw [declares]
      exact ⟨distinct s List.mem_cons_self, congrArg declared⟩
    simp only [List.map_cons, declare, ModuleSymbol.map, Definition.map, same_iff] at tail ⊢
    split
    · simp only [List.map_cons, ModuleSymbol.map, Definition.map, List.map_append, List.map_nil]
    · simp only [List.map_cons, ModuleSymbol.map, Definition.map, tail]

theorem foldl_declare_map (names : List Text)
    (distinct : ∀ a ∈ names, ∀ b ∈ names, declared a = declared b → a = b) :
    ∀ {definitions before : List Definition} {symbols : List ModuleSymbol},
      Groups symbols before → Declares f declared definitions →
      (∀ d ∈ before ++ definitions, d.occurrence.name ∈ names) →
      (definitions.map (Definition.map f)).foldl declare
          (symbols.map (ModuleSymbol.map f declared)) =
        (definitions.foldl declare symbols).map (ModuleSymbol.map f declared)
  | [], _, _, _, _, _ => rfl
  | d :: ds, before, symbols, groups, declares, named => by
    have d_named := named d (by simp)
    have step : declare (symbols.map (ModuleSymbol.map f declared)) (d.map f) =
        (declare symbols d).map (ModuleSymbol.map f declared) := by
      refine declare_map (declares d List.mem_cons_self) fun s member same => ?_
      obtain ⟨first_member, first_name⟩ := groups.first_name member
      have s_named := named s.first (List.mem_append_left _ first_member)
      exact distinct _ (first_name ▸ s_named) _ d_named same
    rw [List.map_cons, List.foldl_cons, step]
    exact foldl_declare_map names distinct (groups.declare d)
      (fun e member => declares e (List.mem_cons_of_mem _ member)) (by simpa using named)

theorem Program.symbols_map (program : Program Occurrence)
    (declares : Declares f declared program.definitions)
    (distinct : ∀ a ∈ program.symbols.map ModuleSymbol.name,
      ∀ b ∈ program.symbols.map ModuleSymbol.name, declared a = declared b → a = b) :
    (program.map f).symbols = program.symbols.map (ModuleSymbol.map f declared) := by
  have mapped : (program.map f).body.flatMap Statement.definitions =
      program.definitions.map (Definition.map f) := program.definitions_map
  rw [Program.symbols, mapped]
  exact foldl_declare_map _ distinct groups_nil declares fun d member =>
    program.symbols_groups.covers d member

end Map

end LibraryDescriptor
