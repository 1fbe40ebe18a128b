import Mathlib.Data.List.Sort
import LibraryDescriptor.Proofs.Descriptor.StatementOrder
import LibraryDescriptor.Proofs.Parser.Soundness
import LibraryDescriptor.Proofs.Scope.Agreement
import LibraryDescriptor.Proofs.Scope.WalkOrder

/-!
# References in the order of the source

The references of a module are recorded in the order of the walk, and the dependencies of a symbol
are listed in the order of its references. That is the order of the source but for loops with the
test at the end, where the references in the test come before those in the body.

* `ScopeAnalysis.referencesAlong` — the references of a module in the order of its words.
* `Program.Straddled` — a loop has some references both in its body and in its test.
* `Program.Numbered.along_iff` — references are recorded in the order of the source exactly if no
  loop straddles them.
* `compile_listsReferred` — dependencies are listed in the order of the references.
* `analyze_follows_source` — both for every source.
-/

namespace LibraryDescriptor

/-! ## Ascending occurrences -/

def Occurrence.place (o : Occurrence) : Nat := o.site.getD 0

/-- One reference is written in front of another. -/
def Reference.Before (r r' : Reference) : Prop := r.occurrence.place < r'.occurrence.place

instance : Std.Irrefl Reference.Before := ⟨fun _ => Nat.lt_irrefl _⟩

instance : Std.Antisymm Reference.Before :=
  ⟨fun _ _ before after => (Nat.lt_asymm before after).elim⟩

/-- The names of a numbered module are in ascending order. -/
theorem Program.label_ascending (program : Program Text) :
    program.label.occurrences.Pairwise fun o o' => o.place < o'.place := by
  obtain ⟨count, sites, -⟩ := program.labelFrom_numbers 0
  have places : program.label.occurrences.map Occurrence.place = List.range' 0 count := by
    calc program.label.occurrences.map Occurrence.place
        = (program.label.occurrences.map Occurrence.site).map (·.getD 0) := by
          rw [List.map_map]
          rfl
      _ = ((List.range' 0 count).map some).map (·.getD 0) := congrArg _ sites
      _ = List.range' 0 count := by simp [Function.comp_def]
  rw [← List.pairwise_map (f := Occurrence.place), places]
  exact List.pairwise_lt_range'

/-! ## References along the source -/

namespace ScopeAnalysis

def referenceAt? (a : ScopeAnalysis) (o : Occurrence) : Option Reference :=
  a.references.find? (·.occurrence = o)

def referencesAlong (a : ScopeAnalysis) (words : List (Word Occurrence)) : List Reference :=
  (Word.written words).filterMap a.referenceAt?

theorem referenceAt?_some {a : ScopeAnalysis} {o : Occurrence} {r : Reference}
    (found : a.referenceAt? o = some r) : r ∈ a.references ∧ r.occurrence = o := by
  have same := List.find?_some found
  exact ⟨List.mem_of_find?_eq_some found, of_decide_eq_true same⟩

end ScopeAnalysis

/-- A visit is a loop with its test at the end that has references both in its body and in its
test. -/
def Visit.straddles (references : List Reference) : Visit → Bool
  | .statement (.doWhile body test) scopes _ =>
    (references.any fun r => r.occurrence ∈ (body.uses scopes).map Use.occurrence) &&
      references.any fun r => r.occurrence ∈ (test.uses scopes).map Use.occurrence
  | _ => false

/-- A loop of a module has marked references both in its body and in its test. -/
def Program.Straddled (program : Program Occurrence) (marked : Reference → Bool) : Prop :=
  ∃ v, program.Visits v ∧ v.straddles (program.analyze.references.filter marked) = true

section Among

variable {references : List Reference}

def Occurrence.isAmong (references : List Reference) (o : Occurrence) : Bool :=
  references.any (·.occurrence = o)

theorem filter_isAmong (references : List Reference) :
    (references.map Reference.occurrence).filter (Occurrence.isAmong references) =
      references.map Reference.occurrence := by
  refine List.filter_eq_self.mpr fun o member => ?_
  obtain ⟨r, r_member, rfl⟩ := List.mem_map.mp member
  exact List.any_eq_true.mpr ⟨r, r_member, decide_eq_true rfl⟩

theorem any_mem_uses {uses : List Use}
    (among : markedUses (Occurrence.isAmong references) uses ≠ []) :
    (references.any fun r => r.occurrence ∈ uses.map Use.occurrence) = true := by
  obtain ⟨o, member⟩ := List.exists_mem_of_ne_nil _ among
  obtain ⟨used, found⟩ := List.mem_filter.mp member
  obtain ⟨r, r_member, same⟩ := List.any_eq_true.mp found
  exact List.any_eq_true.mpr ⟨r, r_member, decide_eq_true (of_decide_eq_true same ▸ used)⟩

/-- A loop that does not straddle references keeps their uses apart. -/
theorem Visit.apart_of_not_straddles {v : Visit} (one_side : ¬ v.straddles references = true) :
    v.Apart (Occurrence.isAmong references) := by
  intro body test scopes alone same
  by_contra both
  obtain ⟨in_test, in_body⟩ := not_or.mp both
  refine one_side ?_
  rw [same, Visit.straddles, any_mem_uses in_body, any_mem_uses in_test, Bool.and_self]

end Among

theorem Program.references_sublist (program : Program Occurrence) :
    (program.analyze.references.map Reference.occurrence).Sublist program.used := by
  rw [Program.analyze, Program.used]
  generalize program.symbols.map ModuleSymbol.name = names
  induction program.ownedUses with
  | nil => exact .slnil
  | cons u us ih =>
    cases recorded : u.reference? names with
    | none =>
      rw [List.filterMap_cons_none recorded]
      exact ih.cons _
    | some r =>
      obtain ⟨-, rfl⟩ := OwnedUse.reference?_eq_some.mp recorded
      rw [List.filterMap_cons_some recorded]
      exact ih.cons_cons _

namespace Program.Numbered

variable {program : Program Occurrence} (numbered : program.Numbered)

include numbered

/-- The reference that is recorded for a use is the only one at its occurrence. -/
theorem reference?_eq {u : OwnedUse} (used : u ∈ program.ownedUses) {r : Reference}
    (recorded : r ∈ program.analyze.references) (same : r.occurrence = u.use.occurrence) :
    u.reference? program.names = some r := by
  obtain ⟨v, v_used, refers, rfl⟩ := Program.mem_references.mp recorded
  obtain ⟨site, sited⟩ := numbered.exists_site_use used
  obtain rfl : v = u := numbered.use_eq v_used ((congrArg _ same).trans sited) used sited
  exact OwnedUse.reference?_eq_some.mpr ⟨refers, rfl⟩

theorem reference_eq {r r' : Reference} (recorded : r ∈ program.analyze.references)
    (recorded' : r' ∈ program.analyze.references)
    (same : r.occurrence = r'.occurrence) : r = r' := by
  obtain ⟨u, used, -, rfl⟩ := Program.mem_references.mp recorded'
  have first := numbered.reference?_eq used recorded same
  exact Option.some.inj (first.symm.trans (numbered.reference?_eq used recorded' rfl))

theorem references_nodup : program.analyze.references.Nodup := by
  refine List.nodup_iff_count_le_one.mpr fun r => ?_
  by_cases recorded : r ∈ program.analyze.references
  · have within := numbered.agrees.within r recorded
    refine Nat.le_trans (List.countP_mono_left fun r' _ same => ?_)
      (numbered.count_references_le within)
    exact decide_eq_true (congrArg _ (beq_iff_eq.mp same))
  · rw [List.count_eq_zero_of_not_mem recorded]
    exact Nat.zero_le 1

section Along

variable {words : List (Word Occurrence)} (written : program.walked.Sublist (Word.written words))
  (ascending : (Word.written words).Pairwise fun o o' => o.place < o'.place)

include written in
theorem mem_along {r : Reference} :
    r ∈ program.analyze.referencesAlong words ↔ r ∈ program.analyze.references := by
  rw [ScopeAnalysis.referencesAlong, List.mem_filterMap]
  constructor
  · rintro ⟨o, -, found⟩
    exact (ScopeAnalysis.referenceAt?_some found).1
  · intro recorded
    have used := program.references_sublist.subset (List.mem_map_of_mem recorded)
    refine ⟨r.occurrence, written.subset (program.used_subset_walked used), ?_⟩
    cases found : program.analyze.referenceAt? r.occurrence with
    | none => simpa using List.find?_eq_none.mp found r recorded
    | some r' =>
      obtain ⟨recorded', same⟩ := ScopeAnalysis.referenceAt?_some found
      rw [numbered.reference_eq recorded' recorded same]

omit numbered in
include ascending in
theorem along_ascending : (program.analyze.referencesAlong words).Pairwise Reference.Before := by
  refine List.pairwise_filterMap.mpr (ascending.imp fun before r found r' found' => ?_)
  obtain ⟨-, rfl⟩ := ScopeAnalysis.referenceAt?_some found
  obtain ⟨-, rfl⟩ := ScopeAnalysis.referenceAt?_some found'
  exact before

include written ascending

theorem along_perm :
    (program.analyze.referencesAlong words).Perm program.analyze.references := by
  have distinct : (program.analyze.referencesAlong words).Nodup := (along_ascending ascending).nodup
  exact (List.perm_ext_iff_of_nodup distinct numbered.references_nodup).mpr fun r =>
    numbered.mem_along written

/-- The loop puts the reference in its test in front of the one in its body. -/
theorem swapped {body : Statement Occurrence} {test : Expression Occurrence}
    {scopes : List (List Text)} {alone : Bool}
    (visited : program.Visits (.statement (.doWhile body test) scopes alone)) {r r' : Reference}
    (recorded : r ∈ program.analyze.references)
    (in_body : r.occurrence ∈ (body.uses scopes).map Use.occurrence)
    (recorded' : r' ∈ program.analyze.references)
    (in_test : r'.occurrence ∈ (test.uses scopes).map Use.occurrence) :
    r.Before r' ∧ [r', r].Sublist program.analyze.references := by
  obtain ⟨b, b_used, body_use⟩ := List.mem_map.mp in_body
  obtain ⟨t, t_used, test_use⟩ := List.mem_map.mp in_test
  obtain ⟨walk, source⟩ := visited.swaps b_used t_used
  rw [body_use, test_use] at walk source
  constructor
  · have places := List.pairwise_pair.mp (ascending.sublist (source.trans written))
    exact places
  · -- The two uses have no other references than these.
    obtain ⟨us, us_sublist, names⟩ := List.sublist_map_iff.mp walk
    obtain ⟨u', rest, rfl, at_test, rest_eq⟩ := List.map_eq_cons_iff.mp names.symm
    obtain ⟨u, rfl, at_body⟩ := List.map_eq_singleton_iff.mp rest_eq
    have found := us_sublist.filterMap (OwnedUse.reference? program.names)
    rw [List.filterMap_cons_some (numbered.reference?_eq (us_sublist.subset (by simp)) recorded'
        at_test.symm), List.filterMap_cons_some
          (numbered.reference?_eq (us_sublist.subset (by simp))
        recorded at_body.symm)] at found
    exact found

omit numbered in
theorem ascending_of_not_straddled {marked : Reference → Bool}
    (apart : ¬ program.Straddled marked) :
    (program.analyze.references.filter marked).Pairwise Reference.Before := by
  let references := program.analyze.references.filter marked
  have recorded : (references.map Reference.occurrence).Sublist program.used :=
    (List.filter_sublist.map _).trans program.references_sublist
  have walk : (program.used.filter (Occurrence.isAmong references)).Sublist program.walked :=
    program.marked_sublist fun v visited =>
      Visit.apart_of_not_straddles fun straddles => apart ⟨v, visited, straddles⟩
  have sublist : (references.map Reference.occurrence).Sublist (Word.written words) := by
    rw [← filter_isAmong]
    exact ((recorded.filter _).trans walk).trans written
  have places := List.pairwise_map.mp (ascending.sublist sublist)
  exact places

/-- References are recorded in the order of the source, unless a loop straddles them. -/
theorem along_iff (marked : Reference → Bool) :
    (program.analyze.referencesAlong words).filter marked =
        program.analyze.references.filter marked ↔ ¬ program.Straddled marked := by
  have along : ((program.analyze.referencesAlong words).filter marked).Pairwise Reference.Before :=
    (along_ascending ascending).filter marked
  constructor
  · rintro same ⟨v, visited, straddles⟩
    unfold Visit.straddles at straddles
    split at straddles
    · simp only [Bool.and_eq_true, List.any_eq_true, List.mem_filter,
        decide_eq_true_eq] at straddles
      obtain ⟨⟨r, ⟨recorded, r_marked⟩, in_body⟩, r', ⟨recorded', r'_marked⟩, in_test⟩ := straddles
      obtain ⟨before, walk⟩ :=
        numbered.swapped written ascending visited recorded in_body recorded' in_test
      have kept := walk.filter marked
      rw [List.filter_cons_of_pos r'_marked, List.filter_cons_of_pos r_marked, List.filter_nil,
        ← same] at kept
      have after := List.pairwise_pair.mp (along.sublist kept)
      exact Nat.lt_asymm before after
    · cases straddles
  · -- Lists in ascending order that have the same members are equal.
    intro apart
    refine along.eq_of_mem_iff (ascending_of_not_straddled written ascending apart)
      fun r => ?_
    rw [List.mem_filter, List.mem_filter, numbered.mem_along written]

end Along

end Program.Numbered

/-! ## Dependencies along the source -/

def Reference.dependencyKey? (table : SymbolTable) (name : Text) (r : Reference) : Option Text :=
  if r.owner = some name ∧ r.symbol ≠ name then table.key? r.symbol else none

/-- The keys that the declaration with a given name depends on, in the order of the first references
to them. -/
def SymbolTable.referredKeys (table : SymbolTable) (name : Text) (references : List Reference) :
    List Text :=
  (references.filterMap (Reference.dependencyKey? table name)).eraseDups

/-- The references that make the declaration with a given name depend on another one. -/
def SymbolTable.isDependency (table : SymbolTable) (name : Text) (r : Reference) : Bool :=
  (r.dependencyKey? table name).isSome

theorem SymbolTable.referredKeys_filter (table : SymbolTable) (name : Text)
    (references : List Reference) :
    table.referredKeys name (references.filter (table.isDependency name)) =
      table.referredKeys name references := by
  rw [referredKeys, referredKeys, List.filterMap_filter]
  refine congrArg _ (List.filterMap_congr fun r _ => ?_)
  unfold isDependency
  cases r.dependencyKey? table name <;> rfl

/-- A use makes a declaration depend on what its reference means. -/
theorem ScopeAnalysis.Resolved.dependencyKey?_eq_bind {program : Program Occurrence}
    {exports : ExportMap} {options : Options} {table : SymbolTable}
    (resolved : program.analyze.Resolved exports options table) (name : Text) (u : OwnedUse) :
    u.dependencyKey? table name =
      (u.reference? program.names).bind (Reference.dependencyKey? table name) := by
  by_cases refers : u.refers program.names
  · rw [OwnedUse.reference?_eq_some.mpr ⟨refers, rfl⟩, Option.bind_some, OwnedUse.dependencyKey?]
    simp only [refers.1, true_and]
    rfl
  · have unrecorded : u.reference? program.names = none :=
      Option.eq_none_iff_forall_ne_some.mpr fun r found =>
        refers (OwnedUse.reference?_eq_some.mp found).1
    rw [unrecorded, Option.bind_none, OwnedUse.dependencyKey?, ite_eq_right_iff]
    -- A use that is free and makes no reference is of a name that is not declared.
    rintro ⟨-, unbound, -⟩
    have undeclared : u.use.name ∉ program.names := fun declared => refers ⟨unbound, declared⟩
    exact congrArg (Option.map ResolvedSymbol.key) (resolved.get?_eq_none undeclared)

/-! ## Sources -/

theorem Statement.withoutExport?_none {s : Statement Occurrence} (left : s.withoutExport? = none)
    {u : OwnedUse} (used : u ∈ s.ownedUses) : u.owner = none := by
  unfold Statement.withoutExport? at left
  split at left
  · cases left
  · next specifiers source =>
    cases source with
    | none =>
      obtain ⟨_, -, rfl⟩ := List.mem_map.mp used
      rfl
    | some _ =>
      obtain ⟨_, -, rfl⟩ := List.mem_map.mp used
      rfl
  · cases left

theorem Statement.withoutExport?_ownedUses {s t : Statement Occurrence}
    (kept : s.withoutExport? = some t) : t.ownedUses = s.ownedUses := by
  unfold Statement.withoutExport? at kept
  split at kept
  · obtain rfl := Option.some.inj kept
    rfl
  · cases kept
  · rw [Option.some.inj kept]

/-- The uses in the code of declarations stay when the export statements are left out. -/
theorem Program.withoutExports_ownedUses {α : Type} {f : OwnedUse → Option α}
    (unowned : ∀ u, u.owner = none → f u = none) (program : Program Occurrence) :
    program.withoutExports.ownedUses.filterMap f = program.ownedUses.filterMap f := by
  obtain ⟨body⟩ := program
  simp only [Program.ownedUses, Program.withoutExports]
  induction body with
  | nil => rfl
  | cons s ss ih =>
    rw [List.flatMap_cons, List.filterMap_append, ← ih]
    cases kept : s.withoutExport? with
    | none =>
      have nothing : s.ownedUses.filterMap f = [] := List.filterMap_eq_nil_iff.mpr fun u used =>
        unowned u (Statement.withoutExport?_none kept used)
      rw [List.filterMap_cons_none kept, nothing, List.nil_append]
    | some t =>
      rw [List.filterMap_cons_some kept, List.flatMap_cons, List.filterMap_append,
        Statement.withoutExport?_ownedUses kept]

/-- The dependencies of a symbol have the order of the references, also with those in export
statements, which make no declaration depend on another one. -/
theorem ScopeAnalysis.Resolved.referredKeys_eq {program : Program Occurrence}
    {exports : ExportMap} {options : Options} {table : SymbolTable}
    (resolved : program.withoutExports.analyze.Resolved exports options table) (name : Text) :
    program.withoutExports.dependencyKeys table name =
      table.referredKeys name program.analyze.references := by
  have names : program.withoutExports.names = program.names :=
    congrArg (·.foldl declare [] |>.map ModuleSymbol.name) program.withoutExports_definitions
  have keys : OwnedUse.dependencyKey? table name = fun u =>
      (u.reference? program.names).bind (Reference.dependencyKey? table name) :=
    funext fun u => names ▸ resolved.dependencyKey?_eq_bind name u
  have references : program.analyze.references =
      program.ownedUses.filterMap (OwnedUse.reference? program.names) := rfl
  rw [Program.dependencyKeys, SymbolTable.referredKeys, references, List.filterMap_filterMap,
    ← keys]
  refine congrArg _ (program.withoutExports_ownedUses fun u unowned => ?_)
  simp [OwnedUse.dependencyKey?, unowned]

/-- The words of a source, with the occurrences of the tree that it is parsed to. -/
theorem exists_words {source : Text} {program : Program Text}
    (parsed : parse source = .ok program) :
    ∃ tokens words, scan source = .ok tokens ∧ program.label.Spelled Occurrence.name words ∧
      Word.texts Occurrence.name words = Lexeme.words tokens.lexemes := by
  obtain ⟨tokens, ws, scanned, spelled, texts⟩ := parse_spelled parsed
  rw [← program.label_erase] at spelled
  obtain ⟨words, labelled, rfl⟩ := Program.Spelled.of_map spelled
  exact ⟨tokens, words, scanned, labelled, (texts.trans (Word.texts_map ..)).symm⟩

theorem Program.Spelled.ascending {program : Program Text} {words : List (Word Occurrence)}
    (spelled : program.label.Spelled Occurrence.name words) :
    (Word.written words).Pairwise fun o o' => o.place < o'.place := by
  have names := program.label_ascending
  rw [← spelled.names_eq] at names
  exact names.sublist (Word.written_sublist words)

/-- The lists of dependencies in a descriptor name what the symbols refer to, in the order in which
the references are recorded. -/
structure Compiled.ListsReferred (compiled : Compiled) (references : List Reference) : Prop where
  lists : ∃ entries, compiled.descriptor = Descriptor.ofEntries (entries ++
    (compiled.table.symbols.filter fun s => compiled.graph.dependenciesOf s.key ≠ []).map fun s =>
      s.dependencyEntry (compiled.graph.dependenciesOf s.key))
  referred : ∀ s ∈ compiled.table.symbols,
    compiled.graph.dependenciesOf s.key = compiled.table.referredKeys s.name references

theorem compile_listsReferred [Serializer] {options : Options} {program : Program Text}
    {compiled : Compiled}
    (success : compile options program = .ok compiled) :
    compiled.ListsReferred program.label.analyze.references := by
  obtain ⟨exports, valid, -, resolves, linked, described⟩ := compile_eq_ok success
  have resolved := ScopeAnalysis.resolve_resolved resolves
  have only := Program.declaresOnly_of_validate valid
  refine ⟨?_, fun s member => ?_⟩
  · obtain ⟨entries, -, same⟩ := bind_eq_ok.mp described
    exact ⟨entries, by rw [← pure_eq_ok.mp same, SymbolTable.dependencyEntries_eq]⟩
  · rw [resolved.dependenciesOf_eq only linked member, resolved.referredKeys_eq]

/-- The references of a source are those along its words. They are recorded in the order of the
words, except that a loop with its test at the end has those in the test in front of those in the
body. So the dependencies of a symbol are listed in the order of their first uses, unless a loop in
its code has some both in its body and in its test. -/
theorem analyze_follows_source [Serializer] {source : Text} {program : Program Text}
    (parsed : parse source = .ok program) :
    ∃ tokens words, scan source = .ok tokens ∧
      program.label.Spelled Occurrence.name words ∧
      Word.texts Occurrence.name words = Lexeme.words tokens.lexemes ∧
      (program.label.analyze.referencesAlong words).Perm program.label.analyze.references ∧
      (∀ marked, (program.label.analyze.referencesAlong words).filter marked =
        program.label.analyze.references.filter marked ↔ ¬ program.label.Straddled marked) ∧
      ∀ options compiled, compile options program = .ok compiled →
        compiled.ListsReferred program.label.analyze.references ∧
        ∀ s ∈ compiled.table.symbols,
          ¬ program.label.Straddled (compiled.table.isDependency s.name) →
            compiled.graph.dependenciesOf s.key =
              compiled.table.referredKeys s.name
                (program.label.analyze.referencesAlong words) := by
  obtain ⟨tokens, words, scanned, spelled, texts⟩ := exists_words parsed
  have numbered := program.label_numbered
  have in_order := numbered.along_iff spelled.walked_sublist spelled.ascending
  refine ⟨tokens, words, scanned, spelled, texts,
    numbered.along_perm spelled.walked_sublist spelled.ascending, in_order,
    fun options compiled success => ⟨compile_listsReferred success, fun s member apart => ?_⟩⟩
  rw [(compile_listsReferred success).referred s member, ← SymbolTable.referredKeys_filter,
    ← (in_order _).mpr apart, SymbolTable.referredKeys_filter]

/-- Three functions; the first one uses the others in a loop with its test at the end. -/
def loopSource : Text :=
  "function f() { do g(); while (h()); } function g() { h(); } function h() {}"

/-- The references in the loop are not recorded in the order of the source; the one reference of the
second function has its place in its list of dependencies. -/
theorem loopSource_follows :
    ∃ program words compiled, parse loopSource = .ok program ∧
      program.label.Spelled Occurrence.name words ∧ compile {} program = .ok compiled ∧
      program.label.analyze.referencesAlong words ≠ program.label.analyze.references ∧
      ∃ s ∈ compiled.table.symbols, s.name = "g" ∧
        compiled.graph.dependenciesOf s.key = [("_unnamed_h" : Text)] ∧
        compiled.table.referredKeys s.name (program.label.analyze.referencesAlong words) =
          [("_unnamed_h" : Text)] := by
  have facts : ((parse loopSource).toOption.any fun program =>
      (program.label.visitsBelow 4).any (Visit.straddles program.label.analyze.references) &&
        (compile {} program).toOption.any fun compiled => compiled.table.symbols.any fun s =>
          s.name = "g" ∧ compiled.graph.dependenciesOf s.key = [("_unnamed_h" : Text)] ∧
            (program.label.analyze.references.filter
              (compiled.table.isDependency s.name)).length = 1) = true := by
    decide +kernel
  obtain ⟨program, parsed, facts⟩ := toOption_any.mp facts
  obtain ⟨loop, found⟩ := Bool.and_eq_true_iff.mp facts
  obtain ⟨compiled, success, found⟩ := toOption_any.mp found
  obtain ⟨s, member, found⟩ := List.any_eq_true.mp found
  obtain ⟨named, keys, once⟩ := of_decide_eq_true found
  obtain ⟨v, below, straddles⟩ := List.any_eq_true.mp loop
  obtain ⟨tokens, words, -, spelled, -, perm, in_order, depend⟩ := analyze_follows_source parsed
  refine ⟨program, words, compiled, parsed, spelled, success, fun same => ?_,
    s, member, named, keys,
    ?_⟩
  · refine (in_order fun _ => true).mp (congrArg _ same) ⟨v, .of_below below, ?_⟩
    rwa [List.filter_true]
  · obtain ⟨r, single⟩ := List.length_eq_one_iff.mp once
    have kept := perm.filter (compiled.table.isDependency s.name)
    rw [single, List.perm_singleton] at kept
    have apart := (in_order _).mp (kept.trans single.symm)
    rw [← (depend _ _ success).2 s member apart, keys]

/-- A loop outside functions. -/
def outerLoopSource : Text := "var a, b; do a(); while (b);"

/-- The variable in the test comes last in the source, but its reference comes first. -/
theorem outerLoopSource_swaps :
    ∃ program tokens, parse outerLoopSource = .ok program ∧ scan outerLoopSource = .ok tokens ∧
      Lexeme.words tokens.lexemes =
        (["var", "a", "b", "do", "a", "while", "b"] : List String).map Text.ofString ∧
      program.label.occurrences =
        [⟨"a", some 0⟩, ⟨"b", some 1⟩, ⟨"a", some 2⟩, ⟨"b", some 3⟩] ∧
      program.label.analyze.references =
        [⟨⟨"b", some 3⟩, none, []⟩, ⟨⟨"a", some 2⟩, none, []⟩] := by
  have facts : ((parse outerLoopSource).toOption.any fun program =>
      (scan outerLoopSource).toOption.any fun tokens =>
        Lexeme.words tokens.lexemes =
          (["var", "a", "b", "do", "a", "while", "b"] : List String).map Text.ofString ∧
        program.label.occurrences =
          [⟨"a", some 0⟩, ⟨"b", some 1⟩, ⟨"a", some 2⟩, ⟨"b", some 3⟩] ∧
        program.label.analyze.references =
          [⟨⟨"b", some 3⟩, none, []⟩, ⟨⟨"a", some 2⟩, none, []⟩]) = true := by
    decide +kernel
  obtain ⟨program, parsed, facts⟩ := toOption_any.mp facts
  obtain ⟨tokens, scanned, facts⟩ := toOption_any.mp facts
  exact ⟨program, tokens, parsed, scanned, of_decide_eq_true facts⟩

end LibraryDescriptor
