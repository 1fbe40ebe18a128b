import LibraryDescriptor.Descriptor.Session
import LibraryDescriptor.Proofs.Symbol.Exports
import LibraryDescriptor.Proofs.Symbol.Resolution
import LibraryDescriptor.Proofs.Syntax.Relabeling
import LibraryDescriptor.Proofs.Syntax.Words

/-!
# Stages that act wholly or not at all

A stage that gives new names writes them one by one into programs that other stages hold. All its
checks come before the first write, and no write fails, so a stage that fails has written nothing.

* `Stage.Renames` — a computation that gives new names and does nothing else.
* `Stage.renames_writeNames` — so does the writing of the names of a table.
* `Session.Moves` — what each step can do to a session; `Session.run_moves` — a step does that, or
  fails and does nothing.
* `ScopeAnalysis.Placed` — a site is recorded as one thing only; `Session.Sound.after` — every
  analysis of a session is so.
* `Session.Renamed`, `Session.Unwrapped` — what each register holds after the two stages that change
  programs.
* `Session.steps_atomic` — a stage does all of that, or it fails and nothing has changed.
-/

namespace LibraryDescriptor

/-! ## New names one after the other -/

theorem Renaming.newName?_append (first second : Renaming) (site : Site) :
    (first ++ second).newName? site = (second.newName? site).or (first.newName? site) := by
  simp only [newName?, List.reverse_append, List.lookup_append]

theorem Occurrence.rename_append (first second : Renaming) (o : Occurrence) :
    o.rename (first ++ second) = (o.rename first).rename second := by
  obtain ⟨name, site⟩ := o
  cases site with
  | none => rfl
  | some site =>
    simp only [Occurrence.rename, Option.bind_some, Renaming.newName?_append]
    cases second.newName? site <;> rfl

theorem Program.rename_append (first second : Renaming) (program : Program Occurrence) :
    program.rename (first ++ second) = (program.rename first).rename second := by
  rw [Program.rename, Program.rename, Program.rename, Program.map_map]
  exact congrArg program.map (funext fun o => o.rename_append first second)

theorem Program.rename_nil (program : Program Occurrence) : program.rename [] = program := by
  have same : (Occurrence.rename []) = id := by
    funext ⟨name, site⟩
    cases site <;> rfl
  exact (congrArg program.map same).trans program.map_id

theorem Register.rename_append (first second : Renaming) (value : Register) :
    value.rename (first ++ second) = (value.rename first).rename second := by
  cases value with
  | program p => exact congrArg Register.program (p.rename_append first second)
  | _ => rfl

theorem Register.rename_nil (value : Register) : value.rename [] = value := by
  cases value with
  | program p => exact congrArg Register.program p.rename_nil
  | _ => rfl

namespace Session

theorem rename_append (first second : Renaming) (s : Session) :
    s.rename (first ++ second) = (s.rename first).rename second := by
  simp only [rename, Register.rename_append, List.map_map, Function.comp_def]

theorem rename_nil (s : Session) : s.rename [] = s := by
  simp only [rename, Register.rename_nil, List.map_id']

end Session

namespace Stage

variable {ε α β : Type}

/-- A computation that gives occurrences new names, does nothing else and does not fail. -/
def Renames (x : Stage Unit) (fresh : Renaming) : Prop :=
  ∀ s, x.run.run s = (.ok (), s.rename fresh)

theorem Renames.done : Renames (return ()) [] :=
  fun s => congrArg (Prod.mk _) s.rename_nil.symm

theorem Renames.bind {x : Stage Unit} {next : Unit → Stage Unit} {fresh later : Renaming}
    (first : Renames x fresh) (second : Renames (next ()) later) :
    Renames (x >>= next) (fresh ++ later) := by
  intro s
  simp only [ExceptT.run_bind, StateT.run_bind, first s]
  rw [Session.rename_append]
  exact second _

theorem Renames.forM {f : α → Stage Unit} {fresh : α → Renaming} :
    ∀ {list : List α}, (∀ a ∈ list, Renames (f a) (fresh a)) →
      Renames (list.forM f) (list.flatMap fresh)
  | [], _ => .done
  | _ :: _, each => by
    obtain ⟨first, rest⟩ := List.forall_mem_cons.mp each
    exact Renames.bind first (Renames.forM rest)

theorem renames_write (o : Occurrence) (name : Text) :
    Renames (write o name) (o.site.map (·, name)).toList := by
  intro s
  unfold write
  cases o.site with
  | none => exact Renames.done s
  | some site => rfl

/-- An occurrence gets a name of a symbol that the table has. -/
theorem renames_target {table : SymbolTable} {name : Text} {symbol : ResolvedSymbol}
    (found : table.get? name = some symbol) (o : Occurrence) (spelling : ResolvedSymbol → Text) :
    Renames (do write o (spelling (← target table name)))
      (o.site.map (·, spelling symbol)).toList := by
  have given : target table name = return symbol := by rw [target, found]
  rw [given, pure_bind]
  exact renames_write o _

theorem renames_writeNames {table : SymbolTable} {a : ScopeAnalysis}
    (symbols : ∀ s ∈ a.symbols, (table.get? s.name).isSome)
    (references : ∀ r ∈ a.references, (table.get? r.symbol).isSome) :
    Renames (writeNames table a) (table.renaming a) := by
  -- The renaming lists what the loops write, in the order in which they write it.
  rw [SymbolTable.renaming, List.filterMap_eq_flatMap_toList]
  apply Renames.bind
  · apply Renames.forM
    intro s member
    obtain ⟨symbol, found⟩ := Option.isSome_iff_exists.mp (symbols s member)
    rw [ModuleSymbol.renaming, List.filterMap_eq_flatMap_toList]
    apply Renames.forM
    intro d _
    have written := renames_target found d.occurrence ResolvedSymbol.key
    simpa [found, Option.map_eq_bind, Function.comp_def] using written
  · apply Renames.forM
    intro r member
    obtain ⟨symbol, found⟩ := Option.isSome_iff_exists.mp (references r member)
    have written := renames_target found r.occurrence ResolvedSymbol.reference
    simpa [Reference.renaming?, found, Option.map_eq_bind, Function.comp_def] using written

end Stage

/-! ## What a step can do -/

namespace Session

/-- A register holds a value that can be seen as one of some sort. -/
def Holds {α : Type} (s : Session) (view? : Register → Option α) (name : RegisterName)
    (value : α) : Prop :=
  (s.registers.lookup name).bind view? = some value

/-- What a step does to a session when it succeeds, and what it shows. -/
inductive Moves [Serializer] (s : Session) : Step → Answer → Session → Prop where
  | parse {source target program} :
    LibraryDescriptor.parse source = .ok program →
    Moves s (.parse source target) .done
      ({ s with nextSite := (program.labelFrom.run s.nextSite).2 }.store target
        (.program (program.labelFrom.run s.nextSite).1))
  | print {name program text} :
    s.Holds Register.program? name program → program.erase.print = .ok text →
    Moves s (.print name) (.text text) s
  | validate {name program policy} :
    s.Holds Register.program? name program → program.validate policy = .ok () →
    Moves s (.validate name policy) .done s
  | resolveExports {name program exports rest target} :
    s.Holds Register.program? name program → program.resolveExports = .ok (exports, rest) →
    Moves s (.resolveExports name target) (.exports exports)
      ((s.store name (.program rest)).store target (.exports exports))
  | exports {pairs target} :
    Moves s (.exports pairs target) .done
      (s.store target (.exports (pairs.foldl ExportMap.put [])))
  | analyze {name program target} :
    s.Holds Register.program? name program →
    Moves s (.analyze name target) (.analysis program.analyze)
      (s.store target (.analysis program.analyze))
  | drop {name analysis names target} :
    s.Holds Register.analysis? name analysis →
    Moves s (.drop name names target) .done
      (s.store target (.analysis { analysis with
        symbols := analysis.symbols.filter fun symbol => !names.contains symbol.name }))
  | rename {programName analysisName exportsName program analysis exports settings options table
      target} :
    s.Holds Register.program? programName program →
    s.Holds Register.analysis? analysisName analysis →
    s.Holds Register.exports? exportsName exports →
    Options.ofSettings settings = .ok options → analysis.resolve exports options = .ok table →
    Moves s (.rename programName analysisName exportsName settings target) (.table table)
      ((s.rename (table.renaming analysis)).store target (.table table))
  | lookup {tableName table name} :
    s.Holds Register.table? tableName table →
    Moves s (.lookup tableName name) (.symbols (table.get? name) (table.byKey? name)) s
  | emptyTable {target} :
    Moves s (.emptyTable target) .done (s.store target (.table .empty))
  | dependencies {analysisName tableName analysis table graph target} :
    s.Holds Register.analysis? analysisName analysis → s.Holds Register.table? tableName table →
    analysis.dependencies table = .ok graph →
    Moves s (.dependencies analysisName tableName target) (.graph graph)
      (s.store target (.graph graph))
  | describe {programName tableName graphName program table graph settings options descriptor text
      target} :
    s.Holds Register.program? programName program → s.Holds Register.table? tableName table →
    s.Holds Register.graph? graphName graph → Options.ofSettings settings = .ok options →
    program.describe table graph options.policy = .ok descriptor →
    descriptor.erase.print = .ok text →
    Moves s (.describe programName tableName graphName settings target) (.text text)
      (s.store target (.program descriptor))

end Session

namespace Stage

variable {ε α β : Type} {s : Session}

theorem run_read_eq (view? : Register → Option α) (name : RegisterName) (s : Session) :
    (read view? name).run.run s =
      (((s.registers.lookup name).bind view?).elim (.error .noRegister) .ok, s) := by
  have get_bind (next : Session → Stage α) : (get >>= next).run.run s = (next s).run.run s := rfl
  rw [read, get_bind]
  cases (s.registers.lookup name).bind view? <;> rfl

theorem run_read {view? : Register → Option α} {name : RegisterName} {value : α}
    (held : s.Holds view? name value) (next : α → Stage β) :
    (read view? name >>= next).run.run s = (next value).run.run s := by
  have given := run_read_eq view? name s
  rw [held] at given
  simp only [ExceptT.run_bind, StateT.run_bind, given]
  rfl

theorem run_lift {cause : ε → StepError} {x : Except ε α} {value : α} (given : x = .ok value)
    (next : α → Stage β) : (lift cause x >>= next).run.run s = (next value).run.run s := by
  rw [given]
  rfl

/-- A computation fails and leaves the session as it is, or it ends in a session as stated. -/
def AllOrNothing (x : Stage α) (s : Session) (post : α → Session → Prop) : Prop :=
  (∃ e, x.run.run s = (.error e, s)) ∨ ∃ a s', x.run.run s = (.ok a, s') ∧ post a s'

namespace AllOrNothing

variable {post : β → Session → Prop}

theorem read {view? : Register → Option α} {name : RegisterName} {next : α → Stage β}
    (continues : ∀ value, s.Holds view? name value → AllOrNothing (next value) s post) :
    AllOrNothing (Stage.read view? name >>= next) s post := by
  cases held : (s.registers.lookup name).bind view? with
  | none =>
    have given := run_read_eq view? name s
    rw [held] at given
    refine .inl ⟨.noRegister, ?_⟩
    simp only [ExceptT.run_bind, StateT.run_bind, given]
    rfl
  | some value =>
    unfold AllOrNothing
    rw [run_read held]
    exact continues value held

theorem lift {cause : ε → StepError} {x : Except ε α} {next : α → Stage β}
    (continues : ∀ value, x = .ok value → AllOrNothing (next value) s post) :
    AllOrNothing (Stage.lift cause x >>= next) s post := by
  cases given : x with
  | error e => exact .inl ⟨cause e, rfl⟩
  | ok value => exact continues value given

end AllOrNothing

end Stage

namespace ScopeAnalysis.Resolved

variable {a : ScopeAnalysis} {exports : ExportMap} {options : Options} {table : SymbolTable}

theorem isSome_get? (resolved : a.Resolved exports options table) {s : ModuleSymbol}
    (member : s ∈ a.symbols) : (table.get? s.name).isSome := by
  unfold SymbolTable.get?
  rw [List.find?_isSome, resolved.symbols]
  exact ⟨_, List.mem_map_of_mem member, decide_eq_true rfl⟩

/-- Once the names are resolved, nothing keeps them from being written. -/
theorem renames (resolved : a.Resolved exports options table) :
    (Stage.writeNames table a).Renames (table.renaming a) := by
  apply Stage.renames_writeNames
  · intro s member
    exact resolved.isSome_get? member
  · intro r member
    obtain ⟨target, found, -⟩ := resolved.uncaptured r member
    rw [found, Option.isSome_some]

end ScopeAnalysis.Resolved

namespace Session

open Stage

variable {s : Session}

theorem run_renamed {analysis : ScopeAnalysis} {exports : ExportMap} {options : Options}
    {table : SymbolTable} (resolved : analysis.resolve exports options = .ok table)
    (target : RegisterName) :
    (do
      writeNames table analysis
      keep target (.table table)
      return Answer.table table : Stage Answer).run.run s =
      (.ok (.table table), (s.rename (table.renaming analysis)).store target (.table table)) := by
  have written := (ScopeAnalysis.resolve_resolved resolved).renames s
  simp only [ExceptT.run_bind, StateT.run_bind, written]
  rfl

/-- A step does what it can do, or it fails and does nothing. -/
theorem run_moves [Serializer] (s : Session) (step : Step) :
    AllOrNothing (run step) s (s.Moves step) := by
  cases step with
  | parse source target =>
    apply AllOrNothing.lift
    intro program parsed
    exact .inr ⟨_, _, rfl, .parse parsed⟩
  | print program =>
    apply AllOrNothing.read
    intro value held
    apply AllOrNothing.lift
    intro text printed
    exact .inr ⟨_, _, rfl, .print held printed⟩
  | validate program policy =>
    apply AllOrNothing.read
    intro value held
    apply AllOrNothing.lift
    intro _ valid
    exact .inr ⟨_, _, rfl, .validate held valid⟩
  | resolveExports program target =>
    apply AllOrNothing.read
    intro value held
    apply AllOrNothing.lift
    rintro ⟨exports, rest⟩ resolved
    exact .inr ⟨_, _, rfl, .resolveExports held resolved⟩
  | exports pairs target => exact .inr ⟨_, _, rfl, .exports⟩
  | analyze program target =>
    apply AllOrNothing.read
    intro value held
    exact .inr ⟨_, _, rfl, .analyze held⟩
  | drop analysis names target =>
    apply AllOrNothing.read
    intro value held
    exact .inr ⟨_, _, rfl, .drop held⟩
  | rename program analysis exports settings target =>
    apply AllOrNothing.read
    intro tree held
    apply AllOrNothing.read
    intro recorded analyzed
    apply AllOrNothing.read
    intro exported resolved
    apply AllOrNothing.lift
    intro options configured
    apply AllOrNothing.lift
    intro table named
    -- The checks are behind: what is left cannot fail.
    exact .inr ⟨_, _, run_renamed named target, .rename held analyzed resolved configured named⟩
  | lookup table name =>
    apply AllOrNothing.read
    intro value held
    exact .inr ⟨_, _, rfl, .lookup held⟩
  | emptyTable target => exact .inr ⟨_, _, rfl, .emptyTable⟩
  | dependencies analysis table target =>
    apply AllOrNothing.read
    intro recorded analyzed
    apply AllOrNothing.read
    intro symbols held
    apply AllOrNothing.lift
    intro graph linked
    exact .inr ⟨_, _, rfl, .dependencies analyzed held linked⟩
  | describe program table graph settings target =>
    apply AllOrNothing.read
    intro tree held
    apply AllOrNothing.read
    intro symbols named
    apply AllOrNothing.read
    intro edges linked
    apply AllOrNothing.lift
    intro options configured
    apply AllOrNothing.lift
    intro descriptor described
    apply AllOrNothing.lift
    intro text printed
    exact .inr ⟨_, _, rfl, .describe held named linked configured described printed⟩

theorem run_eq_error [Serializer] {step : Step} {e : StepError} {s' : Session}
    (failed : (run step).run.run s = (.error e, s')) : s' = s := by
  rcases run_moves s step with ⟨e', result⟩ | ⟨answer, t, result, -⟩
  · exact (congrArg Prod.snd (failed.symm.trans result))
  · exact nomatch congrArg Prod.fst (failed.symm.trans result)

theorem run_eq_ok [Serializer] {step : Step} {answer : Answer} {s' : Session} :
    (run step).run.run s = (.ok answer, s') ↔ s.Moves step answer s' := by
  constructor
  · intro done
    rcases run_moves s step with ⟨e, result⟩ | ⟨answer', t, result, moves⟩
    · exact nomatch congrArg Prod.fst (done.symm.trans result)
    · obtain ⟨same, rfl⟩ := Prod.mk.inj (done.symm.trans result)
      obtain rfl := Except.ok.inj same
      exact moves
  · intro moves
    cases moves with
    | parse parsed => exact run_lift parsed _
    | print held printed => exact (run_read held _).trans (run_lift printed _)
    | validate held valid => exact (run_read held _).trans (run_lift valid _)
    | resolveExports held resolved => exact (run_read held _).trans (run_lift resolved _)
    | exports => rfl
    | analyze held => exact run_read held _
    | drop held => exact run_read held _
    | rename held analyzed exported configured named =>
      rw [run, run_read held, run_read analyzed, run_read exported, run_lift configured,
        run_lift named, run_renamed named]
    | lookup held => exact run_read held _
    | emptyTable => rfl
    | dependencies analyzed held linked =>
      rw [run, run_read analyzed, run_read held, run_lift linked]
      rfl
    | describe held named linked configured described printed =>
      rw [run, run_read held, run_read named, run_read linked, run_lift configured,
        run_lift described, run_lift printed]
      rfl

end Session

/-! ## Recorded occurrences -/

/-- What an occurrence is to an analysis that has recorded it. -/
inductive Mention where
  | declares (symbol : Text)
  | refersTo (symbol : Text)

def SymbolTable.spelling? (table : SymbolTable) : Mention → Option Text
  | .declares symbol => table.key? symbol
  | .refersTo symbol => table.reference? symbol

namespace ScopeAnalysis

/-- An analysis has recorded the occurrence at a site. -/
def Records (a : ScopeAnalysis) (site : Site) : Mention → Prop
  | .declares symbol => ∃ s ∈ a.symbols, s.name = symbol ∧
      ∃ d ∈ s.definitions, d.occurrence.site = some site
  | .refersTo symbol => ∃ r ∈ a.references, r.symbol = symbol ∧ r.occurrence.site = some site

/-- Each recorded occurrence has a site, and at a site only one thing is recorded. -/
structure Placed (a : ScopeAnalysis) : Prop where
  definitions : ∀ s ∈ a.symbols, ∀ d ∈ s.definitions, d.occurrence.site.isSome
  references : ∀ r ∈ a.references, r.occurrence.site.isSome
  unique : ∀ {site mention mention'}, a.Records site mention → a.Records site mention' →
    mention = mention'

end ScopeAnalysis

theorem SymbolTable.mem_renaming {table : SymbolTable} {a : ScopeAnalysis} {site : Site}
    {name : Text} :
    (site, name) ∈ table.renaming a ↔
      ∃ mention, a.Records site mention ∧ table.spelling? mention = some name := by
  rw [SymbolTable.renaming, List.mem_append, List.mem_flatMap, List.mem_filterMap]
  constructor
  · rintro (⟨s, member, written⟩ | ⟨r, member, written⟩)
    · obtain ⟨d, d_member, sited, named⟩ := mem_symbolRenaming.mp written
      exact ⟨.declares s.name, ⟨s, member, rfl, d, d_member, sited⟩, named⟩
    · obtain ⟨sited, named⟩ := renaming?_eq_some.mp written
      exact ⟨.refersTo r.symbol, ⟨r, member, rfl, sited⟩, named⟩
  · rintro ⟨mention, recorded, named⟩
    cases mention with
    | declares symbol =>
      obtain ⟨s, member, rfl, d, d_member, sited⟩ := recorded
      exact .inl ⟨s, member, mem_symbolRenaming.mpr ⟨d, d_member, sited, named⟩⟩
    | refersTo symbol =>
      obtain ⟨r, member, rfl, sited⟩ := recorded
      exact .inr ⟨r, member, renaming?_eq_some.mpr ⟨sited, named⟩⟩

namespace ScopeAnalysis.Resolved

variable {a : ScopeAnalysis} {exports : ExportMap} {options : Options} {table : SymbolTable}
  (resolved : a.Resolved exports options table) {site : Site}

include resolved

theorem exists_spelling {mention : Mention} (recorded : a.Records site mention) :
    ∃ name, table.spelling? mention = some name := by
  cases mention with
  | declares symbol =>
    obtain ⟨s, member, rfl, -⟩ := recorded
    obtain ⟨target, found⟩ := Option.isSome_iff_exists.mp (resolved.isSome_get? member)
    exact ⟨target.key, congrArg (Option.map ResolvedSymbol.key) found⟩
  | refersTo symbol =>
    obtain ⟨r, member, rfl, -⟩ := recorded
    obtain ⟨target, found, -⟩ := resolved.uncaptured r member
    exact ⟨target.reference, congrArg (Option.map ResolvedSymbol.reference) found⟩

/-- A recorded occurrence gets a name that the table has for what is recorded at its site. -/
theorem exists_spelling_rename {mention : Mention} (recorded : a.Records site mention)
    {o : Occurrence} (sited : o.site = some site) :
    ∃ decisive, a.Records site decisive ∧
      table.spelling? decisive = some (o.rename (table.renaming a)).name := by
  obtain ⟨name, named⟩ := resolved.exists_spelling recorded
  have listed := SymbolTable.mem_renaming.mpr ⟨mention, recorded, named⟩
  rw [Renaming.Serves.rename_name sited]
  cases fresh : (table.renaming a).newName? site with
  | none =>
    have differs := List.lookup_eq_none_iff.mp fresh _ (List.mem_reverse.mpr listed)
    exact absurd rfl (bne_iff_ne.mp differs)
  | some last =>
    -- Of several names for a site the last one holds, and it is listed as well.
    exact SymbolTable.mem_renaming.mp (List.mem_reverse.mp (mem_of_lookup fresh))

end ScopeAnalysis.Resolved

theorem SymbolTable.rename_eq_self {table : SymbolTable} {a : ScopeAnalysis} {o : Occurrence}
    (other : ∀ site, o.site = some site → ∀ mention, ¬ a.Records site mention) :
    o.rename (table.renaming a) = o := by
  obtain ⟨name, site⟩ := o
  cases site with
  | none => rfl
  | some site =>
    have absent : (table.renaming a).newName? site = none := by
      apply Renaming.newName?_eq_none
      intro fresh present
      obtain ⟨mention, recorded, -⟩ := mem_renaming.mp present
      exact other site rfl mention recorded
    simp only [Occurrence.rename, Option.bind_some, absent, Option.getD_none]

/-! ## Analyses of programs -/

section Analyses

variable {program : Program Occurrence} {site : Site} {symbol : Text}

theorem Program.definition_of_records
    (recorded : program.analyze.Records site (.declares symbol)) :
    ∃ d ∈ program.definitions, d.occurrence.name = symbol ∧ d.occurrence.site = some site := by
  obtain ⟨s, s_member, rfl, d, member, sited⟩ := recorded
  obtain ⟨member, named⟩ := (program.symbols_groups.mem_definitions s_member).mp member
  exact ⟨d, member, named, sited⟩

theorem Program.use_of_records (recorded : program.analyze.Records site (.refersTo symbol)) :
    ∃ u ∈ program.ownedUses, u.use.name = symbol ∧ u.use.occurrence.site = some site := by
  obtain ⟨r, r_member, rfl, sited⟩ := recorded
  obtain ⟨u, member, -, rfl⟩ := Program.mem_references.mp r_member
  exact ⟨u, member, rfl, sited⟩

theorem Program.Numbered.placed (numbered : program.Numbered) : program.analyze.Placed where
  definitions s s_member d member := by
    obtain ⟨member, -⟩ := (program.symbols_groups.mem_definitions s_member).mp member
    exact Option.isSome_iff_exists.mpr (numbered.exists_site_definition member)
  references r member := by
    obtain ⟨u, used, -, rfl⟩ := Program.mem_references.mp member
    exact Option.isSome_iff_exists.mpr (numbered.exists_site_use used)
  unique {site mention mention'} recorded recorded' := by
    -- At a site there is one occurrence, and no occurrence is both declared and used.
    cases mention with
    | declares symbol =>
      obtain ⟨d, member, rfl, sited⟩ := Program.definition_of_records recorded
      cases mention' with
      | declares symbol' =>
        obtain ⟨d', member', rfl, sited'⟩ := Program.definition_of_records recorded'
        rw [numbered.definition_eq member sited member' sited']
      | refersTo symbol' =>
        obtain ⟨u, member', -, sited'⟩ := Program.use_of_records recorded'
        exact (numbered.use_ne_definition member' sited' member sited).elim
    | refersTo symbol =>
      obtain ⟨u, member, rfl, sited⟩ := Program.use_of_records recorded
      cases mention' with
      | declares symbol' =>
        obtain ⟨d, member', -, sited'⟩ := Program.definition_of_records recorded'
        exact (numbered.use_ne_definition member sited member' sited').elim
      | refersTo symbol' =>
        obtain ⟨u', member', rfl, sited'⟩ := Program.use_of_records recorded'
        rw [numbered.use_eq member sited member' sited']

/-- Each occurrence has a site of its own, or nothing is declared. A descriptor declares nothing,
and it has occurrences without a site. -/
def Program.Traceable (program : Program Occurrence) : Prop :=
  program.Numbered ∨ program.definitions = []

theorem Program.Traceable.placed (traceable : program.Traceable) : program.analyze.Placed := by
  rcases traceable with numbered | undeclared
  · exact numbered.placed
  · have symbols : program.analyze.symbols = [] := congrArg (List.foldl declare []) undeclared
    have references : program.analyze.references = [] := by
      apply List.eq_nil_iff_forall_not_mem.mpr
      intro r member
      obtain ⟨u, -, ⟨-, known⟩, -⟩ := Program.mem_references.mp member
      obtain ⟨d, declared, -⟩ := program.symbols_groups.mem_names.mp known
      exact List.not_mem_nil (undeclared ▸ declared)
    -- Nothing is recorded at all.
    refine ⟨by simp [symbols], by simp [references], fun {site mention _} recorded _ => ?_⟩
    cases mention <;> simp [ScopeAnalysis.Records, symbols, references] at recorded

theorem Program.Traceable.rename (traceable : program.Traceable) (fresh : Renaming) :
    (program.rename fresh).Traceable := by
  rcases traceable with numbered | undeclared
  · left
    have occurrences :
        (program.rename fresh).occurrences = program.occurrences.map (·.rename fresh) :=
      Statement.occurrencesList_map _ program.body
    refine ⟨fun o member => ?_, fun site => ?_⟩
    · rw [occurrences] at member
      obtain ⟨old, old_member, rfl⟩ := List.mem_map.mp member
      exact numbered.sited old old_member
    · rw [occurrences, List.countP_map]
      exact numbered.distinct site
  · right
    rw [Program.rename, Program.definitions_map, undeclared, List.map_nil]

theorem Program.Traceable.withoutExports (traceable : program.Traceable) :
    program.withoutExports.Traceable := by
  rcases traceable with numbered | undeclared
  · exact .inl (Program.withoutExports_numbered numbered)
  · exact .inr (program.withoutExports_definitions.trans undeclared)

theorem Program.traceable_describe {table : SymbolTable} {graph : DependencyGraph}
    {policy : InitializerPolicy} {descriptor : Program Occurrence}
    (described : program.describe table graph policy = .ok descriptor) : descriptor.Traceable := by
  obtain ⟨entries, -, done⟩ := bind_eq_ok.mp described
  obtain rfl := pure_eq_ok.mp done
  exact .inr rfl

/-- An analysis stays placed without some of its symbols. -/
theorem ScopeAnalysis.Placed.drop {a : ScopeAnalysis} (placed : a.Placed)
    (kept : ModuleSymbol → Bool) : { a with symbols := a.symbols.filter kept }.Placed := by
  have still : ∀ {site mention},
      { a with symbols := a.symbols.filter kept }.Records site mention →
        a.Records site mention := by
    intro site mention recorded
    cases mention with
    | declares symbol =>
      obtain ⟨s, member, rest⟩ := recorded
      exact ⟨s, (List.mem_filter.mp member).1, rest⟩
    | refersTo symbol => exact recorded
  refine ⟨fun s member => ?_, placed.references, fun first second => ?_⟩
  · exact placed.definitions s (List.mem_filter.mp member).1
  · exact placed.unique (still first) (still second)

end Analyses

/-! ## Steps one after the other -/

/-- A program is traceable, and an analysis has places. -/
def Register.Sound : Register → Prop
  | .program value => value.Traceable
  | .analysis value => value.Placed
  | .exports _ | .table _ | .graph _ => True

theorem Register.Sound.rename {value : Register} (sound : value.Sound) (fresh : Renaming) :
    (value.rename fresh).Sound := by
  cases value with
  | program p => exact Program.Traceable.rename sound fresh
  | _ => exact sound

namespace Session

def Sound (s : Session) : Prop := ∀ entry ∈ s.registers, entry.2.Sound

namespace Sound

variable {s : Session} (sound : s.Sound)

include sound

theorem store (name : RegisterName) {value : Register} (valid : value.Sound) :
    (s.store name value).Sound := by
  intro entry member
  rcases List.mem_cons.mp member with rfl | old
  · exact valid
  · exact sound entry (List.mem_filter.mp old).1

theorem rename (fresh : Renaming) : (s.rename fresh).Sound := by
  intro entry member
  obtain ⟨old, old_member, rfl⟩ := List.mem_map.mp member
  exact (sound old old_member).rename fresh

theorem register {α : Type} {view? : Register → Option α} {name : RegisterName} {value : α}
    (held : s.Holds view? name value) : ∃ register : Register, register.Sound ∧
      view? register = some value := by
  obtain ⟨register, found, seen⟩ := Option.bind_eq_some_iff.mp held
  exact ⟨register, sound _ (mem_of_lookup found), seen⟩

theorem program {name : RegisterName} {value : Program Occurrence}
    (held : s.Holds Register.program? name value) : value.Traceable := by
  obtain ⟨register, valid, seen⟩ := sound.register held
  cases register with
  | program _ => exact Option.some.inj seen ▸ valid
  | _ => exact nomatch seen

theorem analysis {name : RegisterName} {value : ScopeAnalysis}
    (held : s.Holds Register.analysis? name value) : value.Placed := by
  obtain ⟨register, valid, seen⟩ := sound.register held
  cases register with
  | analysis _ => exact Option.some.inj seen ▸ valid
  | _ => exact nomatch seen

/-- A step keeps every register sound. -/
theorem moves [Serializer] {step : Step} {answer : Answer} {s' : Session}
    (moved : s.Moves step answer s') :
    s'.Sound := by
  cases moved with
  | @parse _ _ program _ =>
    have fresh : { s with nextSite := (program.labelFrom.run s.nextSite).2 }.Sound := sound
    exact fresh.store _ (.inl (program.labelFrom_numbered s.nextSite))
  | print | validate | lookup => exact sound
  | resolveExports held resolved =>
    obtain ⟨_, -, done⟩ := bind_eq_ok.mp resolved
    obtain ⟨-, rfl⟩ := Prod.mk.inj (pure_eq_ok.mp done)
    have rest : Register.Sound (.program _) := (sound.program held).withoutExports
    exact (sound.store _ rest).store _ trivial
  | exports | emptyTable | dependencies => exact sound.store _ trivial
  | analyze held => exact sound.store _ (sound.program held).placed
  | drop held => exact sound.store _ ((sound.analysis held).drop _)
  | rename => exact (sound.rename _).store _ trivial
  | describe _ _ _ _ described => exact sound.store _ (Program.traceable_describe described)

end Sound

def after [Serializer] (s : Session) (steps : List Step) : Session := ((perform steps).run s).2

theorem runAll_cons [Serializer] (step : Step) (steps : List Step) (s : Session) :
    s.runAll (step :: steps) =
      ((run step).run.run s).1 :: ((run step).run.run s).2.runAll steps := rfl

theorem after_cons [Serializer] (step : Step) (steps : List Step) (s : Session) :
    s.after (step :: steps) = ((run step).run.run s).2.after steps := rfl

theorem runAll_append [Serializer] (before rest : List Step) (s : Session) :
    s.runAll (before ++ rest) = s.runAll before ++ (s.after before).runAll rest := by
  induction before generalizing s with
  | nil => rfl
  | cons step before ih =>
    rw [List.cons_append, runAll_cons, runAll_cons, ih, after_cons, List.cons_append]

theorem after_append [Serializer] (before rest : List Step) (s : Session) :
    s.after (before ++ rest) = (s.after before).after rest := by
  induction before generalizing s with
  | nil => rfl
  | cons step before ih => rw [List.cons_append, after_cons, after_cons, ih]

theorem Sound.after [Serializer] {s : Session} (sound : s.Sound) (steps : List Step) :
    (s.after steps).Sound := by
  induction steps generalizing s with
  | nil => exact sound
  | cons step steps ih =>
    rw [after_cons]
    apply ih
    rcases run_moves s step with ⟨e, failed⟩ | ⟨answer, s', done, moved⟩
    -- A step that fails leaves the registers of before.
    · rwa [failed]
    · rw [done]
      exact sound.moves moved

theorem initial_sound : initial.Sound := fun _ member => nomatch member

end Session

/-! ## Registers after a step -/

/-- What happens to occurrences when those that an analysis has recorded get the names of a table.
If several things were recorded at one site, one of them would decide. -/
structure ScopeAnalysis.Rewrites (a : ScopeAnalysis) (table : SymbolTable)
    (change : Occurrence → Occurrence) : Prop where
  site : ∀ o, (change o).site = o.site
  recorded : ∀ {o site mention}, o.site = some site → a.Records site mention →
    ∃ decisive, a.Records site decisive ∧ table.spelling? decisive = some (change o).name
  other : ∀ {o}, (∀ site mention, o.site = some site → ¬ a.Records site mention) → change o = o

theorem ScopeAnalysis.Rewrites.spelling? {a : ScopeAnalysis} {table : SymbolTable}
    {change : Occurrence → Occurrence} (rewrites : a.Rewrites table change) (placed : a.Placed)
    {o : Occurrence} {site : Site} {mention : Mention} (sited : o.site = some site)
    (recorded : a.Records site mention) : table.spelling? mention = some (change o).name := by
  obtain ⟨decisive, also, named⟩ := rewrites.recorded sited recorded
  rwa [placed.unique recorded also]

theorem ScopeAnalysis.Resolved.rewrites {a : ScopeAnalysis} {exports : ExportMap}
    {options : Options} {table : SymbolTable} (resolved : a.Resolved exports options table) :
    a.Rewrites table (·.rename (table.renaming a)) where
  site _ := rfl
  recorded sited recorded := resolved.exists_spelling_rename recorded sited
  other unrecorded :=
    SymbolTable.rename_eq_self fun site sited mention => unrecorded site mention sited

namespace Session

variable {s s' : Session} {target : RegisterName}

theorem lookup_store_self (s : Session) (name : RegisterName) (value : Register) :
    (s.store name value).registers.lookup name = some value := List.lookup_cons_self

theorem lookup_store_ne (s : Session) {name asked : RegisterName} (value : Register)
    (other : asked ≠ name) :
    (s.store name value).registers.lookup asked = s.registers.lookup asked := by
  obtain ⟨registers, nextSite⟩ := s
  rw [store, List.lookup_cons, beq_eq_false_iff_ne.mpr other]
  induction registers with
  | nil => rfl
  | cons entry rest ih =>
    obtain ⟨held, old⟩ := entry
    by_cases same : held = name
    -- The filter drops this register, which is not the one that is asked for.
    · have skipped : (asked == held) = false := by rw [same, beq_eq_false_iff_ne.mpr other]
      rw [List.filter_cons_of_neg (by simp [same]), ih, List.lookup_cons, skipped]
    · rw [List.filter_cons_of_pos (by simp [same]), List.lookup_cons, List.lookup_cons]
      cases asked == held with
      | true => rfl
      | false => exact ih

theorem lookup_rename (s : Session) (fresh : Renaming) (asked : RegisterName) :
    (s.rename fresh).registers.lookup asked =
      (s.registers.lookup asked).map (Register.rename fresh) := by
  obtain ⟨registers, nextSite⟩ := s
  rw [rename]
  induction registers with
  | nil => rfl
  | cons entry rest ih =>
    rw [List.map_cons, List.lookup_cons, List.lookup_cons]
    cases asked == entry.1 with
    | true => rfl
    | false => exact ih

/-- There is all that a renaming needs, and the names pass every check. -/
def Names (s : Session) (program analysis exports : RegisterName) (settings : Settings)
    (recorded : ScopeAnalysis) (table : SymbolTable) : Prop :=
  ∃ tree exported options, s.Holds Register.program? program tree ∧
    s.Holds Register.analysis? analysis recorded ∧ s.Holds Register.exports? exports exported ∧
    Options.ofSettings settings = .ok options ∧ recorded.resolve exported options = .ok table

/-- The session after the occurrences that an analysis has recorded have got the names of a table,
and the table was put into a register. -/
structure Renamed (s : Session) (a : ScopeAnalysis) (table : SymbolTable) (target : RegisterName)
    (s' : Session) : Prop where
  /-- In every program the recorded occurrences have their new names, and all else is as before. -/
  programs : ∃ change, a.Rewrites table change ∧ ∀ name, name ≠ target → ∀ program,
    s.Holds Register.program? name program → s'.Holds Register.program? name (program.map change)
  others : ∀ name, name ≠ target → (s.registers.lookup name).bind Register.program? = none →
    s'.registers.lookup name = s.registers.lookup name
  table : s'.registers.lookup target = some (.table table)
  nextSite : s'.nextSite = s.nextSite

/-- The session after a program has got a new body, and its exports were put into a register. -/
structure Unwrapped (s : Session) (name : RegisterName) (body : List (Statement Occurrence))
    (exports : ExportMap) (target : RegisterName) (s' : Session) : Prop where
  program : name ≠ target → s'.Holds Register.program? name ⟨body⟩
  others : ∀ other, other ≠ name → other ≠ target →
    s'.registers.lookup other = s.registers.lookup other
  exports : s'.registers.lookup target = some (.exports exports)
  nextSite : s'.nextSite = s.nextSite

theorem renamed_store {a : ScopeAnalysis} {table : SymbolTable}
    (rewrites : a.Rewrites table (·.rename (table.renaming a))) :
    s.Renamed a table target ((s.rename (table.renaming a)).store target (.table table)) where
  programs := by
    refine ⟨_, rewrites, fun name other program held => ?_⟩
    obtain ⟨register, found, seen⟩ := Option.bind_eq_some_iff.mp held
    rw [Holds, lookup_store_ne _ _ other, lookup_rename, found]
    cases register with
    | program value =>
      obtain rfl := Option.some.inj seen
      rfl
    | _ => cases seen
  others := by
    intro name other unseen
    rw [lookup_store_ne _ _ other, lookup_rename]
    cases found : s.registers.lookup name with
    | none => rfl
    | some register =>
      rw [found] at unseen
      cases register with
      | program => cases unseen
      | _ => rfl
  table := lookup_store_self ..
  nextSite := rfl

theorem unwrapped_store (s : Session) (name : RegisterName) (body : List (Statement Occurrence))
    (exports : ExportMap) (target : RegisterName) :
    s.Unwrapped name body exports target
      ((s.store name (.program ⟨body⟩)).store target (.exports exports)) where
  program other := by
    rw [Holds, lookup_store_ne _ _ other, lookup_store_self]
    rfl
  others asked other untargeted := by
    rw [lookup_store_ne _ _ untargeted, lookup_store_ne _ _ other]
  exports := lookup_store_self ..
  nextSite := rfl

end Session

/-! ## Atomic steps -/

namespace Session

variable {s s' : Session}

/-- A step that fails might as well not have been taken. -/
theorem perform_without [Serializer] {before : List Step} {step : Step} {e : StepError}
    (failed : (run step).run.run (s.after before) = (.error e, s')) (rest : List Step) :
    s.after (before ++ step :: rest) = s.after (before ++ rest) ∧
      s.runAll (before ++ step :: rest) =
        s.runAll before ++ .error e :: (s.after before).runAll rest := by
  obtain rfl := run_eq_error failed
  rw [after_append, after_append, runAll_append, after_cons, runAll_cons, failed]
  exact ⟨rfl, rfl⟩

theorem Names.run_rename [Serializer] {program analysis exports target : RegisterName}
    {settings : Settings} {recorded : ScopeAnalysis} {table : SymbolTable}
    (names : s.Names program analysis exports settings recorded table) :
    ∃ s', (run (.rename program analysis exports settings target)).run.run s =
      (.ok (.table table), s') ∧ s.Renamed recorded table target s' := by
  obtain ⟨tree, exported, options, held, analyzed, given, configured, named⟩ := names
  exact ⟨_, run_eq_ok.mpr (.rename held analyzed given configured named),
    renamed_store (ScopeAnalysis.resolve_resolved named).rewrites⟩

theorem run_rename_of_not_names [Serializer] {program analysis exports target : RegisterName}
    {settings : Settings}
    (refused : ∀ recorded table, ¬ s.Names program analysis exports settings recorded table) :
    ∃ e, (run (.rename program analysis exports settings target)).run.run s = (.error e, s) := by
  rcases run_moves s (.rename program analysis exports settings target) with
    failed | ⟨answer, s', -, moved⟩
  · exact failed
  · cases moved with
    | rename held analyzed given configured named =>
      exact (refused _ _ ⟨_, _, _, held, analyzed, given, configured, named⟩).elim

theorem run_resolveExports [Serializer] {name : RegisterName} {program : Program Occurrence}
    (held : s.Holds Register.program? name program) (target : RegisterName) :
    (¬ ExportMap.Shares program.exportPairs → ∃ s', (run (.resolveExports name target)).run.run s =
      (.ok (.exports program.exportPairs), s') ∧
      s.Unwrapped name program.withoutExports.body program.exportPairs target s') ∧
    (ExportMap.Shares program.exportPairs →
      ∃ e, (run (.resolveExports name target)).run.run s = (.error e, s)) := by
  constructor
  · intro apart
    have mapped := ExportMap.ofPairs_of_not_shares apart
    exact ⟨_, run_eq_ok.mpr (.resolveExports held (bind_eq_ok.mpr ⟨_, mapped, rfl⟩)),
      unwrapped_store ..⟩
  · intro shares
    rcases run_moves s (.resolveExports name target) with failed | ⟨answer, s', -, moved⟩
    · exact failed
    · cases moved with
      | resolveExports found resolved =>
        obtain rfl := Option.some.inj (held.symm.trans found)
        -- Pairs that share a name make no map, so the step has not succeeded.
        obtain ⟨exports, mapped, -⟩ := bind_eq_ok.mp resolved
        obtain ⟨cause, failed⟩ := ExportMap.ofPairs_collides_iff.mpr shares
        cases failed.symm.trans mapped

/-- A step that fails does nothing, also among others: it might as well not have been taken. New
names are given exactly when all the checks of the names pass, and then to what the analysis has
recorded, in every program; taking the exports out of a program changes that program only. Every
analysis that steps lead to records each occurrence once, whatever has happened to the programs, so
that it is clear which name an occurrence gets. -/
theorem steps_atomic [Serializer] (s : Session) :
    (∀ step e s', (run step).run.run s = (.error e, s') → s' = s) ∧
    (∀ before step rest e s', (run step).run.run (s.after before) = (.error e, s') →
      s.after (before ++ step :: rest) = s.after (before ++ rest) ∧
      s.runAll (before ++ step :: rest) =
        s.runAll before ++ .error e :: (s.after before).runAll rest) ∧
    (∀ program analysis exports settings target,
      (∀ recorded table, s.Names program analysis exports settings recorded table →
        ∃ s', (run (.rename program analysis exports settings target)).run.run s =
          (.ok (.table table), s') ∧ s.Renamed recorded table target s') ∧
      ((∀ recorded table, ¬ s.Names program analysis exports settings recorded table) →
        ∃ e, (run (.rename program analysis exports settings target)).run.run s = (.error e, s))) ∧
    (∀ name target program, s.Holds Register.program? name program →
      ∃ pairs body, Unwraps program.body pairs body ∧
        (¬ pairs.Shares → ∃ s', (run (.resolveExports name target)).run.run s =
          (.ok (.exports pairs), s') ∧ s.Unwrapped name body pairs target s') ∧
        (pairs.Shares → ∃ e, (run (.resolveExports name target)).run.run s = (.error e, s))) ∧
    (∀ steps name analysis, (initial.after steps).Holds Register.analysis? name analysis →
      analysis.Placed ∧ ∀ table change, analysis.Rewrites table change →
        ∀ o site mention, o.site = some site → analysis.Records site mention →
          table.spelling? mention = some (change o).name) := by
  refine ⟨fun step e s' => run_eq_error, ?_, ?_, ?_, ?_⟩
  · intro before step rest e s' failed
    exact perform_without failed rest
  · intro program analysis exports settings target
    exact ⟨fun recorded table => Names.run_rename, run_rename_of_not_names⟩
  · intro name target program held
    exact ⟨_, _, unwraps program.body, run_resolveExports held target⟩
  · intro steps name analysis held
    have placed := (initial_sound.after steps).analysis held
    exact ⟨placed, fun table change rewrites o site mention sited recorded =>
      rewrites.spelling? placed sited recorded⟩

/-- A module in which a parameter has the name that the uniform style gives to a symbol. -/
def capturing : Program Text :=
  ⟨[.declaration (.function "f" [] []),
    .declaration (.function "g" ["_unnamed_f"] [.return (some (.call (.identifier "f") []))])]⟩

/-- A module with two exports, one of them in a list. -/
def exporting : Program Text :=
  ⟨[.exportDeclaration (.variables .var [.mk "x" none]), .exportList [⟨"f", "g"⟩] none]⟩

def capturingSession : Session :=
  ⟨[("module", .program capturing.label), ("other", .program (exporting.labelFrom.run 4).1),
    ("analysis", .analysis capturing.label.analyze), ("exports", .exports [])], 7⟩

/-- The first module with the names of the other style. -/
def capturingText : Text :=
  .joinWith "\n" ["function $unnamed_f() \x7b\x7d", "function $unnamed_g(_unnamed_f) \x7b",
    "    return unnamed_f();", "\x7d", ""]

theorem capturingSession_atomic :
    (∃ e, (run (.rename "module" "analysis" "exports" [] "table")).run.run capturingSession =
      (.error e, capturingSession)) ∧
    (∃ table s' program, (run (.rename "module" "analysis" "exports"
        [("reference_style", .text "emscripten")] "table")).run.run capturingSession =
      (.ok (.table table), s') ∧
      capturingSession.Renamed capturing.label.analyze table "table" s' ∧
      s'.Holds Register.program? "module" program ∧ program.erase.print = .ok capturingText) ∧
    ∃ body s', (run (.resolveExports "other" "found")).run.run capturingSession =
      (.ok (.exports [("x", "x"), ("f", "g")]), s') ∧
      capturingSession.Unwrapped "other" body [("x", "x"), ("f", "g")] "found" s' ∧
      s'.Holds Register.program? "other" ⟨body⟩ ∧
      (⟨body⟩ : Program Occurrence).erase.print = .ok "var x;\n" := by
  obtain ⟨-, -, renames, unwraps, -⟩ := steps_atomic capturingSession
  refine ⟨?_, ?_, ?_⟩
  · -- Under its new name the reference to `f` would mean the parameter.
    apply (renames _ _ _ _ _).2
    rintro recorded table ⟨tree, exported, options, -, analyzed, given, configured, named⟩
    obtain rfl := Option.some.inj analyzed
    obtain rfl := Option.some.inj given
    obtain rfl := Except.ok.inj configured
    have refused : (capturing.label.analyze.resolve [] {}).toOption.isNone = true := by
      decide +kernel
    exact Bool.false_ne_true ((congrArg (·.toOption.isNone) named).symm.trans refused)
  · have resolves : (capturing.label.analyze.resolve [] { style := .emscripten }).toOption.any
        (fun _ => true) = true := by
      decide +kernel
    obtain ⟨table, named, -⟩ := toOption_any.mp resolves
    obtain ⟨s', done, renamed⟩ := (renames "module" "analysis" "exports"
      [("reference_style", .text "emscripten")] "table").1 _ table
        ⟨_, _, _, rfl, rfl, rfl, rfl, named⟩
    have written : ((((run (.rename "module" "analysis" "exports"
        [("reference_style", .text "emscripten")] "table")).run.run
          capturingSession).2.registers.lookup ("module" : Text)).bind Register.program?).map
            (fun program => program.erase.print) = some (.ok capturingText) := by
      decide +kernel
    rw [done] at written
    obtain ⟨program, held, printed⟩ := Option.map_eq_some_iff.mp written
    exact ⟨table, s', program, done, renamed, held, printed⟩
  · obtain ⟨pairs, body, unwrapped, apart, -⟩ := unwraps "other" "found" _ rfl
    cases unwrapped with
    | other plain => cases plain
    | «variables» rest =>
      cases rest with
      | other plain => cases plain
      | list rest =>
        cases rest
        obtain ⟨s', done, after⟩ := apart (ExportMap.not_shares_iff.mpr ⟨by decide, by decide⟩)
        exact ⟨_, s', done, after, after.program (by decide), by decide +kernel⟩

end Session

end LibraryDescriptor
