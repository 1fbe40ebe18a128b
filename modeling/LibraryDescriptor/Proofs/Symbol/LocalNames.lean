import LibraryDescriptor.Proofs.Symbol.Resolution
import LibraryDescriptor.Proofs.Syntax.Relabeling
import LibraryDescriptor.Proofs.Syntax.Words

/-!
# New names are local

What the names of a statement become depends on the statement and on the table of symbols, not on
what stands around it in the module.

* `Statement.newName` — the new name of an occurrence, told from one statement.
* `Program.Numbered.rename_name` — it is the name that the renaming of the module gives.
* `Statement.standalone` — a statement under its new names; `Program.rename_body` — the statements
  of a renamed module are these.
-/

namespace LibraryDescriptor

/-! ## Occurrences of one statement -/

theorem Statement.mem_occurrences_of_count {s : Statement Occurrence} {o : Occurrence}
    (found : 0 < countDefined (· == o) s.definitions + countOwned (· == o) s.ownedUses) :
    o ∈ s.occurrences := by
  have counted := s.countOwned_le_occurrences (· == o)
  have present : 0 < s.occurrences.countP (· == o) := by omega
  obtain ⟨o', inside, same⟩ := List.countP_pos_iff.mp present
  exact beq_iff_eq.mp same ▸ inside

theorem Statement.definition_mem_occurrences {s : Statement Occurrence} {d : Definition}
    (member : d ∈ s.definitions) : d.occurrence ∈ s.occurrences := by
  have defined : 0 < countDefined (· == d.occurrence) s.definitions :=
    List.countP_pos_iff.mpr ⟨d, member, beq_self_eq_true _⟩
  exact Statement.mem_occurrences_of_count (by omega)

theorem Statement.use_mem_occurrences {s : Statement Occurrence} {u : OwnedUse}
    (member : u ∈ s.ownedUses) : u.use.occurrence ∈ s.occurrences := by
  have used : 0 < countOwned (· == u.use.occurrence) s.ownedUses :=
    List.countP_pos_iff.mpr ⟨u, member, beq_self_eq_true _⟩
  exact Statement.mem_occurrences_of_count (by omega)

theorem statement_eq_of_countP {p : Occurrence → Bool} {s t : Statement Occurrence}
    {o o' : Occurrence} (inside : o ∈ s.occurrences) (holds : p o = true)
    (inside' : o' ∈ t.occurrences) (holds' : p o' = true) {body : List (Statement Occurrence)}
    (few : (Statement.occurrencesList body).countP p ≤ 1) (s_member : s ∈ body)
    (t_member : t ∈ body) : s = t := by
  have in_s : 0 < s.occurrences.countP p := List.countP_pos_iff.mpr ⟨o, inside, holds⟩
  have in_t : 0 < t.occurrences.countP p := List.countP_pos_iff.mpr ⟨o', inside', holds'⟩
  have later : ∀ {rest : List (Statement Occurrence)} {r : Statement Occurrence}, r ∈ rest →
      0 < r.occurrences.countP p → 0 < (Statement.occurrencesList rest).countP p := by
    intro rest r member found
    obtain ⟨o, in_r, holds⟩ := List.countP_pos_iff.mp found
    exact List.countP_pos_iff.mpr ⟨o, mem_occurrencesList.mpr ⟨r, member, in_r⟩, holds⟩
  induction body with
  | nil => cases s_member
  | cons first rest ih =>
    rw [Statement.occurrencesList, List.countP_append] at few
    -- Two statements of which only one is the first would make two.
    rcases List.mem_cons.mp s_member with rfl | s_later
    · rcases List.mem_cons.mp t_member with rfl | t_later
      · rfl
      · have := later t_later in_t
        omega
    · rcases List.mem_cons.mp t_member with rfl | t_later
      · have := later s_later in_s
        omega
      · exact ih (by omega) s_later t_later

/-- Occurrences at one site are one occurrence of one statement. -/
theorem Program.Numbered.same_statement {program : Program Occurrence} (numbered : program.Numbered)
    {s t : Statement Occurrence} (s_member : s ∈ program.body) (t_member : t ∈ program.body)
    {o o' : Occurrence} (inside : o ∈ s.occurrences) (inside' : o' ∈ t.occurrences) {site : Site}
    (sited : o.site = some site) (sited' : o'.site = some site) : s = t ∧ o = o' := by
  have few := numbered.distinct site
  have holds : (o.site == some site) = true := by simpa using sited
  have holds' : (o'.site == some site) = true := by simpa using sited'
  refine ⟨statement_eq_of_countP inside holds inside' holds' few s_member t_member, ?_⟩
  exact eq_of_countP_le_one few (mem_occurrencesList.mpr ⟨s, s_member, inside⟩) holds
    (mem_occurrencesList.mpr ⟨t, t_member, inside'⟩) holds'

/-! ## New names of one statement -/

/-- The new name of an occurrence in a statement: the key where the statement declares a symbol, the
name of the symbol where no scope in the statement binds the occurrence, and else its own. -/
def Statement.newName (table : SymbolTable) (s : Statement Occurrence) (o : Occurrence) : Text :=
  if o ∈ s.definitions.map Definition.occurrence then (table.key? o.name).getD o.name
  else if ∃ u ∈ s.ownedUses, u.use.isLocal = false ∧ u.use.occurrence = o then
    (table.reference? o.name).getD o.name
  else o.name

theorem Program.Numbered.rename_name {program : Program Occurrence} (numbered : program.Numbered)
    {table : SymbolTable} (known : ∀ name, name ∉ program.names → table.get? name = none)
    {s : Statement Occurrence} (member : s ∈ program.body) {o : Occurrence}
    (inside : o ∈ s.occurrences) :
    (o.rename (table.renaming program.analyze)).name = s.newName table o := by
  have serves := table.renaming_serves program
  unfold Statement.newName
  split
  · next defined =>
    obtain ⟨d, d_member, rfl⟩ := List.mem_map.mp defined
    exact serves.definition numbered (List.mem_flatMap.mpr ⟨s, member, d_member⟩)
  · next undefined =>
    split
    · next used =>
      obtain ⟨u, u_member, unbound, rfl⟩ := used
      have listed : u ∈ program.ownedUses := List.mem_flatMap.mpr ⟨s, member, u_member⟩
      by_cases refers : u.refers program.names
      · exact serves.reference numbered listed refers
      · have undeclared : u.use.name ∉ program.names := fun declared => refers ⟨unbound, declared⟩
        have missing : table.reference? u.use.occurrence.name = none :=
          congrArg (Option.map ResolvedSymbol.reference) (known _ undeclared)
        rw [serves.unchanged numbered listed refers, missing]
        rfl
    · next unused =>
      -- No symbol and no reference is at the site of the occurrence, for it would be in this
      -- statement.
      obtain ⟨site, sited⟩ := Option.isSome_iff_exists.mp
        (numbered.sited o (mem_occurrencesList.mpr ⟨s, member, inside⟩))
      have absent : ∀ name, (site, name) ∉ table.renaming program.analyze := by
        intro name present
        rcases serves.only site name present with
          ⟨d, d_member, d_site, -⟩ | ⟨u, u_member, refers, u_site, -⟩
        · obtain ⟨t, t_member, d_member⟩ := List.mem_flatMap.mp d_member
          obtain ⟨rfl, rfl⟩ := numbered.same_statement member t_member inside
            (Statement.definition_mem_occurrences d_member) sited d_site
          exact undefined (List.mem_map_of_mem d_member)
        · obtain ⟨t, t_member, u_member⟩ := List.mem_flatMap.mp u_member
          obtain ⟨rfl, rfl⟩ := numbered.same_statement member t_member inside
            (Statement.use_mem_occurrences u_member) sited u_site
          exact unused ⟨u, u_member, refers.1, rfl⟩
      rw [Renaming.Serves.rename_name sited, Renaming.newName?_eq_none absent]
      rfl

theorem Statement.newName_map {table : SymbolTable} {f : Occurrence → Occurrence}
    (injective : Function.Injective f) (keeps : ∀ o, (f o).name = o.name)
    (s : Statement Occurrence) (o : Occurrence) :
    (s.map f).newName table (f o) = s.newName table o := by
  have defined : f o ∈ (s.map f).definitions.map Definition.occurrence ↔
      o ∈ s.definitions.map Definition.occurrence := by
    have images : (s.map f).definitions.map Definition.occurrence =
        (s.definitions.map Definition.occurrence).map f := by
      rw [Statement.definitions_map, List.map_map, List.map_map]
      rfl
    rw [images, List.mem_map_of_injective injective]
  have used : (∃ u ∈ (s.map f).ownedUses, u.use.isLocal = false ∧ u.use.occurrence = f o) ↔
      ∃ u ∈ s.ownedUses, u.use.isLocal = false ∧ u.use.occurrence = o := by
    have same : ∀ u : OwnedUse, (u.map f id).use.isLocal = u.use.isLocal := by
      intro u
      simp only [OwnedUse.map, Use.map, Use.isLocal, Use.name, keeps]
    have images : (s.map f).ownedUses = s.ownedUses.map (OwnedUse.map f id) :=
      Statement.ownedUses_map s (fun o _ => keeps o) fun d _ => keeps d.occurrence
    rw [images]
    constructor
    · rintro ⟨_, image, unbound, named⟩
      obtain ⟨u, member, rfl⟩ := List.mem_map.mp image
      exact ⟨u, member, same u ▸ unbound, injective named⟩
    · rintro ⟨u, member, unbound, rfl⟩
      exact ⟨u.map f id, List.mem_map_of_mem member, (same u).trans unbound, rfl⟩
  simp only [Statement.newName, defined, used, keeps]

/-! ## Statements under their new names -/

theorem Statement.withoutExport?_map {ν μ : Type} (f : ν → μ) (s : Statement ν) :
    (s.map f).withoutExport? = s.withoutExport?.map (Statement.map f) := by
  cases s with
  | «if» _ _ alternate => cases alternate <;> rfl
  | «for» init => cases init <;> rfl
  | _ => rfl

/-- What a statement becomes under its new names, without export and sites. -/
def Statement.standalone (table : SymbolTable) (s : Statement Text) :
    Option (Statement Occurrence) :=
  s.numbered.withoutExport?.map fun t => t.map fun o => ⟨t.newName table o, none⟩

theorem filterMap_eq_of_forall₂ {α β γ : Type} {f : α → Option γ} {g : β → Option γ} {as : List α}
    {bs : List β} (same : List.Forall₂ (fun a b => f a = g b) as bs) :
    as.filterMap f = bs.filterMap g := by
  induction same with
  | nil => rfl
  | cons first _ ih => rw [List.filterMap_cons, List.filterMap_cons, first, ih]

/-- Each statement of a renamed module is what it becomes on its own. -/
theorem Program.rename_body {program : Program Text} {table : SymbolTable}
    (known : ∀ name, name ∉ program.label.withoutExports.names → table.get? name = none) :
    (program.label.withoutExports.rename
        (table.renaming program.label.withoutExports.analyze)).body.map
          (Statement.map Occurrence.unsited) =
      program.body.filterMap (Statement.standalone table) := by
  have numbered := Program.withoutExports_numbered program.label_numbered
  rw [Program.rename, Program.body_map, List.map_map]
  change ((program.label.body.filterMap Statement.withoutExport?).map _) = _
  rw [List.map_filterMap]
  apply Eq.symm
  apply filterMap_eq_of_forall₂
  have pairs := (List.forall₂_and_left _ _).mpr ⟨fun _ member => member, program.label_body.flip⟩
  refine pairs.flip.imp ?_
  rintro s t ⟨member, distance, rfl⟩
  have stripped := Statement.withoutExport?_map (Occurrence.shift distance) s.numbered
  rw [stripped, Statement.standalone]
  cases found : s.numbered.withoutExport? with
  | none => rfl
  | some base =>
    have listed : base.map (Occurrence.shift distance) ∈ program.label.withoutExports.body :=
      List.mem_filterMap.mpr ⟨_, member, by rw [stripped, found]; rfl⟩
    refine congrArg some ?_
    rw [Function.comp_apply, Statement.map_map]
    apply Eq.symm
    apply Statement.map_map_congr
    intro o inside
    have moved : o.shift distance ∈ (base.map (Occurrence.shift distance)).occurrences := by
      rw [Statement.occurrences_map]
      exact List.mem_map_of_mem inside
    refine congrArg (Occurrence.mk · none) ?_
    rw [numbered.rename_name known listed moved]
    exact Statement.newName_map (Occurrence.shift_injective distance) (fun _ => rfl) base o

end LibraryDescriptor
