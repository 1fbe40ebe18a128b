import LibraryDescriptor.Proofs.Scope.FreeOccurrences
import LibraryDescriptor.Proofs.Scope.Sites
import LibraryDescriptor.Symbol.Export

/-!
# The code of declarations

* `Code` — what a top-level declaration gives its name: a function or an initial value.
* `Program.codes`, `Program.code?` — the code of a module by declared names.
* `Code.free` — the names that occur free in it, from the leaves up.
* `Program.mem_ownedUses_iff` — the uses in the code of a name are the uses that it owns.
* `Program.codes_map` — the code of a renamed module.
-/

namespace LibraryDescriptor

/-- What a top-level declaration gives its name. -/
inductive Code where
  | function (params : List Occurrence) (body : List (Statement Occurrence))
  | value (init : Option (Expression Occurrence))

namespace Code

def free : Code → List Occurrence
  | .function params body => unbound (functionScope none params body) (Statement.freeList body)
  | .value init => Expression.freeOption init

def freeNames (code : Code) : List Text := code.free.map Occurrence.name

def uses : Code → List Use
  | .function params body =>
    Statement.usesList body [headNames none params false ++ bodyNames body]
  | .value init => Expression.usesOption init []

def enclosed : Code → List Occurrence
  | .function params body =>
    params ++ Statement.varsList body ++ Statement.lexicalsList body ++ Statement.enclosedList body
  | .value init => Expression.enclosedOption init

def map (f : Occurrence → Occurrence) : Code → Code
  | .function params body => .function (params.map f) (Statement.mapList f body)
  | .value init => .value (Expression.mapOption f init)

theorem free_eq_openOccurrences (code : Code) : code.free = openOccurrences code.uses := by
  cases code with
  | function params body =>
    rw [uses, free, Statement.freeList_of_uses, outside_cons (mem_functionNames none params body),
      outside_none]
  | value init => rw [uses, free, Expression.freeOption_of_uses, outside_none]

theorem mem_freeNames {code : Code} {n : Text} :
    n ∈ code.freeNames ↔ ∃ u ∈ code.uses, u.isLocal = false ∧ u.name = n := by
  rw [freeNames, free_eq_openOccurrences, openOccurrences, List.map_map, List.mem_map]
  refine exists_congr fun u => ?_
  rw [List.mem_filter, Bool.not_eq_true', and_assoc]
  rfl

theorem uses_map {f : Occurrence → Occurrence} {code : Code} (kept : Keeps f code.enclosed) :
    (code.map f).uses = code.uses.map (Use.map f) := by
  cases code with
  | function params body =>
    simp only [enclosed, keeps_append] at kept
    obtain ⟨⟨⟨params_kept, vars_kept⟩, lexicals_kept⟩, inner_kept⟩ := kept
    rw [map, uses, paramNames_map false params_kept, bodyNames_map vars_kept lexicals_kept,
      Statement.usesList_map body _ inner_kept, uses]
  | value init => exact Expression.usesOption_map init [] kept

end Code

/-! ## The code of a module -/

def Declaration.codes : Declaration Occurrence → List (Occurrence × Code)
  | .function name params body => [(name, .function params body)]
  | .variables _ declarators => declarators.map fun d => (d.name, .value d.init)

def Statement.codes : Statement Occurrence → List (Occurrence × Code)
  | .declaration value | .exportDeclaration value => value.codes
  | _ => []

def Program.codes (program : Program Occurrence) : List (Occurrence × Code) :=
  program.body.flatMap Statement.codes

def Program.code? (program : Program Occurrence) (name : Text) : Option Code :=
  (program.codes.find? fun (o, _) => o.name = name).map Prod.snd

def OwnedUse.InCode (codes : List (Occurrence × Code)) (n : Text) (u : Use) : Prop :=
  ∃ o code, (o, code) ∈ codes ∧ o.name = n ∧ u ∈ code.uses

theorem Declaration.mem_ownedUses_iff (d : Declaration Occurrence) {n : Text} {u : Use} :
    ⟨some n, u⟩ ∈ d.ownedUses ↔ OwnedUse.InCode d.codes n u := by
  match d with
  | .function name params body =>
    simp [Declaration.ownedUses, Declaration.uses, Declaration.codes, OwnedUse.InCode, Code.uses,
      and_comm]
  | .variables _ declarators =>
    simp only [Declaration.ownedUses, Declaration.codes, OwnedUse.InCode, List.mem_flatMap,
      List.mem_map, OwnedUse.mk.injEq, Option.some.injEq, Prod.mk.injEq]
    constructor
    · rintro ⟨d, member, _, used, rfl, rfl⟩
      exact ⟨d.name, .value d.init, ⟨d, member, rfl, rfl⟩, rfl, used⟩
    · rintro ⟨_, _, ⟨d, member, rfl, rfl⟩, rfl, used⟩
      exact ⟨d, member, u, used, rfl, rfl⟩

theorem Statement.mem_ownedUses_iff (s : Statement Occurrence) {n : Text} {u : Use} :
    ⟨some n, u⟩ ∈ s.ownedUses ↔ OwnedUse.InCode s.codes n u := by
  cases s with
  | declaration value | exportDeclaration value => exact value.mem_ownedUses_iff
  | exportList _ source =>
    cases source <;> simp [Statement.ownedUses, Statement.codes, OwnedUse.InCode]
  | _ => simp [Statement.ownedUses, Statement.codes, OwnedUse.InCode]

theorem Program.mem_ownedUses_iff (program : Program Occurrence) {n : Text} {u : Use} :
    ⟨some n, u⟩ ∈ program.ownedUses ↔ OwnedUse.InCode program.codes n u := by
  simp only [Program.ownedUses, Program.codes, List.mem_flatMap, Statement.mem_ownedUses_iff,
    OwnedUse.InCode]
  constructor
  · rintro ⟨s, member, o, code, listed, named, used⟩
    exact ⟨o, code, ⟨s, member, listed⟩, named, used⟩
  · rintro ⟨o, code, ⟨s, member, listed⟩, named, used⟩
    exact ⟨s, member, o, code, listed, named, used⟩

/-! ## The code of a renamed module -/

section Map

variable (f : Occurrence → Occurrence)

theorem Declaration.codes_map (d : Declaration Occurrence) :
    (d.map f).codes = d.codes.map (Prod.map f (Code.map f)) := by
  match d with
  | .function _ _ _ => rfl
  | .variables _ declarators =>
    simp only [Declaration.map, Declaration.codes, List.map_map]
    induction declarators with
    | nil => rfl
    | cons d ds ih =>
      obtain ⟨_, _ | _⟩ := d <;>
        simp only [Declarator.mapList, Declarator.map, List.map_cons, ih] <;> rfl

theorem Statement.codes_map (s : Statement Occurrence) :
    (s.map f).codes = s.codes.map (Prod.map f (Code.map f)) := by
  cases s with
  | declaration value | exportDeclaration value => exact value.codes_map f
  | «if» _ _ alternate => cases alternate <;> rfl
  | «for» init => cases init <;> rfl
  | _ => rfl

theorem Program.codes_map (program : Program Occurrence) :
    (program.map f).codes = program.codes.map (Prod.map f (Code.map f)) := by
  obtain ⟨body⟩ := program
  induction body with
  | nil => rfl
  | cons s ss ih =>
    simp only [Program.codes, Program.map] at ih ⊢
    simp only [Statement.mapList, List.flatMap_cons, List.map_append, Statement.codes_map, ih]

end Map

theorem Declarator.mem_enclosedList {declarators : List (Declarator Occurrence)}
    {d : Declarator Occurrence} (member : d ∈ declarators) {o : Occurrence}
    (inside : o ∈ Expression.enclosedOption d.init) : o ∈ Declarator.enclosedList declarators := by
  induction declarators with
  | nil => exact nomatch member
  | cons first rest ih =>
    obtain ⟨name, init⟩ := first
    rw [Declarator.enclosedList, List.mem_append]
    rcases List.mem_cons.mp member with rfl | later
    · exact .inl inside
    · exact .inr (ih later)

theorem Statement.mem_enclosed_of_code {s : Statement Occurrence} {entry : Occurrence × Code}
    (member : entry ∈ s.codes) {o : Occurrence} (inside : o ∈ entry.2.enclosed) :
    o ∈ s.enclosed := by
  match s with
  | .declaration (.function _ _ _) | .exportDeclaration (.function _ _ _) =>
    obtain rfl := List.mem_singleton.mp member
    exact inside
  | .declaration (.variables _ _) | .exportDeclaration (.variables _ _) =>
    obtain ⟨d, d_member, rfl⟩ := List.mem_map.mp member
    exact Declarator.mem_enclosedList d_member inside

theorem Program.mem_enclosed_of_code {program : Program Occurrence} {entry : Occurrence × Code}
    (member : entry ∈ program.codes) {o : Occurrence} (inside : o ∈ entry.2.enclosed) :
    o ∈ program.enclosed := by
  obtain ⟨s, s_member, listed⟩ := List.mem_flatMap.mp member
  have within := Statement.mem_enclosed_of_code listed inside
  obtain ⟨body⟩ := program
  rw [Program.enclosed]
  induction body with
  | nil => exact absurd s_member List.not_mem_nil
  | cons first rest ih =>
    rw [Statement.enclosedList, List.mem_append]
    rcases List.mem_cons.mp s_member with rfl | later
    · exact .inl within
    · exact .inr (ih (List.mem_flatMap.mpr ⟨s, later, listed⟩) later)

end LibraryDescriptor
