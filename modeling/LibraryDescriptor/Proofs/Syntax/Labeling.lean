import Mathlib.Logic.Basic
import LibraryDescriptor.Proofs.Syntax.Occurrences

/-!
# Numbered trees

A module with its occurrences numbered is the module, once the sites are forgotten. The sites are
consecutive, and where the numbering starts only shifts them.

* `Labeling.Follows` — what a numbering makes of a tree.
* `Program.label_erase` — numbering a module keeps it.
* `Program.labelFrom_numbers` — the sites of a numbered module.
* `Statement.label_run` — a statement that is numbered from another site.
-/

namespace LibraryDescriptor

def Occurrence.shift (distance : Nat) (o : Occurrence) : Occurrence :=
  { o with site := o.site.map (· + distance) }

theorem Occurrence.shift_injective (distance : Nat) : Function.Injective (shift distance) := by
  intro o o' same
  obtain ⟨names, sites⟩ := Occurrence.mk.inj same
  have later : Function.Injective (· + distance) := fun _ _ => Nat.add_right_cancel
  obtain ⟨name, site⟩ := o
  obtain ⟨name', site'⟩ := o'
  exact congrArg₂ Occurrence.mk names (Option.map_injective later sites)

/-- A numbering gives a result from which forgetting the sites gives a tree, and consecutive sites,
from its state on, to the occurrences that its result has behind those in `done`. Started at a later
site, as `later`, it ends as much later, with the same result but for the shifted sites. -/
def Labeling.Follows {α β : Type} (distance : Nat) (numbering later : Labeling α) (erase : α → β)
    (tree : β) (shift : α → α) (occurrences : α → List Occurrence) (done : List Occurrence) :
    Prop :=
  ∀ first, ∃ count,
    erase (numbering.run first).1 = tree ∧
      (occurrences (numbering.run first).1).map Occurrence.site =
        done.map Occurrence.site ++ (List.range' first count).map some ∧
      (numbering.run first).2 = first + count ∧
      later.run (first + distance) =
        (shift (numbering.run first).1, (numbering.run first).2 + distance)

/-- What the numbering of a tree makes of it, at any two sites that are `distance` apart. -/
abbrev Labeling.Numbers {α β : Type} (distance : Nat) (numbering : Labeling α) (tree : β)
    (erase : α → β) (shift : α → α) (occurrences : α → List Occurrence) : Prop :=
  Follows distance numbering numbering erase tree shift occurrences []

namespace Labeling.Follows

variable {α β γ δ : Type} {distance : Nat} {done : List Occurrence}

theorem pure {a b : α} {erase : α → β} {tree : β} {shift : α → α}
    {occurrences : α → List Occurrence} (kept : erase a = tree) (shifted : shift a = b)
    (numbered : occurrences a = done) :
    Follows distance (return a) (return b) erase tree shift occurrences done := by
  refine fun first => ⟨0, kept, ?_, rfl, congrArg (·, first + distance) shifted.symm⟩
  change (occurrences a).map Occurrence.site = _
  simp [numbered]

theorem bind {numbering later : Labeling α} {next nextLater : α → Labeling γ} {part : α → β}
    {piece : β} {move : α → α} {found : α → List Occurrence} {erase : γ → δ} {tree : δ}
    {shift : γ → γ} {occurrences : γ → List Occurrence}
    (follows : Follows distance numbering later part piece move found [])
    (continues : ∀ a, part a = piece → Follows distance (next a) (nextLater (move a)) erase tree
      shift occurrences (done ++ found a)) :
    Follows distance (numbering >>= next) (later >>= nextLater) erase tree shift occurrences
      done := by
  intro first
  obtain ⟨count, kept, sites, state, moved⟩ := follows first
  obtain ⟨more, kept', sites', state', moved'⟩ :=
    continues (numbering.run first).1 kept (numbering.run first).2
  refine ⟨count + more, kept', ?_, ?_, ?_⟩
  · change (occurrences ((next (numbering.run first).1).run (numbering.run first).2).1).map _ = _
    rw [sites', List.map_append, sites, state]
    simp only [List.map_nil, List.nil_append, List.append_assoc, ← List.map_append,
      List.range'_append_1]
  · change ((next (numbering.run first).1).run (numbering.run first).2).2 = _
    rw [state', state, Nat.add_assoc]
  · -- Where the first parts end is as far apart as where they begin.
    change (nextLater (later.run (first + distance)).1).run (later.run (first + distance)).2 = _
    rw [moved]
    exact moved'

end Labeling.Follows

open Labeling Occurrence

/-! ## Optional parts under a new name -/

section Map

variable {ν μ : Type} (f : ν → μ)

theorem Declarator.map_mk (n : ν) (init : Option (Expression ν)) :
    (Declarator.mk n init).map f = .mk (f n) (Expression.mapOption f init) := by
  cases init <;> rfl

theorem SwitchCase.map_mk (test : Option (Expression ν)) (consequent : List (Statement ν)) :
    (SwitchCase.mk test consequent).map f =
      .mk (Expression.mapOption f test) (Statement.mapList f consequent) := by
  cases test <;> rfl

theorem Statement.map_if (test : Expression ν) (consequent : Statement ν)
    (alternate : Option (Statement ν)) :
    (Statement.if test consequent alternate).map f =
      .if (test.map f) (consequent.map f) (alternate.map (Statement.map f)) := by
  cases alternate <;> rfl

theorem Statement.map_for (init : Option (LoopHead ν)) (test update : Option (Expression ν))
    (body : Statement ν) :
    (Statement.for init test update body).map f =
      .for (init.map (LoopHead.map f)) (Expression.mapOption f test) (Expression.mapOption f update)
        (body.map f) := by
  cases init <;> rfl

end Map

/-! ## Numbering names and trees -/

section Label

variable (distance : Nat)

theorem Occurrence.next_numbers (text : Text) :
    Numbers distance (next text) text name (shift distance) (fun o => [o]) :=
  fun first => ⟨1, rfl, rfl, rfl, congrArg (Prod.mk _) (Nat.add_right_comm first distance 1)⟩

theorem Occurrence.nextList_numbers : ∀ texts : List Text,
    Numbers distance (nextList texts) texts (List.map name) (List.map (shift distance)) id
  | [] => .pure rfl rfl rfl
  | text :: texts =>
    .bind (next_numbers distance text) fun _ h₁ =>
      .bind (nextList_numbers texts) fun _ h₂ => .pure (by simp [h₁, h₂]) rfl rfl

theorem Occurrence.nextOption_numbers : ∀ text : Option Text,
    Numbers distance (nextOption text) text (Option.map name) (Option.map (shift distance))
      Option.toList
  | none => .pure rfl rfl rfl
  | some text => .bind (next_numbers distance text) fun _ h => .pure (by simp [h]) rfl rfl

theorem ExportSpecifier.labelList_numbers : ∀ specifiers : List (ExportSpecifier Text),
    Numbers distance (labelList specifiers) specifiers
      (List.map fun s => ⟨s.bound.name, s.exported.name⟩)
      (List.map fun s => ⟨s.bound.shift distance, s.exported.shift distance⟩)
      (List.flatMap fun s => [s.bound, s.exported])
  | [] => .pure rfl rfl rfl
  | s :: ss =>
    .bind (next_numbers distance s.bound) fun _ h₁ =>
      .bind (next_numbers distance s.exported) fun _ h₂ =>
        .bind (labelList_numbers ss) fun _ h₃ => .pure (by simp [h₁, h₂, h₃]) rfl rfl

theorem ImportSpecifier.labelList_numbers : ∀ specifiers : List (ImportSpecifier Text),
    Numbers distance (labelList specifiers) specifiers
      (List.map fun s => ⟨s.imported.name, s.bound.name⟩)
      (List.map fun s => ⟨s.imported.shift distance, s.bound.shift distance⟩)
      (List.flatMap fun s => [s.imported, s.bound])
  | [] => .pure rfl rfl rfl
  | s :: ss =>
    .bind (next_numbers distance s.imported) fun _ h₁ =>
      .bind (next_numbers distance s.bound) fun _ h₂ =>
        .bind (labelList_numbers ss) fun _ h₃ => .pure (by simp [h₁, h₂, h₃]) rfl rfl

mutual

theorem Expression.label_numbers : ∀ e : Expression Text,
    Numbers distance e.label e (Expression.map name) (Expression.map (shift distance))
      Expression.occurrences
  | .identifier text =>
    .bind (next_numbers distance text) fun _ h => .pure (by simp only [Expression.map, h]) rfl rfl
  | .literal _ _ | .this => .pure rfl rfl rfl
  | .array elements =>
    .bind (Expression.labelElements_numbers elements) fun _ h =>
      .pure (by simp only [Expression.map, h]) rfl rfl
  | .object properties =>
    .bind (Property.labelList_numbers properties) fun _ h =>
      .pure (by simp only [Expression.map, h]) rfl rfl
  | .function text params body =>
    .bind (nextOption_numbers distance text) fun _ h₁ =>
      .bind (nextList_numbers distance params) fun _ h₂ =>
        .bind (Statement.labelList_numbers body) fun _ h₃ =>
          .pure (by simp only [Expression.map, h₁, h₂, h₃]) rfl rfl
  | .arrow params body =>
    .bind (nextList_numbers distance params) fun _ h₁ =>
      .bind (Expression.label_numbers body) fun _ h₂ =>
        .pure (by simp only [Expression.map, h₁, h₂]) rfl rfl
  | .arrowBlock params body =>
    .bind (nextList_numbers distance params) fun _ h₁ =>
      .bind (Statement.labelList_numbers body) fun _ h₂ =>
        .pure (by simp only [Expression.map, h₁, h₂]) rfl rfl
  | .unary _ argument | .update _ _ argument =>
    .bind (Expression.label_numbers argument) fun _ h =>
      .pure (by simp only [Expression.map, h]) rfl rfl
  | .binary _ left right | .logical _ left right | .assignment _ left right
  | .member left right _ =>
    .bind (Expression.label_numbers left) fun _ h₁ =>
      .bind (Expression.label_numbers right) fun _ h₂ =>
        .pure (by simp only [Expression.map, h₁, h₂]) rfl rfl
  | .conditional test consequent alternate =>
    .bind (Expression.label_numbers test) fun _ h₁ =>
      .bind (Expression.label_numbers consequent) fun _ h₂ =>
        .bind (Expression.label_numbers alternate) fun _ h₃ =>
          .pure (by simp only [Expression.map, h₁, h₂, h₃]) rfl rfl
  | .call callee arguments | .new callee arguments =>
    .bind (Expression.label_numbers callee) fun _ h₁ =>
      .bind (Expression.labelList_numbers arguments) fun _ h₂ =>
        .pure (by simp only [Expression.map, h₁, h₂]) rfl rfl
  | .sequence expressions =>
    .bind (Expression.labelList_numbers expressions) fun _ h =>
      .pure (by simp only [Expression.map, h]) rfl rfl

theorem Expression.labelList_numbers : ∀ es : List (Expression Text),
    Numbers distance (Expression.labelList es) es (Expression.mapList name)
      (Expression.mapList (shift distance)) Expression.occurrencesList
  | [] => .pure rfl rfl rfl
  | e :: es =>
    .bind (Expression.label_numbers e) fun _ h₁ =>
      .bind (Expression.labelList_numbers es) fun _ h₂ =>
        .pure (by simp only [Expression.mapList, h₁, h₂]) rfl rfl

theorem Expression.labelElements_numbers : ∀ es : List (Option (Expression Text)),
    Numbers distance (Expression.labelElements es) es (Expression.mapElements name)
      (Expression.mapElements (shift distance)) Expression.occurrencesElements
  | [] => .pure rfl rfl rfl
  | none :: es =>
    .bind (Expression.labelElements_numbers es) fun _ h =>
      .pure (by simp only [Expression.mapElements, h]) rfl rfl
  | some e :: es =>
    .bind (Expression.label_numbers e) fun _ h₁ =>
      .bind (Expression.labelElements_numbers es) fun _ h₂ =>
        .pure (by simp only [Expression.mapElements, h₁, h₂]) rfl rfl

theorem Expression.labelOption_numbers : ∀ e : Option (Expression Text),
    Numbers distance (Expression.labelOption e) e (Expression.mapOption name)
      (Expression.mapOption (shift distance)) Expression.occurrencesOption
  | none => .pure rfl rfl rfl
  | some e =>
    .bind (Expression.label_numbers e) fun _ h =>
      .pure (by simp only [Expression.mapOption, h]) rfl rfl

theorem Property.labelList_numbers : ∀ ps : List (Property Text),
    Numbers distance (Property.labelList ps) ps (Property.mapList name)
      (Property.mapList (shift distance)) Property.occurrencesList
  | [] => .pure rfl rfl rfl
  | .mk key value _ _ _ :: ps => by
    simp only [Property.labelList, Property.label, bind_assoc, pure_bind]
    exact .bind (Expression.label_numbers key) fun _ h₁ =>
      .bind (Expression.label_numbers value) fun _ h₂ =>
        .bind (Property.labelList_numbers ps) fun _ h₃ =>
          .pure (by simp only [Property.mapList, Property.map, h₁, h₂, h₃]) rfl rfl

theorem Declarator.labelList_numbers : ∀ ds : List (Declarator Text),
    Numbers distance (Declarator.labelList ds) ds (Declarator.mapList name)
      (Declarator.mapList (shift distance)) Declarator.occurrencesList
  | [] => .pure rfl rfl rfl
  | .mk text init :: ds => by
    simp only [Declarator.labelList, Declarator.label, bind_assoc, pure_bind]
    exact .bind (next_numbers distance text) fun _ h₁ =>
      .bind (Expression.labelOption_numbers init) fun _ h₂ =>
        .bind (Declarator.labelList_numbers ds) fun _ h₃ =>
          .pure (by simp only [Declarator.mapList, Declarator.map_mk, h₁, h₂, h₃])
            (by simp only [Declarator.mapList, Declarator.map_mk]) rfl

theorem Declaration.label_numbers : ∀ d : Declaration Text,
    Numbers distance d.label d (Declaration.map name) (Declaration.map (shift distance))
      Declaration.occurrences
  | .function text params body =>
    .bind (next_numbers distance text) fun _ h₁ =>
      .bind (nextList_numbers distance params) fun _ h₂ =>
        .bind (Statement.labelList_numbers body) fun _ h₃ =>
          .pure (by simp only [Declaration.map, h₁, h₂, h₃]) rfl rfl
  | .variables _ declarators =>
    .bind (Declarator.labelList_numbers declarators) fun _ h =>
      .pure (by simp only [Declaration.map, h]) rfl rfl

theorem LoopHead.label_numbers : ∀ head : LoopHead Text,
    Numbers distance head.label head (LoopHead.map name) (LoopHead.map (shift distance))
      LoopHead.occurrences
  | .variables _ declarators =>
    .bind (Declarator.labelList_numbers declarators) fun _ h =>
      .pure (by simp only [LoopHead.map, h]) rfl rfl
  | .expression value =>
    .bind (Expression.label_numbers value) fun _ h => .pure (by simp only [LoopHead.map, h]) rfl rfl

theorem LoopHead.labelOption_numbers : ∀ head : Option (LoopHead Text),
    Numbers distance (LoopHead.labelOption head) head (Option.map (LoopHead.map name))
      (Option.map (LoopHead.map (shift distance))) LoopHead.occurrencesOption
  | none => .pure rfl rfl rfl
  | some head => .bind (LoopHead.label_numbers head) fun _ h => .pure (by simp [h]) rfl rfl

theorem CatchClause.labelOption_numbers : ∀ handler : Option (CatchClause Text),
    Numbers distance (CatchClause.labelOption handler) handler (CatchClause.mapOption name)
      (CatchClause.mapOption (shift distance)) CatchClause.occurrencesOption
  | none => .pure rfl rfl rfl
  | some (.mk param body) =>
    .bind (nextOption_numbers distance param) fun _ h₁ =>
      .bind (Statement.labelList_numbers body) fun _ h₂ =>
        .pure (by simp only [CatchClause.mapOption, CatchClause.map, h₁, h₂]) rfl rfl

theorem SwitchCase.labelList_numbers : ∀ cases : List (SwitchCase Text),
    Numbers distance (SwitchCase.labelList cases) cases (SwitchCase.mapList name)
      (SwitchCase.mapList (shift distance)) SwitchCase.occurrencesList
  | [] => .pure rfl rfl rfl
  | .mk test consequent :: cases =>
    .bind (Expression.labelOption_numbers test) fun _ h₁ =>
      .bind (Statement.labelList_numbers consequent) fun _ h₂ =>
        .bind (SwitchCase.labelList_numbers cases) fun _ h₃ =>
          .pure (by simp only [SwitchCase.mapList, SwitchCase.map_mk, h₁, h₂, h₃])
            (by simp only [SwitchCase.mapList, SwitchCase.map_mk]) rfl

theorem Statement.label_numbers : ∀ s : Statement Text,
    Numbers distance s.label s (Statement.map name) (Statement.map (shift distance))
      Statement.occurrences
  | .declaration value | .exportDeclaration value =>
    .bind (Declaration.label_numbers value) fun _ h =>
      .pure (by simp only [Statement.map, h]) rfl rfl
  | .exportList specifiers _ =>
    .bind (ExportSpecifier.labelList_numbers distance specifiers) fun _ h =>
      .pure (by simp only [Statement.map, h]) rfl rfl
  | .importList specifiers _ =>
    .bind (ImportSpecifier.labelList_numbers distance specifiers) fun _ h =>
      .pure (by simp only [Statement.map, h]) rfl rfl
  | .expression value | .throw value =>
    .bind (Expression.label_numbers value) fun _ h =>
      .pure (by simp only [Statement.map, h]) rfl rfl
  | .block body =>
    .bind (Statement.labelList_numbers body) fun _ h =>
      .pure (by simp only [Statement.map, h]) rfl rfl
  | .return argument =>
    .bind (Expression.labelOption_numbers argument) fun _ h =>
      .pure (by simp only [Statement.map, h]) rfl rfl
  | .if test consequent alternate =>
    .bind (Expression.label_numbers test) fun _ h₁ =>
      .bind (Statement.label_numbers consequent) fun _ h₂ =>
        .bind (Statement.labelOption_numbers alternate) fun _ h₃ =>
          .pure (by simp only [Statement.map_if, h₁, h₂, h₃]) (Statement.map_if _ _ _ _) rfl
  | .for init test update body =>
    .bind (LoopHead.labelOption_numbers init) fun _ h₁ =>
      .bind (Expression.labelOption_numbers test) fun _ h₂ =>
        .bind (Expression.labelOption_numbers update) fun _ h₃ =>
          .bind (Statement.label_numbers body) fun _ h₄ =>
            .pure (by simp only [Statement.map_for, h₁, h₂, h₃, h₄])
              (Statement.map_for _ _ _ _ _) rfl
  | .forIn left right body | .forOf left right body =>
    .bind (LoopHead.label_numbers left) fun _ h₁ =>
      .bind (Expression.label_numbers right) fun _ h₂ =>
        .bind (Statement.label_numbers body) fun _ h₃ =>
          .pure (by simp only [Statement.map, h₁, h₂, h₃]) rfl rfl
  | .while test body =>
    .bind (Expression.label_numbers test) fun _ h₁ =>
      .bind (Statement.label_numbers body) fun _ h₂ =>
        .pure (by simp only [Statement.map, h₁, h₂]) rfl rfl
  | .doWhile body test =>
    .bind (Statement.label_numbers body) fun _ h₁ =>
      .bind (Expression.label_numbers test) fun _ h₂ =>
        .pure (by simp only [Statement.map, h₁, h₂]) rfl rfl
  | .break | .continue | .empty => .pure rfl rfl rfl
  | .try block handler finalizer =>
    .bind (Statement.labelList_numbers block) fun _ h₁ =>
      .bind (CatchClause.labelOption_numbers handler) fun _ h₂ =>
        .bind (Statement.labelFinalizer_numbers finalizer) fun _ h₃ =>
          .pure (by simp only [Statement.map, h₁, h₂, h₃]) rfl rfl
  | .switch discriminant cases =>
    .bind (Expression.label_numbers discriminant) fun _ h₁ =>
      .bind (SwitchCase.labelList_numbers cases) fun _ h₂ =>
        .pure (by simp only [Statement.map, h₁, h₂]) rfl rfl

theorem Statement.labelList_numbers : ∀ ss : List (Statement Text),
    Numbers distance (Statement.labelList ss) ss (Statement.mapList name)
      (Statement.mapList (shift distance)) Statement.occurrencesList
  | [] => .pure rfl rfl rfl
  | s :: ss =>
    .bind (Statement.label_numbers s) fun _ h₁ =>
      .bind (Statement.labelList_numbers ss) fun _ h₂ =>
        .pure (by simp only [Statement.mapList, h₁, h₂]) rfl rfl

theorem Statement.labelOption_numbers : ∀ s : Option (Statement Text),
    Numbers distance (Statement.labelOption s) s (Option.map (Statement.map name))
      (Option.map (Statement.map (shift distance))) Statement.occurrencesOption
  | none => .pure rfl rfl rfl
  | some s => .bind (Statement.label_numbers s) fun _ h => .pure (by simp [h]) rfl rfl

theorem Statement.labelFinalizer_numbers : ∀ body : Option (List (Statement Text)),
    Numbers distance (Statement.labelFinalizer body) body (Statement.mapOptionList name)
      (Statement.mapOptionList (shift distance)) Statement.occurrencesFinalizer
  | none => .pure rfl rfl rfl
  | some body =>
    .bind (Statement.labelList_numbers body) fun _ h =>
      .pure (by simp only [Statement.mapOptionList, h]) rfl rfl

end

end Label

/-! ## Numbered modules -/

theorem Program.labelFrom_erase (program : Program Text) (first : Site) :
    (program.labelFrom.run first).1.erase = program := by
  obtain ⟨_, kept, -⟩ := Statement.labelList_numbers 0 program.body first
  exact congrArg Program.mk kept

theorem Program.label_erase (program : Program Text) : program.label.erase = program :=
  program.labelFrom_erase 0

theorem Program.labelFrom_numbers (program : Program Text) (first : Site) : ∃ count,
    (program.labelFrom.run first).1.occurrences.map site = (List.range' first count).map some ∧
      (program.labelFrom.run first).2 = first + count := by
  obtain ⟨count, -, sites, state, -⟩ := Statement.labelList_numbers 0 program.body first
  exact ⟨count, sites, state⟩

def Statement.numbered (s : Statement Text) : Statement Occurrence := (s.label.run 0).1

theorem Statement.label_run (s : Statement Text) (first : Site) :
    (s.label.run first).1 = s.numbered.map (shift first) := by
  obtain ⟨_, -, -, -, later⟩ := Statement.label_numbers first s 0
  rw [Nat.zero_add] at later
  rw [later]
  rfl

end LibraryDescriptor
