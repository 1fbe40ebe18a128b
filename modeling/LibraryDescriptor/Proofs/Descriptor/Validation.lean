import LibraryDescriptor.Proofs.Descriptor.Entries

/-!
# Modules that are rejected

A module is rejected for its first piece that stands against a descriptor. The error shows the
piece, unless the serializer refuses it.

* `Rejected` — a statement or a variable that stands against a descriptor; `Rejected.refusal` — the
  error.
* `Program.rejected?` — the first piece that stands against a descriptor.
* `Program.validate_label` — validation fails exactly for that piece.
* `Rejected.refusal_of_refused` — a piece that the serializer refuses cannot be shown.
* `Serializer.RefusesSurrogates` — what a serializer may be known to refuse.
-/

namespace LibraryDescriptor

variable {ν μ : Type}

/-! ## Declarations of renamed modules -/

theorem Statement.isSupported_map (f : ν → μ) (s : Statement ν) :
    (s.map f).isSupported = s.isSupported := by
  cases s with
  | exportList _ source => cases source <;> rfl
  | «if» _ _ alternate => cases alternate <;> rfl
  | «for» init => cases init <;> rfl
  | _ => rfl

theorem Statement.declarators_map (f : ν → μ) (s : Statement ν) :
    (s.map f).declarators = s.declarators.map (Declarator.map f) := by
  rw [Statement.declarators, Statement.declarators, Statement.declared?_map]
  cases s.declared? with
  | none => rfl
  | some d =>
    rcases d with ⟨_, _, _⟩ | ⟨_, declarators⟩
    · rfl
    · exact Declarator.mapList_eq_map f declarators

theorem Declarator.name_map (f : ν → μ) (d : Declarator ν) : (d.map f).name = f d.name := by
  obtain ⟨name, _ | init⟩ := d <;> rfl

theorem Declarator.isPure_map (f : ν → μ) (d : Declarator ν) : (d.map f).isPure = d.isPure := by
  obtain ⟨name, _ | init⟩ := d
  · rfl
  · exact Expression.isPure_map f init

/-! ## Rejected pieces -/

/-- A piece of a module that stands against a descriptor. -/
inductive Rejected where
  | statement (s : Statement Text)
  | declarator (d : Declarator Text)

namespace Rejected

def print : Rejected → Except PrintError Text
  | .statement s => s.print
  | .declarator d => d.print

def outline : Rejected → Outline
  | .statement s => s.outline
  | .declarator d => d.outline

def error : Rejected → Excerpt → CompileError
  | .statement _, excerpt => .unsupportedStatement excerpt
  | .declarator d, excerpt => .impureInitializer d.name excerpt

/-- Why a piece is refused, or why it cannot be shown. -/
def refusal [Serializer] (piece : Rejected) : CompileError :=
  match Excerpt.make piece.print piece.outline with
  | .ok excerpt => piece.error excerpt
  | .error e => e

/-- To refuse a piece is to fail with its refusal. -/
theorem refuse [Serializer] (piece : Rejected) :
    (do let excerpt ← Excerpt.make piece.print piece.outline
        .error (piece.error excerpt) : Except CompileError Unit) = .error piece.refusal := by
  rw [refusal]
  cases Excerpt.make piece.print piece.outline <;> rfl

end Rejected

/-- The first piece of a statement that stands against a descriptor. -/
def Statement.rejected? (policy : InitializerPolicy) (s : Statement Text) : Option Rejected :=
  if s.isSupported then
    s.declarators.findSome? fun d =>
      if d.isPure || policy = .postset then none else some (.declarator d)
  else some (.statement s)

/-- The first piece of a module that stands against a descriptor. -/
def Program.rejected? (policy : InitializerPolicy) (program : Program Text) : Option Rejected :=
  program.body.findSome? (Statement.rejected? policy)

/-! ## Validation -/

theorem Declarator.validate_eq [Serializer] {policy : InitializerPolicy}
    (d : Declarator Occurrence) :
    d.validate policy =
      (if d.erase.isPure || policy = .postset then none
        else some (Rejected.declarator d.erase)).elim (.ok ())
          fun piece => .error piece.refusal := by
  rw [Declarator.validate, Declarator.erase, Declarator.isPure_map]
  by_cases accepted : (d.isPure || decide (policy = .postset)) = true
  · rw [if_pos accepted, if_pos accepted]
    rfl
  · have named : (d.map Occurrence.name).name = d.name.name := d.name_map Occurrence.name
    rw [if_neg accepted, if_neg accepted, ← named]
    exact (Rejected.declarator (d.map Occurrence.name)).refuse

theorem Statement.validate_eq [Serializer] {policy : InitializerPolicy} (s : Statement Occurrence) :
    s.validate policy =
      (s.erase.rejected? policy).elim (.ok ()) fun piece => .error piece.refusal := by
  rw [Statement.validate, Statement.rejected?, Statement.erase, Statement.isSupported_map,
    Statement.declarators_map, List.findSome?_map]
  split
  · exact forM_eq_findSome? fun d _ => d.validate_eq
  · exact (Rejected.statement (s.map Occurrence.name)).refuse

/-- Validation of a numbered module fails for the first rejected piece of the module. -/
theorem Program.validate_label [Serializer] (policy : InitializerPolicy) (program : Program Text) :
    program.label.validate policy =
      (program.rejected? policy).elim (.ok ()) fun piece => .error piece.refusal := by
  have statements : program.body = program.label.body.map Statement.erase := by
    calc program.body
      _ = program.label.erase.body := by rw [Program.label_erase]
      _ = program.label.body.map Statement.erase := Program.body_map ..
  rw [Program.validate, Program.rejected?, statements, List.findSome?_map]
  exact forM_eq_findSome? fun s _ => s.validate_eq

theorem Program.validate_label_eq_ok [Serializer] {policy : InitializerPolicy}
    {program : Program Text} :
    program.label.validate policy = .ok () ↔ program.rejected? policy = none := by
  rw [Program.validate_label]
  cases program.rejected? policy <;> simp

/-! ## Pieces that cannot be shown -/

def Text.hasSurrogate (t : Text) : Bool :=
  t.any fun
    | .scalar _ => false
    | .surrogate _ => true

namespace Outline

mutual

/-- The texts in an outline, apart from the names of kinds and fields. -/
def texts : Outline → List Text
  | .null | .flag _ => []
  | .text value | .literal (.string value) => [value]
  | .literal (.number _) | .literal (.boolean _) | .literal .null => []
  | .list items => textsList items
  | .node _ fields => textsFields fields

def textsList : List Outline → List Text
  | [] => []
  | o :: os => o.texts ++ textsList os

def textsFields : List (String × Outline) → List Text
  | [] => []
  | (_, o) :: fields => o.texts ++ textsFields fields

end

def HasSurrogate (o : Outline) : Prop := ∃ t ∈ o.texts, t.hasSurrogate = true

end Outline

/-- A serializer that refuses every outline with a lone surrogate in one of its texts. -/
def Serializer.RefusesSurrogates [Serializer] : Prop :=
  ∀ o : Outline, o.HasSurrogate → describe? o = none

namespace Rejected

variable [Serializer] {piece : Rejected} {text : Text}

/-- A piece that the serializer refuses cannot be shown. -/
theorem refusal_of_refused (printed : piece.print = .ok text)
    (refused : Serializer.describe? piece.outline = none) : piece.refusal = .undescribable := by
  rw [refusal, Excerpt.make, printed, refused]
  rfl

theorem refusal_of_described {description : Text} (printed : piece.print = .ok text)
    (described : Serializer.describe? piece.outline = some description) :
    piece.refusal = piece.error ⟨text, description⟩ := by
  rw [refusal, Excerpt.make, printed, described]
  rfl

end Rejected

/-! ## Indented text has no surrogates -/

namespace Outline

theorem describeText?_eq_none {t : Text} (lone : t.hasSurrogate = true) :
    describeText? t = none := by
  rw [describeText?, Option.map_eq_none_iff]
  induction t with
  | nil => cases lone
  | cons p t ih =>
    rw [List.mapM_cons]
    cases p with
    | surrogate offset => rfl
    | scalar c =>
      rw [ih lone]
      cases describePoint? (.scalar c) <;> rfl

mutual

theorem describeAt?_eq_none : ∀ (o : Outline) (level : Nat),
    o.HasSurrogate → o.describeAt? level = none
  | .null, _, ⟨_, member, _⟩ | .flag _, _, ⟨_, member, _⟩ | .literal (.number _), _, ⟨_, member, _⟩
  | .literal (.boolean _), _, ⟨_, member, _⟩ | .literal .null, _, ⟨_, member, _⟩ => nomatch member
  | .text value, _, ⟨t, member, lone⟩ | .literal (.string value), _, ⟨t, member, lone⟩ => by
    obtain rfl := List.mem_singleton.mp member
    exact describeText?_eq_none lone
  | .list items, level, holds => by
    rw [describeAt?, describeItems?_eq_none items (level + 1) holds]
    rfl
  | .node kind fields, level, holds => by
    rw [describeAt?, describeFields?_eq_none fields (level + 1) holds]
    cases describeText? kind <;> rfl

theorem describeItems?_eq_none : ∀ (os : List Outline) (level : Nat),
    (∃ t ∈ textsList os, t.hasSurrogate = true) → describeItems? os level = none
  | [], _, ⟨_, member, _⟩ => nomatch member
  | o :: os, level, ⟨t, member, lone⟩ => by
    rw [describeItems?]
    rcases List.mem_append.mp member with first | later
    · rw [describeAt?_eq_none o level ⟨t, first, lone⟩]
      rfl
    · rw [describeItems?_eq_none os level ⟨t, later, lone⟩]
      cases o.describeAt? level <;> rfl

theorem describeFields?_eq_none : ∀ (fields : List (String × Outline)) (level : Nat),
    (∃ t ∈ textsFields fields, t.hasSurrogate = true) → describeFields? fields level = none
  | [], _, ⟨_, member, _⟩ => nomatch member
  | (_, o) :: fields, level, ⟨t, member, lone⟩ => by
    rw [describeFields?]
    rcases List.mem_append.mp member with first | later
    · rw [describeAt?_eq_none o level ⟨t, first, lone⟩]
      rfl
    · rw [describeFields?_eq_none fields level ⟨t, later, lone⟩]
      cases o.describeAt? level <;> rfl

end

end Outline

theorem Serializer.indented_refusesSurrogates : @RefusesSurrogates indented :=
  fun o holds => o.describeAt?_eq_none 0 holds

end LibraryDescriptor
