import Mathlib.Data.List.Forall2
import Mathlib.Data.List.Perm.Basic

/-!
# Computations that succeed or fail

What is known about the steps of a computation from its success, or from its failure.

* `bind_eq_ok`, `mapM_eq_ok`, `forM_eq_ok`.
* `mapM_perm`, `mapM_map_eq` — computations in another order, or on other inputs.
* `bind_eq_error`, `mapM_eq_error`, `forM_eq_error`, `forM_eq_findSome?`.
-/

namespace LibraryDescriptor

variable {ε α β : Type}

theorem bind_eq_ok {x : Except ε α} {next : α → Except ε β} {b : β} :
    x >>= next = .ok b ↔ ∃ a, x = .ok a ∧ next a = .ok b := by
  cases x with
  | error e => exact ⟨fun failed => (nomatch failed), fun ⟨_, failed, _⟩ => (nomatch failed)⟩
  | ok a => exact ⟨fun done => ⟨a, rfl, done⟩, fun ⟨_, same, done⟩ => (Except.ok.inj same) ▸ done⟩

theorem pure_eq_ok {a b : α} : (pure a : Except ε α) = .ok b ↔ a = b :=
  ⟨Except.ok.inj, congrArg _⟩

theorem mapError_eq_ok {ε' : Type} {x : Except ε α} {g : ε → ε'} {a : α} :
    x.mapError g = .ok a ↔ x = .ok a := by
  cases x <;> simp [Except.mapError]

theorem toOption_any {x : Except ε α} {p : α → Bool} :
    x.toOption.any p = true ↔ ∃ a, x = .ok a ∧ p a = true := by
  cases x <;> simp [Except.toOption]

theorem mapM_eq_ok {f : α → Except ε β} :
    ∀ {list : List α} {results : List β},
      list.mapM f = .ok results ↔ List.Forall₂ (fun a b => f a = .ok b) list results
  | [], results => by
    rw [List.mapM_nil, pure_eq_ok, List.forall₂_nil_left_iff, eq_comm]
  | a :: list, results => by
    rw [List.mapM_cons, bind_eq_ok, List.forall₂_cons_left_iff]
    refine ⟨fun ⟨b, first, rest⟩ => ?_, fun ⟨b, bs, first, rest, same⟩ => ⟨b, first, ?_⟩⟩
    · obtain ⟨bs, rest, same⟩ := bind_eq_ok.mp rest
      exact ⟨b, bs, first, mapM_eq_ok.mp rest, (pure_eq_ok.mp same).symm⟩
    · exact bind_eq_ok.mpr ⟨bs, mapM_eq_ok.mpr rest, pure_eq_ok.mpr same.symm⟩

theorem forall₂_exists {relation : α → β → Prop} {as : List α} {bs : List β}
    (related : List.Forall₂ relation as bs) {a : α} (member : a ∈ as) :
    ∃ b ∈ bs, relation a b := by
  induction related with
  | nil => exact nomatch member
  | cons first _ ih =>
    rcases List.mem_cons.mp member with rfl | later
    · exact ⟨_, List.mem_cons_self, first⟩
    · obtain ⟨b, b_member, done⟩ := ih later
      exact ⟨b, List.mem_cons_of_mem _ b_member, done⟩

theorem mapM_ok_exists {f : α → Except ε β} {list : List α} {results : List β}
    (success : list.mapM f = .ok results) {a : α} (member : a ∈ list) :
    ∃ b ∈ results, f a = .ok b := forall₂_exists (mapM_eq_ok.mp success) member

theorem mapM_ok_exists_source {f : α → Except ε β} {list : List α} {results : List β}
    (success : list.mapM f = .ok results) {b : β} (member : b ∈ results) :
    ∃ a ∈ list, f a = .ok b := forall₂_exists (mapM_eq_ok.mp success).flip member

theorem mapM_congr {f g : α → Except ε β} :
    ∀ {list : List α}, (∀ a ∈ list, f a = g a) → list.mapM f = list.mapM g
  | [], _ => rfl
  | a :: list, agree => by
    obtain ⟨first, rest⟩ := List.forall_mem_cons.mp agree
    rw [List.mapM_cons, List.mapM_cons, first, mapM_congr rest]

theorem mapM_ok_map {f : α → Except ε β} {g : α → β} {list : List α} {results : List β}
    (success : list.mapM f = .ok results) (agrees : ∀ a b, f a = .ok b → b = g a) :
    results = list.map g := by
  rw [mapM_eq_ok] at success
  induction success with
  | nil => rfl
  | cons first _ ih => rw [List.map_cons, agrees _ _ first, ih]

theorem forM_eq_ok {f : α → Except ε Unit} :
    ∀ {list : List α}, list.forM f = .ok () ↔ ∀ a ∈ list, f a = .ok ()
  | [] => ⟨fun _ _ member => (nomatch member), fun _ => rfl⟩
  | a :: list => by
    change (f a >>= fun _ => list.forM f) = _ ↔ _
    rw [bind_eq_ok, List.forall_mem_cons]
    exact ⟨fun ⟨_, first, rest⟩ => ⟨first, forM_eq_ok.mp rest⟩,
      fun ⟨first, rest⟩ => ⟨_, first, forM_eq_ok.mpr rest⟩⟩

theorem mapM_ok_of_forall {f : α → Except ε β} {list : List α}
    (each : ∀ a ∈ list, ∃ b, f a = .ok b) : ∃ results, list.mapM f = .ok results := by
  induction list with
  | nil => exact ⟨[], rfl⟩
  | cons a list ih =>
    obtain ⟨⟨b, first⟩, rest⟩ := List.forall_mem_cons.mp each
    obtain ⟨results, rest⟩ := ih rest
    exact ⟨b :: results, mapM_eq_ok.mpr (.cons first (mapM_eq_ok.mp rest))⟩

theorem mapM_perm {f : α → Except ε β} {list list' : List α} {results : List β}
    (perm : list'.Perm list) (success : list.mapM f = .ok results) :
    ∃ results', list'.mapM f = .ok results' ∧ results'.Perm results := by
  obtain ⟨results', mapped, order⟩ := List.perm_comp_forall₂ perm (mapM_eq_ok.mp success)
  exact ⟨results', mapM_eq_ok.mpr mapped, order⟩

theorem mapM_map_eq {f : α → Except ε β} {g : α → α} {h : β → β} :
    ∀ {list : List α}, (∀ a ∈ list, f (g a) = (f a).map h) →
      (list.map g).mapM f = (list.mapM f).map (List.map h)
  | [], _ => rfl
  | a :: list, commutes => by
    obtain ⟨first, rest⟩ := List.forall_mem_cons.mp commutes
    rw [List.map_cons, List.mapM_cons, List.mapM_cons, first, mapM_map_eq rest]
    cases f a with
    | error e => rfl
    | ok b => cases list.mapM f <;> rfl

/-! ## Failure -/

theorem bind_eq_error {x : Except ε α} {next : α → Except ε β} {e : ε} :
    x >>= next = .error e ↔ x = .error e ∨ ∃ a, x = .ok a ∧ next a = .error e := by
  cases x with
  | error e' =>
    refine ⟨fun failed => .inl ?_, fun failed => ?_⟩
    · obtain rfl := Except.error.inj failed
      rfl
    · rcases failed with failed | ⟨_, failed, _⟩
      · obtain rfl := Except.error.inj failed
        rfl
      · cases failed
  | ok a =>
    refine ⟨fun failed => .inr ⟨a, rfl, failed⟩, fun failed => ?_⟩
    rcases failed with failed | ⟨_, same, failed⟩
    · cases failed
    · obtain rfl := Except.ok.inj same
      exact failed

/-- Checks in order fail for the first that does. -/
theorem forM_eq_findSome? {γ : Type} {f : α → Except ε Unit} {g : α → Option γ} {h : γ → ε} :
    ∀ {list : List α}, (∀ a ∈ list, f a = (g a).elim (.ok ()) fun c => .error (h c)) →
      list.forM f = (list.findSome? g).elim (.ok ()) fun c => .error (h c)
  | [], _ => rfl
  | a :: list, agrees => by
    obtain ⟨first, rest⟩ := List.forall_mem_cons.mp agrees
    change (f a >>= fun _ => list.forM f) = _
    rw [first, List.findSome?_cons]
    cases g a with
    | none => exact forM_eq_findSome? rest
    | some c => rfl

/-- Where a list of computations fails, one of them does. -/
theorem mapM_eq_error {f : α → Except ε β} {e : ε} :
    ∀ {list : List α}, list.mapM f = .error e → ∃ a ∈ list, f a = .error e
  | [], failed => nomatch failed
  | a :: list, failed => by
    rw [List.mapM_cons, bind_eq_error] at failed
    rcases failed with failed | ⟨b, -, failed⟩
    · exact ⟨a, List.mem_cons_self, failed⟩
    rcases bind_eq_error.mp failed with failed | ⟨bs, -, failed⟩
    · obtain ⟨a', member, failed⟩ := mapM_eq_error failed
      exact ⟨a', List.mem_cons_of_mem a member, failed⟩
    · cases failed

theorem forM_eq_error {f : α → Except ε Unit} {e : ε} :
    ∀ {list : List α}, list.forM f = .error e → ∃ a ∈ list, f a = .error e
  | [], failed => nomatch failed
  | a :: list, failed => by
    rcases bind_eq_error.mp failed with failed | ⟨_, -, failed⟩
    · exact ⟨a, List.mem_cons_self, failed⟩
    · obtain ⟨a', member, failed⟩ := forM_eq_error failed
      exact ⟨a', List.mem_cons_of_mem a member, failed⟩

end LibraryDescriptor
