import Mathlib.Data.List.Sort
import LibraryDescriptor.Text.Basic

/-!
# The order of names

`Text.le` is the lexicographic order of the code point numbers, so a `Text.nameSet` is strictly
ascending and there is one such list for each set of names.
-/

namespace LibraryDescriptor

theorem CodePoint.toNat_injective : Function.Injective CodePoint.toNat := by
  -- No scalar value lies in the surrogate range.
  have scalar_ne (c : Char) (offset : Fin 2048) : c.toNat ≠ 0xD800 + offset.val := by
    intro equal
    have valid : c.toNat.isValidChar := c.valid
    have bound := offset.isLt
    simp only [Nat.isValidChar] at valid
    omega
  intro p q equal
  cases p with
  | scalar c =>
    cases q with
    | scalar d => exact congrArg scalar (Char.toNat_inj.1 equal)
    | surrogate offset => exact absurd equal (scalar_ne c offset)
  | surrogate offset =>
    cases q with
    | scalar d => exact absurd equal.symm (scalar_ne d offset)
    | surrogate offset' =>
      simp only [toNat, Nat.add_left_cancel_iff] at equal
      rw [Fin.ext equal]

namespace Text

def numbers (t : Text) : List Nat := t.map CodePoint.toNat

theorem mem_insertName {name n : Text} {names : List Text} :
    n ∈ insertName name names ↔ n = name ∨ n ∈ names := by
  induction names with
  | nil => simp [insertName]
  | cons first rest ih =>
    unfold insertName
    split
    · next same => simp [same]
    · split
      · simp
      · simp only [List.mem_cons, ih]
        exact or_left_comm

theorem mem_nameSet {n : Text} {names : List Text} : n ∈ nameSet names ↔ n ∈ names := by
  induction names with
  | nil => rfl
  | cons first rest ih =>
    rw [nameSet, List.foldr_cons, mem_insertName, List.mem_cons]
    exact or_congr_right ih

/-- Strictly before, by code point. -/
def Before (a b : Text) : Prop := List.Lex (· < ·) a.numbers b.numbers

instance : IsTrans Text Before := ⟨fun _ _ _ => List.lt_trans⟩

instance : Std.Irrefl Before := ⟨fun t => List.lt_irrefl t.numbers⟩

instance : Std.Antisymm Before := ⟨fun _ _ ab ba => (List.lt_irrefl _ (List.lt_trans ab ba)).elim⟩

theorem before_cons {p q : CodePoint} {ps qs : Text} :
    Before (p :: ps) (q :: qs) ↔ p.toNat < q.toNat ∨ p = q ∧ Before ps qs := by
  rw [← CodePoint.toNat_injective.eq_iff]
  exact List.cons_lt_cons_iff

theorem before_of_le {a b : Text} (ne : a ≠ b) (before : le a b) : Before a b := by
  fun_induction le a b with
  | case1 b =>
    cases b with
    | nil => exact absurd rfl ne
    | cons q qs => exact .nil
  | case2 p ps => cases before
  | case3 p ps q qs ih => grind [before_cons]

theorem before_of_not_le {a b : Text} (after : ¬ le a b) : Before b a := by
  fun_induction le a b with
  | case1 b => exact absurd rfl after
  | case2 p ps => exact .nil
  | case3 p ps q qs ih =>
    have total : q.toNat < p.toNat ∨ q.toNat = p.toNat ∨ p.toNat < q.toNat := by omega
    rw [CodePoint.toNat_injective.eq_iff] at total
    grind [before_cons]

theorem insertName_ascending (name : Text) {names : List Text} (ascending : names.Pairwise Before) :
    (insertName name names).Pairwise Before := by
  induction names with
  | nil => simp [insertName]
  | cons n ns ih =>
    obtain ⟨first, rest⟩ := List.pairwise_cons.1 ascending
    simp only [insertName]
    by_cases same : name = n
    · simpa [same] using ascending
    by_cases before : le name n
    · have lower : Before name n := before_of_le same before
      simp only [same, before, if_true, if_false]
      exact List.pairwise_cons.2
        ⟨List.forall_mem_cons.2 ⟨lower, fun m hm => List.lt_trans lower (first m hm)⟩, ascending⟩
    · simp only [same, before, if_false]
      refine List.pairwise_cons.2 ⟨fun m hm => ?_, ih rest⟩
      rcases mem_insertName.1 hm with rfl | hm
      · exact before_of_not_le before
      · exact first m hm

theorem nameSet_ascending (names : List Text) : (nameSet names).Pairwise Before := by
  induction names with
  | nil => exact .nil
  | cons name names ih => exact insertName_ascending name ih

theorem eq_nameSet_iff {list names : List Text} (ascending : list.Pairwise Before) :
    list = nameSet names ↔ ∀ name, name ∈ list ↔ name ∈ names := by
  constructor
  · rintro rfl name
    exact mem_nameSet
  · intro members
    apply ascending.eq_of_mem_iff (nameSet_ascending names)
    simpa [mem_nameSet] using members

end Text

end LibraryDescriptor
