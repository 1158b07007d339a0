import Mathlib.Data.List.Pairwise
import Mathlib.Order.Lattice

/-! Sorting by a comparison, whatever the algorithm and whatever it does with items that compare
equal. -/

namespace RabbitStreamer.Lib.Sorting

variable {α β : Type}

structure StrictWeak (less : α → α → Bool) : Prop where
  asymm : ∀ first second, less first second = true → less second first = false
  trans : ∀ first second third, less second first = false → less third second = false → less third first = false

structure Sorter (α : Type) where
  sort : (α → α → Bool) → List α → List α
  perm : ∀ less, StrictWeak less → ∀ items, (sort less items).Perm items
  sorted : ∀ less, StrictWeak less → ∀ items,
    (sort less items).Pairwise fun first second => less second first = false

def merging (α : Type) : Sorter α where
  sort less items := items.mergeSort fun first second => !less second first
  perm _ _ items := List.mergeSort_perm items _
  sorted less order items := by
    refine (List.pairwise_mergeSort ?_ ?_ items).imp fun {first second} before => ?_
    · intro first second third before behind
      simp only [Bool.not_eq_true'] at *
      exact order.trans first second third before behind
    · intro first second
      cases before : less second first with
      | false => rfl
      | true => simp [order.asymm second first before]
    · exact Bool.not_eq_true' _ ▸ before

variable [LinearOrder β] {less : α → α → Bool} {key : α → β}

def ByKey (less : α → α → Bool) (key : α → β) : Prop :=
  ∀ first second, less first second = true ↔ key first < key second

theorem ByKey.not_less (byKey : ByKey less key) {first second : α} :
    less second first = false ↔ key first ≤ key second := by
  rw [← not_lt, ← byKey, Bool.not_eq_true]

theorem ByKey.strictWeak (byKey : ByKey less key) : StrictWeak less where
  asymm first second before := byKey.not_less.mpr (le_of_lt ((byKey first second).mp before))
  trans _ _ _ before behind := byKey.not_less.mpr ((byKey.not_less.mp before).trans (byKey.not_less.mp behind))

namespace Sorter

variable (sorter : Sorter α) {items : List α}

theorem pairwise (byKey : ByKey less key) (items : List α) :
    (sorter.sort less items).Pairwise fun first second => key first ≤ key second :=
  (sorter.sorted less byKey.strictWeak items).imp byKey.not_less.mp

theorem ascending (byKey : ByKey less key) (distinct : items.Pairwise fun first second => key first ≠ key second) :
    (sorter.sort less items).Pairwise fun first second => key first < key second := by
  have other := (sorter.perm less byKey.strictWeak items).symm.pairwise distinct fun differ => differ.symm
  exact ((sorter.pairwise byKey items).and other).imp fun both => lt_of_le_of_ne both.1 both.2

theorem restores (byKey : ByKey less key) {other : List α}
    (strict : items.Pairwise fun first second => key first < key second) (perm : other.Perm items) :
    sorter.sort less other = items := by
  have distinct : other.Pairwise fun first second => key first ≠ key second :=
    perm.symm.pairwise (strict.imp ne_of_lt) fun differ => differ.symm
  refine List.Perm.eq_of_pairwise ?_ (sorter.ascending byKey distinct) strict
    ((sorter.perm less byKey.strictWeak other).trans perm)
  intro first second _ _ before behind
  exact absurd behind (lt_asymm before)

theorem take_le (byKey : ByKey less key) (items : List α) (count : Nat) :
    ∀ item ∈ (sorter.sort less items).take count, ∀ other ∈ (sorter.sort less items).drop count,
      key item ≤ key other := by
  have whole := sorter.pairwise byKey items
  rw [← List.take_append_drop count (sorter.sort less items)] at whole
  exact (List.pairwise_append.mp whole).2.2

end Sorter

end RabbitStreamer.Lib.Sorting
