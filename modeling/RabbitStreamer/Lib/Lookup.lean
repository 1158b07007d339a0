import Mathlib.Logic.Function.Basic
import RabbitStreamer.Lib.OrderedMap

/-! What an ordered map holds, as a function of the rank of a key. Each operation on the map is an
update of that function. -/

namespace RabbitStreamer.Lib.OrderedMap

variable {K L V : Type} [LinearOrder L] {rank : K → L}

def lookup (map : OrderedMap rank V) (level : L) : Option V :=
  (map.entries.find? fun entry => decide (rank entry.1 = level)).map Prod.snd

theorem lookup_rank (map : OrderedMap rank V) (key : K) :
    map.lookup (rank key) = (map.find key).map Prod.snd := rfl

theorem lookup_eq_some {map : OrderedMap rank V} {level : L} {value : V} :
    map.lookup level = some value ↔ ∃ key, (key, value) ∈ map.entries ∧ rank key = level := by
  constructor
  · intro found
    obtain ⟨entry, listed, rfl⟩ := Option.map_eq_some_iff.mp found
    have hit := List.find?_some listed
    exact ⟨entry.1, List.mem_of_find?_eq_some listed, by simpa using hit⟩
  · rintro ⟨key, member, rfl⟩
    rw [lookup_rank, find_eq_some.mpr ⟨member, rfl⟩]
    rfl

theorem lookup_of_find {map : OrderedMap rank V} {key : K} {entry : K × V} (found : map.find key = some entry) :
    map.lookup (rank key) = some entry.2 := by
  rw [lookup_rank, found]
  rfl

section Update
variable [DecidableEq L]

theorem lookup_insert {map : OrderedMap rank V} {key : K} (value : V) (absent : map.find key = none) :
    (map.insert key value).lookup = Function.update map.lookup (rank key) (some value) := by
  funext level
  by_cases self : level = rank key
  · rw [self, Function.update_self, lookup_of_find (find_insert_self value absent)]
  · rw [Function.update_of_ne self]
    refine Option.ext fun other => ?_
    rw [lookup_eq_some, lookup_eq_some]
    constructor
    · rintro ⟨name, member, same⟩
      rcases eq_or_mem_of_mem_insertEntry member with new | old
      · cases new
        exact absurd same.symm self
      · exact ⟨name, old, same⟩
    · rintro ⟨name, member, same⟩
      exact ⟨name, mem_insertEntry_of_mem member, same⟩

theorem lookup_adjust (map : OrderedMap rank V) (key : K) (change : V → V) :
    (map.adjust key change).lookup =
      Function.update map.lookup (rank key) ((map.lookup (rank key)).map change) := by
  funext level
  by_cases self : level = rank key
  · rw [self, Function.update_self, lookup_rank, lookup_rank, find_adjust_self]
    cases map.find key <;> rfl
  · rw [Function.update_of_ne self]
    refine Option.ext fun value => ?_
    rw [lookup_eq_some, lookup_eq_some]
    constructor
    · rintro ⟨name, member, same⟩
      obtain ⟨old, listed, changed⟩ := mem_adjust member
      rw [if_neg (same ▸ self)] at changed
      rw [← changed] at listed
      exact ⟨name, listed, same⟩
    · rintro ⟨name, member, same⟩
      refine ⟨name, List.mem_map.mpr ⟨(name, value), member, ?_⟩, same⟩
      exact if_neg (same ▸ self)

theorem lookup_adjust_of_find {map : OrderedMap rank V} {key : K} {entry : K × V}
    (found : map.find key = some entry) (change : V → V) :
    (map.adjust key change).lookup = Function.update map.lookup (rank key) (some (change entry.2)) := by
  rw [lookup_adjust, lookup_of_find found]
  rfl

theorem lookup_erase (map : OrderedMap rank V) (key : K) :
    (map.erase key).lookup = Function.update map.lookup (rank key) none := by
  funext level
  by_cases self : level = rank key
  · rw [self, Function.update_self, lookup_rank, find_erase_self]
    rfl
  · rw [Function.update_of_ne self]
    refine Option.ext fun value => ?_
    rw [lookup_eq_some, lookup_eq_some]
    constructor
    · rintro ⟨name, member, same⟩
      exact ⟨name, (mem_filter.mp member).1, same⟩
    · rintro ⟨name, member, same⟩
      exact ⟨name, mem_filter.mpr ⟨member, by simpa [same] using self⟩, same⟩

end Update

theorem lookup_filter (map : OrderedMap rank V) (keep : V → Bool) (level : L) :
    (map.filter fun entry => keep entry.2).lookup level = (map.lookup level).filter keep := by
  refine Option.ext fun value => ?_
  rw [lookup_eq_some, Option.filter_eq_some_iff, lookup_eq_some]
  constructor
  · rintro ⟨name, member, same⟩
    obtain ⟨listed, kept⟩ := mem_filter.mp member
    exact ⟨⟨name, listed, same⟩, kept⟩
  · rintro ⟨⟨name, listed, same⟩, kept⟩
    exact ⟨name, mem_filter.mpr ⟨listed, kept⟩, same⟩

end RabbitStreamer.Lib.OrderedMap
