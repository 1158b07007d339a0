import Mathlib.Order.Lattice
import Mathlib.Data.List.Nodup

/-! An ordered map in the manner of `std::map`: entries in the order of a comparator
that ranks keys in a linear order. Keys of one rank are the same key; the entry keeps
the key it was created with. -/

namespace RabbitStreamer.Lib

structure OrderedMap {K L : Type} [LinearOrder L] (rank : K → L) (V : Type) where
  entries : List (K × V)
  sorted : entries.Pairwise fun first second => rank first.1 < rank second.1

namespace OrderedMap

variable {K L V : Type} [LinearOrder L] {rank : K → L}

theorem ext_entries {first second : OrderedMap rank V} (same : first.entries = second.entries) :
    first = second := by
  cases first
  cases second
  cases same
  rfl

def empty : OrderedMap rank V := ⟨[], List.Pairwise.nil⟩

def size (map : OrderedMap rank V) : Nat := map.entries.length

def find (map : OrderedMap rank V) (key : K) : Option (K × V) :=
  map.entries.find? fun entry => decide (rank entry.1 = rank key)

def insertEntry (rank : K → L) (key : K) (value : V) : List (K × V) → List (K × V)
  | [] => [(key, value)]
  | entry :: tail =>
      if rank key < rank entry.1 then (key, value) :: entry :: tail
      else if rank entry.1 < rank key then entry :: insertEntry rank key value tail
      else entry :: tail

theorem mem_insertEntry_of_mem {key : K} {value : V} {entries : List (K × V)} {entry : K × V}
    (member : entry ∈ entries) : entry ∈ insertEntry rank key value entries := by
  induction entries with
  | nil => simp at member
  | cons head tail ih =>
    simp only [insertEntry]
    rcases List.mem_cons.mp member with rfl | later
    · split_ifs <;> simp
    · split_ifs <;> simp [later, ih]

theorem eq_or_mem_of_mem_insertEntry {key : K} {value : V} {entries : List (K × V)} {entry : K × V}
    (member : entry ∈ insertEntry rank key value entries) :
    entry = (key, value) ∨ entry ∈ entries := by
  induction entries with
  | nil => exact Or.inl (List.mem_singleton.mp member)
  | cons head tail ih =>
    simp only [insertEntry] at member
    split_ifs at member
    · exact List.mem_cons.mp member
    · rcases List.mem_cons.mp member with same | later
      · exact Or.inr (same ▸ List.mem_cons_self ..)
      · exact (ih later).imp_right (List.mem_cons_of_mem _)
    · exact Or.inr member

theorem sorted_insertEntry {key : K} {value : V} {entries : List (K × V)}
    (sorted : entries.Pairwise fun first second => rank first.1 < rank second.1) :
    (insertEntry rank key value entries).Pairwise fun first second => rank first.1 < rank second.1 := by
  induction entries with
  | nil => exact List.pairwise_singleton ..
  | cons head tail ih =>
    have ⟨below, rest⟩ := List.pairwise_cons.mp sorted
    simp only [insertEntry]
    split_ifs with before after
    · refine List.pairwise_cons.mpr ⟨fun entry member => ?_, sorted⟩
      rcases List.mem_cons.mp member with rfl | later
      · exact before
      · exact lt_trans before (below entry later)
    · refine List.pairwise_cons.mpr ⟨fun entry member => ?_, ih rest⟩
      rcases eq_or_mem_of_mem_insertEntry member with rfl | later
      · exact after
      · exact below entry later
    · exact sorted

theorem mem_insertEntry_self {key : K} {value : V} {entries : List (K × V)}
    (absent : ∀ entry ∈ entries, rank entry.1 ≠ rank key) :
    (key, value) ∈ insertEntry rank key value entries := by
  induction entries with
  | nil => exact List.mem_singleton.mpr rfl
  | cons head tail ih =>
    have other := absent head (List.mem_cons_self ..)
    simp only [insertEntry]
    split_ifs with before after
    · exact List.mem_cons_self ..
    · exact List.mem_cons_of_mem _ (ih fun entry member => absent entry (List.mem_cons_of_mem _ member))
    · exact absurd (le_antisymm (not_lt.mp before) (not_lt.mp after)) other

theorem insertEntry_split {key : K} (value : V) {entries : List (K × V)}
    (absent : ∀ entry ∈ entries, rank entry.1 ≠ rank key) :
    ∃ before behind, entries = before ++ behind ∧
      insertEntry rank key value entries = before ++ (key, value) :: behind := by
  induction entries with
  | nil => exact ⟨[], [], rfl, rfl⟩
  | cons head tail ih =>
    have other := absent head (List.mem_cons_self ..)
    simp only [insertEntry]
    split_ifs with below above
    · exact ⟨[], head :: tail, rfl, rfl⟩
    · obtain ⟨before, behind, old, new⟩ := ih fun entry member => absent entry (List.mem_cons_of_mem _ member)
      exact ⟨head :: before, behind, by rw [old, List.cons_append], by rw [new, List.cons_append]⟩
    · exact absurd (le_antisymm (not_lt.mp below) (not_lt.mp above)) other

def insert (map : OrderedMap rank V) (key : K) (value : V) : OrderedMap rank V :=
  ⟨insertEntry rank key value map.entries, sorted_insertEntry map.sorted⟩

def adjust (map : OrderedMap rank V) (key : K) (change : V → V) : OrderedMap rank V :=
  ⟨map.entries.map fun entry => if rank entry.1 = rank key then (entry.1, change entry.2) else entry,
    List.pairwise_map.mpr (map.sorted.imp fun {first second} less => by split_ifs <;> exact less)⟩

def filter (map : OrderedMap rank V) (keep : K × V → Bool) : OrderedMap rank V :=
  ⟨map.entries.filter keep, map.sorted.filter _⟩

def erase (map : OrderedMap rank V) (key : K) : OrderedMap rank V :=
  map.filter fun entry => decide (rank entry.1 ≠ rank key)

theorem entry_unique (map : OrderedMap rank V) {first second : K × V} (left : first ∈ map.entries)
    (right : second ∈ map.entries) (same : rank first.1 = rank second.1) : first = second := by
  have ranks : (map.entries.map fun entry => rank entry.1).Nodup :=
    List.pairwise_map.mpr (map.sorted.imp ne_of_lt)
  exact List.inj_on_of_nodup_map ranks left right same

theorem find_eq_some {map : OrderedMap rank V} {key : K} {entry : K × V} :
    map.find key = some entry ↔ entry ∈ map.entries ∧ rank entry.1 = rank key := by
  constructor
  · intro found
    exact ⟨List.mem_of_find?_eq_some found, by simpa using List.find?_some found⟩
  · rintro ⟨member, same⟩
    cases found : map.find key with
    | none =>
      have other := List.find?_eq_none.mp found entry member
      exact absurd same (by simpa using other)
    | some other =>
      have hit := List.find?_some found
      have equal := map.entry_unique (List.mem_of_find?_eq_some found) member
        ((by simpa using hit : rank other.1 = rank key).trans same.symm)
      rw [equal]

theorem find_eq_none {map : OrderedMap rank V} {key : K} :
    map.find key = none ↔ ∀ entry ∈ map.entries, rank entry.1 ≠ rank key := by
  simp [find]

theorem find_congr (map : OrderedMap rank V) {first second : K} (same : rank first = rank second) :
    map.find first = map.find second := by
  simp only [find, same]

theorem mem_insert_self {map : OrderedMap rank V} {key : K} (value : V) (absent : map.find key = none) :
    (key, value) ∈ (map.insert key value).entries := mem_insertEntry_self (find_eq_none.mp absent)

theorem find_insert_self {map : OrderedMap rank V} {key : K} (value : V) (absent : map.find key = none) :
    (map.insert key value).find key = some (key, value) :=
  find_eq_some.mpr ⟨mem_insert_self value absent, rfl⟩

theorem find_insert_of_ne {map : OrderedMap rank V} {key other : K} (value : V)
    (different : rank other ≠ rank key) : (map.insert key value).find other = map.find other := by
  cases found : map.find other with
  | some entry =>
    have ⟨member, same⟩ := find_eq_some.mp found
    exact find_eq_some.mpr ⟨mem_insertEntry_of_mem member, same⟩
  | none =>
    rw [find_eq_none] at found ⊢
    intro entry member
    rcases eq_or_mem_of_mem_insertEntry member with rfl | old
    · exact different.symm
    · exact found entry old

theorem find_insert_of_some {map : OrderedMap rank V} {key other : K} {entry : K × V} (value : V)
    (absent : map.find key = none) (present : map.find other = some entry) :
    (map.insert key value).find other = some entry := by
  obtain ⟨member, same⟩ := map.find_eq_some.mp present
  rw [find_insert_of_ne value (same ▸ map.find_eq_none.mp absent entry member)]
  exact present

theorem find_adjust_self (map : OrderedMap rank V) (key : K) (change : V → V) :
    (map.adjust key change).find key = (map.find key).map fun entry => (entry.1, change entry.2) := by
  cases found : map.find key with
  | some entry =>
    have ⟨member, same⟩ := find_eq_some.mp found
    refine find_eq_some.mpr ⟨List.mem_map.mpr ⟨entry, member, ?_⟩, same⟩
    simp only [if_pos same]
  | none =>
    rw [find_eq_none] at found
    refine find_eq_none.mpr fun entry member => ?_
    obtain ⟨old, oldMember, rfl⟩ := List.mem_map.mp member
    simpa only [if_neg (found old oldMember)] using found old oldMember

theorem find_adjust_of_ne (map : OrderedMap rank V) {key other : K} (change : V → V)
    (different : rank other ≠ rank key) : (map.adjust key change).find other = map.find other := by
  cases found : map.find other with
  | some entry =>
    have ⟨member, same⟩ := find_eq_some.mp found
    refine find_eq_some.mpr ⟨List.mem_map.mpr ⟨entry, member, ?_⟩, same⟩
    simp only [if_neg (same.trans_ne different)]
  | none =>
    rw [find_eq_none] at found
    refine find_eq_none.mpr fun entry member => ?_
    obtain ⟨old, oldMember, rfl⟩ := List.mem_map.mp member
    have away := found old oldMember
    split_ifs <;> exact away

theorem keys_adjust (map : OrderedMap rank V) (key : K) (change : V → V) :
    (map.adjust key change).entries.map Prod.fst = map.entries.map Prod.fst := by
  simp only [adjust, List.map_map]
  apply List.map_congr_left
  intro entry _
  simp only [Function.comp_apply]
  split_ifs <;> rfl

theorem mem_adjust {map : OrderedMap rank V} {key : K} {change : V → V} {entry : K × V}
    (member : entry ∈ (map.adjust key change).entries) :
    ∃ value, (entry.1, value) ∈ map.entries ∧
      entry.2 = if rank entry.1 = rank key then change value else value := by
  obtain ⟨⟨name, value⟩, oldMember, rfl⟩ := List.mem_map.mp member
  by_cases same : rank name = rank key
  · simp only [if_pos same]
    exact ⟨value, oldMember, rfl⟩
  · simp only [if_neg same]
    exact ⟨value, oldMember, rfl⟩

theorem adjust_split {map : OrderedMap rank V} {key : K} {entry : K × V} (found : map.find key = some entry)
    (change : V → V) : ∃ before behind, map.entries = before ++ entry :: behind ∧
      (map.adjust key change).entries = before ++ (entry.1, change entry.2) :: behind := by
  obtain ⟨member, same⟩ := find_eq_some.mp found
  obtain ⟨before, behind, split⟩ := List.append_of_mem member
  have sorted := map.sorted
  rw [split, List.pairwise_append, List.pairwise_cons] at sorted
  obtain ⟨_, ⟨above, _⟩, below⟩ := sorted
  refine ⟨before, behind, split, ?_⟩
  simp only [adjust, split, List.map_append, List.map_cons, if_pos same]
  congr 1
  · refine (List.map_congr_left fun other present => ?_).trans (List.map_id _)
    exact if_neg (same ▸ ne_of_lt (below other present entry (List.mem_cons_self ..)))
  · congr 1
    refine (List.map_congr_left fun other present => ?_).trans (List.map_id _)
    exact if_neg (same ▸ ne_of_gt (above other present))

theorem adjust_eq_self_iff {map : OrderedMap rank V} {key : K} {entry : K × V} (found : map.find key = some entry)
    (value : V) : (map.adjust key fun _ => value) = map ↔ value = entry.2 := by
  obtain ⟨before, behind, split, changed⟩ := adjust_split found fun _ => value
  constructor
  · intro same
    rw [same, split] at changed
    exact (congrArg Prod.snd (List.cons.inj (List.append_cancel_left changed)).1).symm
  · rintro rfl
    apply ext_entries
    rw [changed, split]

theorem exists_key_adjust {map : OrderedMap rank V} {key : K} {change : V → V} {entry : K × V} {level : L}
    (member : entry ∈ map.entries) (same : rank entry.1 = level) :
    ∃ kept ∈ (map.adjust key change).entries, rank kept.1 = level := by
  refine ⟨_, List.mem_map.mpr ⟨entry, member, rfl⟩, ?_⟩
  split_ifs <;> exact same

theorem inserted_eq {map : OrderedMap rank V} {key : K} {value : V} {entry : K × V} {before behind : List (K × V)}
    (old : map.entries = before ++ behind) (new : (map.insert key value).entries = before ++ entry :: behind) :
    entry = (key, value) := by
  have member : entry ∈ (map.insert key value).entries := by
    rw [new]
    simp
  rcases eq_or_mem_of_mem_insertEntry member with same | present
  · exact same
  · have sorted := (map.insert key value).sorted
    rw [new, List.pairwise_append, List.pairwise_cons] at sorted
    obtain ⟨_, ⟨above, _⟩, below⟩ := sorted
    rw [old] at present
    rcases List.mem_append.mp present with first | last
    · exact absurd (below entry first entry List.mem_cons_self) (lt_irrefl _)
    · exact absurd (above entry last) (lt_irrefl _)

theorem map_insertEntry {key : K} (value : V) (change : V → V) {entries : List (K × V)}
    (absent : ∀ entry ∈ entries, rank entry.1 ≠ rank key) :
    (insertEntry rank key value entries).map
        (fun entry => if rank entry.1 = rank key then (entry.1, change entry.2) else entry) =
      insertEntry rank key (change value) entries := by
  have rest : ∀ {list : List (K × V)}, (∀ entry ∈ list, rank entry.1 ≠ rank key) →
      list.map (fun entry => if rank entry.1 = rank key then (entry.1, change entry.2) else entry) = list := by
    intro list away
    exact (List.map_congr_left fun entry member => if_neg (away entry member)).trans (List.map_id _)
  induction entries with
  | nil => simp only [insertEntry, List.map_cons, List.map_nil, if_true]
  | cons head tail ih =>
    have other := absent head (List.mem_cons_self ..)
    have later : ∀ entry ∈ tail, rank entry.1 ≠ rank key := fun entry member =>
      absent entry (List.mem_cons_of_mem _ member)
    simp only [insertEntry]
    split_ifs with below above
    · rw [List.map_cons, if_pos rfl, rest absent]
    · rw [List.map_cons, if_neg other, ih later]
    · exact absurd (le_antisymm (not_lt.mp below) (not_lt.mp above)) other

theorem adjust_insert_self {map : OrderedMap rank V} {key : K} (value : V) (absent : map.find key = none)
    (change : V → V) : (map.insert key value).adjust key change = map.insert key (change value) :=
  ext_entries (map_insertEntry value change (find_eq_none.mp absent))

theorem adjust_adjust (map : OrderedMap rank V) (key : K) (first second : V → V) :
    (map.adjust key first).adjust key second = map.adjust key (second ∘ first) := by
  apply ext_entries
  simp only [adjust, List.map_map]
  apply List.map_congr_left
  intro entry _
  by_cases same : rank entry.1 = rank key
  · simp [same]
  · simp [same]

theorem mem_filter {map : OrderedMap rank V} {keep : K × V → Bool} {entry : K × V} :
    entry ∈ (map.filter keep).entries ↔ entry ∈ map.entries ∧ keep entry = true := List.mem_filter

theorem find_erase_self (map : OrderedMap rank V) (key : K) : (map.erase key).find key = none := by
  refine find_eq_none.mpr fun entry member => ?_
  simpa using (mem_filter.mp member).2

theorem find_erase_of_ne (map : OrderedMap rank V) {key other : K} (different : rank other ≠ rank key) :
    (map.erase key).find other = map.find other := by
  cases found : map.find other with
  | some entry =>
    have ⟨member, same⟩ := find_eq_some.mp found
    exact find_eq_some.mpr ⟨mem_filter.mpr ⟨member, by simp [same, different]⟩, same⟩
  | none =>
    rw [find_eq_none] at found ⊢
    exact fun entry member => found entry (mem_filter.mp member).1

theorem erase_of_absent {map : OrderedMap rank V} {key : K} (absent : map.find key = none) :
    map.erase key = map := by
  apply ext_entries
  apply List.filter_eq_self.mpr
  intro entry member
  simpa using find_eq_none.mp absent entry member

end OrderedMap

end RabbitStreamer.Lib
