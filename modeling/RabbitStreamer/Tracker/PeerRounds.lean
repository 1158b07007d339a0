import RabbitStreamer.Tracker.PeerLists

/-! The search for peers ends where not all draws are 0 from some point on. -/

namespace RabbitStreamer.Tracker.PeerRounds
open RabbitStreamer.Tracker.Uuid
open RabbitStreamer.Tracker.NpManager RabbitStreamer.Tracker.NpManager.NpnodeMap RabbitStreamer.Tracker.PeerLists

def after (R : Rand) (count : Nat) (rng : R.State) : R.State := (fun state => (R.rand state).2)^[count] rng

/-- The results of `rand`, one after the other. -/
def drawn (R : Rand) (rng : R.State) (n : Nat) : Nat := (R.rand (after R n rng)).1.val

def Recurs (R : Rand) (rng : R.State) : Prop := ∀ n, ∃ m, n ≤ m ∧ drawn R rng m ≠ 0

theorem after_add (R : Rand) (first second : Nat) (rng : R.State) :
    after R second (after R first rng) = after R (first + second) rng := by
  unfold after
  rw [Nat.add_comm, Function.iterate_add_apply]

theorem drawn_after (R : Rand) (rng : R.State) (count n : Nat) :
    drawn R (after R count rng) n = drawn R rng (count + n) := by
  unfold drawn
  rw [after_add]

theorem Recurs.after {R : Rand} {rng : R.State} (recurs : Recurs R rng) (count : Nat) :
    Recurs R (after R count rng) := by
  intro n
  obtain ⟨m, later, nonzero⟩ := recurs (count + n)
  refine ⟨m - count, by omega, ?_⟩
  rwa [drawn_after, Nat.add_sub_of_le (by omega)]

def untried (groupID : List Int) : Nat := groupID.countP fun group => decide (group ≠ -1)

theorem untried_set {groupID : List Int} {id : Nat} (inside : id < groupID.length) :
    untried (groupID.set id (-1)) = untried groupID - if groupID[id] = -1 then 0 else 1 := by
  unfold untried
  rw [List.countP_set inside]
  simp

theorem untried_pos {groupID : List Int} {id : Nat} (inside : id < groupID.length) (fresh : groupID[id] ≠ -1) :
    0 < untried groupID :=
  List.countP_pos_iff.mpr ⟨_, List.getElem_mem inside, decide_eq_true fresh⟩

/-- A round whose draws are all 0 picks the first group and marks none; any other picks a group that
was not picked before, or finds that it was. -/
theorem pickGroup_untried {R : Rand} {iRange passes : Nat} {iPos group : Int} {groupID left : List Int}
    {rng rest : R.State} (picked : pickGroup R iRange passes iPos groupID rng = some (group, left, rest)) :
    rest = after R passes rng ∧
      ((∀ n, n < passes → drawn R rng n = 0) ∧ group = iPos ∧ left = groupID ∨
        (∃ n, n < passes ∧ drawn R rng n ≠ 0) ∧ (group = -1 ∨ untried left < untried groupID) ∧
          untried left ≤ untried groupID) := by
  induction passes generalizing iPos groupID rng with
  | zero =>
    cases picked
    exact ⟨rfl, Or.inl ⟨fun n less => absurd less (Nat.not_lt_zero n), rfl, rfl⟩⟩
  | succ passes ih =>
    have shift : ∀ n, drawn R (after R 1 rng) n = drawn R rng (n + 1) := fun n => by
      rw [drawn_after, Nat.add_comm]
    have next : ∀ state, after R passes (after R 1 state) = after R (passes + 1) state := fun state => by
      rw [after_add, Nat.add_comm]
    unfold pickGroup at picked
    dsimp only at picked
    split_ifs at picked with zero
    · obtain ⟨ended, ways⟩ := ih picked
      refine ⟨ended.trans (next rng), ?_⟩
      rcases ways with ⟨zeros, same, kept⟩ | ⟨⟨n, less, nonzero⟩, fewer, notMore⟩
      · refine Or.inl ⟨fun n less => ?_, same, kept⟩
        cases n with
        | zero => exact zero
        | succ n => exact (shift n).symm.trans (zeros n (Nat.lt_of_succ_lt_succ less))
      · exact Or.inr ⟨⟨n + 1, Nat.succ_lt_succ less, fun other => nonzero ((shift n).trans other)⟩, fewer, notMore⟩
    · cases found : groupID[(R.rand rng).1.val % iRange]? with
      | none =>
        rw [found] at picked
        cases picked
      | some marked =>
        rw [found] at picked
        obtain ⟨inside, same⟩ := List.getElem?_eq_some_iff.mp found
        have set := untried_set inside
        have nonzero : ∃ n, n < passes + 1 ∧ drawn R rng n ≠ 0 := ⟨0, Nat.succ_pos _, zero⟩
        obtain ⟨ended, ways⟩ := ih picked
        refine ⟨ended.trans (next rng), Or.inr ⟨nonzero, ?_⟩⟩
        rcases ways with ⟨_, last, kept⟩ | ⟨_, fewer, notMore⟩
        · rw [kept, set]
          refine ⟨?_, Nat.sub_le ..⟩
          by_cases tried : marked = -1
          · exact Or.inl (last.trans tried)
          · have positive := untried_pos inside (same.symm ▸ tried)
            rw [if_neg (same.symm ▸ tried)]
            exact Or.inr (Nat.sub_lt positive Nat.one_pos)
        · rw [set] at fewer notMore
          exact ⟨fewer.imp_right fun less => Nat.lt_of_lt_of_le less (Nat.sub_le ..), notMore.trans (Nat.sub_le ..)⟩

theorem searchNodes_round {R : Rand} {npnodeMap : NpnodeMap} (query : Query) {iRange : Nat}
    (range : iRange = npnodeMap.size / 30 + 1) {groupID : List Int} (groups : GroupsOf iRange groupID)
    (nodes : List Stored) (rng : R.State) :
    (∃ done, ∀ passes, searchNodes R npnodeMap query iRange (passes + 1) groupID nodes rng = .ok done) ∨
    ∃ group left rest more, pickGroup R iRange iRange 0 groupID rng = some (group, left, rest) ∧ group ≠ -1 ∧
      GroupsOf iRange left ∧ ∀ passes, searchNodes R npnodeMap query iRange (passes + 1) groupID nodes rng =
        searchNodes R npnodeMap query iRange passes left more rest := by
  obtain ⟨group, left, rest, picked, groupsLeft, valid⟩ :=
    pickGroup_spec R (by omega) iRange groups (Or.inr ⟨le_refl 0, by omega⟩) rng
  simp only [searchNodes, picked]
  by_cases tried : group = -1
  · exact Or.inl ⟨(nodes, rest), fun _ => if_pos tried⟩
  · obtain ⟨natural, below⟩ := valid.resolve_left tried
    have inside : (group * 30).toNat ≤ npnodeMap.entries.length := by
      unfold Lib.OrderedMap.size at range
      omega
    simp only [if_neg tried, seek_eq_drop inside]
    generalize gatherNodes query 0 (npnodeMap.entries.drop (group * 30).toNat) nodes = gathered
    obtain ⟨it, more⟩ := gathered
    dsimp only
    by_cases stopped : it ≠ []
    · exact Or.inl ⟨(more, rest), fun _ => if_pos stopped⟩
    · simp only [if_neg stopped]
      by_cases full : query.inCount ≤ more.length
      · exact Or.inl ⟨(more, rest), fun _ => if_pos full⟩
      · exact Or.inr ⟨group, left, rest, more, rfl, tried, groupsLeft, fun _ => if_neg full⟩

/-- Rounds whose draws are all 0 pass until a result that is not 0 comes; each other round leaves
fewer groups untried. -/
theorem searchNodes_ends {R : Rand} {npnodeMap : NpnodeMap} (query : Query) {iRange : Nat}
    (range : iRange = npnodeMap.size / 30 + 1) {groupID : List Int} (groups : GroupsOf iRange groupID)
    (nodes : List Stored) {rng : R.State} (recurs : Recurs R rng) :
    ∃ passes done, searchNodes R npnodeMap query iRange passes groupID nodes rng = .ok done := by
  induction count : untried groupID using Nat.strongRecOn generalizing groupID nodes rng with
  | ind count ih =>
    obtain ⟨wait, _, nonzero⟩ := recurs 0
    induction wait using Nat.strongRecOn generalizing nodes rng with
    | ind wait waiting =>
      rcases searchNodes_round query range groups nodes rng with ⟨done, ended⟩ |
        ⟨group, left, rest, more, picked, fresh, groupsLeft, goesOn⟩
      · exact ⟨1, done, ended 0⟩
      · have continued : (∃ passes done, searchNodes R npnodeMap query iRange passes left more rest = .ok done) →
            ∃ passes done, searchNodes R npnodeMap query iRange passes groupID nodes rng = .ok done := by
          rintro ⟨passes, done, ended⟩
          exact ⟨passes + 1, done, (goesOn passes).trans ended⟩
        apply continued
        obtain ⟨rfl, ⟨zeros, _, rfl⟩ | ⟨_, fewer, _⟩⟩ := pickGroup_untried picked
        · have later : iRange ≤ wait := Nat.le_of_not_lt fun less => nonzero (zeros wait less)
          refine waiting (wait - iRange) (by omega) more (recurs.after iRange) (Nat.zero_le _) ?_
          rwa [drawn_after, Nat.add_sub_of_le later]
        · exact ih _ (count ▸ fewer.resolve_left fresh) groupsLeft more (recurs.after iRange) rfl

theorem getNpAddress_ends {R : Rand} {rng : R.State} (recurs : Recurs R rng) (npnodeMap : NpnodeMap)
    (query : Query) : ∃ passes found rest, npnodeMap.getNpAddress R query passes rng = .ok (found, rest) := by
  obtain ⟨passes, ⟨nodes, rest⟩, ended⟩ :=
    searchNodes_ends query (Eq.refl (npnodeMap.size / 30 + 1)) (groupsOf_range _) [] (recurs.after 1)
  refine ⟨passes, nodes.map entryOf, rest, ?_⟩
  rw [getNpAddress_nodes]
  exact congrArg (Except.map _) ended

/-- The search ends for every map and query, unless all draws are 0 from some point on. -/
theorem peer_search_ends (R : Rand) (npnodeMap : NpnodeMap) (query : Query) (rng : R.State)
    (recurs : ∀ n, ∃ m, n ≤ m ∧ drawn R rng m ≠ 0) :
    ∃ passes found rest, npnodeMap.getNpAddress R query passes rng = .ok (found, rest) :=
  getNpAddress_ends recurs npnodeMap query

theorem drawn_counting (first n : Nat) : drawn .counting first n = (first + n) % 2147483648 := by
  have counted : after .counting n first = (first + n : Nat) := by
    induction n with
    | zero => rfl
    | succ n ih =>
      have last : after .counting (n + 1) first = after .counting 1 (after .counting n first) :=
        (after_add .counting n 1 first).symm
      rw [last, ih]
      rfl
  unfold drawn
  rw [counted]
  rfl

theorem recurs_counting (first : Nat) : Recurs .counting first := by
  intro n
  by_cases zero : (first + n) % 2147483648 = 0
  · refine ⟨n + 1, Nat.le_succ n, ?_⟩
    rw [drawn_counting]
    omega
  · refine ⟨n, Nat.le_refl n, ?_⟩
    rwa [drawn_counting]

theorem search_ends_counting : ∃ passes found rest,
    thirtyOne.getNpAddress .counting whoHas5 passes (1 : Nat) = .ok (found, rest) :=
  peer_search_ends .counting thirtyOne whoHas5 (1 : Nat) (recurs_counting 1)

end RabbitStreamer.Tracker.PeerRounds
