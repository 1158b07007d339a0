import Mathlib.Data.List.Basic

/-! Hashes that take their input block by block: the whole blocks of a message, what they leave
over, and how both go on when more of the message follows. -/

namespace RabbitStreamer.Lib.BlockHash

variable {α σ : Type}

def blocks (width : Nat) (input : List α) : List (List α) :=
  (List.range (input.length / width)).map fun i => (input.drop (width * i)).take width

def leftover (width : Nat) (input : List α) : List α := input.drop (width * (input.length / width))

def absorb (compress : σ → List α → σ) (width : Nat) (state : σ) (input : List α) : σ :=
  (blocks width input).foldl compress state

variable {width : Nat} {block input : List α}

theorem leftover_length (input : List α) : (leftover width input).length = input.length % width := by
  rw [leftover, List.length_drop, Nat.mod_eq_sub]

theorem blocks_of_lt (short : input.length < width) : blocks width input = [] := by
  rw [blocks, Nat.div_eq_of_lt short]
  rfl

theorem leftover_of_lt (short : input.length < width) : leftover width input = input := by
  rw [leftover, Nat.div_eq_of_lt short, Nat.mul_zero, List.drop_zero]

theorem drop_block (full : block.length = width) (input : List α) (i : Nat) :
    (block ++ input).drop (width * (i + 1)) = input.drop (width * i) := by
  rw [Nat.mul_succ, Nat.add_comm, ← List.drop_drop, List.drop_left' full]

section Block

variable (positive : 0 < width) (full : block.length = width)
include positive full

theorem length_div (input : List α) : (block ++ input).length / width = input.length / width + 1 := by
  rw [List.length_append, full, Nat.add_comm, Nat.add_div_right _ positive]

theorem blocks_block (input : List α) : blocks width (block ++ input) = block :: blocks width input := by
  rw [blocks, length_div positive full, List.range_succ_eq_map, List.map_cons, List.map_map]
  congr 1
  · rw [Nat.mul_zero, List.drop_zero, List.take_left' full]
  · apply List.map_congr_left
    intro i _
    rw [Function.comp_apply, Nat.succ_eq_add_one, drop_block full]

theorem leftover_block (input : List α) : leftover width (block ++ input) = leftover width input := by
  rw [leftover, length_div positive full, drop_block full, leftover]

theorem absorb_block (compress : σ → List α → σ) (state : σ) (input : List α) :
    absorb compress width state (block ++ input) = absorb compress width (compress state block) input := by
  rw [absorb, blocks_block positive full, List.foldl_cons, absorb]

end Block

theorem short_or_block (width : Nat) (input : List α) :
    input.length < width ∨ ∃ block rest, block.length = width ∧ input = block ++ rest := by
  rcases Nat.lt_or_ge input.length width with short | enough
  · exact Or.inl short
  · exact Or.inr ⟨input.take width, input.drop width, List.length_take_of_le enough, (List.take_append_drop ..).symm⟩

section Append

variable (positive : 0 < width)
include positive

theorem leftover_append (first second : List α) :
    leftover width (first ++ second) = leftover width (leftover width first ++ second) := by
  induction size : first.length using Nat.strongRecOn generalizing first with
  | ind size ih =>
    rcases short_or_block width first with short | ⟨block, rest, full, rfl⟩
    · rw [leftover_of_lt short]
    · rw [List.append_assoc, leftover_block positive full, leftover_block positive full]
      refine ih rest.length ?_ rest rfl
      rw [← size, List.length_append]
      omega

theorem absorb_append (compress : σ → List α → σ) (state : σ) (first second : List α) :
    absorb compress width state (first ++ second) =
      absorb compress width (absorb compress width state first) (leftover width first ++ second) := by
  induction size : first.length using Nat.strongRecOn generalizing first state with
  | ind size ih =>
    rcases short_or_block width first with short | ⟨block, rest, full, rfl⟩
    · rw [leftover_of_lt short, absorb, absorb, absorb, blocks_of_lt short, List.foldl_nil]
    · rw [List.append_assoc, leftover_block positive full, absorb_block positive full, absorb_block positive full]
      refine ih rest.length ?_ _ rest rfl
      rw [← size, List.length_append]
      omega

end Append

theorem absorb_of_lt (compress : σ → List α → σ) (state : σ) (short : input.length < width) :
    absorb compress width state input = state := by
  rw [absorb, blocks_of_lt short, List.foldl_nil]

end RabbitStreamer.Lib.BlockHash
