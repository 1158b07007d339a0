import RabbitStreamer.Lib.Memory

/-! Programs that read a memory stretch by stretch, with the stretches that they look at. -/

namespace RabbitStreamer.Lib
open RabbitStreamer.Lib.Bytes RabbitStreamer.Lib.Memory

structure Stretch where
  start : Nat
  count : Nat
  deriving DecidableEq

def Within (size : Int) (stretches : List Stretch) : Prop :=
  ∀ stretch ∈ stretches, (stretch.start + stretch.count : Int) ≤ size

@[simp] theorem within_nil (size : Int) : Within size [] := by
  intro stretch member
  cases member

@[simp] theorem within_cons {size : Int} {start count : Nat} {rest : List Stretch} :
    Within size (⟨start, count⟩ :: rest) ↔ (start + count : Int) ≤ size ∧ Within size rest :=
  List.forall_mem_cons

inductive Reading (R : Type) where
  | done (result : R)
  | fault
  | look (start count : Nat) (next : List UInt8 → Reading R)

namespace Reading

variable {R : Type}

def lookByte (start : Nat) (next : UInt8 → Reading R) : Reading R :=
  .look start 1 fun bytes => next (bytes.headD 0)

def lookInt (start : Nat) (next : Int → Reading R) : Reading R :=
  .look start 4 fun word => next (toInt32 (ofLe32 word))

def copy (start : Nat) (count : Int) (next : List UInt8 → Reading R) : Reading R :=
  if count < 0 then .fault else .look start count.toNat next

def ofOption : Option R → Reading R
  | some result => .done result
  | none => .fault

def run (memory : Memory) : Reading R → Option R
  | .done result => some result
  | .fault => none
  | .look start count next => run memory (next (view memory start count))

def looks (memory : Memory) : Reading R → List Stretch
  | .done _ => []
  | .fault => []
  | .look start count next => ⟨start, count⟩ :: looks memory (next (view memory start count))

@[simp] theorem run_look (memory : Memory) (start count : Nat) (next : List UInt8 → Reading R) :
    (look start count next).run memory = (next (view memory start count)).run memory := by
  rw [run]

@[simp] theorem run_lookByte (memory : Memory) (start : Nat) (next : UInt8 → Reading R) :
    (lookByte start next).run memory = (next (memory start)).run memory := by
  rw [lookByte, run_look]
  rfl

@[simp] theorem run_lookInt (memory : Memory) (start : Nat) (next : Int → Reading R) :
    (lookInt start next).run memory = (next (intAt memory start)).run memory := by
  rw [lookInt, run_look, intAt]

@[simp] theorem run_done (memory : Memory) (result : R) : (done result).run memory = some result := by
  rw [run]

@[simp] theorem run_fault (memory : Memory) : (fault : Reading R).run memory = none := by
  rw [run]

@[simp] theorem run_ofOption (memory : Memory) (result : Option R) : (ofOption result).run memory = result := by
  cases result <;> rfl

@[simp] theorem looks_look (memory : Memory) (start count : Nat) (next : List UInt8 → Reading R) :
    (look start count next).looks memory = ⟨start, count⟩ :: (next (view memory start count)).looks memory := by
  rw [looks]

@[simp] theorem looks_lookByte (memory : Memory) (start : Nat) (next : UInt8 → Reading R) :
    (lookByte start next).looks memory = ⟨start, 1⟩ :: (next (memory start)).looks memory := by
  rw [lookByte, looks_look]
  rfl

@[simp] theorem looks_lookInt (memory : Memory) (start : Nat) (next : Int → Reading R) :
    (lookInt start next).looks memory = ⟨start, 4⟩ :: (next (intAt memory start)).looks memory := by
  rw [lookInt, looks_look, intAt]

@[simp] theorem looks_done (memory : Memory) (result : R) : (done result).looks memory = [] := by
  rw [looks]

@[simp] theorem looks_ofOption (memory : Memory) (result : Option R) : (ofOption result).looks memory = [] := by
  cases result <;> rfl

theorem run_copy (memory : Memory) (start : Nat) (count : Int) (next : List UInt8 → Reading R) :
    (copy start count next).run memory =
      if count < 0 then none else (next (view memory start count.toNat)).run memory := by
  unfold copy
  split_ifs <;> rfl

theorem looks_copy (memory : Memory) (start : Nat) (count : Int) (next : List UInt8 → Reading R) :
    (copy start count next).looks memory =
      if count < 0 then []
      else ⟨start, count.toNat⟩ :: (next (view memory start count.toNat)).looks memory := by
  unfold copy
  split_ifs
  · rw [looks]
  · exact looks_look ..

theorem run_congr (reading : Reading R) {first second : Memory}
    (same : ∀ stretch ∈ reading.looks first,
      view first stretch.start stretch.count = view second stretch.start stretch.count) :
    reading.run first = reading.run second ∧ reading.looks first = reading.looks second := by
  induction reading with
  | done result => exact ⟨rfl, rfl⟩
  | fault => exact ⟨rfl, rfl⟩
  | look start count next ih =>
    have current := same ⟨start, count⟩ List.mem_cons_self
    dsimp only at current
    have later := ih (view first start count) fun stretch member => same stretch (List.mem_cons_of_mem _ member)
    rw [run_look, run_look, looks_look, looks_look, ← current]
    exact ⟨later.1, congrArg _ later.2⟩

theorem run_of_within (reading : Reading R) {first second : Memory} {size : Int}
    (within : Within size (reading.looks first)) (same : ∀ i : Nat, (i : Int) < size → first i = second i) :
    reading.run first = reading.run second := by
  refine (run_congr reading fun stretch member => view_congr fun i inside => same _ ?_).1
  have last := within stretch member
  omega

end Reading

end RabbitStreamer.Lib
