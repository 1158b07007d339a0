import RabbitStreamer.Lib.Bytes
import RabbitStreamer.Lib.Codec

/-! `RsStreamer`: the asserting reads and the partly unchecked writes every message
goes through. -/

namespace RabbitStreamer.Core.Streamer
open RabbitStreamer.Lib.Bytes RabbitStreamer.Lib.Codec

inductive Halt where
  /-- An `assert` fails and the process aborts. -/
  | assertion
  /-- A read or write leaves the object it belongs to. -/
  | fault
  /-- A loop has not ended within the passes granted to it. -/
  | unfinished
  deriving DecidableEq, Repr

abbrev RsReader (α : Type) := Reader UInt8 Halt α
abbrev RsWriter (α : Type) := Writer UInt8 Halt α

/-- The bytes that `initialize(msg, size)` lets a reader at. With a negative size every
read of at least one byte fails, as it does on no bytes at all. -/
def initStreamer (msg : Nat → UInt8) (size : Int) : List UInt8 := (List.range size.toNat).map msg

@[simp] theorem initStreamer_length (msg : Nat → UInt8) (size : Int) :
    (initStreamer msg size).length = size.toNat := by simp [initStreamer]

def readNbytes (nb : Nat) : RsReader (ByteArr nb) := do
  let bytes ← take Halt.assertion nb
  pure (ByteArr.ofList nb bytes)

/-- `get_as_type` at a type of `nb` bytes. -/
def getAsType {α : Type} (nb : Nat) (decode : List UInt8 → α) : RsReader α := do
  let bytes ← take Halt.assertion nb
  pure (decode bytes)

def readChar : RsReader UInt8 := getAsType 1 fun bytes => bytes.headD 0
def readShort : RsReader UInt16 := getAsType 2 ofLe16
def readInt : RsReader UInt32 := getAsType 4 ofLe32

theorem reads_nbytes {nb : Nat} (array : ByteArr nb) : Reads (readNbytes nb) array.data array := by
  have read := (Reads.take Halt.assertion array.data).map (ByteArr.ofList nb)
  rwa [array.size, ByteArr.ofList_data] at read

theorem reads_type {α : Type} {nb : Nat} {bytes : List UInt8} (decode : List UInt8 → α)
    (width : bytes.length = nb) : Reads (getAsType nb decode) bytes (decode bytes) := by
  subst width
  exact (Reads.take Halt.assertion bytes).map decode

theorem reads_char (value : UInt8) : Reads readChar [value] value := reads_type _ rfl

theorem reads_short (value : UInt16) : Reads readShort (le16 value) value := by
  have read := reads_type ofLe16 (le16_length value)
  rwa [ofLe16_le16] at read

theorem reads_int (value : UInt32) : Reads readInt (le32 value) value := by
  have read := reads_type ofLe32 (le32_length value)
  rwa [ofLe32_le32] at read

theorem needs_nbytes (nb : Nat) : Needs (readNbytes nb) .assertion fun _ => nb := (Needs.take _ _).map _

theorem needs_type {α : Type} (nb : Nat) (decode : List UInt8 → α) :
    Needs (getAsType nb decode) .assertion fun _ => nb := (Needs.take _ _).map decode

theorem needs_char : Needs readChar .assertion fun _ => 1 := needs_type _ _
theorem needs_short : Needs readShort .assertion fun _ => 2 := needs_type _ _
theorem needs_int : Needs readInt .assertion fun _ => 4 := needs_type _ _

theorem spells_type {α : Type} {nb : Nat} {decode : List UInt8 → α} {encode : α → List UInt8}
    (inverse : ∀ bytes, bytes.length = nb → encode (decode bytes) = bytes) :
    Spells (getAsType nb decode) [] encode := by
  intro input value rest ran
  unfold getAsType at ran
  by_cases enough : nb ≤ input.length
  · rw [bind_ok (if_pos enough)] at ran
    cases ran
    rw [inverse _ (List.length_take_of_le enough), List.nil_append, List.take_append_drop]
  · rw [bind_error (if_neg enough)] at ran
    cases ran

theorem spells_nbytes (nb : Nat) : Spells (readNbytes nb) [] ByteArr.data :=
  spells_type fun bytes width => ByteArr.ofList_of_length bytes width

theorem spells_char : Spells readChar [] fun value => [value] := by
  apply spells_type
  intro bytes width
  obtain ⟨byte, rfl⟩ := List.length_eq_one_iff.mp width
  rfl

theorem spells_short : Spells readShort [] le16 := spells_type le16_ofLe16
theorem spells_int : Spells readInt [] le32 := spells_type le32_ofLe32

def writeChar (value : UInt8) : RsWriter Unit := emit [value]

def writeNbytes (bytes : List UInt8) : RsWriter Unit := emit bytes

def writeShort (value : UInt16) : RsWriter Unit := emitChecked Halt.assertion (le16 value)
def writeInt (value : UInt32) : RsWriter Unit := emitChecked Halt.assertion (le32 value)

/-- Bytes copied from behind the end of an array: whatever lies there. -/
def writeBeyond (nb : Nat) : RsWriter Unit := fun sink =>
  emit ((List.range nb).map fun i => sink.fresh (sink.written.length + i)) sink

/-- A loop of `count` writes over an array whose elements take `width` bytes each. -/
def writeArray {α : Type} (width : Nat) (write : α → RsWriter Unit) : Nat → List α → RsWriter Unit
  | 0, _ => pure ()
  | count + 1, [] => do
      writeBeyond width
      writeArray width write count []
  | count + 1, head :: tail => do
      write head
      writeArray width write count tail

theorem writes_array {α : Type} (width : Nat) {write : α → RsWriter Unit} {encode : α → List UInt8}
    (each : ∀ item, Writes (write item) (encode item)) (items : List α) :
    Writes (writeArray width write items.length items) (items.flatMap encode) := by
  induction items with
  | nil => exact Writes.skip
  | cons head tail ih => exact (each head).bind ih

theorem appends_char (value : UInt8) : Appends (writeChar value) := Appends.emit _
theorem appends_nbytes (bytes : List UInt8) : Appends (writeNbytes bytes) := Appends.emit _

theorem appends_array {α : Type} (width : Nat) {write : α → RsWriter Unit} (each : ∀ item, Appends (write item))
    (count : Nat) (items : List α) : Appends (writeArray width write count items) := by
  induction count generalizing items with
  | zero => exact Appends.skip
  | succ count ih =>
    cases items with
    | nil => exact Appends.bind (fun _ => ⟨_, rfl⟩) (ih [])
    | cons head tail => exact (each head).bind (ih tail)

theorem emits_beyond (nb : Nat) : Emits (writeBeyond nb) nb := fun sink =>
  ⟨(List.range nb).map fun i => sink.fresh (sink.written.length + i), by simp, rfl⟩

theorem emits_array {α : Type} {width : Nat} {encode : α → List UInt8} (each : ∀ item, (encode item).length = width)
    (count : Nat) (items : List α) :
    Emits (writeArray width (fun item => writeNbytes (encode item)) count items) (count * width) := by
  induction count generalizing items with
  | zero =>
    rw [Nat.zero_mul]
    exact Emits.skip
  | succ count ih =>
    rw [Nat.succ_mul, Nat.add_comm (count * width)]
    cases items with
    | nil => exact (emits_beyond width).bind (ih [])
    | cons head tail =>
      have first : Emits (writeNbytes (encode head)) width := each head ▸ Emits.emit (encode head)
      exact first.bind (ih tail)

end RabbitStreamer.Core.Streamer
