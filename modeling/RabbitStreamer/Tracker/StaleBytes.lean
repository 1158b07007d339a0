import RabbitStreamer.Tracker.ShortDatagrams

/-! Which of the bytes behind a datagram its handling depends on. -/

namespace RabbitStreamer.Tracker.StaleBytes
open RabbitStreamer.Lib RabbitStreamer.Lib.Bytes RabbitStreamer.Lib.Codec RabbitStreamer.Lib.Memory
open RabbitStreamer.Core.Struct RabbitStreamer.Core.StructDefine RabbitStreamer.Core.Streamer
open RabbitStreamer.Core.Message RabbitStreamer.Core.Message.P2PMESSAGE RabbitStreamer.Core.MessageCodec
open RabbitStreamer.Core.MessageExtent RabbitStreamer.Tracker.Uuid RabbitStreamer.Tracker.State
open RabbitStreamer.Tracker.Server RabbitStreamer.Tracker.ShortDatagrams

variable {R : Rand}

def Agree (nbBuf : Nat) (first second : Memory) : Prop := ∀ i, i < nbBuf → first i = second i

/-- The header was received, and of a type that is handled all that is read: the message, or all
that its size covers; or so small a size that reading fails whatever follows. -/
def Known (datagram : Datagram) : Prop :=
  datagram.nbBuf = 0 ∨ 5 ≤ datagram.nbBuf ∧
    ((datagram.connector.reader (datagram.buf 4)).isSome →
      needed (datagram.buf 4) (held datagram) ≤ (held datagram).length ∨
      (declared datagram.buf).length = (held datagram).length ∨
      (declared datagram.buf).length < needed (datagram.buf 4) (held datagram))

theorem declared_length (buf : Memory) : (declared buf).length = (intAt buf 0 - 5).toNat := initStreamer_length _ _

theorem declared_getElem? {buf : Memory} {i : Nat} (inside : i < (declared buf).length) :
    (declared buf)[i]? = some (buf (5 + i)) := by
  rw [declared_length] at inside
  simp [declared, initStreamer, inside]

theorem leNat_append_le (bytes more : List UInt8) : leNat bytes ≤ leNat (bytes ++ more) := by
  induction bytes with
  | nil => exact Nat.zero_le _
  | cons byte tail ih =>
    simp only [List.cons_append, leNat]
    omega

theorem leNat_append_zeros (bytes : List UInt8) (count : Nat) :
    leNat (bytes ++ List.replicate count 0) = leNat bytes := by
  induction bytes with
  | nil =>
    induction count with
    | zero => rfl
    | succ count ih =>
      simp only [List.nil_append, leNat] at ih
      simp [List.replicate_succ, leNat, ih]
  | cons byte tail ih => simp only [List.cons_append, leNat, ih]

theorem byteAt_eq (bytes : List UInt8) (offset : Nat) : byteAt bytes offset = leNat ((bytes.drop offset).take 1) := by
  unfold byteAt
  cases bytes.drop offset with
  | nil => rfl
  | cons head tail => simp [leNat]

theorem wordAt_eq (bytes : List UInt8) (offset : Nat) : wordAt bytes offset = leNat ((bytes.drop offset).take 4) := by
  have small : leNat ((bytes.drop offset).take 4) < 256 ^ 4 :=
    Nat.lt_of_lt_of_le (leNat_lt _) (Nat.pow_le_pow_right (by decide) (List.length_take_le 4 _))
  rw [wordAt, ofLe32, UInt32.toNat_ofNat']
  exact Nat.mod_eq_of_lt small

theorem counts_append (bytes more : List UInt8) (offset : Nat) :
    byteAt bytes offset ≤ byteAt (bytes ++ more) offset ∧ wordAt bytes offset ≤ wordAt (bytes ++ more) offset := by
  simp only [byteAt_eq, wordAt_eq, List.drop_append, List.take_append]
  exact ⟨leNat_append_le _ _, leNat_append_le _ _⟩

theorem counts_append_zeros (bytes : List UInt8) (count offset : Nat) :
    byteAt (bytes ++ List.replicate count 0) offset = byteAt bytes offset ∧
      wordAt (bytes ++ List.replicate count 0) offset = wordAt bytes offset := by
  simp only [byteAt_eq, wordAt_eq, List.drop_append, List.take_append, List.drop_replicate, List.take_replicate]
  exact ⟨leNat_append_zeros _ _, leNat_append_zeros _ _⟩

theorem choice_le {choice : Prop} [Decidable choice] {first second less more : Nat} (left : first ≤ less)
    (right : second ≤ more) : (if choice then first else second) ≤ if choice then less else more := by
  split
  · exact left
  · exact right

theorem needed_append (msgType : UInt8) (bytes more : List UInt8) :
    needed msgType bytes ≤ needed msgType (bytes ++ more) := by
  have login := (counts_append bytes more 42).1
  have report := (counts_append bytes more 20).1
  have resList := (counts_append bytes more 16).2
  have same := fun size : Nat => Nat.le_refl size
  exact choice_le (by omega) (choice_le (same 48) (choice_le (by omega) (choice_le (same 20) (choice_le (same 16)
    (choice_le (same 16) (choice_le (same 38) (choice_le (same 27) (choice_le (by omega) (choice_le (same 16)
    (same 0))))))))))

theorem needed_append_zeros (msgType : UInt8) (bytes : List UInt8) (count : Nat) :
    needed msgType (bytes ++ List.replicate count 0) = needed msgType bytes := by
  simp only [needed, counts_append_zeros]

theorem Agree.header {nbBuf : Nat} {first second : Memory} (agree : Agree nbBuf first second) (header : 5 ≤ nbBuf) :
    intAt first 0 = intAt second 0 ∧ first 4 = second 4 := by
  refine ⟨?_, agree 4 (by omega)⟩
  have same : view first 0 4 = view second 0 4 := view_congr fun i inside => agree _ (by omega)
  rw [intAt, same, intAt]

theorem Agree.held {nbBuf : Nat} {first second : Memory} (agree : Agree nbBuf first second) (header : 5 ≤ nbBuf) :
    (declared first).take (nbBuf - 5) = (declared second).take (nbBuf - 5) := by
  have same := (agree.header header).1
  have length : (declared first).length = (declared second).length := by
    rw [declared_length, declared_length, same]
  apply List.ext_getElem?
  intro i
  by_cases inside : i < nbBuf - 5
  · rw [List.getElem?_take_of_lt inside, List.getElem?_take_of_lt inside]
    by_cases present : i < (declared first).length
    · rw [declared_getElem? present, declared_getElem? (length ▸ present), agree (5 + i) (by omega)]
    · rw [List.getElem?_eq_none (by omega), List.getElem?_eq_none (by omega)]
  · rw [List.getElem?_eq_none (by simp only [List.length_take]; omega),
      List.getElem?_eq_none (by simp only [List.length_take]; omega)]

theorem held_append (datagram : Datagram) : ∃ more, declared datagram.buf = held datagram ++ more :=
  ⟨_, (List.take_append_drop (datagram.nbBuf - 5) _).symm⟩

theorem request_known {datagram : Datagram} (known : Known datagram) {buf : Memory}
    (agree : Agree datagram.nbBuf buf datagram.buf) :
    ({ datagram with buf } : Datagram).request = datagram.request := by
  rcases known with nothing | ⟨header, reads⟩
  · simp only [Datagram.request, if_pos nothing]
  · have nonempty : datagram.nbBuf ≠ 0 := by omega
    obtain ⟨size, type⟩ := agree.header header
    have start : held { datagram with buf } = held datagram := agree.held header
    cases handled : datagram.connector.reader (datagram.buf 4) with
    | none => simp only [Datagram.request, if_neg nonempty, type, handled]
    | some reader =>
      have needs := (reader_spec handled).1
      obtain ⟨first, whole⟩ : ∃ first, declared buf = held datagram ++ first :=
        start ▸ held_append { datagram with buf }
      obtain ⟨second, other⟩ := held_append datagram
      have length : (declared buf).length = (declared datagram.buf).length := by
        rw [declared_length, declared_length, size]
      have same : outcome reader (declared buf) = outcome reader (declared datagram.buf) := by
        rcases reads (by rw [handled]; rfl) with message | all | short
        · obtain ⟨request, ran⟩ := needs.succeeds message
          rw [whole, other, outcome, outcome, ran first, ran second]
        · have firstEmpty : first = [] := by
            have total := congrArg List.length whole
            rw [List.length_append, length, all] at total
            exact List.eq_nil_of_length_eq_zero (by omega)
          have secondEmpty : second = [] := by
            have total := congrArg List.length other
            rw [List.length_append, all] at total
            exact List.eq_nil_of_length_eq_zero (by omega)
          rw [whole, other, firstEmpty, secondEmpty]
        · have before := needed_append (datagram.buf 4) (held datagram) first
          have behind := needed_append (datagram.buf 4) (held datagram) second
          rw [← whole] at before
          rw [← other] at behind
          rw [needs.fails (by omega), needs.fails (by omega)]
      simp only [Datagram.request, if_neg nonempty, type, handled, same]

def marked (datagram : Datagram) (place : Nat) (mark : UInt8) : Memory := fun i =>
  if i < datagram.nbBuf then datagram.buf i else if i = place then mark else 0

theorem agree_marked (datagram : Datagram) (place : Nat) (mark : UInt8) :
    Agree datagram.nbBuf (marked datagram place mark) datagram.buf := fun _ inside => if_pos inside

theorem request_ne_none {datagram : Datagram} {reader : RsReader Request} (received : datagram.nbBuf ≠ 0)
    (handled : datagram.connector.reader (datagram.buf 4) = some reader) : datagram.request ≠ .ok none := by
  simp only [Datagram.request, if_neg received, handled]
  cases outcome reader (declared datagram.buf) <;> simp [Except.map]

theorem declared_marked {datagram : Datagram} (header : 5 ≤ datagram.nbBuf) (place : Nat) :
    declared (marked datagram place 0) =
      held datagram ++ List.replicate ((declared datagram.buf).length - (held datagram).length) 0 := by
  have agree := agree_marked datagram place 0
  have start := agree.held header
  have length : (declared (marked datagram place 0)).length = (declared datagram.buf).length := by
    rw [declared_length, declared_length, (agree.header header).1]
  have split := List.take_append_drop (datagram.nbBuf - 5) (declared (marked datagram place 0))
  rw [start] at split
  rw [← split]
  apply congrArg (held datagram ++ ·)
  apply List.ext_getElem
  · simp only [List.length_drop, List.length_replicate, held, List.length_take]
    omega
  · intro i left right
    rw [List.length_drop] at left
    have present :=
      declared_getElem? (show datagram.nbBuf - 5 + i < (declared (marked datagram place 0)).length by omega)
    have zero : marked datagram place 0 (5 + (datagram.nbBuf - 5 + i)) = 0 := by
      simp only [marked, if_neg (show ¬5 + (datagram.nbBuf - 5 + i) < datagram.nbBuf by omega), ite_self]
    rw [← List.getElem?_drop, zero, List.getElem?_eq_getElem (by rw [List.length_drop]; omega)] at present
    simpa using present

theorem unread_request {datagram : Datagram} {reader : RsReader Request} (received : datagram.nbBuf ≠ 0)
    (header : 5 ≤ datagram.nbBuf) (handled : datagram.connector.reader (datagram.buf 4) = some reader)
    (beyond : (held datagram).length < needed (datagram.buf 4) (held datagram))
    (behind : (declared datagram.buf).length ≠ (held datagram).length)
    (enough : needed (datagram.buf 4) (held datagram) ≤ (declared datagram.buf).length) :
    ∃ first second : Memory, Agree datagram.nbBuf first datagram.buf ∧ Agree datagram.nbBuf second datagram.buf ∧
      ({ datagram with buf := first } : Datagram).request ≠ ({ datagram with buf := second } : Datagram).request := by
  obtain ⟨last, extent⟩ := Nat.exists_eq_succ_of_ne_zero (Nat.ne_zero_of_lt beyond)
  have short : (held datagram).length = datagram.nbBuf - 5 := by
    rw [held, List.length_take] at behind ⊢
    omega
  have place : ∀ mark, marked datagram (5 + last) mark (5 + last) = mark := by
    intro mark
    simp only [marked, if_neg (show ¬5 + last < datagram.nbBuf by omega), if_true]
  have start : ∀ mark, intAt (marked datagram (5 + last) mark) 0 = intAt datagram.buf 0 ∧
      marked datagram (5 + last) mark 4 = datagram.buf 4 := fun mark =>
    (agree_marked datagram (5 + last) mark).header header
  have length : ∀ mark, (declared (marked datagram (5 + last) mark)).length = (declared datagram.buf).length := by
    intro mark
    rw [declared_length, declared_length, (start mark).1]
  have present : ∀ mark, (declared (marked datagram (5 + last) mark))[last]? = some mark := by
    intro mark
    rw [declared_getElem? (by rw [length]; omega), place]
  obtain ⟨needs, spells, _⟩ := reader_spec handled
  -- filled with zeros the message is as long as the known bytes say
  have extentZero : needed (datagram.buf 4) (declared (marked datagram (5 + last) 0)) = last + 1 := by
    rw [declared_marked header, needed_append_zeros, extent]
  obtain ⟨request, ran⟩ := needs.succeeds (by rw [extentZero, length]; omega)
  have read := ran []
  rw [List.append_nil, List.append_nil, extentZero] at read
  have spelled := spells _ _ _ read
  rw [List.nil_append] at spelled
  have width : request.body.length = last + 1 := by
    have total := congrArg List.length spelled
    rw [List.length_append, List.length_drop, length] at total
    omega
  refine ⟨marked datagram (5 + last) 0, marked datagram (5 + last) 1, agree_marked datagram _ 0,
    agree_marked datagram _ 1, fun same => ?_⟩
  have first : ({ datagram with buf := marked datagram (5 + last) 0 } : Datagram).request = .ok (some request) := by
    refine request_eq_some.mpr ⟨received, reader, ?_, by rw [outcome, read]⟩
    simp only [(start 0).2, handled]
  obtain ⟨_, other, handledSecond, second⟩ := request_eq_some.mp (same.symm.trans first)
  simp only [(start 1).2, handled, Option.some.injEq] at handledSecond
  subst handledSecond
  obtain ⟨rest, ranSecond⟩ := outcome_eq_ok second
  have spelledSecond := spells _ _ _ ranSecond
  rw [List.nil_append] at spelledSecond
  -- the last byte of the message is told by it, and yet both
  have zero := present 0
  have one := present 1
  rw [spelled, List.getElem?_append_left (by omega)] at zero
  rw [spelledSecond, List.getElem?_append_left (by omega), zero] at one
  cases one

theorem request_unknown {datagram : Datagram} (unknown : ¬Known datagram) :
    ∃ first second : Memory, Agree datagram.nbBuf first datagram.buf ∧ Agree datagram.nbBuf second datagram.buf ∧
      ({ datagram with buf := first } : Datagram).request ≠ ({ datagram with buf := second } : Datagram).request := by
  unfold Known at unknown
  rw [not_or] at unknown
  obtain ⟨received, missing⟩ := unknown
  by_cases header : 5 ≤ datagram.nbBuf
  · simp only [header, true_and, Classical.not_imp, not_or, not_le, not_lt] at missing
    obtain ⟨handled, beyond, behind, enough⟩ := missing
    obtain ⟨reader, handled⟩ := Option.isSome_iff_exists.mp handled
    exact unread_request received header handled beyond behind enough
  · obtain ⟨type, handled⟩ : ∃ type, (datagram.connector.reader type).isSome := by
      cases datagram.connector with
      | np => exact ⟨NP2TS_LOGOUT, rfl⟩
      | sp => exact ⟨SP2TS_GET_SP, rfl⟩
    have place : ∀ mark, marked datagram 4 mark 4 = mark := by
      intro mark
      simp only [marked, if_neg (show ¬4 < datagram.nbBuf by omega), if_true]
    refine ⟨marked datagram 4 0, marked datagram 4 type, agree_marked datagram 4 0, agree_marked datagram 4 type, ?_⟩
    have passed : ({ datagram with buf := marked datagram 4 0 } : Datagram).request = .ok none := by
      have other : datagram.connector.reader 0 = none := by
        cases datagram.connector <;> rfl
      simp only [Datagram.request, if_neg received, place, other]
    rw [passed]
    apply Ne.symm
    obtain ⟨reader, handled⟩ := Option.isSome_iff_exists.mp handled
    rw [← place type] at handled
    exact request_ne_none received handled

def logoutOver (byte : UInt8) : Datagram :=
  let logout : Request := .logout ⟨.fill _ byte⟩
  ⟨.np, .init, .ofBytes (frame NP2TS_LOGOUT logout.body), 5, ⟨0, fun _ => 0, 0, 0, 0, 255⟩⟩

def oneLogin : TrackerState .counting :=
  { TrackerState.start .counting (0 : Nat) 0 with
    npnodeMap := OrderedMap.empty.insert (.ofUuid (.fill _ 97)) (.init 0) }

end RabbitStreamer.Tracker.StaleBytes
