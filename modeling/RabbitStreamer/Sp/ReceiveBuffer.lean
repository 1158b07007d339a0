import RabbitStreamer.Lib.Transition
import RabbitStreamer.Sp.TrackerConnector

/-! Where a super peer has the next packet from its tracker written. -/

namespace RabbitStreamer.Sp.ReceiveBuffer
open RabbitStreamer.Lib RabbitStreamer.Lib.Bytes RabbitStreamer.Lib.Codec RabbitStreamer.Lib.Transition
open RabbitStreamer.Core.Struct RabbitStreamer.Core.Streamer RabbitStreamer.Sp.TrackerConnector

inductive Event where
  | packet (payload : List UInt8) (fits : payload.length ≤ UDP_MAX_PACKET_SIZE) (host : Host)
  | timeout (timerid : Int) (host : Host)

def Event.call : Event → RsSpTrackerProtocol → Except Halt (RsSpTrackerProtocol × List (List UInt8))
  | .packet payload _ host => fun sp => loop payload sp host
  | .timeout timerid host => fun sp => handleTimeout timerid sp host

def step (sp : RsSpTrackerProtocol) (event : Event) : Option RsSpTrackerProtocol :=
  (event.call sp).toOption.map Prod.fst

/-- What the next packet may fill lies in the area, and the area is what the destructor frees. -/
structure InPlace (sp : RsSpTrackerProtocol) : Prop where
  inside : sp.recvBuf + UDP_MAX_PACKET_SIZE ≤ UDP_MAX_PACKET_SIZE
  freed : sp.recvBuf = 0

def Event.arrives : Event → Bool
  | .packet payload _ _ => !payload.isEmpty
  | .timeout _ _ => false

theorem getWelcome_recvBuf {temp : Nat} {msgSize : Int} {sp after : RsSpTrackerProtocol} {host : Host}
    {sent : List (List UInt8)} (called : getWelcome temp msgSize sp host = .ok (after, sent)) :
    after.recvBuf = sp.recvBuf := by
  unfold getWelcome at called
  generalize outcome _ (message sp.area temp msgSize) = parsed at called
  cases parsed with
  | error reason => cases called
  | ok welcomeMsg =>
    dsimp only at called
    split_ifs at called
    cases called
    rfl

theorem keeps_getResInterval : Keeps getResInterval := by
  intro sp host after sent called
  unfold getResInterval at called
  split_ifs at called
  · exact keeps_sendResList sp host after sent called
  · exact keeps_sendRegister sp host after sent called

theorem loop_recvBuf {payload : List UInt8} {sp after : RsSpTrackerProtocol} {host : Host} {sent : List (List UInt8)}
    (called : loop payload sp host = .ok (after, sent)) :
    after.recvBuf = sp.recvBuf + if payload = [] then 0 else 5 := by
  unfold loop at called
  split_ifs at called ⊢ with empty
  · cases called
    rfl
  · dsimp only at called
    split_ifs at called
    · exact getWelcome_recvBuf called
    · cases called
      rfl
    · rw [keeps_getResInterval _ _ _ _ called]
    · cases called
      rfl

theorem step_recvBuf {sp after : RsSpTrackerProtocol} {event : Event} (taken : step sp event = some after) :
    after.recvBuf = sp.recvBuf + if event.arrives then 5 else 0 := by
  unfold step at taken
  obtain ⟨result, called, rfl⟩ := Option.map_eq_some_iff.mp taken
  have ended : event.call sp = .ok (result.1, result.2) := by
    cases given : event.call sp with
    | error reason => rw [given] at called; cases called
    | ok pair => rw [given] at called; cases called; rfl
  cases event with
  | packet payload fits host =>
    rw [loop_recvBuf ended]
    cases payload <;> rfl
  | timeout timerid host =>
    rw [keeps_handleTimeout timerid sp host _ _ ended]
    rfl

theorem run_recvBuf {sp final : RsSpTrackerProtocol} {events : List Event} (whole : run step sp events = some final) :
    final.recvBuf = sp.recvBuf + 5 * events.countP Event.arrives := by
  induction events generalizing sp with
  | nil =>
    rw [run, Option.some.injEq] at whole
    rw [whole]
    rfl
  | cons event rest ih =>
    obtain ⟨next, taken, remaining⟩ := run_cons_eq_some.mp whole
    rw [ih remaining, step_recvBuf taken, List.countP_cons]
    split_ifs <;> omega

/-- The place for the next packet is right just until one has come. -/
theorem receive_buffer_in_place_iff (area : Memory) (spId : ByteArr UUID_LENGTH) (events : List Event)
    (final : RsSpTrackerProtocol) (reached : run step (.init area spId) events = some final) :
    InPlace final ↔ ∀ event ∈ events, event.arrives = false := by
  have moved := run_recvBuf reached
  rw [show (RsSpTrackerProtocol.init area spId).recvBuf = 0 from rfl, Nat.zero_add] at moved
  have nothing : events.countP Event.arrives = 0 ↔ ∀ event ∈ events, event.arrives = false := by
    simp [List.countP_eq_zero]
  rw [← nothing]
  constructor
  · rintro ⟨_, freed⟩
    omega
  · intro silent
    rw [silent] at moved
    exact ⟨by omega, moved⟩

def quiet : Host := ⟨fun _ => 0, .empty⟩

def unknown : Event := .packet [0, 0, 0, 0, 0] (by decide) quiet

def waiting : List Event :=
  [.packet [] (by decide) quiet, .timeout 0 quiet, .packet [] (by decide) quiet, .timeout 1 quiet, .timeout 0 quiet]

theorem receive_buffer_in_place_waiting :
    (∃ final, run step (.init (fun _ => 0) (.fill UUID_LENGTH 0)) waiting = some final ∧ InPlace final) ∧
    ∃ final, run step (.init (fun _ => 0) (.fill UUID_LENGTH 0)) (waiting ++ unknown :: waiting) = some final ∧
      ¬InPlace final := by
  constructor
  · obtain ⟨final, reached⟩ := Option.isSome_iff_exists.mp
      (show (run step (.init (fun _ => 0) (.fill UUID_LENGTH 0)) waiting).isSome = true by decide +kernel)
    exact ⟨final, reached, (receive_buffer_in_place_iff _ _ waiting final reached).mpr (by decide)⟩
  · obtain ⟨final, reached⟩ := Option.isSome_iff_exists.mp
      (show (run step (.init (fun _ => 0) (.fill UUID_LENGTH 0)) (waiting ++ unknown :: waiting)).isSome = true by
        decide +kernel)
    refine ⟨final, reached, fun inPlace => ?_⟩
    have silent := (receive_buffer_in_place_iff _ _ _ final reached).mp inPlace unknown (by simp)
    cases silent

theorem step_unknown {sp : RsSpTrackerProtocol} (whole : sp.recvBuf = 0) :
    ∃ after, step sp unknown = some after ∧ after.recvBuf = 5 := by
  have tag : Memory.write sp.area sp.recvBuf [0, 0, 0, 0, 0] (sp.recvBuf + 4) = 0 := by
    simp [Memory.write]
  have room : ¬UDP_MAX_PACKET_SIZE < sp.recvBuf + max ([0, 0, 0, 0, 0] : List UInt8).length 5 := by
    rw [whole]
    decide
  refine ⟨{ sp with area := Memory.write sp.area sp.recvBuf [0, 0, 0, 0, 0], recvBuf := sp.recvBuf + 5 }, ?_, ?_⟩
  · unfold step unknown Event.call loop
    dsimp only
    rw [if_neg (by decide), if_neg room, tag, if_neg (by decide), if_neg (by decide), if_neg (by decide)]
    rfl
  · rw [whole]

/-- The first packet moves it. -/
theorem receive_buffer_moves : ¬ ∀ (area : Memory) (spId : ByteArr UUID_LENGTH) (events : List Event)
    (final : RsSpTrackerProtocol), run step (.init area spId) events = some final → InPlace final := by
  intro inPlace
  obtain ⟨after, taken, moved⟩ := @step_unknown (.init (fun _ => 0) (.fill UUID_LENGTH 0)) rfl
  have reached : run step (.init (fun _ => 0) (.fill UUID_LENGTH 0)) [unknown] = some after :=
    run_cons_eq_some.mpr ⟨after, taken, rfl⟩
  have freed := (inPlace _ _ [unknown] after reached).freed
  omega

end RabbitStreamer.Sp.ReceiveBuffer
