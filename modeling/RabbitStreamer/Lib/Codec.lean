import Mathlib.Data.List.Basic

/-! Readers and writers of token streams, with the rules that compose what they
consume, what they append and how far they look. -/

namespace RabbitStreamer.Lib.Codec

variable {τ ε α β : Type}

abbrev Reader (τ ε α : Type) := EStateM ε (List τ) α

def take (fail : ε) (count : Nat) : Reader τ ε (List τ) := fun input =>
  if count ≤ input.length then .ok (input.take count) (input.drop count) else .error fail input

def times (reader : Reader τ ε α) : Nat → Reader τ ε (List α)
  | 0 => pure []
  | count + 1 => do
      let head ← reader
      let tail ← times reader count
      pure (head :: tail)

theorem bind_ok {reader : Reader τ ε α} {next : α → Reader τ ε β} {input rest : List τ} {value : α}
    (run : reader input = .ok value rest) : (reader >>= next) input = next value rest := by
  change EStateM.bind reader next input = _
  simp only [EStateM.bind, run]

theorem bind_error {reader : Reader τ ε α} {next : α → Reader τ ε β} {input rest : List τ} {reason : ε}
    (run : reader input = .error reason rest) : (reader >>= next) input = .error reason rest := by
  change EStateM.bind reader next input = _
  simp only [EStateM.bind, run]

def Reads (reader : Reader τ ε α) (used : List τ) (value : α) : Prop :=
  ∀ rest, reader (used ++ rest) = .ok value rest

namespace Reads

theorem pure (value : α) : Reads (Pure.pure value : Reader τ ε α) [] value := fun _ => rfl

theorem bind {reader : Reader τ ε α} {next : α → Reader τ ε β} {first second : List τ} {value : α}
    {result : β} (head : Reads reader first value) (tail : Reads (next value) second result) :
    Reads (reader >>= next) (first ++ second) result := by
  intro rest
  rw [List.append_assoc, bind_ok (head (second ++ rest))]
  exact tail rest

theorem map {reader : Reader τ ε α} {used : List τ} {value : α} (read : Reads reader used value)
    (f : α → β) : Reads (reader >>= fun result => Pure.pure (f result)) used (f value) := by
  intro rest
  rw [bind_ok (read rest)]
  rfl

theorem take (fail : ε) (used : List τ) : Reads (take fail used.length) used used := by
  intro rest
  simp [Codec.take]

theorem times {reader : Reader τ ε α} {encode : α → List τ}
    (read : ∀ value, Reads reader (encode value) value) (values : List α) :
    Reads (times reader values.length) (values.flatMap encode) values := by
  induction values with
  | nil => exact Reads.pure []
  | cons head tail ih => exact (read head).bind (ih.map (fun rest => head :: rest))

end Reads

def outcome (reader : Reader τ ε α) (input : List τ) : Except ε α :=
  match reader input with
  | .ok value _ => .ok value
  | .error reason _ => .error reason

theorem outcome_eq_ok {reader : Reader τ ε α} {input : List τ} {value : α}
    (ended : outcome reader input = .ok value) :
    ∃ rest, reader input = .ok value rest := by
  unfold outcome at ended
  cases ran : reader input with
  | error reason rest => simp [ran] at ended
  | ok result rest =>
    simp only [ran, Except.ok.injEq] at ended
    exact ⟨rest, by rw [ended]⟩

/-- The reader takes as many tokens as `need` says, whatever follows them, and fails where there
are fewer. -/
def Needs (reader : Reader τ ε α) (fail : ε) (need : List τ → Nat) : Prop :=
  ∀ input, (need input ≤ input.length → ∃ value, Reads reader (input.take (need input)) value) ∧
    (input.length < need input → ∃ rest, reader input = .error fail rest)

namespace Needs

theorem pure (value : α) (fail : ε) : Needs (Pure.pure value : Reader τ ε α) fail fun _ => 0 :=
  fun _ => ⟨fun _ => ⟨value, Reads.pure value⟩, fun short => absurd short (Nat.not_lt_zero _)⟩

theorem take (fail : ε) (count : Nat) : Needs (take fail count : Reader τ ε (List τ)) fail fun _ => count := by
  refine fun input => ⟨fun enough => ⟨input.take count, ?_⟩, fun short => ⟨input, ?_⟩⟩
  · have read := Reads.take fail (input.take count)
    rwa [List.length_take_of_le enough] at read
  · exact if_neg (Nat.not_le_of_lt short)

theorem fails {reader : Reader τ ε α} {fail : ε} {need : List τ → Nat} (needs : Needs reader fail need)
    {input : List τ} (short : input.length < need input) : outcome reader input = .error fail := by
  obtain ⟨rest, failed⟩ := (needs input).2 short
  rw [outcome, failed]

theorem succeeds {reader : Reader τ ε α} {fail : ε} {need : List τ → Nat} (needs : Needs reader fail need)
    {input : List τ} (enough : need input ≤ input.length) :
    ∃ value, ∀ more, reader (input ++ more) = .ok value (input.drop (need input) ++ more) := by
  obtain ⟨value, reads⟩ := (needs input).1 enough
  refine ⟨value, fun more => ?_⟩
  have read := reads (input.drop (need input) ++ more)
  rwa [← List.append_assoc, List.take_append_drop] at read

theorem congr {reader : Reader τ ε α} {fail : ε} {need other : List τ → Nat} (needs : Needs reader fail need)
    (same : ∀ input, need input = other input) : Needs reader fail other := by
  rwa [funext same] at needs

theorem seq {reader : Reader τ ε α} {next : α → Reader τ ε β} {fail : ε} {count : Nat} {need : List τ → Nat}
    (head : Needs reader fail fun _ => count) (tail : ∀ value, Needs (next value) fail need) :
    Needs (reader >>= next) fail fun input => count + need (input.drop count) := by
  intro input
  dsimp only
  refine ⟨fun enough => ?_, fun short => ?_⟩
  · obtain ⟨value, first⟩ := (head input).1 (show count ≤ input.length by omega)
    obtain ⟨result, second⟩ := (tail value (input.drop count)).1 (by simp only [List.length_drop]; omega)
    refine ⟨result, ?_⟩
    rw [List.take_add]
    exact first.bind second
  · by_cases enough : count ≤ input.length
    · obtain ⟨value, first⟩ := (head input).1 enough
      obtain ⟨rest, failed⟩ := (tail value (input.drop count)).2 (by simp only [List.length_drop]; omega)
      have ran := first (input.drop count)
      rw [List.take_append_drop] at ran
      exact ⟨rest, by rw [bind_ok ran, failed]⟩
    · obtain ⟨rest, failed⟩ := (head input).2 (Nat.lt_of_not_le enough)
      exact ⟨rest, bind_error failed⟩

theorem counted {reader : Reader τ ε α} {next : α → Reader τ ε β} {fail : ε} {count : Nat}
    {decode : List τ → α} {need : α → Nat} (head : Needs reader fail fun _ => count)
    (value : ∀ tokens, tokens.length = count → Reads reader tokens (decode tokens))
    (tail : ∀ value, Needs (next value) fail fun _ => need value) :
    Needs (reader >>= next) fail fun input => count + need (decode (input.take count)) := by
  intro input
  dsimp only
  refine ⟨fun enough => ?_, fun short => ?_⟩
  · have first := value (input.take count) (List.length_take_of_le (by omega))
    obtain ⟨result, second⟩ := (tail (decode (input.take count)) (input.drop count)).1
      (by simp only [List.length_drop]; omega)
    refine ⟨result, ?_⟩
    rw [List.take_add]
    exact first.bind second
  · by_cases enough : count ≤ input.length
    · have first := value (input.take count) (List.length_take_of_le enough) (input.drop count)
      rw [List.take_append_drop] at first
      obtain ⟨rest, failed⟩ := (tail (decode (input.take count)) (input.drop count)).2
        (by simp only [List.length_drop]; omega)
      exact ⟨rest, by rw [bind_ok first, failed]⟩
    · obtain ⟨rest, failed⟩ := (head input).2 (Nat.lt_of_not_le enough)
      exact ⟨rest, bind_error failed⟩

theorem map {reader : Reader τ ε α} {fail : ε} {need : List τ → Nat} (needs : Needs reader fail need)
    (f : α → β) : Needs (reader >>= fun value => Pure.pure (f value)) fail need := by
  intro input
  refine ⟨fun enough => ?_, fun short => ?_⟩
  · obtain ⟨value, reads⟩ := (needs input).1 enough
    exact ⟨f value, reads.map f⟩
  · obtain ⟨rest, failed⟩ := (needs input).2 short
    exact ⟨rest, bind_error failed⟩

theorem times {reader : Reader τ ε α} {fail : ε} {width : Nat} (each : Needs reader fail fun _ => width)
    (count : Nat) : Needs (times reader count) fail fun _ => count * width := by
  induction count with
  | zero =>
    simp only [Nat.zero_mul]
    exact Needs.pure [] fail
  | succ count ih =>
    have whole := each.seq fun head => ih.map fun tail => head :: tail
    rwa [Nat.add_comm, ← Nat.succ_mul] at whole

end Needs

def Spells (reader : Reader τ ε α) (before : List τ) (encode : α → List τ) : Prop :=
  ∀ input value rest, reader input = .ok value rest → before ++ input = encode value ++ rest

namespace Spells

theorem pure {value : α} {before : List τ} {encode : α → List τ} (whole : encode value = before) :
    Spells (Pure.pure value : Reader τ ε α) before encode := by
  intro input result rest ran
  cases ran
  rw [whole]

theorem bind {reader : Reader τ ε α} {next : α → Reader τ ε β} {before : List τ} {part : α → List τ}
    {encode : β → List τ} (head : Spells reader [] part)
    (tail : ∀ value, Spells (next value) (before ++ part value) encode) :
    Spells (reader >>= next) before encode := by
  intro input result rest ran
  cases first : reader input with
  | error reason left =>
    rw [bind_error first] at ran
    cases ran
  | ok value left =>
    rw [bind_ok first] at ran
    have taken := head input value left first
    rw [List.nil_append] at taken
    rw [taken, ← List.append_assoc]
    exact tail value left result rest ran

theorem times {reader : Reader τ ε α} {encode : α → List τ} (each : Spells reader [] encode) (count : Nat) :
    Spells (times reader count) [] fun values => values.flatMap encode := by
  induction count with
  | zero => exact Spells.pure rfl
  | succ count ih =>
    exact each.bind fun head => ih.bind fun tail => Spells.pure (by simp)

end Spells

def Yields (reader : Reader τ ε α) (holds : α → Prop) : Prop :=
  ∀ input value rest, reader input = .ok value rest → holds value

namespace Yields

theorem any (reader : Reader τ ε α) : Yields reader fun _ => True := fun _ _ _ _ => trivial

theorem pure {value : α} {holds : α → Prop} (held : holds value) : Yields (Pure.pure value : Reader τ ε α) holds := by
  intro input result rest ran
  cases ran
  exact held

theorem bind {reader : Reader τ ε α} {next : α → Reader τ ε β} {first : α → Prop} {second : β → Prop}
    (head : Yields reader first) (tail : ∀ value, first value → Yields (next value) second) :
    Yields (reader >>= next) second := by
  intro input result rest ran
  cases started : reader input with
  | error reason left =>
    rw [bind_error started] at ran
    cases ran
  | ok value left =>
    rw [bind_ok started] at ran
    exact tail value (head input value left started) left result rest ran

theorem times (reader : Reader τ ε α) (count : Nat) :
    Yields (times reader count) fun values => values.length = count := by
  induction count with
  | zero => exact Yields.pure rfl
  | succ count ih =>
    exact (any reader).bind fun head _ => ih.bind fun tail length => Yields.pure (congrArg (· + 1) length)

end Yields

structure Sink (τ : Type) where
  written : List τ
  size : Int
  fresh : Nat → τ

def Sink.contents (sink : Sink τ) : List τ :=
  (List.range sink.size.toNat).map fun i => sink.written.getD i (sink.fresh i)

theorem Sink.contents_of_full (sink : Sink τ) (full : (sink.written.length : Int) = sink.size) :
    sink.contents = sink.written := by
  apply List.ext_getElem
  · simp only [contents, List.length_map, List.length_range]
    omega
  · intro i left right
    simp [contents, right]

abbrev Writer (τ ε α : Type) := EStateM ε (Sink τ) α

def emit (tokens : List τ) : Writer τ ε Unit := fun sink =>
  .ok () { sink with written := sink.written ++ tokens }

def emitChecked (fail : ε) (tokens : List τ) : Writer τ ε Unit := fun sink =>
  if (sink.written.length + tokens.length : Int) ≤ sink.size then emit tokens sink
  else .error fail sink

def Writes (writer : Writer τ ε Unit) (tokens : List τ) : Prop :=
  ∀ sink, (sink.written.length + tokens.length : Int) ≤ sink.size →
    writer sink = .ok () { sink with written := sink.written ++ tokens }

theorem then_ok {σ : Type} {first second : EStateM ε σ Unit} {state next : σ} (ran : first state = .ok () next) :
    (first >>= fun _ => second) state = second next := by
  change EStateM.bind first (fun _ => second) state = _
  simp only [EStateM.bind, ran]

def fill (writer : Writer τ ε Unit) (area : Sink τ) : Except ε (Sink τ) :=
  match writer area with
  | .ok _ sink => .ok sink
  | .error reason _ => .error reason

namespace Writes

theorem fill {writer : Writer τ ε Unit} {tokens : List τ} (writes : Writes writer tokens) (size : Int)
    (fresh : Nat → τ) (room : tokens.length ≤ size) :
    fill writer ⟨[], size, fresh⟩ = .ok ⟨tokens, size, fresh⟩ := by
  have ran := writes ⟨[], size, fresh⟩ (by simpa using room)
  simp only [Codec.fill, ran, List.nil_append]

theorem skip : Writes (Pure.pure () : Writer τ ε Unit) [] := by
  intro sink _
  simp only [List.append_nil]
  rfl

theorem emit (tokens : List τ) : Writes (emit tokens : Writer τ ε Unit) tokens := fun _ _ => rfl

theorem emitChecked (fail : ε) (tokens : List τ) : Writes (emitChecked fail tokens) tokens := by
  intro sink room
  simp only [Codec.emitChecked, if_pos room]
  rfl

theorem bind {first second : Writer τ ε Unit} {head tail : List τ} (before : Writes first head)
    (after : Writes second tail) : Writes (first >>= fun _ => second) (head ++ tail) := by
  intro sink room
  simp only [List.length_append] at room
  rw [then_ok (before sink (by omega)), after _ (by simp only [List.length_append]; omega)]
  simp only [List.append_assoc]

theorem fill_then {first : Writer τ ε Unit} {head : List τ} (before : Writes first head) (second : Writer τ ε Unit)
    (size : Int) (fresh : Nat → τ) (room : head.length ≤ size) :
    Codec.fill (first >>= fun _ => second) ⟨[], size, fresh⟩ = Codec.fill second ⟨head, size, fresh⟩ := by
  have ran := before ⟨[], size, fresh⟩ (by simpa using room)
  rw [List.nil_append] at ran
  unfold Codec.fill
  rw [then_ok ran]

end Writes

def Appends (writer : Writer τ ε Unit) : Prop :=
  ∀ sink, ∃ more, writer sink = .ok () { sink with written := sink.written ++ more }

namespace Appends

theorem skip : Appends (Pure.pure () : Writer τ ε Unit) := fun sink => ⟨[], by rw [List.append_nil]; rfl⟩

theorem emit (tokens : List τ) : Appends (emit tokens : Writer τ ε Unit) := fun _ => ⟨tokens, rfl⟩

theorem bind {first second : Writer τ ε Unit} (before : Appends first) (after : Appends second) :
    Appends (first >>= fun _ => second) := by
  intro sink
  obtain ⟨head, ran⟩ := before sink
  obtain ⟨tail, rest⟩ := after { sink with written := sink.written ++ head }
  refine ⟨head ++ tail, ?_⟩
  rw [then_ok ran, rest, List.append_assoc]

theorem fill {first second : Writer τ ε Unit} {head : List τ} (before : Writes first head)
    (after : Appends second) (size : Int) (fresh : Nat → τ) (room : head.length ≤ size) :
    ∃ more, Codec.fill (first >>= fun _ => second) ⟨[], size, fresh⟩ = .ok ⟨head ++ more, size, fresh⟩ := by
  obtain ⟨more, rest⟩ := after ⟨head, size, fresh⟩
  refine ⟨more, ?_⟩
  rw [before.fill_then second size fresh room, Codec.fill, rest]

end Appends

def Emits (writer : Writer τ ε Unit) (count : Nat) : Prop :=
  ∀ sink, ∃ more, more.length = count ∧ writer sink = .ok () { sink with written := sink.written ++ more }

namespace Emits

theorem skip : Emits (Pure.pure () : Writer τ ε Unit) 0 := fun sink => ⟨[], rfl, by rw [List.append_nil]; rfl⟩

theorem emit (tokens : List τ) : Emits (emit tokens : Writer τ ε Unit) tokens.length := fun _ => ⟨tokens, rfl, rfl⟩

theorem bind {first second : Writer τ ε Unit} {head tail : Nat} (before : Emits first head)
    (after : Emits second tail) : Emits (first >>= fun _ => second) (head + tail) := by
  intro sink
  obtain ⟨start, width, ran⟩ := before sink
  obtain ⟨rest, left, ended⟩ := after { sink with written := sink.written ++ start }
  refine ⟨start ++ rest, by rw [List.length_append, width, left], ?_⟩
  rw [then_ok ran, ended]
  simp only [List.append_assoc]

theorem fill {first second : Writer τ ε Unit} {head : List τ} {count : Nat} (before : Writes first head)
    (after : Emits second count) (size : Int) (fresh : Nat → τ) (room : head.length ≤ size) :
    ∃ more, more.length = count ∧
      Codec.fill (first >>= fun _ => second) ⟨[], size, fresh⟩ = .ok ⟨head ++ more, size, fresh⟩ := by
  obtain ⟨more, width, rest⟩ := after ⟨head, size, fresh⟩
  refine ⟨more, width, ?_⟩
  rw [before.fill_then second size fresh room, Codec.fill, rest]

end Emits

/-- Where there is no room for `count` tokens, the writer stops. -/
def Stops (writer : Writer τ ε Unit) (fail : ε) (count : Nat) : Prop :=
  ∀ sink, sink.size < (sink.written.length + count : Int) → ∃ after, writer sink = .error fail after

namespace Stops

theorem emitChecked (fail : ε) (tokens : List τ) : Stops (emitChecked fail tokens) fail tokens.length := by
  intro sink short
  refine ⟨sink, ?_⟩
  simp only [Codec.emitChecked, if_neg (Int.not_le.mpr short)]

theorem before {first second : Writer τ ε Unit} {fail : ε} {count : Nat} (stops : Stops first fail count) :
    Stops (first >>= fun _ => second) fail count := by
  intro sink short
  obtain ⟨after, stopped⟩ := stops sink short
  refine ⟨after, ?_⟩
  change EStateM.bind first (fun _ => second) sink = _
  simp only [EStateM.bind, stopped]

theorem emits {first second : Writer τ ε Unit} {fail : ε} {head count : Nat} (before : Emits first head)
    (after : Stops second fail count) : Stops (first >>= fun _ => second) fail (head + count) := by
  intro sink short
  obtain ⟨start, width, ran⟩ := before sink
  obtain ⟨last, stopped⟩ := after { sink with written := sink.written ++ start } (by
    simp only [List.length_append, width]
    omega)
  exact ⟨last, by rw [then_ok ran, stopped]⟩

theorem bind {first second : Writer τ ε Unit} {fail : ε} {head : List τ} {count : Nat} (before : Writes first head)
    (stops : Stops first fail head.length) (after : Stops second fail count) :
    Stops (first >>= fun _ => second) fail (head.length + count) := by
  intro sink short
  by_cases room : (sink.written.length + head.length : Int) ≤ sink.size
  · obtain ⟨last, stopped⟩ := after { sink with written := sink.written ++ head } (by
      simp only [List.length_append]
      omega)
    exact ⟨last, by rw [then_ok (before sink room), stopped]⟩
  · exact stops.before sink (Int.not_le.mp room)

theorem fill {first second : Writer τ ε Unit} {fail : ε} {head : List τ} {count : Nat} (before : Writes first head)
    (after : Stops second fail count) (size : Int) (fresh : Nat → τ) (room : head.length ≤ size)
    (short : size < head.length + count) :
    Codec.fill (first >>= fun _ => second) ⟨[], size, fresh⟩ = .error fail := by
  obtain ⟨last, stopped⟩ := after ⟨head, size, fresh⟩ short
  rw [before.fill_then second size fresh room, Codec.fill, stopped]

end Stops

end RabbitStreamer.Lib.Codec
