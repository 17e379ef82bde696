import MeterNode.Proofs.Sample.Channel

/-!
# The window of a channel

Samples are pushed into a channel and acknowledged, in any order and any number (`ChannelCall`).  A
push moves the end of the buffer along the sequence of all pushed samples, and what leaves the
buffer moves its start.  `MeterChannel.Window` says where the buffer stands: as many samples are
ahead of it as were acknowledged or had to make room.  Each call keeps this (`Window.push`,
`Window.acknowledge`), and so do any number of calls (`Window.after`).
-/

namespace MeterNode

/-- A call that changes the buffer of a channel. -/
inductive ChannelCall where
  | push (s : Sample)
  | acknowledge (count : Nat)

namespace ChannelCall

/-- Make a call. -/
def perform (c : MeterChannel) : ChannelCall → MeterChannel
  | push s => c.push s
  | acknowledge count => c.acknowledge count

/-- The samples that a call pushes. -/
def pushes : ChannelCall → List Sample
  | push s => [s]
  | acknowledge _ => []

/-- The number of samples that an acknowledgement removes. -/
def removes (c : MeterChannel) : ChannelCall → Nat
  | push _ => 0
  | acknowledge count => c.pending.length - (c.acknowledge count).pending.length

end ChannelCall

namespace MeterChannel

variable {c : MeterChannel} {pushed : List Sample} {taken lost : Nat}

/-- A channel after some calls. -/
def after (c : MeterChannel) (calls : List ChannelCall) : MeterChannel :=
  calls.foldl ChannelCall.perform c

/-- All samples that some calls push, in order. -/
def pushedBy (calls : List ChannelCall) : List Sample := calls.flatMap ChannelCall.pushes

/-- The number of samples that the acknowledgements among some calls remove. -/
def removedBy (c : MeterChannel) : List ChannelCall → Nat
  | [] => 0
  | call :: calls => call.removes c + removedBy (call.perform c) calls

/-- Where the buffer stands in the sequence of all pushed samples, when some were taken by
acknowledgements and some lost. -/
structure Window (pushed : List Sample) (taken lost : Nat) (c : MeterChannel) : Prop where
  start_le : taken + lost ≤ pushed.length
  /-- The buffer goes from its start to the last push. -/
  pending_eq : c.pending = pushed.drop (taken + lost)
  length_le : c.pending.length ≤ channelCapacity
  last_eq : c.last = pushed.getLast?
  dropped_eq : c.dropped = min lost droppedMax

/-! ## One call -/

theorem push_pushed (c : MeterChannel) (s : Sample) : Pushed [s] c (c.push s) :=
  foldl_push_pushed c [s]

/-- A push makes room only if there is none. -/
theorem length_push (h : c.pending.length ≤ channelCapacity) (s : Sample) :
    (c.push s).pending.length = min (c.pending.length + 1) channelCapacity := by
  have hpositive : 0 < channelCapacity := by decide
  rw [(push_pushed c s).pending_eq, List.length_drop, List.length_append]
  simp only [overflow, List.length_singleton]
  omega

theorem Window.push (h : Window pushed taken lost c) (s : Sample) :
    Window (pushed ++ [s]) taken (lost + c.overflow 1) (c.push s) := by
  obtain ⟨hstart, hpending, hlength, -, hdropped⟩ := h
  obtain ⟨-, -, -, hpending', hlast', hdropped'⟩ := push_pushed c s
  have hmoved : (c.push s).pending = (pushed ++ [s]).drop (taken + (lost + c.overflow 1)) := by
    rw [hpending', hpending, ← List.drop_append_of_le_length hstart, List.drop_drop,
      Nat.add_assoc]
    rfl
  have hleaves : c.overflow 1 ≤ 1 := Nat.sub_le _ _
  refine ⟨?_, hmoved, ?_, ?_, ?_⟩
  · rw [List.length_append, List.length_singleton]
    omega
  · rw [length_push hlength]
    exact Nat.min_le_right _ _
  · rw [hlast', List.getLast?_concat]
    rfl
  · rw [hdropped', hdropped, List.length_singleton]
    generalize droppedMax = limit
    split <;> omega

/-- An acknowledgement takes the oldest samples, all there are if it is of more. -/
theorem acknowledge_parts (c : MeterChannel) (count : Nat) :
    c.pending = c.pending.take (min count c.pending.length) ++ (c.acknowledge count).pending := by
  rw [← List.take_eq_take_min]
  exact (List.take_append_drop count c.pending).symm

theorem removes_acknowledge (c : MeterChannel) (count : Nat) :
    (ChannelCall.acknowledge count).removes c = min count c.pending.length := by
  have hlength : (c.acknowledge count).pending.length = c.pending.length - count :=
    List.length_drop
  simp only [ChannelCall.removes, hlength]
  omega

theorem Window.acknowledge (h : Window pushed taken lost c) (count : Nat) :
    Window pushed (taken + min count c.pending.length) lost (c.acknowledge count) := by
  obtain ⟨hstart, hpending, hlength, hlast, hdropped⟩ := h
  have hleft : c.pending.length = pushed.length - (taken + lost) := by
    rw [hpending, List.length_drop]
  have hmoved : (c.acknowledge count).pending =
      pushed.drop (taken + min count c.pending.length + lost) := by
    have hdrop : (c.acknowledge count).pending = pushed.drop (taken + lost + count) := by
      rw [MeterChannel.acknowledge, hpending, List.drop_drop]
    rcases Nat.le_total count c.pending.length with hcount | hcount
    · rw [hdrop, Nat.min_eq_left hcount, Nat.add_right_comm]
    · rw [hdrop, Nat.min_eq_right hcount, List.drop_eq_nil_of_le (by omega),
        List.drop_eq_nil_of_le (by omega)]
  refine ⟨by omega, hmoved, ?_, hlast, hdropped⟩
  rw [hmoved, List.length_drop]
  omega

/-! ## Any number of calls -/

theorem window_new (uuid : String) (identifier : Option String) (precision : Nat) :
    Window [] 0 0 { uuid, identifier, precision } where
  start_le := Nat.le_refl _
  pending_eq := rfl
  length_le := Nat.zero_le _
  last_eq := rfl
  dropped_eq := rfl

theorem Window.after (h : Window pushed taken lost c) (calls : List ChannelCall) : ∃ lost',
    Window (pushed ++ pushedBy calls) (taken + c.removedBy calls) lost' (c.after calls) := by
  induction calls generalizing pushed taken lost c with
  | nil =>
    rw [pushedBy, List.flatMap_nil, List.append_nil]
    exact ⟨lost, h⟩
  | cons call calls ih =>
    cases call with
    | push s =>
      obtain ⟨lost', hrest⟩ := ih (h.push s)
      have htaken : c.removedBy (.push s :: calls) = (c.push s).removedBy calls := Nat.zero_add _
      rw [List.append_assoc, ← htaken] at hrest
      exact ⟨lost', hrest⟩
    | acknowledge count =>
      obtain ⟨lost', hrest⟩ := ih (h.acknowledge count)
      have htaken : c.removedBy (.acknowledge count :: calls) =
          min count c.pending.length + (c.acknowledge count).removedBy calls := by
        rw [← removes_acknowledge]
        rfl
      rw [Nat.add_assoc, ← htaken] at hrest
      exact ⟨lost', hrest⟩

/-- However samples are pushed and acknowledged, the buffer of a channel is a run of the pushed
samples that ends at the last push, and it has 256 samples at most.  Every pushed sample is in the
buffer, or an acknowledgement has removed it, or it had to make room for another one; the last ones
are counted, up to the end of the counter.  An acknowledgement removes the oldest samples, and a
push makes room only if there is none.  The last sample stays known. -/
theorem sliding_window (uuid : String) (identifier : Option String) (precision : Nat)
    (calls : List ChannelCall) :
    let new : MeterChannel := { uuid, identifier, precision }
    let c := new.after calls
    let pushed := pushedBy calls
    c.pending <:+ pushed ∧
    c.pending.length ≤ 256 ∧
    (∃ lost, pushed.length = c.pending.length + new.removedBy calls + lost ∧
      c.dropped = min lost droppedMax) ∧
    (c.dropped < droppedMax →
      pushed.length = c.pending.length + new.removedBy calls + c.dropped) ∧
    c.last = pushed.getLast? ∧
    (∀ count, c.pending =
      c.pending.take (min count c.pending.length) ++ (c.acknowledge count).pending) ∧
    ∀ s, (c.push s).pending.length = min (c.pending.length + 1) 256 := by
  intro new c pushed
  obtain ⟨lost, hwindow⟩ := (window_new uuid identifier precision).after calls
  rw [List.nil_append, Nat.zero_add] at hwindow
  obtain ⟨hstart, hpending, hlength, hlast, hdropped⟩ :
      Window pushed (new.removedBy calls) lost c := hwindow
  have hall : pushed.length = c.pending.length + new.removedBy calls + lost := by
    rw [hpending, List.length_drop]
    omega
  refine ⟨?_, hlength, ⟨lost, hall, hdropped⟩, ?_, hlast, acknowledge_parts c,
    length_push hlength⟩
  · rw [hpending]
    exact List.drop_suffix _ _
  · intro hfewer
    rw [hdropped] at hfewer ⊢
    rw [Nat.min_eq_left (by omega)]
    exact hall

/-- Of 259 samples three make room, an acknowledgement of 300 takes all others, and one more sample
is pushed. -/
def overfull : List ChannelCall :=
  (List.range 259).map (fun n => .push ⟨n, 0⟩) ++ [.acknowledge 300, .push ⟨259, 0⟩]

theorem window_of_overfull :
    let new : MeterChannel := { uuid := "u", identifier := none }
    let c := new.after overfull
    c.dropped = 3 ∧ c.dropped < droppedMax ∧ c.pending.length = 1 ∧ new.removedBy overfull = 256 ∧
    (pushedBy overfull).length = c.pending.length + new.removedBy overfull + c.dropped := by
  intro new c
  obtain ⟨-, -, -, hall, -⟩ := sliding_window "u" none 2 overfull
  have hfacts : c.dropped = 3 ∧ c.dropped < droppedMax ∧ c.pending.length = 1 ∧
      new.removedBy overfull = 256 := by
    decide +kernel
  obtain ⟨hdropped, hfewer, hone, htaken⟩ := hfacts
  exact ⟨hdropped, hfewer, hone, htaken, hall hfewer⟩

end MeterChannel

end MeterNode
