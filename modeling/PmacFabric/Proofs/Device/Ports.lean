import PmacFabric.Proofs.Device.Meter

/-!
# What becomes of each port

Transmitting frames changes a switch port by port: each port is **offered** the frames that are meant
for it, in order, and sends or loses them as it has a link or not. `port?_receive` and
`port?_receiveMessage` say what every port of a switch is after a frame or a message; the gauges and
meters add up some of it.
-/

namespace PmacFabric

namespace PortState

/-- A port sends a frame over its link; without one the frame is lost. -/
def offer (state : PortState) (frame : Frame) : PortState :=
  { state with
    counters :=
      if state.peer.isSome then state.counters.transmit frame.size else state.counters.drop }

/-- A port is offered frames, in order. -/
def offers (state : PortState) (frames : List Frame) : PortState := frames.foldl offer state

/-- A frame arrives at a port. -/
def arrive (state : PortState) (frame : Frame) : PortState :=
  { state with counters := state.counters.receive frame.size }

end PortState

namespace Switch

/-- The frames that a verdict has for a port, in order. -/
def framesFor (port : Port) (frames : List (Port × Frame)) : List Frame :=
  frames.filterMap fun out => if out.1 = port then some out.2 else none

/-- A frame is put on its own port. -/
theorem framesFor_cons (key port : Port) (frame : Frame) (rest : List (Port × Frame)) :
    framesFor key ((port, frame) :: rest) =
      if port = key then frame :: framesFor key rest else framesFor key rest := by
  by_cases own : port = key
  · rw [if_pos own]
    exact List.filterMap_cons_some (if_pos own)
  · rw [if_neg own]
    exact List.filterMap_cons_none (if_neg own)

theorem framesFor_append (key : Port) (frames more : List (Port × Frame)) :
    framesFor key (frames ++ more) = framesFor key frames ++ framesFor key more :=
  List.filterMap_append

/-- The frames of a verdict for a port. -/
def verdictFor (port : Port) : Verdict → List Frame
  | .ok frames => framesFor port frames
  | .error _ => []

/-- A frame that is put on a port changes no other port. -/
theorem port?_output (switch : Switch) (out key : Port) (frame : Frame) :
    (switch.output out frame).2.port? key =
      if out = key then (switch.port? key).map (·.offer frame) else switch.port? key := by
  have changed : ∀ f : PortState → PortState, (∀ state, switch.port? out = some state →
      f state = state.offer frame) → (switch.modifyPort out f).port? key =
        if out = key then (switch.port? key).map (·.offer frame) else switch.port? key := by
    intro f same
    rw [port?_modifyPort]
    by_cases own : out = key
    · subst own
      rw [if_pos rfl, if_pos rfl]
      cases found : switch.port? out with
      | none => rfl
      | some state => exact congrArg some (same state found)
    · rw [if_neg own, if_neg own]
  cases found : switch.port? out with
  | none =>
    simp only [output, found]
    split
    · next own =>
      rw [← own, found]
      rfl
    · rfl
  | some state =>
    cases peer : state.peer with
    | none =>
      simp only [output, found, peer]
      refine changed _ fun other here => ?_
      cases found.symm.trans here
      simp only [PortState.offer, peer, Option.isSome_none, Bool.false_eq_true, if_false]
    | some line =>
      simp only [output, found, peer]
      refine changed (fun state => { state with
        counters := state.counters.transmit frame.size }) fun other here => ?_
      cases found.symm.trans here
      simp only [PortState.offer, peer, Option.isSome_some, if_true]

/-- **Each port is offered the frames that are meant for it.** -/
theorem port?_transmit (frames : List (Port × Frame)) (switch : Switch) (key : Port) :
    (switch.transmit frames).2.port? key =
      (switch.port? key).map (·.offers (framesFor key frames)) := by
  induction frames generalizing switch with
  | nil => exact Option.map_id'.symm
  | cons out rest ih =>
    obtain ⟨port, frame⟩ := out
    show ((switch.output port frame).2.transmit rest).2.port? key = _
    rw [ih, port?_output, framesFor_cons]
    by_cases own : port = key
    · rw [if_pos own, if_pos own, Option.map_map]
      rfl
    · rw [if_neg own, if_neg own]

/-- Following a verdict offers each port its own frames. -/
theorem port?_conclude (switch : Switch) (verdict : Verdict) (state : ForwardState) (key : Port) :
    (switch.conclude verdict state).switch.port? key =
      (switch.port? key).map (·.offers (verdictFor key verdict)) := by
  cases verdict with
  | error reason => exact Option.map_id'.symm
  | ok frames =>
    exact port?_transmit frames { switch with table := state.table, drawn := state.drawn } key

/-- An arrival changes the port that it comes in by, and no other. -/
theorem port?_countReceived (switch : Switch) (port key : Port) (frame : Frame) :
    (switch.countReceived port frame).port? key =
      if port = key then (switch.port? key).map (·.arrive frame) else switch.port? key :=
  port?_modifyPort switch port key _

/-- Every port after a frame has arrived that is not for the switch itself. -/
theorem port?_receive {switch : Switch} {stream : Choice.Stream} {manager : FabricManager}
    {port : Port} {frame : Frame} (here : (switch.port? port).isSome)
    (other : frame.dst ≠ switch.address) (key : Port) :
    (switch.receive stream manager port frame).switch.port? key =
      (if port = key then (switch.port? key).map (·.arrive frame) else switch.port? key).map
        (·.offers (verdictFor key (switch.judge stream manager port frame).1)) := by
  rw [receive_eq_conclude here other, port?_conclude, port?_countReceived]

/-- Every port after a message has arrived. -/
theorem port?_receiveMessage (switch : Switch) (stream : Choice.Stream) (manager : FabricManager)
    (message : ControlMessage) (key : Port) :
    (switch.receiveMessage stream manager message).switch.port? key =
      (switch.port? key).map
        (·.offers (verdictFor key (Policy.onMessage switch.tier (switch.site stream) message))) :=
  port?_conclude switch _ _ key

/-- A flood has one copy for every lower port, and nothing for others. -/
theorem framesFor_floodLower (site : Site) (frame : Frame) (key : Port) :
    framesFor key (site.floodLower frame) =
      match key with
      | .lower i => if i < site.numLower then [frame] else []
      | .upper _ => [] := by
  rw [Site.floodLower]
  induction site.numLower with
  | zero =>
    cases key with
    | lower i => exact (if_neg (Nat.not_lt_zero i)).symm
    | upper j => rfl
  | succ n ih =>
    rw [List.range_succ, List.map_append, framesFor_append, ih, List.map_cons, List.map_nil,
      framesFor_cons]
    cases key with
    | upper j => rfl
    | lower i =>
      dsimp only
      by_cases last : n = i
      · subst last
        rw [if_neg (Nat.lt_irrefl n), if_pos rfl, if_pos (Nat.lt_succ_self n)]
        rfl
      · have apart : ¬ Port.lower n = .lower i := fun same => last (Port.lower.inj same)
        rw [if_neg apart]
        by_cases within : i < n
        · rw [if_pos within, if_pos (Nat.lt_succ_of_lt within)]
          rfl
        · rw [if_neg within, if_neg (by omega)]
          rfl

end Switch

end PmacFabric
