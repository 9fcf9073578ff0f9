import PmacFabric.Control.Manager
import PmacFabric.Event.Queue

/-!
# The history of a fabric manager

Switches are added to a fabric manager, send it messages, and have it flood, in any order. A
`History` keeps the calls with their replies, and all events that they enqueued. What the manager
must then know is read off the calls alone: `FirstAdded` is the identity that a switch was first
added with, and `LastRegistered` the PMAC that an address was last registered at by a switch that
had been added by then.

**`history_chronicled`** says that after every sequence of calls the registry and the directory are
just that, that the counters count the calls of each outcome, and what the next message leads to.
-/

namespace PmacFabric

/-- What may be asked of a fabric manager. -/
inductive ManagerCall where
  | addSwitch (id : DeviceId) (identity : SwitchIdentity)
  | receive (sender : DeviceId) (message : ControlMessage)
  | flood (message : ControlMessage) (exclude : DeviceId)

/-- Answers, floods and acknowledgements are for switches only. -/
def ControlMessage.isForSwitch : ControlMessage → Bool
  | .macRegister .. | .arpRequest .. => false
  | .arpResponse .. | .arpFlood .. | .ack => true

namespace FabricManager

/-! ## What calls say about the manager -/

section Calls

variable (calls : List ManagerCall)

/-- The switch has been added. -/
def Known (id : DeviceId) : Prop := ∃ identity, ManagerCall.addSwitch id identity ∈ calls

/-- The switch was first added with the identity. -/
def FirstAdded (id : DeviceId) (identity : SwitchIdentity) : Prop :=
  ∃ i, calls[i]? = some (.addSwitch id identity) ∧ ¬Known (calls.take i) id

/-- The call at an index registers an address, by a switch that had been added before. -/
def RegistersAt (i : Nat) (ip : Ipv4Address) (pmac : Pmac) : Prop :=
  ∃ sender, calls[i]? = some (.receive sender (.macRegister ip pmac)) ∧
    Known (calls.take i) sender

/-- The address was registered at the PMAC, and not registered again afterwards. -/
def LastRegistered (ip : Ipv4Address) (pmac : Pmac) : Prop :=
  ∃ i, RegistersAt calls i ip pmac ∧ ∀ j other, i < j → ¬RegistersAt calls j ip other

end Calls

/-- The reply to a message. -/
abbrev Reply := Except ManagerError ControlMessage

/-- A call with its reply. Only messages are replied to. -/
abbrev Entry := ManagerCall × Option Reply

namespace Entry

/-- A registration that was acknowledged. -/
def isRegistration : Entry → Bool
  | (.receive _ (.macRegister ..), some (.ok _)) => true
  | _ => false

/-- A query that was answered. -/
def isQuery : Entry → Bool
  | (.receive _ (.arpRequest ..), some (.ok _)) => true
  | _ => false

def isRefusal : Entry → Bool
  | (_, some (.error _)) => true
  | _ => false

end Entry

/-- What a call leads to. -/
structure Response where
  reply? : Option Reply
  manager : FabricManager
  events : List Event

def Response.ofAnswer (answer : Answer) : Response :=
  ⟨some answer.reply, answer.manager, answer.events⟩

def serve (manager : FabricManager) : ManagerCall → Response
  | .addSwitch id identity => ⟨none, manager.addSwitch id identity, []⟩
  | .receive sender message => .ofAnswer (manager.receive sender message)
  | .flood message exclude =>
    let (events, manager) := manager.flood message exclude
    ⟨none, manager, events⟩

/-- A fabric manager and the queue that it adds to, with all calls and replies so far, and all
events that it ever enqueued. -/
structure History where
  manager : FabricManager := .empty
  queue : EventQueue
  log : List Entry := []
  enqueued : List Event := []

namespace History

/-- The calls so far. -/
def calls (history : History) : List ManagerCall := history.log.map Prod.fst

def perform (history : History) (call : ManagerCall) : History :=
  let response := history.manager.serve call
  { manager := response.manager
    queue := history.queue.pushAll response.events
    log := history.log ++ [(call, response.reply?)]
    enqueued := history.enqueued ++ response.events }

def performAll (history : History) (calls : List ManagerCall) : History :=
  calls.foldl perform history

end History

/-! ## One more call -/

section Calls

variable {calls : List ManagerCall} {call : ManagerCall}

/-- A switch is known after a call if it was known before, or the call adds it. -/
theorem known_snoc {id : DeviceId} :
    Known (calls ++ [call]) id ↔ Known calls id ∨ ∃ identity, call = .addSwitch id identity := by
  simp only [Known, List.mem_append, List.mem_singleton, exists_or, eq_comm]

/-- An index of a longer list of calls is an old one, or that of the last call. -/
theorem getElem?_snoc {i : Nat} {found : ManagerCall} :
    (calls ++ [call])[i]? = some found ↔
      calls[i]? = some found ∨ i = calls.length ∧ call = found := by
  rcases Nat.lt_trichotomy i calls.length with old | rfl | beyond
  · rw [List.getElem?_append_left old]
    exact ⟨.inl, fun h => h.resolve_right fun last => Nat.ne_of_lt old last.1⟩
  · rw [List.getElem?_concat_length, List.getElem?_eq_none (Nat.le_refl _), Option.some.injEq]
    simp
  · rw [List.getElem?_eq_none, List.getElem?_eq_none (Nat.le_of_lt beyond)]
    · simp [Nat.ne_of_gt beyond]
    · rw [List.length_append, List.length_singleton]
      exact beyond

/-- A later call changes nothing about earlier times. -/
theorem take_snoc (call : ManagerCall) {i : Nat} (old : i ≤ calls.length) :
    (calls ++ [call]).take i = calls.take i :=
  List.take_append_of_le_length old

theorem le_of_getElem?_eq_some {i : Nat} {found : ManagerCall} (found : calls[i]? = some found) :
    i ≤ calls.length :=
  Nat.le_of_lt (List.getElem?_eq_some_iff.mp found).1

/-- Only the first addition of a switch gives it its identity. -/
theorem firstAdded_snoc {id : DeviceId} {identity : SwitchIdentity} :
    FirstAdded (calls ++ [call]) id identity ↔
      FirstAdded calls id identity ∨ call = .addSwitch id identity ∧ ¬Known calls id := by
  simp only [FirstAdded, getElem?_snoc]
  constructor
  · rintro ⟨i, old | ⟨rfl, rfl⟩, first⟩
    · rw [take_snoc _ (le_of_getElem?_eq_some old)] at first
      exact .inl ⟨i, old, first⟩
    · rw [take_snoc _ (Nat.le_refl _), List.take_length] at first
      exact .inr ⟨rfl, first⟩
  · rintro (⟨i, old, first⟩ | ⟨rfl, first⟩)
    · rw [← take_snoc call (le_of_getElem?_eq_some old)] at first
      exact ⟨i, .inl old, first⟩
    · refine ⟨calls.length, .inr ⟨rfl, rfl⟩, ?_⟩
      rwa [take_snoc _ (Nat.le_refl _), List.take_length]

/-- A call registers an address, after the calls before it. -/
def Registers (calls : List ManagerCall) (call : ManagerCall) (ip : Ipv4Address) (pmac : Pmac) :
    Prop :=
  ∃ sender, call = .receive sender (.macRegister ip pmac) ∧ Known calls sender

/-- A further call may register an address, and earlier ones still do what they did. -/
theorem registersAt_snoc {i : Nat} {ip : Ipv4Address} {pmac : Pmac} :
    RegistersAt (calls ++ [call]) i ip pmac ↔
      RegistersAt calls i ip pmac ∨ i = calls.length ∧ Registers calls call ip pmac := by
  simp only [RegistersAt, Registers, getElem?_snoc]
  constructor
  · rintro ⟨sender, old | ⟨rfl, rfl⟩, known⟩
    · rw [take_snoc _ (le_of_getElem?_eq_some old)] at known
      exact .inl ⟨sender, old, known⟩
    · rw [take_snoc _ (Nat.le_refl _), List.take_length] at known
      exact .inr ⟨rfl, sender, rfl, known⟩
  · rintro (⟨sender, old, known⟩ | ⟨rfl, sender, rfl, known⟩)
    · rw [← take_snoc call (le_of_getElem?_eq_some old)] at known
      exact ⟨sender, .inl old, known⟩
    · refine ⟨sender, .inr ⟨rfl, rfl⟩, ?_⟩
      rwa [take_snoc _ (Nat.le_refl _), List.take_length]

/-- Only calls that were made register anything. -/
theorem RegistersAt.lt {i : Nat} {ip : Ipv4Address} {pmac : Pmac}
    (registers : RegistersAt calls i ip pmac) : i < calls.length := by
  obtain ⟨sender, found, -⟩ := registers
  exact (List.getElem?_eq_some_iff.mp found).1

/-- A registration is the last one of its address. -/
theorem lastRegistered_snoc_of_registers {ip : Ipv4Address} {pmac other : Pmac}
    (registers : Registers calls call ip pmac) :
    LastRegistered (calls ++ [call]) ip other ↔ other = pmac := by
  have here : RegistersAt (calls ++ [call]) calls.length ip pmac :=
    registersAt_snoc.mpr (.inr ⟨rfl, registers⟩)
  constructor
  · rintro ⟨i, found, last⟩
    rcases registersAt_snoc.mp found with old | ⟨-, sender, rfl, -⟩
    · exact absurd here (last _ _ old.lt)
    · obtain ⟨_, same, -⟩ := registers
      cases same
      rfl
  · rintro rfl
    refine ⟨_, here, fun j other later found => ?_⟩
    have := found.lt
    rw [List.length_append, List.length_singleton] at this
    omega

/-- A call that does not register an address leaves its last registration. -/
theorem lastRegistered_snoc_of_not_registers {ip : Ipv4Address} {pmac : Pmac}
    (silent : ∀ other, ¬Registers calls call ip other) :
    LastRegistered (calls ++ [call]) ip pmac ↔ LastRegistered calls ip pmac := by
  have same : ∀ i other, RegistersAt (calls ++ [call]) i ip other ↔ RegistersAt calls i ip other :=
    fun i other =>
      registersAt_snoc.trans ⟨fun h => h.resolve_right fun last => silent other last.2, .inl⟩
  simp only [LastRegistered, same]

end Calls

/-! ## What a call does -/

/-- What a flood enqueues: the message for every core switch but one, by increasing number. -/
def floodEvents (manager : FabricManager) (message : ControlMessage) (exclude : DeviceId) :
    List Event :=
  (manager.floodRecipients exclude).map fun id => .control id message

/-- All that a call may lead to, each with its condition. -/
inductive Serves (manager : FabricManager) : ManagerCall → Response → Prop
  | added (id : DeviceId) (identity : SwitchIdentity) :
    Serves manager (.addSwitch id identity) ⟨none, manager.addSwitch id identity, []⟩
  | unknown (sender : DeviceId) (message : ControlMessage)
    (unknown : manager.switches.contains sender = false) :
    Serves manager (.receive sender message) (.ofAnswer (manager.refuse (.unknownSwitch sender)))
  | unexpected (sender : DeviceId) (message : ControlMessage)
    (known : manager.switches.contains sender = true) (forSwitch : message.isForSwitch = true) :
    Serves manager (.receive sender message)
      (.ofAnswer (manager.refuse (.unexpectedMessage message)))
  | registered (sender : DeviceId) (ip : Ipv4Address) (pmac : Pmac)
    (known : manager.switches.contains sender = true) :
    Serves manager (.receive sender (.macRegister ip pmac)) (.ofAnswer (manager.register ip pmac))
  | hit (sender : DeviceId) (srcIp : Ipv4Address) (srcPmac : Pmac) (dstIp : Ipv4Address)
    (pmac : Pmac) (known : manager.switches.contains sender = true)
    (listed : manager.directory[dstIp]? = some pmac) :
    Serves manager (.receive sender (.arpRequest srcIp srcPmac dstIp))
      { reply? := some (.ok (.arpResponse srcIp srcPmac dstIp pmac))
        manager :=
          { manager with
            counters :=
              { manager.counters with
                queries := manager.counters.queries + 1
                hits := manager.counters.hits + 1 } }
        events := [] }
  | miss (sender : DeviceId) (srcIp : Ipv4Address) (srcPmac : Pmac) (dstIp : Ipv4Address)
    (known : manager.switches.contains sender = true)
    (unlisted : manager.directory[dstIp]? = none) :
    Serves manager (.receive sender (.arpRequest srcIp srcPmac dstIp))
      { reply? := some (.ok (.arpResponse srcIp srcPmac dstIp .broadcast))
        manager :=
          { manager with
            counters :=
              { manager.counters with
                queries := manager.counters.queries + 1
                misses := manager.counters.misses + 1
                floods := manager.counters.floods +
                  (manager.floodEvents (.arpFlood dstIp srcIp srcPmac) sender).length } }
        events := manager.floodEvents (.arpFlood dstIp srcIp srcPmac) sender }
  | flooded (message : ControlMessage) (exclude : DeviceId) :
    Serves manager (.flood message exclude)
      { reply? := none
        manager :=
          { manager with
            counters :=
              { manager.counters with
                floods := manager.counters.floods +
                  (manager.floodEvents message exclude).length } }
        events := manager.floodEvents message exclude }

/-- Every call is served in one of these ways. -/
theorem serves (manager : FabricManager) (call : ManagerCall) :
    Serves manager call (manager.serve call) := by
  cases call with
  | addSwitch id identity => exact .added id identity
  | flood message exclude => exact .flooded message exclude
  | receive sender message =>
    rw [serve]
    cases member : manager.switches.contains sender with
    | false =>
      have refused : manager.receive sender message = manager.refuse (.unknownSwitch sender) :=
        if_neg (Bool.eq_false_iff.mp member)
      rw [refused]
      exact .unknown sender message member
    | true =>
      unfold receive
      rw [if_pos member]
      cases message with
      | macRegister ip pmac => exact .registered sender ip pmac member
      | arpRequest srcIp srcPmac dstIp =>
        cases listed : manager.directory[dstIp]? with
        | some pmac =>
          simp only [resolve, listed]
          exact .hit sender srcIp srcPmac dstIp pmac member listed
        | none =>
          simp only [resolve, listed]
          exact .miss sender srcIp srcPmac dstIp member listed
      | arpResponse | arpFlood | ack => exact .unexpected sender _ member rfl

/-- A flood reaches core switches by increasing number, and none twice. -/
theorem pairwise_floodRecipients (manager : FabricManager) (exclude : DeviceId) :
    (manager.floodRecipients exclude).Pairwise (· < ·) :=
  List.pairwise_map.mpr
    ((List.Pairwise.filter _ Std.TreeMap.ordered_keys_toList).imp Nat.compare_eq_lt.mp)

/-- A flood reaches every core switch of the registry, except for one. -/
theorem mem_floodRecipients_iff {manager : FabricManager} {exclude id : DeviceId} :
    id ∈ manager.floodRecipients exclude ↔
      id ≠ exclude ∧ ∃ identity, manager.switchIdentity? id = some identity ∧
        identity.tier = .core := by
  simp only [floodRecipients, List.mem_map, List.mem_filter, Bool.and_eq_true, decide_eq_true_eq,
    bne_iff_ne, switchIdentity?]
  constructor
  · rintro ⟨⟨id, identity⟩, ⟨listed, tier, other⟩, rfl⟩
    exact ⟨other, identity, Std.TreeMap.mem_toList_iff_getElem?_eq_some.mp listed, tier⟩
  · rintro ⟨other, identity, listed, tier⟩
    rw [← Std.TreeMap.mem_toList_iff_getElem?_eq_some] at listed
    exact ⟨(id, identity), ⟨listed, tier, other⟩, rfl⟩

/-- An event that has a core switch of the registry flood. -/
def AsksCore (manager : FabricManager) (event : Event) : Prop :=
  ∃ id identity dst src srcPmac, event = .control id (.arpFlood dst src srcPmac) ∧
    manager.switchIdentity? id = some identity ∧ identity.tier = .core

/-- All that a flood raises are questions to core switches. -/
theorem asksCore_of_mem_floodEvents {manager : FabricManager} {exclude : DeviceId}
    {dst src : Ipv4Address} {srcPmac : Pmac} {event : Event}
    (mem : event ∈ manager.floodEvents (.arpFlood dst src srcPmac) exclude) :
    manager.AsksCore event := by
  obtain ⟨id, recipient, rfl⟩ := List.mem_map.mp mem
  obtain ⟨-, identity, listed, core⟩ := mem_floodRecipients_iff.mp recipient
  exact ⟨id, identity, dst, src, srcPmac, rfl, listed, core⟩

/-- Only an addition changes the registry. -/
theorem switches_of_serves {manager : FabricManager} {call : ManagerCall} {response : Response}
    (serves : Serves manager call response)
    (silent : ∀ id identity, call ≠ .addSwitch id identity) :
    response.manager.switches = manager.switches := by
  cases serves with
  | added id identity => exact absurd rfl (silent id identity)
  | unknown | unexpected | registered | hit | miss | flooded => rfl

section Messages

variable (manager : FabricManager) (sender : DeviceId)

/-- No message changes the registry. -/
theorem switches_receive (message : ControlMessage) :
    (manager.receive sender message).manager.switches = manager.switches :=
  switches_of_serves (serves manager (.receive sender message)) (by simp)

/-- A registration raises no event. -/
theorem events_receive_macRegister (ip : Ipv4Address) (pmac : Pmac) :
    (manager.receive sender (.macRegister ip pmac)).events = [] := by
  have served := serves manager (.receive sender (.macRegister ip pmac))
  change (manager.serve (.receive sender (.macRegister ip pmac))).events = []
  generalize manager.serve _ = response at served
  cases served <;> rfl

/-- A query has events raised only where the answer is the broadcast address. -/
theorem events_receive_arpRequest (srcIp : Ipv4Address) (srcPmac : Pmac) (dstIp : Ipv4Address) :
    (manager.receive sender (.arpRequest srcIp srcPmac dstIp)).events = [] ∨
      (manager.receive sender (.arpRequest srcIp srcPmac dstIp)).reply =
          .ok (.arpResponse srcIp srcPmac dstIp .broadcast) ∧
        ∀ event ∈ (manager.receive sender (.arpRequest srcIp srcPmac dstIp)).events,
          manager.AsksCore event := by
  have served := serves manager (.receive sender (.arpRequest srcIp srcPmac dstIp))
  rw [serve] at served
  generalize manager.receive sender _ = answer at served
  obtain ⟨reply, after, events⟩ := answer
  cases served with
  | unknown | unexpected | hit => exact .inl rfl
  | miss => exact .inr ⟨rfl, fun event mem => asksCore_of_mem_floodEvents mem⟩

end Messages

/-! ## What a history keeps -/

/-- A fabric manager knows just what its calls say, and has counted them. -/
structure Recorded (start : EventQueue) (history : History) : Prop where
  known : ∀ id, history.manager.switches.contains id = true ↔ Known history.calls id
  registry : ∀ id identity,
    history.manager.switchIdentity? id = some identity ↔ FirstAdded history.calls id identity
  directory : ∀ ip pmac,
    history.manager.directory[ip]? = some pmac ↔ LastRegistered history.calls ip pmac
  registrations : history.manager.counters.registrations = history.log.countP Entry.isRegistration
  queries : history.manager.counters.queries = history.log.countP Entry.isQuery
  answered : history.manager.counters.queries =
    history.manager.counters.hits + history.manager.counters.misses
  floods : history.manager.counters.floods = history.enqueued.length
  rejected : history.manager.counters.rejected = history.log.countP Entry.isRefusal
  /-- Only floods are enqueued, behind all that waited. -/
  queue : history.queue.toList = start.toList ++ history.enqueued

section Keeping

variable {start : EventQueue} {history : History}

/-- A call is recorded, whatever becomes of it. -/
theorem History.calls_perform (history : History) (call : ManagerCall) :
    (history.perform call).calls = history.calls ++ [call] :=
  List.map_append

/-- After a further call the registry still has just the switches that were added. -/
theorem Recorded.known_perform (recorded : Recorded start history) (call : ManagerCall)
    (id : DeviceId) :
    (history.perform call).manager.switches.contains id = true ↔
      Known (history.perform call).calls id := by
  rw [History.calls_perform, known_snoc, ← recorded.known]
  cases call with
  | addSwitch added identity =>
    change (history.manager.switches.insertIfNew added identity).contains id = true ↔ _
    rw [Std.TreeMap.contains_insertIfNew]
    simp [or_comm]
  | receive | flood =>
    rw [History.perform, switches_of_serves (serves _ _) (by simp)]
    simp

/-- After a further call each switch still has the identity that it was first added with. -/
theorem Recorded.registry_perform (recorded : Recorded start history) (call : ManagerCall)
    (id : DeviceId) (identity : SwitchIdentity) :
    (history.perform call).manager.switchIdentity? id = some identity ↔
      FirstAdded (history.perform call).calls id identity := by
  rw [History.calls_perform, firstAdded_snoc, ← recorded.registry, ← recorded.known]
  cases call with
  | addSwitch added given =>
    change (history.manager.switches.insertIfNew added given)[id]? = _ ↔ _
    rw [Std.TreeMap.getElem?_insertIfNew, Std.TreeMap.contains_eq_isSome_getElem?]
    simp only [switchIdentity?, Std.LawfulEqOrd.compare_eq_iff_eq,
      Std.TreeMap.mem_iff_isSome_getElem?]
    by_cases same : added = id
    · subst same
      cases listed : history.manager.switches[added]? <;> simp
    · simp [same]
  | receive | flood =>
    rw [History.perform, switchIdentity?, switches_of_serves (serves _ _) (by simp)]
    simp [switchIdentity?]

/-- After a further call the directory still has the last registration of each address. -/
theorem Recorded.directory_perform (recorded : Recorded start history) (call : ManagerCall)
    (ip : Ipv4Address) (pmac : Pmac) :
    (history.perform call).manager.directory[ip]? = some pmac ↔
      LastRegistered (history.perform call).calls ip pmac := by
  rw [History.calls_perform]
  by_cases registers : ∃ given, Registers history.calls call ip given
  · obtain ⟨given, registers⟩ := registers
    rw [lastRegistered_snoc_of_registers registers]
    obtain ⟨sender, rfl, known⟩ := registers
    rw [← recorded.known] at known
    have served : (history.perform (.receive sender (.macRegister ip given))).manager.directory =
        history.manager.directory.insert ip given := by
      simp only [History.perform, serve, receive, if_pos known]
      rfl
    rw [served, Std.TreeMap.getElem?_insert_self, Option.some.injEq, eq_comm]
  · have silent : ∀ given, ¬Registers history.calls call ip given :=
      fun given registered => registers ⟨given, registered⟩
    rw [lastRegistered_snoc_of_not_registers silent, ← recorded.directory]
    have kept : (history.perform call).manager.directory[ip]? = history.manager.directory[ip]? := by
      have served := serves history.manager call
      rw [History.perform]
      generalize history.manager.serve call = response at served
      cases served with
      | registered sender other given known =>
        have distinct : other ≠ ip := by
          rintro rfl
          exact silent given ⟨sender, rfl, (recorded.known sender).mp known⟩
        exact (Std.TreeMap.getElem?_insert ..).trans
          (if_neg fun same => distinct (Std.LawfulEqOrd.compare_eq_iff_eq.mp same))
      | added | unknown | unexpected | hit | miss | flooded => rfl
    rw [kept]

/-- What a call adds to the counters. -/
structure Counted (before : ManagerCounters) (entry : Entry) (events : List Event)
    (after : ManagerCounters) : Prop where
  registrations :
    after.registrations = before.registrations + [entry].countP Entry.isRegistration
  queries : after.queries = before.queries + [entry].countP Entry.isQuery
  answered : after.queries + (before.hits + before.misses) =
    before.queries + (after.hits + after.misses)
  floods : after.floods = before.floods + events.length
  rejected : after.rejected = before.rejected + [entry].countP Entry.isRefusal

/-- Each way of serving a call counts what `Counted` says. -/
theorem counted_of_serves {manager : FabricManager} {call : ManagerCall} {response : Response}
    (serves : Serves manager call response) :
    Counted manager.counters (call, response.reply?) response.events response.manager.counters := by
  cases serves with
  | added | registered | flooded => exact ⟨rfl, rfl, rfl, rfl, rfl⟩
  | unknown sender message => cases message <;> exact ⟨rfl, rfl, rfl, rfl, rfl⟩
  | unexpected sender message known forSwitch =>
    cases message <;> exact ⟨rfl, rfl, rfl, rfl, rfl⟩
  | hit | miss =>
    refine ⟨rfl, rfl, ?_, rfl, rfl⟩
    dsimp only
    omega

/-- **One more call keeps the record.** -/
theorem Recorded.perform (recorded : Recorded start history) (call : ManagerCall) :
    Recorded start (history.perform call) := by
  have counted := counted_of_serves (serves history.manager call)
  exact
    { known := recorded.known_perform call
      registry := recorded.registry_perform call
      directory := recorded.directory_perform call
      registrations := by
        rw [History.perform, counted.registrations, recorded.registrations, List.countP_append]
      queries := by rw [History.perform, counted.queries, recorded.queries, List.countP_append]
      answered := by
        have := counted.answered
        have := recorded.answered
        simp only [History.perform]
        omega
      floods := by rw [History.perform, counted.floods, recorded.floods, List.length_append]
      rejected := by rw [History.perform, counted.rejected, recorded.rejected, List.countP_append]
      queue := by
        rw [History.perform, EventQueue.toList_pushAll, recorded.queue, List.append_assoc] }

/-- **Any sequence of calls keeps the record.** -/
theorem Recorded.performAll (recorded : Recorded start history) (calls : List ManagerCall) :
    Recorded start (history.performAll calls) := by
  induction calls generalizing history with
  | nil => exact recorded
  | cons call rest ih => exact ih (recorded.perform call)

end Keeping

/-- A new fabric manager has nothing to record. -/
theorem recorded_new (queue : EventQueue) : Recorded queue { queue } where
  known id := by
    change (∅ : Std.TreeMap DeviceId SwitchIdentity).contains id = true ↔ ∃ _, _ ∈ []
    simp
  registry id identity := by
    change (∅ : Std.TreeMap DeviceId SwitchIdentity)[id]? = _ ↔ ∃ i, ([] : List _)[i]? = _ ∧ _
    simp
  directory ip pmac := by
    change (∅ : Std.TreeMap Ipv4Address Pmac)[ip]? = _ ↔
      ∃ i, (∃ _, ([] : List _)[i]? = _ ∧ _) ∧ _
    simp
  registrations := rfl
  queries := rfl
  answered := rfl
  floods := rfl
  rejected := rfl
  queue := (List.append_nil _).symm

/-! ## What is promised -/

section Promises

variable {start : EventQueue} {history : History}

/-- An address is registered if some known switch registered it. -/
theorem Recorded.isRegistered_iff (recorded : Recorded start history) (ip : Ipv4Address) :
    history.manager.isRegistered ip = true ↔ ∃ pmac, LastRegistered history.calls ip pmac := by
  simp only [isRegistered, Std.TreeMap.contains_eq_isSome_getElem?, Option.isSome_iff_exists,
    recorded.directory]

/-- A registered address is looked up at its last PMAC. -/
theorem Recorded.pmacFor_of_registered (recorded : Recorded start history) {ip : Ipv4Address}
    {pmac : Pmac} (registered : LastRegistered history.calls ip pmac) :
    history.manager.pmacFor ip = pmac := by
  rw [pmacFor, (recorded.directory ip pmac).mpr registered, Option.getD_some]

/-- An address that nobody registered is looked up as the broadcast address. -/
theorem pmacFor_of_not_registered {manager : FabricManager} {ip : Ipv4Address}
    (absent : manager.isRegistered ip = false) : manager.pmacFor ip = .broadcast := by
  rw [isRegistered, Std.TreeMap.contains_eq_isSome_getElem?, Option.isSome_eq_false_iff,
    Option.isNone_iff_eq_none] at absent
  rw [pmacFor, absent, Option.getD_none]

/-- A flood reaches the switches that were first added as core switches, except for one. -/
theorem Recorded.mem_floodRecipients (recorded : Recorded start history) (exclude id : DeviceId) :
    id ∈ history.manager.floodRecipients exclude ↔
      id ≠ exclude ∧ ∃ identity, FirstAdded history.calls id identity ∧ identity.tier = .core := by
  simp only [mem_floodRecipients_iff, recorded.registry]

end Promises

/-- What a query leads to: the answer of the directory, and a flood for an address that is not
registered. -/
structure Queried (history : History) (sender : DeviceId) (srcIp : Ipv4Address) (srcPmac : Pmac)
    (dstIp : Ipv4Address) (next : History) : Prop where
  reply : next.log = history.log ++
    [(.receive sender (.arpRequest srcIp srcPmac dstIp),
      some (.ok (.arpResponse srcIp srcPmac dstIp (history.manager.pmacFor dstIp))))]
  hit : history.manager.isRegistered dstIp = true → next.queue = history.queue
  /-- One message for every other core switch that was added, by increasing number. -/
  miss : history.manager.isRegistered dstIp = false → ∃ cores : List DeviceId,
    cores.Pairwise (· < ·) ∧
    (∀ id, id ∈ cores ↔
      id ≠ sender ∧ ∃ identity, FirstAdded history.calls id identity ∧ identity.tier = .core) ∧
    next.queue.toList =
      history.queue.toList ++ cores.map fun id => .control id (.arpFlood dstIp srcIp srcPmac)

/-- What becomes of a history by a refused message: one is counted. -/
structure Rejected (history next : History) : Prop where
  directory : next.manager.directory = history.manager.directory
  switches : next.manager.switches = history.manager.switches
  queue : next.queue = history.queue
  counters : next.manager.counters =
    { history.manager.counters with rejected := history.manager.counters.rejected + 1 }

/-- **What a history promises**: for its past, and for whatever message comes next. -/
structure Chronicled (start : EventQueue) (history : History) : Prop
    extends Recorded start history where
  isRegistered : ∀ ip,
    history.manager.isRegistered ip = true ↔ ∃ pmac, LastRegistered history.calls ip pmac
  pmacFor : ∀ ip pmac, LastRegistered history.calls ip pmac → history.manager.pmacFor ip = pmac
  pmacFor_unknown : ∀ ip, (∀ pmac, ¬LastRegistered history.calls ip pmac) →
    history.manager.pmacFor ip = .broadcast
  queried : ∀ sender srcIp srcPmac dstIp, Known history.calls sender →
    Queried history sender srcIp srcPmac dstIp
      (history.perform (.receive sender (.arpRequest srcIp srcPmac dstIp)))
  /-- A sender that was not added is refused whatever it says. -/
  refused : ∀ sender message e, (history.manager.receive sender message).reply = .error e ↔
    ¬Known history.calls sender ∧ e = .unknownSwitch sender ∨
      Known history.calls sender ∧ message.isForSwitch = true ∧ e = .unexpectedMessage message
  harmless : ∀ sender message e, (history.manager.receive sender message).reply = .error e →
    Rejected history (history.perform (.receive sender message))

section Promises

variable {start : EventQueue} {history : History}

/-- A query of a known switch is answered, and counted as a hit or as a miss. -/
theorem Recorded.queried (recorded : Recorded start history) {sender : DeviceId}
    (srcIp : Ipv4Address) (srcPmac : Pmac) (dstIp : Ipv4Address)
    (known : Known history.calls sender) :
    Queried history sender srcIp srcPmac dstIp
      (history.perform (.receive sender (.arpRequest srcIp srcPmac dstIp))) := by
  have served := serves history.manager (.receive sender (.arpRequest srcIp srcPmac dstIp))
  rw [← recorded.known] at known
  rw [History.perform]
  generalize history.manager.serve _ = response at served
  cases served with
  | unknown _ _ unknown => exact absurd known (Bool.eq_false_iff.mp unknown)
  | unexpected _ _ _ forSwitch => cases forSwitch
  | hit _ _ _ _ pmac _ listed =>
    have member : history.manager.isRegistered dstIp = true := by
      rw [isRegistered, Std.TreeMap.contains_eq_isSome_getElem?, listed, Option.isSome_some]
    refine ⟨?_, fun _ => rfl, fun absent => ?_⟩
    · rw [FabricManager.pmacFor, listed, Option.getD_some]
    · cases member.symm.trans absent
  | miss _ _ _ _ _ unlisted =>
    have absent : history.manager.isRegistered dstIp = false := by
      rw [isRegistered, Std.TreeMap.contains_eq_isSome_getElem?, unlisted, Option.isSome_none]
    refine ⟨?_, fun member => ?_, fun _ => ?_⟩
    · rw [pmacFor_of_not_registered absent]
    · cases member.symm.trans absent
    · exact ⟨_, pairwise_floodRecipients _ _, recorded.mem_floodRecipients sender,
        EventQueue.toList_pushAll _ _⟩

/-- Just unknown senders and messages for switches are refused, for the sender first. -/
theorem Recorded.refused_iff (recorded : Recorded start history) (sender : DeviceId)
    (message : ControlMessage) (e : ManagerError) :
    (history.manager.receive sender message).reply = .error e ↔
      ¬Known history.calls sender ∧ e = .unknownSwitch sender ∨
        Known history.calls sender ∧ message.isForSwitch = true ∧
          e = .unexpectedMessage message := by
  have served := serves history.manager (.receive sender message)
  have reply : (history.manager.serve (.receive sender message)).reply? =
      some (history.manager.receive sender message).reply := rfl
  rw [← recorded.known, ← Option.some_inj, ← reply]
  generalize history.manager.serve _ = response at served
  cases served with
  | unknown _ _ unknown =>
    simp only [unknown, Response.ofAnswer, refuse, Option.some_inj, Except.error.injEq]
    rw [eq_comm]
    simp
  | unexpected _ _ known forSwitch =>
    simp only [known, forSwitch, Response.ofAnswer, refuse, Option.some_inj, Except.error.injEq]
    rw [eq_comm]
    simp
  | registered _ _ _ known =>
    simp [known, ControlMessage.isForSwitch, Response.ofAnswer, register]
  | hit _ _ _ _ _ known | miss _ _ _ _ known => simp [known, ControlMessage.isForSwitch]

/-- A refusal is counted and changes nothing else. -/
theorem rejected_of_error {sender : DeviceId} {message : ControlMessage} {e : ManagerError}
    (refused : (history.manager.receive sender message).reply = .error e) :
    Rejected history (history.perform (.receive sender message)) := by
  have served := serves history.manager (.receive sender message)
  have reply : (history.manager.serve (.receive sender message)).reply? = some (.error e) :=
    congrArg some refused
  rw [History.perform]
  generalize history.manager.serve _ = response at served reply
  cases served with
  | unknown | unexpected => exact ⟨rfl, rfl, rfl, rfl⟩
  | registered | hit | miss => cases reply

/-- What is recorded about a history makes it chronicled. -/
theorem Recorded.chronicled (recorded : Recorded start history) : Chronicled start history where
  toRecorded := recorded
  isRegistered := recorded.isRegistered_iff
  pmacFor _ _ := recorded.pmacFor_of_registered
  pmacFor_unknown ip nowhere := by
    refine pmacFor_of_not_registered (Bool.eq_false_iff.mpr fun member => ?_)
    obtain ⟨pmac, registered⟩ := (recorded.isRegistered_iff ip).mp member
    exact nowhere pmac registered
  queried _ srcIp srcPmac dstIp := recorded.queried srcIp srcPmac dstIp
  refused := recorded.refused_iff
  harmless _ _ _ := rejected_of_error

end Promises

/-- **A fabric manager knows what it was told, and counts what it does.** After every sequence of
calls on a new manager the registry holds the first identity of each switch that was added, the
directory holds the last registration of each address by a switch known at that time, and the
counters are those of the calls. The next query is answered from the directory or causes one flood,
and the next message is refused just if its sender is not known or its kind is for switches; then
nothing but a counter changes. -/
theorem history_chronicled (queue : EventQueue) (calls : List ManagerCall) :
    Chronicled queue (History.performAll { queue } calls) :=
  ((recorded_new queue).performAll calls).chronicled

end FabricManager

end PmacFabric
