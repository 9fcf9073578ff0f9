import Mathlib.Probability.Distributions.Uniform
import PmacFabric.Proofs.FatTree.Once
import PmacFabric.Proofs.FatTree.Residents
import PmacFabric.Simulation.Basic

/-!
# Random flows are fair

Two numbers are taken for the ends of a random flow, each from a range. **`Flow.bijOn_pair`**: the
numbers that may be taken and the ordered pairs of different hosts correspond to each other. A range
that were off by one would break that: a flow could lead back to its source, or there would be hosts
that it never reaches, or that it reaches in two ways.

What that means for the flows depends on the generator. From a stream, all lists of flows between
different hosts can be drawn, and no others (`Flow.random?_possible_iff`). With uniform numbers, all
lists of pairs are equally likely (`Flow.random?_uniform`).

**`Simulation.random_flows_fair`** puts this together for the hosts of a fat-tree.
-/

namespace PmacFabric

namespace Flow

/-! ## Two picks and two hosts -/

/-- The ends of a flow. -/
def ends (flow : Flow) : DeviceId × DeviceId := (flow.src, flow.dst)

/-- Ends and data determine a flow. -/
theorem eq_of_ends {flow other : Flow} (same : flow.ends = other.ends)
    (data : flow.data = other.data) : flow = other := by
  obtain ⟨src, dst⟩ := Prod.mk.inj same
  obtain ⟨_, _, _⟩ := flow
  rw [mk.injEq]
  exact ⟨src, dst, data⟩

section Ends

variable {count source distance distance' : Nat}

/-- A destination wraps around once at most. -/
theorem destination_eq (hs : source < count) (hd : distance < count) :
    destination count source distance =
      if source + distance < count then source + distance else source + distance - count := by
  rw [destination]
  split
  · next near => exact Nat.mod_eq_of_lt near
  · next far =>
    rw [Nat.mod_eq_sub_mod (Nat.not_lt.mp far)]
    exact Nat.mod_eq_of_lt (by omega)

/-- A distance that is less than a round leads away from the source. -/
theorem destination_ne (hs : source < count) (away : 1 ≤ distance) (hd : distance < count) :
    destination count source distance ≠ source := by
  rw [destination_eq hs hd]
  split <;> omega

/-- From one source, different distances lead to different destinations. -/
theorem distance_inj (hs : source < count) (hd : distance < count) (hd' : distance' < count)
    (same : destination count source distance = destination count source distance') :
    distance = distance' := by
  rw [destination_eq hs hd, destination_eq hs hd'] at same
  split at same <;> split at same <;> omega

/-- Every other host is at some distance. -/
theorem exists_distance {target : Nat} (hs : source < count) (ht : target < count)
    (other : source ≠ target) :
    ∃ distance, (1 ≤ distance ∧ distance < count) ∧
      destination count source distance = target := by
  refine ⟨if source < target then target - source else target + count - source, ?_, ?_⟩
  · split <;> omega
  · rw [destination_eq hs (by split <;> omega)]
    split <;> split <;> omega

end Ends

/-- Two different hosts of a list. -/
def Apart (hosts : Array DeviceId) (pair : DeviceId × DeviceId) : Prop :=
  pair.1 ∈ hosts ∧ pair.2 ∈ hosts ∧ pair.1 ≠ pair.2

/-- The hosts that two picks stand for. -/
def pair (hosts : Array DeviceId) (picks : Between 0 hosts.size × Between 1 hosts.size) :
    DeviceId × DeviceId :=
  (between hosts picks.1 picks.2 []).ends

section Pairs

variable {hosts : Array DeviceId} (distinct : hosts.toList.Nodup)

include distinct

/-- A host has one index. -/
theorem index_inj {i j : Nat} {hi : i < hosts.size} {hj : j < hosts.size}
    (same : hosts[i] = hosts[j]) : i = j := by
  rw [← Array.getElem_toList, ← Array.getElem_toList] at same
  exact (distinct.getElem_inj_iff).mp same

/-- **The picks and the pairs of different hosts correspond to each other.** -/
theorem bijOn_pair : Set.BijOn (pair hosts) Set.univ {ends | Apart hosts ends} := by
  refine ⟨?_, ?_, ?_⟩
  · rintro ⟨⟨source, -, hs⟩, ⟨distance, away, hd⟩⟩ -
    refine ⟨Array.getElem_mem _, Array.getElem_mem _, fun same => ?_⟩
    exact destination_ne hs away hd (index_inj distinct same).symm
  · rintro ⟨⟨source, _, hs⟩, ⟨distance, hd⟩⟩ - ⟨⟨source', _, hs'⟩, ⟨distance', hd'⟩⟩ - same
    have sources : source = source' := index_inj distinct (congrArg Prod.fst same)
    subst sources
    have targets : destination hosts.size source distance =
        destination hosts.size source distance' := index_inj distinct (congrArg Prod.snd same)
    have distances := distance_inj hs hd.2 hd'.2 targets
    subst distances
    rfl
  · rintro ⟨a, b⟩ ⟨ha, hb, other⟩
    obtain ⟨source, hs, rfl⟩ := Array.getElem_of_mem ha
    obtain ⟨target, ht, rfl⟩ := Array.getElem_of_mem hb
    have apart : source ≠ target := fun same => other (by subst same; rfl)
    obtain ⟨distance, valid, rfl⟩ := exists_distance hs ht apart
    exact ⟨(⟨source, Nat.zero_le _, hs⟩, ⟨distance, valid⟩), Set.mem_univ _, rfl⟩

end Pairs

/-! ## Drawing from a stream -/

/-- What takes its numbers from as many positions each time may be repeated. -/
theorem run_times {α : Type} {action : StateM Nat α} {result : Nat → α} {width : Nat}
    (each : ∀ position, action.run position = (result position, position + width))
    (count position : Nat) :
    ((List.replicate count ()).mapM fun _ => action).run position =
      ((List.range count).map fun i => result (position + i * width),
        position + count * width) := by
  induction count generalizing position with
  | zero =>
    rw [Nat.zero_mul]
    rfl
  | succ count ih =>
    have later : ∀ i, position + (i + 1) * width = position + width + i * width := by
      intro i
      rw [Nat.succ_mul, Nat.add_assoc, Nat.add_comm width]
    simp only [List.replicate_succ, List.mapM_cons, StateT.run_bind, each, ih]
    rw [List.range_succ_eq_map, List.map_cons, List.map_map, Nat.zero_mul]
    simp only [later, Function.comp_def]
    rfl

/-- The flow that is made of the numbers of a sequence. -/
def ofNumbers (hosts : Array DeviceId) (many : 2 ≤ hosts.size) (size : Nat) (number : Nat → Nat) :
    Flow :=
  between hosts (.pick (pos_of_many many) (number 0))
    (.pick many (number 1)) ((List.range size).map fun i => UInt8.ofNat (number (2 + i)))

section Streams

variable {hosts : Array DeviceId} (many : 2 ≤ hosts.size) (stream : Choice.Stream)

/-- A flow takes `size + 2` numbers of a stream: for its source, its destination and its data. -/
theorem run_draw (size position : Nat) :
    (draw (.ofStream stream) hosts many size).run position =
      (ofNumbers hosts many size fun i => stream (position + i), position + (size + 2)) := by
  have each : ∀ position, (Generator.ofStream stream).byte.run position =
      (UInt8.ofNat (stream position), position + 1) := fun _ => rfl
  have bytes := run_times each size (position + 2)
  have shift : ∀ i, position + 2 + i * 1 = position + (2 + i) := fun i => by omega
  simp only [shift, Nat.add_comm 2 size] at bytes
  rw [draw, StateT.run_bind]
  show (StateT.run _ (position + 1) : Id _) = _
  rw [StateT.run_bind]
  show (StateT.run _ (position + 2) : Id _) = _
  rw [StateT.run_bind, bytes]
  rfl

/-- Each flow is made of numbers of its own. -/
theorem random?_ofStream (count size : Nat) :
    ((random? (.ofStream stream) hosts count size).run 0).1 =
      some ((List.range count).map fun i =>
        ofNumbers hosts many size fun j => stream (i * (size + 2) + j)) := by
  have drawn := run_times (run_draw many stream size) count 0
  simp only [Nat.zero_add] at drawn
  rw [random?, dif_pos many, StateT.run_bind, drawn]
  rfl

end Streams

/-- No number is taken where there are too few hosts. -/
theorem random?_few {m : Type → Type} [Monad m] (generator : Generator m)
    {hosts : Array DeviceId} (few : hosts.size < 2) (count size : Nat) :
    random? generator hosts count size = pure none :=
  dif_neg (Nat.not_le.mpr few)

/-! ## Which flows can come about -/

/-- Every number of a range is picked by some number of the stream. -/
theorem pick_sub {low high : Nat} (nonempty : low < high) (number : Between low high) :
    Between.pick nonempty (number.val - low) = number := by
  obtain ⟨number, lower, upper⟩ := number
  refine Subtype.ext ?_
  show low + Choice.below (high - low) (number - low) = number
  rw [Choice.below, Nat.mod_eq_of_lt (by omega), Nat.add_sub_cancel' lower]

section Possible

variable {hosts : Array DeviceId} (many : 2 ≤ hosts.size) {size : Nat}

/-- A flow depends on the numbers it takes only. -/
theorem ofNumbers_congr {number number' : Nat → Nat}
    (same : ∀ i < size + 2, number i = number' i) :
    ofNumbers hosts many size number = ofNumbers hosts many size number' := by
  have data : (List.range size).map (fun i => UInt8.ofNat (number (2 + i))) =
      (List.range size).map fun i => UInt8.ofNat (number' (2 + i)) := by
    refine List.map_congr_left fun i within => ?_
    rw [same _ (by rw [List.mem_range] at within; omega)]
  rw [ofNumbers, ofNumbers, same 0 (by omega), same 1 (by omega), data]

variable (distinct : hosts.toList.Nodup)

include distinct

/-- The ends of a flow are two hosts, whatever the numbers. -/
theorem apart_ofNumbers (number : Nat → Nat) :
    Apart hosts (ofNumbers hosts many size number).ends :=
  (bijOn_pair distinct).mapsTo (Set.mem_univ (_, _))

/-- Every flow between two different hosts is made of some numbers. -/
theorem exists_numbers {flow : Flow} (apart : Apart hosts flow.ends)
    (full : flow.data.length = size) : ∃ number, ofNumbers hosts many size number = flow := by
  obtain ⟨⟨source, distance⟩, -, same⟩ := (bijOn_pair distinct).surjOn apart
  let number : Nat → Nat
    | 0 => source.val
    | 1 => distance.val - 1
    | i + 2 => (flow.data[i]?.getD 0).toNat
  have first : Between.pick (pos_of_many many) (number 0) = source :=
    pick_sub _ source
  have second : Between.pick many (number 1) = distance := pick_sub _ distance
  have data : (List.range size).map (fun i => UInt8.ofNat (number (2 + i))) = flow.data := by
    refine List.ext_getElem (by rw [List.length_map, List.length_range, full]) fun i hi hi' => ?_
    rw [List.getElem_map, List.getElem_range, Nat.add_comm]
    show UInt8.ofNat (flow.data[i]?.getD 0).toNat = flow.data[i]
    rw [UInt8.ofNat_toNat, List.getElem?_eq_getElem hi', Option.getD_some]
  refine ⟨number, eq_of_ends ?_ data⟩
  rw [ofNumbers, first, second]
  exact same

include many

/-- All flows between different hosts, in any number and order, come from some stream. -/
theorem exists_stream {flows : List Flow}
    (each : ∀ flow ∈ flows, Apart hosts flow.ends ∧ flow.data.length = size) :
    ∃ stream, ((random? (.ofStream stream) hosts flows.length size).run 0).1 = some flows := by
  have made : ∀ i : Fin flows.length, ∃ number, ofNumbers hosts many size number = flows[i] :=
    fun i => by
      obtain ⟨apart, full⟩ := each _ (List.getElem_mem i.isLt)
      exact exists_numbers many distinct apart full
  choose numbers made using made
  -- Flow `i` takes its numbers from the `i`-th of the sections that the stream is cut into.
  let stream : Choice.Stream := fun position =>
    if inside : position / (size + 2) < flows.length then
      numbers ⟨_, inside⟩ (position % (size + 2))
    else 0
  refine ⟨stream, ?_⟩
  rw [random?_ofStream many]
  refine congrArg some (List.ext_getElem (by rw [List.length_map, List.length_range]) ?_)
  intro i hi hi'
  rw [List.getElem_map, List.getElem_range, ← Fin.getElem_fin flows ⟨i, hi'⟩, ← made]
  refine ofNumbers_congr many fun j within => ?_
  show (if inside : (i * (size + 2) + j) / (size + 2) < flows.length then
    numbers ⟨_, inside⟩ ((i * (size + 2) + j) % (size + 2)) else 0) = numbers ⟨i, hi'⟩ j
  have part : (i * (size + 2) + j) / (size + 2) = i := FatTree.pod_offset_div within
  have offset : (i * (size + 2) + j) % (size + 2) = j := FatTree.pod_offset_mod within
  simp only [part, offset, hi', dite_true]

/-- **The flows that can come about** are those between different hosts. -/
theorem random?_possible_iff {count : Nat} {flows : List Flow} :
    (∃ stream, ((random? (.ofStream stream) hosts count size).run 0).1 = some flows) ↔
      flows.length = count ∧
        ∀ flow ∈ flows, Apart hosts flow.ends ∧ flow.data.length = size := by
  constructor
  · rintro ⟨stream, drawn⟩
    rw [random?_ofStream many] at drawn
    obtain rfl := Option.some.inj drawn
    refine ⟨by rw [List.length_map, List.length_range], fun flow mem => ?_⟩
    obtain ⟨i, -, rfl⟩ := List.mem_map.mp mem
    exact ⟨apart_ofNumbers many distinct _, by simp [ofNumbers, between]⟩
  · rintro ⟨rfl, each⟩
    exact exists_stream many distinct each

end Possible

end Flow

/-! ## Uniform draws -/

instance (low high : Nat) : Fintype (Between low high) :=
  .subtype (Finset.Ico low high) fun _ => Finset.mem_Ico

/-- A range from `low` to `high` has `high - low` numbers. -/
theorem card_between (low high : Nat) : Fintype.card (Between low high) = high - low :=
  (Fintype.card_of_subtype (Finset.Ico low high) fun _ => Finset.mem_Ico).trans
    (Nat.card_Ico low high)

/-- A range has a number unless it is empty. -/
theorem Between.inhabited {low high : Nat} (nonempty : low < high) : Nonempty (Between low high) :=
  ⟨⟨low, Nat.le_refl low, nonempty⟩⟩

/-- A generator that draws all numbers of a range with the same probability, and bytes with any. -/
noncomputable def Generator.uniform (bytes : PMF UInt8) : Generator PMF where
  range {low high} nonempty :=
    have := Between.inhabited nonempty
    PMF.uniformOfFintype (Between low high)
  byte := bytes

section Probability

open scoped ENNReal

variable {α β γ : Type}

/-- A draw, where the result tells what was drawn. -/
theorem map_apply_of_injective (p : PMF α) {f : α → β} (injective : Function.Injective f) (a : α) :
    p.map f (f a) = p a := by
  rw [PMF.map_apply, tsum_eq_single a, if_pos rfl]
  exact fun other apart => if_neg fun same => apart (injective same).symm

/-- Two draws, where the result tells what was drawn each time. -/
theorem bind_map_apply (p : PMF α) (q : PMF β) {f : α → β → γ} (injective : Function.Injective2 f)
    (a : α) (b : β) : (p.bind fun a => q.map (f a)) (f a b) = p a * q b := by
  have others : ∀ other, other ≠ a → q.map (f other) (f a b) = 0 := by
    intro other apart
    rw [PMF.map_apply, ENNReal.tsum_eq_zero]
    exact fun _ => if_neg fun same => apart (injective same).1.symm
  rw [PMF.bind_apply, tsum_eq_single a fun other apart => by rw [others other apart, mul_zero],
    map_apply_of_injective q (injective.right a)]

/-- Repeated draws are independent of each other. -/
theorem mapM_apply (p : PMF α) (results : List α) :
    ((List.replicate results.length ()).mapM fun _ => p) results = (results.map p).prod := by
  induction results with
  | nil => exact PMF.pure_apply_self _
  | cons first rest ih =>
    have injective : Function.Injective2 (List.cons (α := α)) :=
      fun _ _ _ _ same => List.cons.inj same
    rw [List.length_cons, List.replicate_succ, List.mapM_cons, List.map_cons, List.prod_cons, ← ih]
    exact bind_map_apply p _ injective first rest

/-- What is done to each result may be done when it is drawn. -/
theorem map_mapM {m : Type → Type} [Monad m] [LawfulMonad m] (f : α → β) (action : m α)
    (times : List Unit) :
    List.map f <$> times.mapM (fun _ => action) = times.mapM fun _ => f <$> action := by
  induction times with
  | nil => simp only [List.mapM_nil, map_pure, List.map_nil]
  | cons _ rest ih =>
    simp only [List.mapM_cons, map_bind, map_pure, List.map_cons, bind_map_left, ← ih]

end Probability

namespace Flow

open scoped ENNReal

section Uniform

variable {hosts : Array DeviceId} (many : 2 ≤ hosts.size) (bytes : PMF UInt8) (size : Nat)

/-- Whatever the data, the ends of a flow are those of two picks. -/
theorem map_ends_draw :
    ends <$> draw (.uniform bytes) hosts many size =
      ((Generator.uniform bytes).range (pos_of_many many)).bind fun source =>
        ((Generator.uniform bytes).range many).map fun distance => pair hosts (source, distance) := by
  rw [draw, map_bind]
  refine congrArg (PMF.bind _) (funext fun source => ?_)
  rw [map_bind]
  refine congrArg (PMF.bind _) (funext fun distance => ?_)
  simp only [map_bind, map_pure]
  exact PMF.bind_const ((List.replicate size ()).mapM fun _ => bytes)
    (PMF.pure (pair hosts (source, distance)))

/-- The uniform generator draws each number of a range with the same probability. -/
theorem uniform_apply {low high : Nat} (nonempty : low < high) (number : Between low high) :
    (Generator.uniform bytes).range nonempty number = ((high - low : Nat) : ℝ≥0∞)⁻¹ := by
  have := Between.inhabited nonempty
  rw [← card_between]
  exact PMF.uniformOfFintype_apply number

variable (distinct : hosts.toList.Nodup)

include distinct

/-- **All pairs of different hosts have the same probability.** -/
theorem map_ends_draw_apply {two : DeviceId × DeviceId} (apart : Apart hosts two) :
    (ends <$> draw (.uniform bytes) hosts many size) two =
      ((hosts.size * (hosts.size - 1) : Nat) : ℝ≥0∞)⁻¹ := by
  obtain ⟨⟨source, distance⟩, -, rfl⟩ := (bijOn_pair distinct).surjOn apart
  have injective : Function.Injective2 fun source distance => pair hosts (source, distance) :=
    fun _ _ _ _ same => Prod.mk.inj ((bijOn_pair distinct).injOn trivial trivial same)
  rw [map_ends_draw, bind_map_apply _ _ injective, uniform_apply, uniform_apply, Nat.sub_zero,
    Nat.cast_mul, ENNReal.mul_inv (.inr (ENNReal.natCast_ne_top _)) (.inl (ENNReal.natCast_ne_top _))]

include many

/-- **All sequences of pairs of different hosts have the same probability.** -/
theorem random?_uniform {pairs : List (DeviceId × DeviceId)}
    (apart : ∀ pair ∈ pairs, Apart hosts pair) :
    (Option.map (List.map ends) <$> random? (.uniform bytes) hosts pairs.length size) (some pairs) =
      ((hosts.size * (hosts.size - 1) : Nat) : ℝ≥0∞)⁻¹ ^ pairs.length := by
  have each : pairs.map (ends <$> draw (.uniform bytes) hosts many size) =
      pairs.map fun _ => ((hosts.size * (hosts.size - 1) : Nat) : ℝ≥0∞)⁻¹ :=
    List.map_congr_left fun _ mem => map_ends_draw_apply many bytes size distinct (apart _ mem)
  have drawn : Option.map (List.map ends) <$> random? (.uniform bytes) hosts pairs.length size =
      some <$> (List.replicate pairs.length ()).mapM fun _ =>
        ends <$> draw (.uniform bytes) hosts many size := by
    rw [random?, dif_pos many, ← map_mapM]
    simp only [Option.map_some, map_eq_pure_bind, bind_assoc, pure_bind]
  rw [drawn, PMF.monad_map_eq_map, map_apply_of_injective _ (Option.some_injective _), mapM_apply,
    each, List.map_const', List.prod_replicate]

end Uniform

end Flow

/-! ## Random flows of a fat-tree -/

namespace Simulation

open scoped ENNReal

/-- What is fair about the random flows of a fat-tree that has enough hosts. -/
structure Fair (tree : FatTree) (many : 2 ≤ tree.hosts.length) (count size : Nat) : Prop where
  /-- Each flow is made of the next two numbers, taken from their ranges, and its bytes. -/
  drawn (listing : tree.net.Listing) (stream : Choice.Stream) :
    flows tree listing stream (.run count size) = .ok ((List.range count).map fun i =>
      Flow.ofNumbers tree.hosts.toArray many size fun j => stream (i * (size + 2) + j))
  /-- The numbers that may be taken for the ends stand for all pairs of different hosts, one each. -/
  ends : Set.BijOn (Flow.pair tree.hosts.toArray) Set.univ {ends | Flow.Apart tree.hosts.toArray ends}
  /-- Nothing but flows between different hosts can come about, and all of them can. -/
  possible (listing : tree.net.Listing) (drawn : List Flow) :
    (∃ stream, flows tree listing stream (.run count size) = .ok drawn) ↔
      drawn.length = count ∧ ∀ flow ∈ drawn,
        Flow.Apart tree.hosts.toArray flow.ends ∧ flow.data.length = size
  /-- If the numbers are uniform, so are the pairs, each independent of the others. -/
  uniform (bytes : PMF UInt8) (pairs : List (DeviceId × DeviceId)) : pairs.length = count →
    (∀ pair ∈ pairs, Flow.Apart tree.hosts.toArray pair) →
    (Option.map (List.map Flow.ends) <$>
        Flow.random? (.uniform bytes) tree.hosts.toArray count size) (some pairs) =
      ((tree.hosts.length * (tree.hosts.length - 1) : Nat) : ℝ≥0∞)⁻¹ ^ count

/-- A fat-tree without enough hosts has no flows, and no number is taken to find that out. -/
structure Refused (tree : FatTree) (count size : Nat) : Prop where
  failure (listing : tree.net.Listing) (stream : Choice.Stream) :
    flows tree listing stream (.run count size) = .error .tooFewHosts
  untouched {m : Type → Type} [Monad m] (generator : Generator m) :
    Flow.random? generator tree.hosts.toArray count size = pure none

variable {tree : FatTree}

/-- The flows of a run are those that its stream makes of the hosts of the fat-tree. -/
theorem flows_run {listing : tree.net.Listing} {stream : Choice.Stream} {count size : Nat}
    {drawn : List Flow} : flows tree listing stream (.run count size) = .ok drawn ↔
      ((Flow.random? (.ofStream stream) tree.hosts.toArray count size).run 0).1 = some drawn := by
  rw [flows]
  split
  · next result => rw [result, Except.ok.injEq, Option.some.injEq]
  · next result => simp only [result, reduceCtorEq]

/-- Flows are fair among two or more hosts, if no host is listed twice. -/
theorem fair_of_nodup (distinct : tree.hosts.Nodup) (many : 2 ≤ tree.hosts.length)
    (count size : Nat) : Fair tree many count size where
  drawn _ stream := flows_run.mpr (Flow.random?_ofStream many stream count size)
  ends := Flow.bijOn_pair distinct
  possible _ drawn := by
    simp only [flows_run]
    exact Flow.random?_possible_iff many distinct
  uniform bytes pairs := by
    rintro rfl apart
    exact Flow.random?_uniform many bytes size distinct apart

/-- With one host or none, flows are refused at once. -/
theorem refused_of_few (few : tree.hosts.length < 2) (count size : Nat) :
    Refused tree count size where
  failure _ stream := by
    have few : tree.hosts.toArray.size < 2 := few
    rw [flows, Flow.random?_few _ few]
    rfl
  untouched generator := Flow.random?_few generator few count size

/-- **Random flows are fair.** A fat-tree lists just the hosts at its places, none twice, and what is
drawn is fair to them, whatever its callers did with its network. -/
theorem random_flows_fair (exposed : tree.Exposed) (count size : Nat) :
    (tree.hosts.Nodup ∧ ∀ id, id ∈ tree.hosts ↔ ∃ place, tree.host place = .ok id) ∧
      (∀ many : 2 ≤ tree.hosts.length, Fair tree many count size) ∧
      (tree.hosts.length < 2 → Refused tree count size) := by
  have tenanted := exposed.tenanted
  exact ⟨⟨tenanted.nodup_hosts, fun _ => tenanted.mem_hosts_iff⟩,
    fun many => fair_of_nodup tenanted.nodup_hosts many count size,
    fun few => refused_of_few few count size⟩

/-- Two flows between two hosts go there and back in one case of four, whatever they carry. -/
theorem there_and_back :
    FatTree.completed.hosts = [5, 6] ∧
      (∀ listing, ∃ stream,
        flows FatTree.completed listing stream (.run 2 1) = .ok [⟨5, 6, [7]⟩, ⟨6, 5, [9]⟩]) ∧
      ∀ bytes : PMF UInt8,
        (Option.map (List.map Flow.ends) <$>
          Flow.random? (.uniform bytes) FatTree.completed.hosts.toArray 2 1)
            (some [(5, 6), (6, 5)]) = 4⁻¹ := by
  obtain ⟨tree, built, -⟩ := FatTree.build_ok (k := 2) (by decide) { stopAfter := none } fun _ _ => 0
  have same : tree = FatTree.completed := by
    rw [FatTree.completed, built]
    rfl
  subst same
  have hosts : FatTree.completed.hosts = [5, 6] := by decide +kernel
  obtain ⟨-, fair, -⟩ := random_flows_fair (.of_build built) 2 1
  have fair := fair (by rw [hosts]; decide)
  refine ⟨hosts, fun listing => (fair.possible listing _).mpr ⟨rfl, ?_⟩, fun bytes => ?_⟩
  · rw [hosts]
    simp [Flow.Apart, Flow.ends]
  · rw [fair.uniform bytes [(5, 6), (6, 5)] rfl (by rw [hosts]; simp [Flow.Apart]), hosts,
      ← ENNReal.inv_pow]
    norm_num

end Simulation

end PmacFabric
