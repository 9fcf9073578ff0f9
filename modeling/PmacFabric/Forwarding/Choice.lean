/-!
# Choices of upper ports

Wherever a frame may go up through any of several ports, a number is drawn. The numbers come from a
**stream**: a function from the position in the stream to the number there. Nothing else in the
fabric depends on how a stream was made, so every stream is a possible behaviour. `Choice.seeded`
makes the streams of a run from its seed: it spreads evenly over small ranges, repeats for equal
seeds and differs for others.
-/

namespace PmacFabric.Choice

/-- The numbers that one device draws, in order. -/
abbrev Stream := Nat → Nat

/-- The choice among `count` alternatives that a number stands for. -/
def below (count number : Nat) : Nat := number % count

/-- Whatever number is drawn, the pick is within the range. -/
theorem below_lt {count : Nat} (number : Nat) (positive : 0 < count) :
    below count number < count :=
  Nat.mod_lt number positive

/-- Mixes the bits of a word; a bijection in which every input bit reaches every output bit. -/
def mix (word : UInt64) : UInt64 :=
  let word := (word ^^^ (word >>> 30)) * 0xbf58476d1ce4e5b9
  let word := (word ^^^ (word >>> 27)) * 0x94d049bb133111eb
  word ^^^ (word >>> 31)

/-- The stream of a seed: the mixed multiples of an odd constant, counted from the seed. -/
def seeded (seed : UInt64) : Stream := fun position =>
  (mix (seed + 0x9e3779b97f4a7c15 * UInt64.ofNat (position + 1))).toNat

/-- Independent streams for the devices of a run: each device has a seed of its own, taken from
the stream of the run's seed. -/
def perDevice (seed : UInt64) : Nat → Stream := fun device =>
  seeded (UInt64.ofNat (seeded seed device))

end PmacFabric.Choice
