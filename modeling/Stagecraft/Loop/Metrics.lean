/-!
# Metrics

How fast a run goes: ticks are counted and timed over an interval and summed up
in single precision at its end. Times are in nanoseconds.
-/

namespace Stagecraft

def second : Nat := 1000000000

def secondsOf (time : Nat) : Float32 :=
  Float32.ofNat (time / second) +
    Float32.ofNat (time % second) / Float32.ofNat second

structure Throughput where
  ticksPerSecond : Float32
  millisecondsPerTick : Float32
  commandsPerTick : Float32
deriving DecidableEq

/-- The counts of the current interval. -/
structure Metrics where
  start : Nat
  interval : Nat
  ticks : Nat
  busy : Nat
  commands : Nat
deriving DecidableEq, Repr

namespace Metrics

def tickLimit : Nat := UInt32.size - 1

/-- The largest number of instructions that is counted. -/
def commandLimit : Nat := UInt64.size - 1

/-- The longest time that is counted. -/
def timeLimit : Nat := UInt64.size * second - 1

def starting (start interval : Nat) : Metrics := ⟨start, interval, 0, 0, 0⟩

/-- Counts a tick. Counts stop at their limits. -/
def record (time commands : Nat) (metrics : Metrics) : Metrics :=
  { metrics with
    ticks := min (metrics.ticks + 1) tickLimit
    busy := min (metrics.busy + time) timeLimit
    commands := min (metrics.commands + commands) commandLimit }

/-- The smallest time that is divided by: the distance from one to the next
larger single. -/
def smallestElapsed : Float32 := Float32.ofBits 0x34000000

def larger (left right : Float32) : Float32 :=
  if left < right then right else left

def throughput (metrics : Metrics) (elapsed : Nat) : Throughput :=
  let ticks := Float32.ofNat metrics.ticks
  let rate := ticks / larger (secondsOf elapsed) smallestElapsed
  if metrics.ticks = 0 then
    ⟨rate, 0, 0⟩
  else
    ⟨rate, secondsOf metrics.busy / ticks * 1000,
      Float32.ofNat metrics.commands / ticks⟩

/-- Sums up at the end of an interval and starts the next one. Before that
nothing changes. -/
def snapshot (now : Nat) (metrics : Metrics) : Option Throughput × Metrics :=
  let elapsed := now - metrics.start
  if elapsed < metrics.interval then
    (none, metrics)
  else
    (some (metrics.throughput elapsed), starting now metrics.interval)

end Metrics

end Stagecraft
