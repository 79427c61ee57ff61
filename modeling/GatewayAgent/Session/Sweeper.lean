import GatewayAgent.Session.Registry

/-!
# The sweeper

A registry with a time to live is swept from time to time: at once, and then after every half of
the time to live, until it is shut down. `Sweeper.lastTick` is the last sweep up to an instant;
sweeping at that tick alone leaves what all sweeps up to then would have left.
-/

namespace GatewayAgent

/-- The shortest time between two sweeps. -/
def shortestSweepInterval : Duration := Duration.ofMillis 1

/-- A running sweeper. -/
structure Sweeper where
  /-- The instant of its first sweep. -/
  start : Instant
  /-- The time from one sweep to the next. -/
  interval : Duration

namespace Sweeper

/-- The time between two sweeps of a registry with this time to live. -/
def intervalFor (ttl : Duration) : Duration :=
  let half : Duration := ⟨ttl.nanos / 2⟩
  if half < shortestSweepInterval then shortestSweepInterval else half

/-- The sweeper of a registry that is set up at `now`; there is none without a time to live. -/
def of (r : Registry) (now : Instant) : Option Sweeper :=
  r.ttl.map fun ttl => ⟨now, intervalFor ttl⟩

/-- The instant of the last sweep up to `now`. -/
def lastTick (s : Sweeper) (now : Instant) : Instant :=
  let passed := (now.nanos - s.start.nanos).toNat / s.interval.nanos
  s.start.later ⟨passed * s.interval.nanos⟩

/-- The registry as the sweeper has left it at `now`. -/
def run (s : Sweeper) (now : Instant) (r : Registry) : Registry := (r.sweep (s.lastTick now)).1

end Sweeper

end GatewayAgent
