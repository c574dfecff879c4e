/-
**Timers.**

Time is a number of milliseconds on a clock that is read outside and handed in. A timer is a delay
since a point in time.

* `Timer.expired`: the delay has passed;
* `Timer.restart`: the same delay from another point in time.
-/

namespace WireBridge

/-- A delay since a point in time, in milliseconds. -/
structure Timer where
  /-- The delay. -/
  delay : Nat
  /-- When it started. -/
  started : Nat
deriving DecidableEq, Inhabited

namespace Timer

/-- The timer that is expired at any time. -/
def idle : Timer := ⟨0, 0⟩

/-- Start again with the same delay. -/
def restart (timer : Timer) (now : Nat) : Timer := { timer with started := now }

/-- Whether the delay has passed. A clock that went back shows no time as passed. -/
def expired (timer : Timer) (now : Nat) : Bool := timer.delay ≤ now - timer.started

end Timer

end WireBridge
