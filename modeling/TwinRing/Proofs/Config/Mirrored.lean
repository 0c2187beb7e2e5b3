import TwinRing.Config
/-!
# Configurations — the other end

To build the other end of a channel, one takes the builder for the one end
and exchanges its directions. It makes no difference when they are
exchanged: every setting commutes with the exchange, once it is given to
the other direction (`Builder.opposite_apply`), and so does every list of
settings. What a configuration says of one ring, the configuration of the
other end says of the same ring, from the other side.
-/

namespace TwinRing

/-- **A setting with its direction exchanged.** What belongs to no
direction, or to both, stays. -/
def Setting.exchanged : Setting → Setting
  | .inName name => .outName name
  | .outName name => .inName name
  | .inCapacity count => .outCapacity count
  | .outCapacity count => .inCapacity count
  | .capacity count => .capacity count
  | .inElementSize size => .outElementSize size
  | .outElementSize size => .inElementSize size
  | .elementSize size => .elementSize size
  | .pollDelay delay => .pollDelay delay
  | .pollDelayMicroseconds us => .pollDelayMicroseconds us
  | .clearIn clear => .clearOut clear
  | .clearOut clear => .clearIn clear
  | .pushRetry policy => .pushRetry policy
  | .getRetry policy => .getRetry policy
  | .reset => .reset
  | .opposite => .opposite

/-- **The configuration of the other end.** -/
def Config.opposite (c : Config) : Config where
  inName := c.outName
  outName := c.inName
  inCapacity := c.outCapacity
  outCapacity := c.inCapacity
  inElementSize := c.outElementSize
  outElementSize := c.inElementSize
  pollDelay := c.pollDelay
  clearIn := c.clearOut
  clearOut := c.clearIn
  pushRetry := c.pushRetry
  getRetry := c.getRetry

namespace Builder

variable (b : Builder) {c : Setting} {cs : List Setting}

/-- The other end of the other end is the one end. -/
@[simp] theorem opposite_opposite : b.opposite.opposite = b := rfl

/-- **A setting commutes with the exchange**, unless it starts anew. -/
theorem opposite_apply (h : c ≠ .reset) : (b.apply c).opposite = b.opposite.apply c.exchanged := by
  cases c with
  | reset => exact absurd rfl h
  | _ => rfl

/-- **So does a list of settings**, with exchanges among them or without. -/
theorem opposite_applyAll (h : .reset ∉ cs) :
    (b.applyAll cs).opposite = b.opposite.applyAll (cs.map Setting.exchanged) := by
  induction cs generalizing b with
  | nil => rfl
  | cons c rest ih =>
    rw [List.mem_cons, not_or] at h
    have hrest := ih (b.apply c) h.2
    rw [opposite_apply b fun heq => h.1 heq.symm] at hrest
    exact hrest

/-- **The configuration of the other end** has the directions exchanged,
and the policies that follow from the poll delay are the same. -/
theorem config_opposite : b.opposite.config = b.config.opposite := rfl

end Builder

end TwinRing
