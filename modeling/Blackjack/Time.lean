/-!
# Time

A duration counts nanoseconds, and an instant counts them from a moment before everything of
interest. What has elapsed since a later instant is nothing.
-/

namespace Blackjack

/-- A span of time in nanoseconds. -/
abbrev Duration := Nat

/-- A moment, in nanoseconds from a fixed origin. -/
abbrev Instant := Nat

namespace Duration

def ofMillis (n : Nat) : Duration := n * 1000000

def ofSecs (n : Nat) : Duration := n * 1000000000

/-- The duration of whole seconds and further nanoseconds. -/
def ofParts (secs nanos : Nat) : Duration := ofSecs secs + nanos

/-- The whole seconds of a duration. -/
def secs (d : Duration) : Nat := d / 1000000000

/-- The nanoseconds beyond the whole seconds. -/
def subsecNanos (d : Duration) : Nat := d % 1000000000

end Duration

/-- What has elapsed at `now` since an instant, nothing if that lies ahead. -/
def Instant.elapsed (since now : Instant) : Duration := now - since

/-- More than a span has elapsed exactly if the whole span lies between the two moments. -/
theorem Instant.lt_elapsed_iff {span : Duration} {since now : Instant} :
    span < Instant.elapsed since now ↔ since + span < now :=
  Nat.lt_sub_iff_add_lt'

end Blackjack
