namespace LiveTemplate

/-- What the timer of a runtime does with a delay, all in milliseconds. A wait whose end it can tell
takes the delay; what becomes of a longer one is its own affair. -/
structure Clock where
  /-- The last moment that it can tell. -/
  last : Nat
  /-- How long a wait takes that begins at `now`. -/
  wait : (now delay : Nat) → Nat
  wait_eq : ∀ {now delay : Nat}, now + delay ≤ last → wait now delay = delay

/-- A clock on which every wait that would end after `last` takes a time of its own. -/
def Clock.upTo (last beyond : Nat) : Clock where
  last := last
  wait now delay := if now + delay ≤ last then delay else beyond
  wait_eq h := if_pos h

/-- Nanoseconds in 64 bits. What ends later is put off for thirty years of 365 days. -/
def Clock.nanoseconds : Clock := .upTo 18446744073709 946080000000

end LiveTemplate
