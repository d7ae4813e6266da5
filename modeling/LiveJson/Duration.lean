/-!
# Lengths of time

A length of time is a number of seconds, below 2^64, and a number of nanoseconds, below one second.
Times are lengths too, counted from an origin that does not matter.

## What is here

* `Duration.toNanos` — the length as one number, which tells lengths apart (`toNanos_inj`) and by
  which they are ordered.
* `Duration.add?` — the sum, if its seconds stay below 2^64; in nanoseconds it is the sum of the
  numbers (`add?_eq_some_iff`).
-/

set_option autoImplicit false

namespace LiveJson

/-- How many nanoseconds make a second. -/
def nanosPerSecond : Nat := 1000000000

/-- A length of time. -/
structure Duration where
  seconds : Nat
  nanos : Nat
  seconds_lt : seconds < UInt64.size
  nanos_lt : nanos < nanosPerSecond
deriving DecidableEq, Repr

namespace Duration

/-- No time. -/
def zero : Duration := ⟨0, 0, by decide, by decide⟩

/-- The length in nanoseconds. -/
def toNanos (d : Duration) : Nat :=
  -- a large literal as the second factor would be counted down where a proof evaluates a deadline
  nanosPerSecond * d.seconds + d.nanos

/-- Lengths with as many nanoseconds are the same. -/
theorem toNanos_inj {a b : Duration} : a.toNanos = b.toNanos ↔ a = b := by
  constructor
  · intro h
    obtain ⟨s, n, hs, hn⟩ := a
    obtain ⟨t, m, ht, hm⟩ := b
    have hn' : n < 1000000000 := hn
    have hm' : m < 1000000000 := hm
    simp only [toNanos, nanosPerSecond] at h
    obtain rfl : s = t := by omega
    obtain rfl : n = m := by omega
    rfl
  · rintro rfl
    rfl

/-- The length of a number of nanoseconds, if there are not too many. -/
def ofNanos? (n : Nat) : Option Duration :=
  if h : n / nanosPerSecond < UInt64.size then
    some ⟨n / nanosPerSecond, n % nanosPerSecond, h, Nat.mod_lt _ (by decide)⟩
  else none

/-- The length of `n` nanoseconds has `n` nanoseconds. -/
theorem ofNanos?_eq_some_iff {n : Nat} {d : Duration} : ofNanos? n = some d ↔ d.toNanos = n := by
  have hd := d.nanos_lt
  have hs := d.seconds_lt
  simp only [nanosPerSecond] at hd
  constructor
  · intro h
    simp only [ofNanos?] at h
    split at h
    · cases h
      simp only [toNanos, nanosPerSecond]
      omega
    · cases h
  · rintro rfl
    have hlt : d.toNanos / nanosPerSecond < UInt64.size := by
      simp only [toNanos, nanosPerSecond]
      omega
    simp only [ofNanos?, dif_pos hlt, Option.some.injEq]
    rw [← toNanos_inj]
    simp only [toNanos, nanosPerSecond]
    omega

/-- The length of a number of milliseconds. -/
def ofMillis (ms : Fin UInt64.size) : Duration :=
  ⟨ms.val / 1000, ms.val % 1000 * 1000000, by omega, by simp only [nanosPerSecond]; omega⟩

/-- The sum of two lengths, unless it is too long. -/
def add? (a b : Duration) : Option Duration :=
  ofNanos? (a.toNanos + b.toNanos)

/-- A sum has the nanoseconds of both lengths. -/
theorem add?_eq_some_iff {a b c : Duration} :
    a.add? b = some c ↔ c.toNanos = a.toNanos + b.toNanos :=
  ofNanos?_eq_some_iff

/-- Lengths are ordered by their nanoseconds. -/
instance : LE Duration := ⟨fun a b => a.toNanos ≤ b.toNanos⟩

instance (a b : Duration) : Decidable (a ≤ b) :=
  inferInstanceAs (Decidable (a.toNanos ≤ b.toNanos))

end Duration

/-- What is said when a sum of two lengths is too long. -/
def overflowMessage : String := "overflow when adding durations"

end LiveJson
