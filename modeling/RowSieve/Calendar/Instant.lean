/-
Instants of universal time, to the nanosecond. A leap second is the 59th second of its minute
with a nanosecond count of one second or more. `Instant.ofLocal?` moves a local reading to
universal time.
-/
import RowSieve.Calendar.Day

namespace RowSieve

/-- The number of nanoseconds in a second. -/
def nanosPerSecond : Nat := 1000000000

/-- The number of seconds in a day. -/
def secondsPerDay : Nat := 86400

/-- A time of day; the nanoseconds of a leap second run on from one second to two. -/
structure Clock where
  second : Nat
  nano : Nat
  second_lt : second < secondsPerDay
  nano_lt : nano < 2 * nanosPerSecond
  leap : nanosPerSecond ≤ nano → second % 60 = 59
deriving DecidableEq

namespace Clock

def hour (c : Clock) : Nat := c.second / 3600
def minute (c : Clock) : Nat := c.second / 60 % 60

/-- The second as it is written: 60 for a leap second. -/
def shownSecond (c : Clock) : Nat := c.second % 60 + c.nano / nanosPerSecond

/-- The nanoseconds as they are written. -/
def shownNano (c : Clock) : Nat := c.nano % nanosPerSecond

def midnight : Clock := ⟨0, 0, by decide, by decide, by decide⟩

/-- The time with these fields; second 60 is the leap second. -/
def of? (hour minute second nano : Nat) : Option Clock :=
  if h : hour < 24 ∧ minute < 60 ∧ second ≤ 60 ∧ nano < nanosPerSecond then
    if h60 : second = 60 then
      some ⟨hour * 3600 + minute * 60 + 59, nanosPerSecond + nano,
        by simp only [secondsPerDay]; omega, by omega, by omega⟩
    else
      some ⟨hour * 3600 + minute * 60 + second, nano,
        by simp only [secondsPerDay]; omega, by omega, by omega⟩
  else none

end Clock

/-- A moment of universal time. -/
structure Instant where
  day : Day
  clock : Clock
deriving DecidableEq

namespace Instant

/-- The first moment of a day. -/
def midnight (d : Day) : Instant := ⟨d, .midnight⟩

/-- The order of time. -/
def before (a b : Instant) : Prop :=
  a.day.before b.day ∨ a.day = b.day ∧
    (a.clock.second < b.clock.second ∨
      a.clock.second = b.clock.second ∧ a.clock.nano < b.clock.nano)

/-- The moment shown as `day` and `clock` where clocks are ahead of universal time by a number
of minutes of less than a day. -/
def ofLocal? (day : Day) (clock : Clock) (minutesAhead : Int) : Option Instant :=
  let shifted : Int := clock.second - minutesAhead * 60
  let second := (shifted % secondsPerDay).toNat
  let moved : Option Day :=
    if shifted < 0 then day.previous? else if shifted < secondsPerDay then some day else day.next?
  moved.map fun day =>
    ⟨day, second, clock.nano,
      by simp only [second, secondsPerDay]; omega, clock.nano_lt,
      by
        intro h
        have := clock.leap h
        simp only [second, shifted, secondsPerDay]
        omega⟩

end Instant

end RowSieve
