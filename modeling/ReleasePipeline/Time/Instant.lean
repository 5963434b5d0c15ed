import ReleasePipeline.Time.Calendar

/-!
# `ReleasePipeline.Time.Instant`: moments of time

An instant is a count of seconds since 1970-01-01T00:00:00Z and of nanoseconds into that second.
A leap second has no number of its own: it is the second half of the last second of a minute,
written with sixty seconds. Instants reach from the first second of year -262143 to the last one
of year 262142.
-/

set_option autoImplicit false

namespace ReleasePipeline

/-- The nanoseconds of a second. -/
def nanosPerSecond : Nat := 1000000000

/-- The first second an instant can lie in. -/
def firstSecond : Int := -8334601228800

/-- The last second an instant can lie in. -/
def lastSecond : Int := 8210266876799

/-- A moment of time. -/
structure Instant where
  second : Int
  /-- Nanoseconds since the second began; a whole second more inside a leap second. -/
  nanos : Nat
  inRange : firstSecond ≤ second ∧ second ≤ lastSecond
  nanos_lt : nanos < 2 * nanosPerSecond
  atMinuteEnd : nanosPerSecond ≤ nanos → second % 60 = 59
  deriving DecidableEq

namespace Instant

/-- The instant of a second and a number of nanoseconds, if there is one. -/
def of? (second : Int) (nanos : Nat) : Option Instant :=
  if h : (firstSecond ≤ second ∧ second ≤ lastSecond) ∧ nanos < 2 * nanosPerSecond ∧
      (nanosPerSecond ≤ nanos → second % 60 = 59) then
    some ⟨second, nanos, h.1, h.2.1, h.2.2⟩
  else none

/-- The moment from which seconds are counted. -/
def epoch : Instant :=
  ⟨0, 0, by decide, by decide, by decide⟩

/-- Whether an instant lies in a leap second. -/
def isLeap (instant : Instant) : Bool :=
  nanosPerSecond ≤ instant.nanos

/-- The date of an instant. -/
def date (instant : Instant) : Date :=
  Date.ofDay (instant.second / 86400)

/-- The second of the day. -/
def secondOfDay (instant : Instant) : Nat :=
  (instant.second % 86400).toNat

/-- The time of day as `HH:MM:SS`. -/
def clockText (instant : Instant) : List Char :=
  let second := instant.secondOfDay
  Text.paddedDigits 2 (second / 3600) ++ ':' :: Text.paddedDigits 2 (second / 60 % 60) ++
    ':' :: Text.paddedDigits 2 (second % 60 + if instant.isLeap then 1 else 0)

/-- The date and the time of day as `YYYY-MM-DD HH:MM:SS`. -/
def text (instant : Instant) : List Char :=
  instant.date.text ++ ' ' :: instant.clockText

end Instant
end ReleasePipeline
