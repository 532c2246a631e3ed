import DataMapper.Narrow

/-! # Instants

A point in time is a second, counted from the start of 1970 and within the years
-262143 to 262142, and the nanoseconds since the second began. Databases keep
the second only.
-/
namespace DataMapper

structure Instant where
  seconds : Int64
  /-- Goes on counting through a leap second. -/
  nanos : Nat := 0
  lower : -8334601228800 ≤ seconds.toInt := by decide
  upper : seconds.toInt ≤ 8210266876799 := by decide
  nanos_lt : nanos < 2000000000 := by decide
deriving DecidableEq

namespace Instant

def epoch : Instant where
  seconds := 0

/-- The instant that begins second `s`. -/
def ofSeconds? (s : Int64) : Option Instant :=
  if h : -8334601228800 ≤ s.toInt ∧ s.toInt ≤ 8210266876799 then
    some { seconds := s, lower := h.1, upper := h.2 }
  else
    none

def wholeSecond (t : Instant) : Instant :=
  { t with nanos := 0, nanos_lt := by decide }

theorem ofSeconds?_seconds (t : Instant) : ofSeconds? t.seconds = some t.wholeSecond :=
  dif_pos ⟨t.lower, t.upper⟩

/-- Milliseconds since 1970, without what is finer. -/
def millis (t : Instant) : Int :=
  t.seconds.toInt * 1000 + t.nanos / 1000000

/-- The instant that begins millisecond `ms`, counted from 1970. -/
def ofMillis? (ms : Int) : Option Instant := do
  let t ← (Narrow.int64? (ms / 1000)).bind ofSeconds?
  pure { t with nanos := (ms % 1000).toNat * 1000000, nanos_lt := by omega }

theorem seconds_of_ofSeconds? {s : Int64} {t : Instant} (h : ofSeconds? s = some t) :
    t.seconds = s := by
  unfold ofSeconds? at h
  split at h
  · cases h
    rfl
  · cases h

theorem millis_of_ofMillis? {ms : Int} {t : Instant} (h : ofMillis? ms = some t) :
    t.millis = ms := by
  obtain ⟨begun, hbegun, ht⟩ := Option.bind_eq_some_iff.1 h
  obtain ⟨s, hs, hbegins⟩ := Option.bind_eq_some_iff.1 hbegun
  cases ht
  have hseconds : begun.seconds.toInt = ms / 1000 := by
    rw [seconds_of_ofSeconds? hbegins, Narrow.toInt_of_int64? hs]
  simp only [millis, hseconds]
  omega

end Instant
end DataMapper
