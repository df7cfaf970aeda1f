/-!
# Points in time

A point in time is a number of nanoseconds since the beginning of the year 1970. Calendars reach
from the year -262143 to the year 262142, and times outside are not representable. Spans and stored
times are counted in whole milliseconds: the fraction of a span is dropped, and a time is rounded
down.
-/

namespace VisualNovel

/-- Nanoseconds since the beginning of the year 1970. -/
abbrev Instant := Int

namespace Instant

/-- The nanoseconds of a millisecond. -/
def perMillisecond : Int := 1000000

/-- The first representable time. -/
def earliest : Instant := -8334601228800000000000

/-- The last representable time. -/
def latest : Instant := 8210266876799999999999

/-- The time that is some milliseconds behind the beginning of the year 1970. -/
def ofMilliseconds (milliseconds : Int) : Instant := milliseconds * perMillisecond

/-- The milliseconds since the beginning of the year 1970. -/
def milliseconds (time : Instant) : Int := Int.fdiv time perMillisecond

/-- The whole milliseconds from one time to another; negative when the clock was put back. -/
def elapsed (last now : Instant) : Int := Int.tdiv (now - last) perMillisecond

/-- A time that lies some milliseconds later; the last representable one bounds it. -/
def after (now : Instant) (milliseconds : Nat) : Instant :=
  min (now + ofMilliseconds (Int.ofNat milliseconds)) latest

/-- The later of two bounds: a time moved into the representable range. -/
def clamped (time : Int) : Instant :=
  max earliest (min time latest)

/-- Whether the time is representable. -/
def isRepresentable (time : Int) : Bool :=
  earliest ≤ time && time ≤ latest

theorem le_after (now : Instant) (milliseconds : Nat) (bounded : now ≤ latest) :
    now ≤ now.after milliseconds := by
  have later : now ≤ now + ofMilliseconds (Int.ofNat milliseconds) :=
    Int.le_add_of_nonneg_right (Int.mul_nonneg (Int.natCast_nonneg milliseconds) (by decide))
  exact Int.le_min.2 ⟨later, bounded⟩

end Instant

end VisualNovel
