import EntityViews.Calendar.DateTime

/-!
Clock readings in places with rules of their own. Where clocks are set back an hour is read twice, and which of the two
readings is meant belongs to the point in time; where they are set forward an hour is not read at all.
-/

namespace EntityViews

/-- The offset that clocks of a place have at a reading, the later one of two that read the same if it says so. -/
abbrev Zone := DateTime → Bool → Option Offset

structure ZonedTime where
  reading : DateTime
  later : Bool
  zone : Zone
  bare : reading.offset = none

namespace ZonedTime

def offset (t : ZonedTime) : Option Offset := t.zone t.reading t.later

/-- The reading with its offset, which is all that a text of it tells. -/
def stamped (t : ZonedTime) : DateTime := { t.reading with offset := t.offset }

/-- Whether the offset is the same for both readings. -/
def IsSettled (t : ZonedTime) : Prop := t.zone t.reading true = t.zone t.reading false

instance (t : ZonedTime) : Decidable t.IsSettled := inferInstanceAs (Decidable (_ = _))

end ZonedTime

end EntityViews
