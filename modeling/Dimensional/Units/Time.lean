import Dimensional.Units.Base
import Dimensional.Units.Multiples

/-! # Units of time -/

namespace Dimensional.Units

def minute : Quantity Dim.time := second.scale 60.0

def hour : Quantity Dim.time := minute.scale 60.0

def day : Quantity Dim.time := hour.scale 24.0

def week : Quantity Dim.time := day.scale 7.0

def fortnight : Quantity Dim.time := week.scale 2.0

def julianYear : Quantity Dim.time := day.scale 365.25

def year : Quantity Dim.time := julianYear

/-- A year of 366 days. -/
def leapYear : Quantity Dim.time := day.scale 366.0

def decade : Quantity Dim.time := year.scale 10.0

/-- Fifty years. -/
def jubilee : Quantity Dim.time := year.scale 50.0

def century : Quantity Dim.time := year.scale 100.0

def millennium : Quantity Dim.time := year.scale 1000.0

/-- Ten million years. -/
def epoch : Quantity Dim.time := year.scale (10.0 * Multiple.mega)

/-- A hundred million years. -/
def era : Quantity Dim.time := year.scale (100.0 * Multiple.mega)

/-- Five hundred million years. -/
def eon : Quantity Dim.time := year.scale (500.0 * Multiple.mega)

def millisecond : Quantity Dim.time := second.scale Multiple.milli

def microsecond : Quantity Dim.time := second.scale Multiple.micro

/-- Ten nanoseconds. -/
def shake : Quantity Dim.time := second.scale 1.0e-8

def nanosecond : Quantity Dim.time := second.scale Multiple.nano

def picosecond : Quantity Dim.time := second.scale Multiple.pico

def svedberg : Quantity Dim.time := second.scale 1.0e-13

def femtosecond : Quantity Dim.time := second.scale Multiple.femto

def attosecond : Quantity Dim.time := second.scale Multiple.atto

def zeptosecond : Quantity Dim.time := second.scale Multiple.zepto

/-- The time that light takes to cross a nucleon. -/
def jiffyPhys : Quantity Dim.time := second.scale 3.0e-24

def yoctosecond : Quantity Dim.time := second.scale Multiple.yocto

/-- The units of time by name. -/
def times : List (String × Quantity Dim.time) := [
  ("MINUTE", minute), ("HOUR", hour), ("DAY", day), ("WEEK", week), ("FORTNIGHT", fortnight),
  ("JULIAN_YEAR", julianYear), ("YEAR", year), ("LEAP_YEAR", leapYear), ("DECADE", decade),
  ("JUBILEE", jubilee), ("CENTURY", century), ("MILLENNIUM", millennium), ("EPOCH", epoch),
  ("ERA", era), ("EON", eon), ("MILLISECOND", millisecond), ("MICROSECOND", microsecond),
  ("SHAKE", shake), ("NANOSECOND", nanosecond), ("PICOSECOND", picosecond), ("SVEDBERG", svedberg),
  ("FEMTOSECOND", femtosecond), ("ATTOSECOND", attosecond), ("ZEPTOSECOND", zeptosecond),
  ("JIFFY_PHYS", jiffyPhys), ("YOCTOSECOND", yoctosecond)]

end Dimensional.Units
