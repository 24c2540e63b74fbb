import Dimensional.Units.Base
import Dimensional.Units.Multiples

/-! # Units of space -/

namespace Dimensional.Units

/-! ## Length -/

def metre : Quantity Dim.length := meter

def kilometer : Quantity Dim.length := meter.scale Multiple.kilo

def centimeter : Quantity Dim.length := meter.scale Multiple.centi

def millimeter : Quantity Dim.length := meter.scale Multiple.milli

/-- The micrometre. -/
def micron : Quantity Dim.length := meter.scale Multiple.micro

def nanometer : Quantity Dim.length := meter.scale Multiple.nano

def angstrom : Quantity Dim.length := nanometer.scale 0.1

/-- The international inch. -/
def inch : Quantity Dim.length := centimeter.scale 2.54

/-- A twelfth of an inch. -/
def line : Quantity Dim.length := inch.scale (1.0 / 12.0)

/-- The international foot. -/
def foot : Quantity Dim.length := inch.scale 12.0

/-- The international yard. -/
def yard : Quantity Dim.length := foot.scale 3.0

/-- The statute mile. -/
def mile : Quantity Dim.length := foot.scale 5280.0

/-- Three miles. -/
def league : Quantity Dim.length := mile.scale 3.0

/-- A thousandth of an inch. -/
def mil : Quantity Dim.length := inch.scale (1.0 / 1000.0)

def nauticalMile : Quantity Dim.length := meter.scale 1852.0

/-- Two yards. -/
def fathom : Quantity Dim.length := yard.scale 2.0

/-- The units of length by name. -/
def lengths : List (String × Quantity Dim.length) := [
  ("METRE", metre), ("KILOMETER", kilometer), ("CENTIMETER", centimeter),
  ("MILLIMETER", millimeter), ("MICRON", micron), ("NANOMETER", nanometer), ("ANGSTROM", angstrom),
  ("INCH", inch), ("LINE", line), ("FOOT", foot), ("YARD", yard), ("MILE", mile),
  ("LEAGUE", league), ("MIL", mil), ("NAUTICAL_MILE", nauticalMile), ("FATHOM", fathom)]

/-! ## Area -/

def squareMeter : Quantity Dim.area := meter.times meter

def squareKilometer : Quantity Dim.area := kilometer.times kilometer

def squareYard : Quantity Dim.area := yard.times yard

def squareMile : Quantity Dim.area := mile.times mile

def hectare : Quantity Dim.area := squareMeter.scale 10000.0

def acre : Quantity Dim.area := squareYard.scale 4840.0

def barn : Quantity Dim.area := squareMeter.scale 1.0e-28

/-- The units of area by name. -/
def areas : List (String × Quantity Dim.area) := [
  ("SQUARE_METER", squareMeter), ("SQUARE_KILOMETER", squareKilometer),
  ("SQUARE_YARD", squareYard), ("SQUARE_MILE", squareMile), ("HECTARE", hectare), ("ACRE", acre),
  ("BARN", barn)]

/-! ## Volume -/

def cubicMeter : Quantity Dim.volume := (meter.times meter).times meter

def cubicCentimeter : Quantity Dim.volume := (centimeter.times centimeter).times centimeter

def cubicInch : Quantity Dim.volume := (inch.times inch).times inch

def litre : Quantity Dim.volume := cubicMeter.scale 0.001

def millilitre : Quantity Dim.volume := litre.scale Multiple.milli

/-- The US liquid gallon. -/
def gallon : Quantity Dim.volume := litre.scale 3.785411784

def liquidQuart : Quantity Dim.volume := gallon.scale 0.25

def liquidPint : Quantity Dim.volume := liquidQuart.scale 0.5

def gill : Quantity Dim.volume := liquidPint.scale 0.25

def fluidOunce : Quantity Dim.volume := liquidPint.scale 0.0625

def fluidDram : Quantity Dim.volume := liquidPint.scale 0.0078125

def cup : Quantity Dim.volume := fluidOunce.scale 8.0

/-- The metric tablespoon. -/
def tablespoon : Quantity Dim.volume := millilitre.scale 15.0

/-- The metric teaspoon. -/
def teaspoon : Quantity Dim.volume := millilitre.scale 5.0

def minim : Quantity Dim.volume := liquidPint.scale 0.0001302083

/-- The US bushel. -/
def bushel : Quantity Dim.volume := cubicInch.scale 2150.42

def peck : Quantity Dim.volume := bushel.scale 0.25

def dryQuart : Quantity Dim.volume := peck.scale 0.125

def dryPint : Quantity Dim.volume := dryQuart.scale 0.5

/-- The units of volume by name. -/
def volumes : List (String × Quantity Dim.volume) := [
  ("CUBIC_METER", cubicMeter), ("CUBIC_CENTIMETER", cubicCentimeter), ("CUBIC_INCH", cubicInch),
  ("LITRE", litre), ("MILLILITRE", millilitre), ("GALLON", gallon), ("LIQUID_QUART", liquidQuart),
  ("LIQUID_PINT", liquidPint), ("GILL", gill), ("FLUID_OUNCE", fluidOunce),
  ("FLUID_DRAM", fluidDram), ("CUP", cup), ("TABLESPOON", tablespoon), ("TEASPOON", teaspoon),
  ("MINIM", minim), ("BUSHEL", bushel), ("PECK", peck), ("DRY_QUART", dryQuart),
  ("DRY_PINT", dryPint)]

/-! ## Plane angle -/

/-- Half a turn in radians. -/
def pi : Float := 3.141592653589793

def degree : Quantity Dim.angle := radian.scale (pi / 180.0)

/-- A 400th of a turn. -/
def gradian : Quantity Dim.angle := radian.scale (2.0 * pi / 400.0)

def turn : Quantity Dim.angle := radian.scale (2.0 * pi)

def arcminute : Quantity Dim.angle := radian.scale (pi / 10800.0)

def arcsecond : Quantity Dim.angle := radian.scale (pi / 648000.0)

/-- The units of plane angle by name. -/
def angles : List (String × Quantity Dim.angle) := [
  ("DEGREE", degree), ("GRADIAN", gradian), ("TURN", turn), ("ARCMINUTE", arcminute),
  ("ARCSECOND", arcsecond)]

end Dimensional.Units
