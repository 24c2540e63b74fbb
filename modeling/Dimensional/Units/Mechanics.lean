import Dimensional.Units.Base
import Dimensional.Units.Multiples

/-! # Units of mass, pressure and energy -/

namespace Dimensional.Units

/-! ## Mass -/

def gram : Quantity Dim.mass := kilogram.scale (1.0 / Multiple.kilo)

def milligram : Quantity Dim.mass := gram.scale Multiple.milli

/-- The metric tonne. -/
def tonne : Quantity Dim.mass := kilogram.scale 1.0e3

def metricTon : Quantity Dim.mass := tonne

def slug : Quantity Dim.mass := kilogram.scale 14.593903

/-- The avoirdupois pound. -/
def pound : Quantity Dim.mass := kilogram.scale 0.45359237

/-- The metric carat. -/
def carat : Quantity Dim.mass := milligram.scale 200.0

def grain : Quantity Dim.mass := milligram.scale 64.79891

/-- The avoirdupois ounce. -/
def ounce : Quantity Dim.mass := grain.scale 437.5

def ounceTroy : Quantity Dim.mass := grain.scale 480.0

/-- The gross ton. -/
def longTon : Quantity Dim.mass := pound.scale 2240.0

/-- The net ton. -/
def shortTon : Quantity Dim.mass := pound.scale 2000.0

/-- The units of mass by name. -/
def masses : List (String × Quantity Dim.mass) := [
  ("GRAM", gram), ("MILLIGRAM", milligram), ("TONNE", tonne), ("METRIC_TON", metricTon),
  ("SLUG", slug), ("POUND", pound), ("CARAT", carat), ("GRAIN", grain), ("OUNCE", ounce),
  ("OUNCE_TROY", ounceTroy), ("LONG_TON", longTon), ("SHORT_TON", shortTon)]

/-! ## Pressure -/

def pascal : Quantity Dim.pressure := ⟨1⟩

def bar : Quantity Dim.pressure := pascal.scale 1.0e5

/-- The standard atmosphere. -/
def atm : Quantity Dim.pressure := pascal.scale 1.01325e5

def torr : Quantity Dim.pressure := pascal.scale 133.3224

/-- A pound per square inch. -/
def psi : Quantity Dim.pressure := pascal.scale 6.8948e3

/-- The units of pressure by name. -/
def pressures : List (String × Quantity Dim.pressure) := [
  ("PASCAL", pascal), ("BAR", bar), ("ATM", atm), ("TORR", torr), ("PSI", psi)]

/-! ## Energy -/

def joule : Quantity Dim.energy := ⟨1⟩

/-- The thermochemical calorie. -/
def cal : Quantity Dim.energy := joule.scale 4.184

def erg : Quantity Dim.energy := joule.scale 1.0e-7

/-- The electronvolt. -/
def ev : Quantity Dim.energy := joule.scale 1.602176565e-19

/-- A thousand electronvolts. -/
def kev : Quantity Dim.energy := ev.scale Multiple.kilo

/-- A million electronvolts. -/
def mev : Quantity Dim.energy := ev.scale Multiple.mega

/-- The units of energy by name. -/
def energies : List (String × Quantity Dim.energy) := [
  ("JOULE", joule), ("CAL", cal), ("ERG", erg), ("EV", ev), ("KEV", kev), ("MEV", mev)]

end Dimensional.Units
