import Dimensional.Units.Base

/-!
# Temperature

Temperatures are absolute and count kelvins. The Celsius and Fahrenheit scales have zeros of their own, so
readings on them are converted and are not multiples of a unit.
-/

namespace Dimensional.Units

/-! ## Sizes of degrees -/

def degreeKelvin : Quantity Dim.temperature := kelvin

/-- The size of a Rankine or Fahrenheit degree. -/
def rankine : Quantity Dim.temperature := kelvin.scale (5.0 / 9.0)

/-- The units of temperature by name. -/
def temperatures : List (String × Quantity Dim.temperature) := [
  ("DEGREE_KELVIN", degreeKelvin), ("RANKINE", rankine)]

/-! ## Scales -/

/-- The kelvin reading at zero degrees Celsius. -/
def celsiusOffset : Float := 273.15

/-- The temperature at a Celsius reading. -/
def fromCelsius (reading : Float) : Quantity Dim.temperature :=
  ⟨reading + celsiusOffset⟩

/-- The Celsius reading of a temperature. -/
def toCelsius (t : Quantity Dim.temperature) : Float :=
  t.value - celsiusOffset

/-- The temperature at a Fahrenheit reading. -/
def fromFahrenheit (reading : Float) : Quantity Dim.temperature :=
  fromCelsius ((reading - 32.0) * 5.0 / 9.0)

/-- The Fahrenheit reading of a temperature. -/
def toFahrenheit (t : Quantity Dim.temperature) : Float :=
  toCelsius t * 9.0 / 5.0 + 32.0

end Dimensional.Units
