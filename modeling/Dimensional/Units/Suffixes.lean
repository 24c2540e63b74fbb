import Dimensional.Units.Electricity
import Dimensional.Units.Heat
import Dimensional.Units.Mechanics
import Dimensional.Units.Space
import Dimensional.Units.Time

/-!
# Numbers with a unit

Each function multiplies a unit by a number, so `km 2.5` is a length.
-/

namespace Dimensional.Suffix

open Dimensional.Units

/-! ## Space and time -/

def km (x : Float) : Quantity Dim.length := kilometer.scale x

def m (x : Float) : Quantity Dim.length := meter.scale x

def cm (x : Float) : Quantity Dim.length := centimeter.scale x

def mm (x : Float) : Quantity Dim.length := millimeter.scale x

def nm (x : Float) : Quantity Dim.length := nanometer.scale x

/-- Square metres. -/
def m2 (x : Float) : Quantity Dim.area := Quantity.scale ⟨1⟩ x

/-- Cubic metres. -/
def m3 (x : Float) : Quantity Dim.volume := Quantity.scale ⟨1⟩ x

def rad (x : Float) : Quantity Dim.angle := radian.scale x

def deg (x : Float) : Quantity Dim.angle := degree.scale x

def s (x : Float) : Quantity Dim.time := second.scale x

def minutes (x : Float) : Quantity Dim.time := minute.scale x

def hr (x : Float) : Quantity Dim.time := hour.scale x

def hz (x : Float) : Quantity Dim.frequency := Quantity.scale ⟨1⟩ x

/-- Metres per second. -/
def mps (x : Float) : Quantity Dim.speed := Quantity.scale ⟨1⟩ x

/-- Kilometres per hour. -/
def kmph (x : Float) : Quantity Dim.speed := (kilometer.per hour).scale x

/-! ## Mechanics -/

def tonne (x : Float) : Quantity Dim.mass := Units.tonne.scale x

def kg (x : Float) : Quantity Dim.mass := kilogram.scale x

def g (x : Float) : Quantity Dim.mass := gram.scale x

def newton (x : Float) : Quantity Dim.force := Quantity.scale ⟨1⟩ x

def pa (x : Float) : Quantity Dim.pressure := pascal.scale x

def bar (x : Float) : Quantity Dim.pressure := Units.bar.scale x

def atm (x : Float) : Quantity Dim.pressure := Units.atm.scale x

def joule (x : Float) : Quantity Dim.energy := Units.joule.scale x

def watt (x : Float) : Quantity Dim.power := Quantity.scale ⟨1⟩ x

/-! ## Electricity -/

def amp (x : Float) : Quantity Dim.current := ampere.scale x

def coulomb (x : Float) : Quantity Dim.charge := Quantity.scale ⟨1⟩ x

def volt (x : Float) : Quantity Dim.voltage := Quantity.scale ⟨1⟩ x

def farad (x : Float) : Quantity Dim.capacitance := Quantity.scale ⟨1⟩ x

def ohm (x : Float) : Quantity Dim.resistance := Quantity.scale ⟨1⟩ x

def siemens (x : Float) : Quantity Dim.conductance := Quantity.scale ⟨1⟩ x

def henry (x : Float) : Quantity Dim.inductance := Quantity.scale ⟨1⟩ x

def wb (x : Float) : Quantity Dim.magneticFlux := Quantity.scale ⟨1⟩ x

def tesla (x : Float) : Quantity Dim.magneticField := Quantity.scale ⟨1⟩ x

/-! ## Heat, substance and light -/

def kelvin (x : Float) : Quantity Dim.temperature := Units.kelvin.scale x

/-- The temperature at a Celsius reading. -/
def degC (x : Float) : Quantity Dim.temperature := fromCelsius x

def mol (x : Float) : Quantity Dim.substance := mole.scale x

def kat (x : Float) : Quantity Dim.catalyticActivity := Quantity.scale ⟨1⟩ x

def cd (x : Float) : Quantity Dim.luminousIntensity := candela.scale x

def lm (x : Float) : Quantity Dim.luminousFlux := Quantity.scale ⟨1⟩ x

def lx (x : Float) : Quantity Dim.illuminance := Quantity.scale ⟨1⟩ x

def bq (x : Float) : Quantity Dim.frequency := Quantity.scale ⟨1⟩ x

def gy (x : Float) : Quantity Dim.absorbedDose := Quantity.scale ⟨1⟩ x

def sv (x : Float) : Quantity Dim.absorbedDose := Quantity.scale ⟨1⟩ x

/-- The functions by name, each with the dimension of its unit. -/
def named : List (String × (d : DimensionExpr) × (Float → Quantity d)) := [
  ("km", ⟨_, km⟩), ("m", ⟨_, m⟩), ("cm", ⟨_, cm⟩), ("mm", ⟨_, mm⟩), ("nm", ⟨_, nm⟩),
  ("m2", ⟨_, m2⟩), ("m3", ⟨_, m3⟩), ("rad", ⟨_, rad⟩), ("deg", ⟨_, deg⟩), ("s", ⟨_, s⟩),
  ("minutes", ⟨_, minutes⟩), ("hr", ⟨_, hr⟩), ("hz", ⟨_, hz⟩), ("mps", ⟨_, mps⟩),
  ("kmph", ⟨_, kmph⟩), ("tonne", ⟨_, tonne⟩), ("kg", ⟨_, kg⟩), ("g", ⟨_, g⟩),
  ("newton", ⟨_, newton⟩), ("pa", ⟨_, pa⟩), ("bar", ⟨_, bar⟩), ("atm", ⟨_, atm⟩),
  ("joule", ⟨_, joule⟩), ("watt", ⟨_, watt⟩), ("amp", ⟨_, amp⟩), ("coulomb", ⟨_, coulomb⟩),
  ("volt", ⟨_, volt⟩), ("farad", ⟨_, farad⟩), ("ohm", ⟨_, ohm⟩), ("siemens", ⟨_, siemens⟩),
  ("henry", ⟨_, henry⟩), ("wb", ⟨_, wb⟩), ("tesla", ⟨_, tesla⟩), ("kelvin", ⟨_, kelvin⟩),
  ("deg_c", ⟨_, degC⟩), ("mol", ⟨_, mol⟩), ("kat", ⟨_, kat⟩), ("cd", ⟨_, cd⟩), ("lm", ⟨_, lm⟩),
  ("lx", ⟨_, lx⟩), ("bq", ⟨_, bq⟩), ("gy", ⟨_, gy⟩), ("sv", ⟨_, sv⟩)]

end Dimensional.Suffix
