import Dimensional.Quantity.Basic

/-!
# Physical constants

The CODATA values of 2010. The speed of light and the constant of gravitation follow from the Planck
units.
-/

namespace Dimensional.Constants

/-- The characteristic impedance of vacuum. -/
def vacuumImpedance : Quantity Dim.resistance := ⟨376.730313461⟩

/-- The permittivity of vacuum. -/
def electricConstant : Quantity Dim.permittivity := ⟨8.854187817e-12⟩

/-- The permeability of vacuum. -/
def magneticConstant : Quantity Dim.permeability := ⟨12.566370614e-7⟩

def elementaryCharge : Quantity Dim.charge := ⟨1.602176565e-19⟩

def electronMass : Quantity Dim.mass := ⟨9.10938291e-31⟩

def planckLength : Quantity Dim.length := ⟨1.61619997e-35⟩

def planckMass : Quantity Dim.mass := ⟨2.1765113e-8⟩

def planckTime : Quantity Dim.time := ⟨5.3910632e-44⟩

def planckCharge : Quantity Dim.charge := ⟨1.87554595641e-18⟩

def planckTemperature : Quantity Dim.temperature := ⟨1.41683385e32⟩

def massOfEarth : Quantity Dim.mass := ⟨5.97219e24⟩

/-- The charge of the electron, the opposite of the elementary charge. -/
def electronCharge : Quantity Dim.charge := elementaryCharge.neg

/-- The speed of light in vacuum: a Planck length in a Planck time. -/
def speedOfLight : Quantity Dim.speed := planckLength.per planckTime

/-- The constant of gravitation, from the Planck units. -/
def gravitationalConstant : Quantity Dim.gravitation :=
  let cube : Quantity Dim.volume := (planckLength.times planckLength).times planckLength
  ((cube.per planckMass).per planckTime).per planckTime

/-- The constants by name, each with its dimension. -/
def named : List (String × (d : DimensionExpr) × Quantity d) := [
  ("VACUUM_IMPEDANCE", ⟨_, vacuumImpedance⟩),
  ("ELECTRIC_CONSTANT", ⟨_, electricConstant⟩),
  ("MAGNETIC_CONSTANT", ⟨_, magneticConstant⟩),
  ("ELEMENTARY_CHARGE", ⟨_, elementaryCharge⟩),
  ("ELECTRON_MASS", ⟨_, electronMass⟩),
  ("PLANCK_LENGTH", ⟨_, planckLength⟩),
  ("PLANCK_MASS", ⟨_, planckMass⟩),
  ("PLANCK_TIME", ⟨_, planckTime⟩),
  ("PLANCK_CHARGE", ⟨_, planckCharge⟩),
  ("PLANCK_TEMPERATURE", ⟨_, planckTemperature⟩),
  ("MASS_OF_EARTH", ⟨_, massOfEarth⟩),
  ("ELECTRON_CHARGE", ⟨_, electronCharge⟩),
  ("SPEED_OF_LIGHT", ⟨_, speedOfLight⟩),
  ("GRAVITATIONAL_CONSTANT", ⟨_, gravitationalConstant⟩)]

end Dimensional.Constants
