import Dimensional.Dimension.Expr

/-!
# Named dimensions

The base dimensions are markers. All others are written with the constructors, so different names may
stand for one dimension.
-/

namespace Dimensional.Dim

open DimensionExpr

/-! ## Base dimensions -/

def length : DimensionExpr := marker (.base .length)

def mass : DimensionExpr := marker (.base .mass)

def time : DimensionExpr := marker (.base .time)

def current : DimensionExpr := marker (.base .current)

def temperature : DimensionExpr := marker (.base .temperature)

def substance : DimensionExpr := marker (.base .substance)

def luminousIntensity : DimensionExpr := marker (.base .luminousIntensity)

/-! ## Pure numbers -/

/-- A pure number, shown without a unit. -/
def dimensionless : DimensionExpr := marker .dimensionless

/-- A plane angle, shown in radians. -/
def angle : DimensionExpr := marker .dimensionless (some "rad")

/-- A solid angle, shown like a plane angle. -/
def solidAngle : DimensionExpr := marker .dimensionless (some "rad")

def massFraction : DimensionExpr := quot mass mass

/-! ## Geometry, motion and mechanics -/

def area : DimensionExpr := prod length length

theorem area_hasExactRoot : area.HasExactRoot := by decide

def volume : DimensionExpr := prod area length

def speed : DimensionExpr := quot length time

def acceleration : DimensionExpr := quot speed time

def waveNumber : DimensionExpr := recip length

def frequency : DimensionExpr := recip time

def massDensity : DimensionExpr := quot mass volume

def specificVolume : DimensionExpr := quot volume mass

def force : DimensionExpr := prod mass acceleration

def pressure : DimensionExpr := quot force area

def energy : DimensionExpr := prod force length

def power : DimensionExpr := quot energy time

def dynamicViscosity : DimensionExpr := prod pressure time

def momentOfForce : DimensionExpr := prod force length

def surfaceTension : DimensionExpr := quot force length

def angularVelocity : DimensionExpr := quot angle time

def angularAcceleration : DimensionExpr := quot angularVelocity time

def energyDensity : DimensionExpr := quot energy volume

def specificEnergy : DimensionExpr := quot energy mass

/-- The dimension of the gravitational constant. -/
def gravitation : DimensionExpr := quot (quot specificVolume time) time

/-! ## Electricity and magnetism -/

def currentDensity : DimensionExpr := quot current area

def magneticFieldStrength : DimensionExpr := quot current length

def charge : DimensionExpr := prod current time

def voltage : DimensionExpr := quot power current

def capacitance : DimensionExpr := quot charge voltage

def resistance : DimensionExpr := quot voltage current

def conductance : DimensionExpr := recip resistance

def magneticFlux : DimensionExpr := prod voltage time

def magneticField : DimensionExpr := quot magneticFlux area

def inductance : DimensionExpr := quot magneticFlux current

def electricFieldStrength : DimensionExpr := quot voltage length

def electricChargeDensity : DimensionExpr := quot charge volume

def electricFluxDensity : DimensionExpr := quot charge area

def permittivity : DimensionExpr := quot capacitance length

def permeability : DimensionExpr := quot inductance length

def exposure : DimensionExpr := quot charge mass

/-! ## Heat and chemistry -/

def irradiance : DimensionExpr := quot power area

def entropy : DimensionExpr := quot energy temperature

def specificEntropy : DimensionExpr := quot entropy mass

def thermalConductivity : DimensionExpr := quot power (prod length temperature)

def substanceConcentration : DimensionExpr := quot substance volume

def molarEnergy : DimensionExpr := quot energy substance

def molarEntropy : DimensionExpr := quot molarEnergy temperature

def catalyticActivity : DimensionExpr := quot substance time

def catalyticConcentration : DimensionExpr := quot catalyticActivity volume

/-! ## Light and radiation -/

def luminance : DimensionExpr := quot luminousIntensity area

def luminousFlux : DimensionExpr := prod luminousIntensity solidAngle

def illuminance : DimensionExpr := quot luminousFlux area

def radiantIntensity : DimensionExpr := quot power solidAngle

def radiance : DimensionExpr := quot radiantIntensity area

def absorbedDose : DimensionExpr := quot energy mass

def absorbedDoseRate : DimensionExpr := quot absorbedDose time

/-! ## By name -/

/-- The named dimensions. -/
def named : List (String × DimensionExpr) := [
  ("Length", length), ("Mass", mass), ("Time", time), ("Current", current),
  ("Temperature", temperature), ("Substance", substance), ("LuminousIntensity", luminousIntensity),
  ("Dimensionless", dimensionless), ("Angle", angle), ("SolidAngle", solidAngle),
  ("MassFraction", massFraction), ("Area", area), ("Volume", volume), ("Speed", speed),
  ("Acceleration", acceleration), ("WaveNumber", waveNumber), ("Frequency", frequency),
  ("MassDensity", massDensity), ("SpecificVolume", specificVolume), ("Force", force),
  ("Pressure", pressure), ("Energy", energy), ("Power", power),
  ("DynamicViscosity", dynamicViscosity), ("MomentOfForce", momentOfForce),
  ("SurfaceTension", surfaceTension), ("AngularVelocity", angularVelocity),
  ("AngularAcceleration", angularAcceleration), ("EnergyDensity", energyDensity),
  ("SpecificEnergy", specificEnergy), ("GravitationalConstantUnit", gravitation),
  ("CurrentDensity", currentDensity), ("MagneticFieldStrength", magneticFieldStrength),
  ("Charge", charge), ("Voltage", voltage), ("Capacitance", capacitance),
  ("Resistance", resistance), ("Conductance", conductance), ("MagneticFlux", magneticFlux),
  ("MagneticField", magneticField), ("Inductance", inductance),
  ("ElectricFieldStrength", electricFieldStrength), ("ElectricChargeDensity", electricChargeDensity),
  ("ElectricFluxDensity", electricFluxDensity), ("Permittivity", permittivity),
  ("Permeability", permeability), ("Exposure", exposure), ("Irradiance", irradiance),
  ("HeatFluxDensity", irradiance), ("Entropy", entropy), ("HeatCapacity", entropy),
  ("SpecificEntropy", specificEntropy), ("SpecificHeatCapacity", specificEntropy),
  ("ThermalConductivity", thermalConductivity), ("SubstanceConcentration", substanceConcentration),
  ("MolarEnergy", molarEnergy), ("MolarEntropy", molarEntropy), ("MolarHeatCapacity", molarEntropy),
  ("CatalyticActivity", catalyticActivity), ("CatalyticConcentration", catalyticConcentration),
  ("Luminance", luminance), ("LuminousFlux", luminousFlux), ("Illuminance", illuminance),
  ("RadiantIntensity", radiantIntensity), ("Radiance", radiance), ("Radioactivity", frequency),
  ("AbsorbedDose", absorbedDose), ("EquivalentDose", absorbedDose),
  ("AbsorbedDoseRate", absorbedDoseRate)]

end Dimensional.Dim
