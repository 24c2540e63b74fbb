import Dimensional.Description
import Dimensional.Dimension.Named
import Dimensional.Outcome
import Dimensional.Text.Quoted

/-!
# Registered unit names

The registry pairs a dimension with the conventional symbol of its coherent SI unit. Dimensions are
compared by value, so a search finds every stored form. No dimension and no symbol is registered twice.
-/

namespace Dimensional

/-- A dimension and the symbol of its unit. -/
structure Registration where
  dimension : Dimension
  symbol : String
deriving DecidableEq

namespace Registration

/-- The unit of a dimension as it is written. A dimension with a fault has none. -/
def of (d : DimensionExpr) (symbol : String) (h : d.dimension.isOk := by decide) : Registration where
  dimension := Outcome.get d.dimension h
  symbol

theorem dimension_of (d : DimensionExpr) (symbol : String) (h : d.dimension.isOk) :
    d.dimension = .ok (of d symbol h).dimension :=
  Outcome.eq_ok_get _ h

/-- Both parts in words. -/
def describe (r : Registration) : Description :=
  .record "Registration" [("vector", r.dimension.describe), ("symbol", Text.quote r.symbol)]

/-- Two registrations that cannot stand in one registry. -/
def Clashes (r s : Registration) : Prop :=
  r.dimension.Matches s.dimension ∨ r.symbol = s.symbol

instance (r s : Registration) : Decidable (r.Clashes s) :=
  inferInstanceAs (Decidable (_ ∨ _))

end Registration

namespace Registry

/-- No dimension and no symbol occurs twice. -/
def oneToOne : List Registration → Bool
  | [] => true
  | r :: rest => rest.all (fun s => ¬ r.Clashes s) && oneToOne rest

/-- The symbol of the first registration with this dimension. -/
def symbolIn (rs : List Registration) (v : Dimension) : Option String :=
  (rs.find? fun r => r.dimension.Matches v).map (·.symbol)

/-- The dimension of the first registration with this symbol. -/
def dimensionIn (rs : List Registration) (symbol : String) : Option Dimension :=
  (rs.find? fun r => r.symbol = symbol).map (·.dimension)

/-! ## The SI units -/

/-- The units of the base dimensions. -/
def baseUnits : List Registration := [
  .of Dim.length "m",
  .of Dim.mass "kg",
  .of Dim.time "s",
  .of Dim.current "A",
  .of Dim.temperature "K",
  .of Dim.substance "mol",
  .of Dim.luminousIntensity "cd"]

/-- The units of geometry and motion. -/
def motionUnits : List Registration := [
  .of Dim.area "m^2",
  .of Dim.volume "m^3",
  .of Dim.speed "m/s",
  .of Dim.acceleration "m/s^2"]

/-- The derived units with names of their own. -/
def namedUnits : List Registration := [
  .of Dim.frequency "Hz",
  .of Dim.force "N",
  .of Dim.pressure "Pa",
  .of Dim.energy "J",
  .of Dim.power "W",
  .of Dim.charge "C",
  .of Dim.voltage "V",
  .of Dim.capacitance "F",
  .of Dim.resistance "Ohm",
  .of Dim.conductance "S",
  .of Dim.magneticFlux "Wb",
  .of Dim.magneticField "T",
  .of Dim.inductance "H",
  .of Dim.illuminance "lx",
  .of Dim.absorbedDose "Gy",
  .of Dim.catalyticActivity "kat"]

/-- The units written as products and quotients of others. -/
def compoundUnits : List Registration := [
  .of Dim.dynamicViscosity "Pa*s",
  .of Dim.angularAcceleration "rad/s^2",
  .of Dim.irradiance "W/m^2",
  .of Dim.entropy "J/K",
  .of Dim.specificEntropy "J/(kg*K)",
  .of Dim.thermalConductivity "W/(m*K)",
  .of Dim.electricFieldStrength "V/m",
  .of Dim.electricChargeDensity "C/m^3",
  .of Dim.electricFluxDensity "C/m^2",
  .of Dim.permittivity "F/m",
  .of Dim.permeability "H/m",
  .of Dim.molarEnergy "J/mol",
  .of Dim.molarEntropy "J/(mol*K)",
  .of Dim.exposure "C/kg",
  .of Dim.absorbedDoseRate "Gy/s",
  .of Dim.catalyticConcentration "kat/m^3"]

/-- Every registration, in order. -/
def entries : List Registration :=
  baseUnits ++ motionUnits ++ namedUnits ++ compoundUnits

/-! ## Searching -/

/-- The registered symbol of a dimension. -/
def lookup (v : Dimension) : Option String :=
  symbolIn entries v

/-- The symbol that is accepted for plane and solid angles. -/
def radian : String := "rad"

/-- The dimension of a symbol. Angles are dimensionless. -/
def findSymbol (symbol : String) : Option Dimension :=
  if symbol = radian then some .dimensionless else dimensionIn entries symbol

/-- The symbol is registered or that of an angle. -/
def IsKnown (symbol : String) : Prop :=
  (findSymbol symbol).isSome

instance (symbol : String) : Decidable (IsKnown symbol) :=
  inferInstanceAs (Decidable (_ = true))

end Registry

end Dimensional
