import Dimensional.Constants
import Dimensional.Units.Suffixes

/-!
# Worked calculations

Short calculations that carry quantities through products, quotients, powers and roots. Where two
results are added or compared, their dimensions agree although they are written in different ways.
-/

namespace Dimensional.Worked

open Suffix Constants Quantity

/-- A result of a calculation. -/
inductive Result where
  | quantity {d : DimensionExpr} (q : Quantity d)
  | number (x : Float)
  | truth (b : Bool)
  | order (o : Option Ordering)

/-- Acceleration, force, work, power and speed of a body that is moved. -/
def mechanics (a₀ a₁ a₂ a₃ : Float) : List Result :=
  let acceleration := ((m a₀).per (s a₁)).per (s a₁)
  let force := (kg a₂).times acceleration
  let work := force.times (m a₃)
  let power := work.per (s a₁)
  [.quantity acceleration, .quantity force, .quantity work, .quantity power,
    .quantity (acceleration.times (s a₁))]

/-- Voltage, resistance, conductance, charge, capacitance and fields of a circuit. -/
def electrical (a₀ a₁ a₂ a₃ : Float) : List Result :=
  let voltage := (watt a₀).per (amp a₁)
  let resistance := voltage.per (amp a₁)
  let charge := (amp a₁).times (s a₂)
  let capacitance := charge.per voltage
  let flux := voltage.times (s a₂)
  let field := flux.per (m2 a₃)
  [.quantity voltage, .quantity resistance, .quantity (under 1 resistance), .quantity charge,
    .quantity capacitance, .quantity flux, .quantity field, .quantity (flux.per (amp a₁)),
    .quantity (capacitance.per (m a₃)), .quantity (voltage.per (m a₃))]

/-- Gravity at a distance from the centre of the Earth, a weight and an energy. -/
def gravity (a₀ a₁ a₂ a₃ : Float) : List Result :=
  let distance := m a₀
  let gravity := (gravitationalConstant.times massOfEarth).per (distance.times distance)
  [.quantity gravity, .quantity (gravity.times (kg a₁)),
    .quantity (((gravity.times distance).times (kg a₂)).scale a₃)]

/-- Wavelength, wave number, the speed of light and the impedance of vacuum, and angular motion. -/
def waves (a₀ a₁ a₂ a₃ : Float) : List Result :=
  let wavelength := speedOfLight.per (hz a₀)
  let squaredSpeed := under 1 (electricConstant.times magneticConstant)
  let impedance := (magneticConstant.per electricConstant).sqrt
  let angularVelocity := (deg a₂).per (s a₃)
  [.quantity wavelength, .quantity (under 1 wavelength), .quantity squaredSpeed,
    .quantity squaredSpeed.sqrt, .quantity impedance, .quantity (impedance.scale a₁),
    .quantity angularVelocity, .quantity (angularVelocity.per (s a₃))]

/-- Entropies, molar energies and rates. -/
def thermal (a₀ a₁ a₂ a₃ : Float) : List Result :=
  let entropy := (joule a₀).per (kelvin a₁)
  [.quantity entropy, .quantity (entropy.per (kg a₂)), .quantity (entropy.per (mol a₃)),
    .quantity ((joule a₀).per (mol a₃)),
    .quantity ((watt a₀).per ((m a₂).times (kelvin a₁))),
    .quantity (((mol a₃).per (s a₁)).per (m3 a₂))]

/-- Light and radiation. -/
def light (a₀ a₁ a₂ a₃ : Float) : List Result :=
  let flux := (cd a₀).times (Units.steradian.scale a₁)
  [.quantity flux, .quantity (flux.per (m2 a₂)),
    .quantity ((watt a₃).per (Units.steradian.scale a₁)), .quantity ((watt a₃).per (m2 a₂)),
    .quantity ((gy a₀).per (s a₁)), .quantity ((coulomb a₀).per (kg a₁))]

/-- Lengths, areas and volumes. -/
def geometry (a₀ a₁ a₂ a₃ : Float) : List Result :=
  let slab := (m a₀).times (m2 a₁)
  let side := (m2 a₁).sqrt Dim.area_hasExactRoot
  let total := (m3 a₂).add slab
  [.quantity slab, .quantity side, .quantity total, .quantity (total.sub ((m a₃).pow 3)),
    .quantity (side.pow 2), .quantity (slab.per side), .quantity (under 1 slab),
    .truth (total.compare? slab = some .gt)]

/-- A moving body: its energy, and its speed found back from the energy. -/
def kinetic (a₀ a₁ a₂ a₃ : Float) : List Result :=
  let speed := kmph a₀
  let energy := scaleLeft 0.5 (((kg a₁).times speed).times speed)
  let back := ((energy.scale 2.0).per (kg a₁)).sqrt
  [.quantity speed, .quantity energy, .quantity back, .order (back.compare? speed),
    .number (energy.inUnit (Units.cal.scale a₂)), .quantity (energy.per (m3 a₃)),
    .quantity (energy.per (kg a₁))]

/-- The calculations by name. -/
def named : List (String × (Float → Float → Float → Float → List Result)) := [
  ("mechanics", mechanics), ("electrical", electrical), ("gravity", gravity), ("waves", waves),
  ("thermal", thermal), ("light", light), ("geometry", geometry), ("kinetic", kinetic)]

end Dimensional.Worked
