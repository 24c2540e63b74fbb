import Dimensional.Constants
import Dimensional.Quantity.Text
import Dimensional.Units.Suffixes

/-!
# A tour of quantities

Base units, derived units, conversions, pure numbers and constants, one line of text each.
-/

namespace Dimensional.Tour

open Suffix Quantity

/-- A number with a fixed count of decimal places. -/
def places (n : Nat) (x : Float) : String :=
  Number.text { places := some n } x

/-- The base units. -/
def baseUnits : Except Fault (List String) := do
  return [
    "-- base units --",
    ← (m 1).text,
    ← (kg 1).text,
    ← (s 1).text,
    ← (amp 1).text,
    ← (kelvin 1).text,
    ← (mol 1).text,
    ← (cd 1).text]

/-- Products, quotients, roots and powers. -/
def derivedUnits : Except Fault (List String) := do
  let length := m 100
  let time := s 20
  let l ← length.text
  let t ← time.text
  let odd := (m 4).per (kg 2)
  return [
    "-- derived units --",
    l ++ " / " ++ t ++ " = " ++ (← (length.per time).text),
    l ++ " / " ++ t ++ " / " ++ t ++ " = " ++ (← ((length.per time).per time).text),
    l ++ " * " ++ l ++ " = " ++ (← (length.times length).text),
    "1 / " ++ t ++ " = " ++ (← (under 1 time).text),
    (← (newton 3).text) ++ " * " ++ (← (m 2).text) ++ " = " ++ (← ((newton 3).times (m 2)).text),
    (← (watt 60).text) ++ " / " ++ (← (volt 230).text) ++ " = " ++
      (← ((watt 60).per (volt 230)).text),
    "unregistered: " ++ (← odd.text) ++ " (exponent form: " ++ (← odd.text {} true) ++ ")",
    "root: " ++ (← ((m2 25).sqrt Dim.area_hasExactRoot).text),
    "power: " ++ (← ((m 2).pow 3).text)]

/-- Quantities as multiples of other units, and readings on temperature scales. -/
def conversions : List String := [
  "-- conversions --",
  places 3 ((km 42.195).inUnit Units.mile) ++ " mi",
  places 1 ((m 8848).inUnit Units.foot) ++ " ft",
  Number.text {} ((rad Units.pi).inUnit Units.degree) ++ " deg",
  Number.text {} (((deg 90).add (rad 2)).inUnit Units.degree) ++ " deg",
  places 5 ((atm 1).inUnit Units.bar) ++ " bar",
  places 2 ((m3 1).inUnit Units.gallon) ++ " gal",
  places 2 ((minutes 135).inUnit Units.hour) ++ " h",
  places 2 (Units.toCelsius (kelvin 300)) ++ " degC",
  places 1 (Units.toFahrenheit (degC 37)) ++ " degF"]

/-- Ratios of quantities, and a period found from a frequency. -/
def pureNumbers : Except Fault (List String) := do
  let ratio : Quantity Dim.dimensionless := ((kg 3).per (g 1500)).cast
  let frequency := hz 50
  let period : Quantity Dim.time := (under 1 frequency).cast
  return [
    "-- dimensionless --",
    "ratio = " ++ (← ratio.text),
    "period of " ++ (← frequency.text) ++ " = " ++ (← period.text { places := some 3 })]

/-- Physical constants. -/
def constants : Except Fault (List String) := do
  let c := Constants.speedOfLight
  let gravitation := Constants.gravitationalConstant
  return [
    "-- constants --",
    "c = " ++ Number.scientificText 6 c.value ++ (← unitText Dim.speed false),
    "G = " ++ Number.scientificText 4 gravitation.value ++ (← unitText Dim.gravitation false),
    "e = " ++ (← Constants.electronCharge.text)]

/-- All lines of the tour. -/
def lines : Except Fault (List String) := do
  return (← baseUnits) ++ (← derivedUnits) ++ conversions ++ (← pureNumbers) ++ (← constants)

end Dimensional.Tour
