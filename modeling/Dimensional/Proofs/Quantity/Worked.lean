import Mathlib.Data.List.Basic
import Dimensional.Quantity.Text
import Dimensional.Worked

/-!
# The units of worked calculations

The unit of a result is known before there are numbers, since the dimension is part of the type. A calculation
has its units, and none of them has a fault, whatever numbers go in.
-/

namespace Dimensional.Worked

/-- The unit of a result. Only quantities have one. -/
def Result.unit : Result → Except Fault String
  | @quantity d _ => do (← d.unitName).text
  | _ => .ok ""

section

variable {d : DimensionExpr}

@[simp] theorem unit_quantity (q : Quantity d) :
    (Result.quantity q).unit = d.unitName >>= UnitName.text := rfl

@[simp] theorem unit_number (x : Float) : (Result.number x).unit = .ok "" := rfl

@[simp] theorem unit_truth (b : Bool) : (Result.truth b).unit = .ok "" := rfl

@[simp] theorem unit_order (o : Option Ordering) : (Result.order o).unit = .ok "" := rfl

end

theorem units_named (a₀ a₁ a₂ a₃ : Float) :
    (named.map fun c => (c.1, (c.2 a₀ a₁ a₂ a₃).map Result.unit)) = [
      ("mechanics", ["m/s^2", "N", "J", "W", "m/s"].map .ok),
      ("electrical", ["V", "Ohm", "S", "C", "F", "Wb", "T", "H", "F/m", "V/m"].map .ok),
      ("gravity", ["m/s^2", "N", "J"].map .ok),
      ("waves", ["m", "1/m", "Gy", "m/s", "Ohm", "Ohm", "Hz", "rad/s^2"].map .ok),
      ("thermal", ["J/K", "J/(kg*K)", "J/(mol*K)", "J/mol", "W/(m*K)", "kat/m^3"].map .ok),
      ("light", ["cd", "lx", "W", "W/m^2", "Gy/s", "C/kg"].map .ok),
      ("geometry", ["m^3", "m", "m^3", "m^3", "m^2", "m^2", "1/m^3", ""].map .ok),
      ("kinetic", ["m/s", "J", "m/s", "", "", "Pa", "Gy"].map .ok)] := by
  -- no number is left once the results are cut down to their dimensions
  simp only [named, List.map_cons, List.map_nil, mechanics, electrical, gravity, waves, thermal, light, geometry,
    kinetic, unit_quantity, unit_number, unit_truth, unit_order]
  decide +kernel

end Dimensional.Worked
