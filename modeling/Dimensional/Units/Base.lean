import Dimensional.Quantity.Basic

/-!
# Base units

The units that count one in their own dimension.
-/

namespace Dimensional.Units

def meter : Quantity Dim.length := ⟨1⟩

def kilogram : Quantity Dim.mass := ⟨1⟩

def second : Quantity Dim.time := ⟨1⟩

def ampere : Quantity Dim.current := ⟨1⟩

def kelvin : Quantity Dim.temperature := ⟨1⟩

def mole : Quantity Dim.substance := ⟨1⟩

def candela : Quantity Dim.luminousIntensity := ⟨1⟩

def radian : Quantity Dim.angle := ⟨1⟩

def steradian : Quantity Dim.solidAngle := ⟨1⟩

end Dimensional.Units
