import Dimensional.Units.Base
import Dimensional.Units.Multiples

/-! # Units of electric current -/

namespace Dimensional.Units

def milliamp : Quantity Dim.current := ampere.scale Multiple.milli

def microamp : Quantity Dim.current := ampere.scale Multiple.micro

def nanoamp : Quantity Dim.current := ampere.scale Multiple.nano

def picoamp : Quantity Dim.current := ampere.scale Multiple.pico

/-- The units of electric current by name. -/
def currents : List (String × Quantity Dim.current) := [
  ("MILLIAMP", milliamp), ("MICROAMP", microamp), ("NANOAMP", nanoamp), ("PICOAMP", picoamp)]

end Dimensional.Units
