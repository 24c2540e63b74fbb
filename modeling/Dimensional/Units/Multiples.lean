/-!
# Decimal multiples

The SI names for powers of ten, as plain factors.
-/

namespace Dimensional.Multiple

def yotta : Float := 1.0e24

def zetta : Float := 1.0e21

def exa : Float := 1.0e18

def peta : Float := 1.0e15

def tera : Float := 1.0e12

def giga : Float := 1.0e9

def mega : Float := 1.0e6

def kilo : Float := 1.0e3

def hecto : Float := 1.0e2

def deka : Float := 1.0e1

def deci : Float := 1.0e-1

def centi : Float := 1.0e-2

def milli : Float := 1.0e-3

def micro : Float := 1.0e-6

def nano : Float := 1.0e-9

def pico : Float := 1.0e-12

def femto : Float := 1.0e-15

def atto : Float := 1.0e-18

def zepto : Float := 1.0e-21

def yocto : Float := 1.0e-24

/-- The factors by name. -/
def named : List (String × Float) := [
  ("YOTTA", yotta), ("ZETTA", zetta), ("EXA", exa), ("PETA", peta), ("TERA", tera), ("GIGA", giga),
  ("MEGA", mega), ("KILO", kilo), ("HECTO", hecto), ("DEKA", deka), ("DECI", deci),
  ("CENTI", centi), ("MILLI", milli), ("MICRO", micro), ("NANO", nano), ("PICO", pico),
  ("FEMTO", femto), ("ATTO", atto), ("ZEPTO", zepto), ("YOCTO", yocto)]

end Dimensional.Multiple
