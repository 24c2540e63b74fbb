import Dimensional.Tour

/-! # The program that prints the tour -/

/-- Prints the tour line by line. -/
def main : IO UInt32 := do
  match Dimensional.Tour.lines with
  | .ok lines =>
    for line in lines do
      IO.println line
    return 0
  | .error fault =>
    IO.eprintln fault.message
    return 1
