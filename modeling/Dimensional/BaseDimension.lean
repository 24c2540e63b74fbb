/-! # The seven base dimensions -/

namespace Dimensional

/-- A base dimension of the SI. -/
inductive BaseDimension where
  | length
  | mass
  | time
  | current
  | temperature
  | substance
  | luminousIntensity
deriving DecidableEq

namespace BaseDimension

/-- All base dimensions, in slot order. -/
def all : List BaseDimension :=
  [length, mass, time, current, temperature, substance, luminousIntensity]

theorem mem_all (b : BaseDimension) : b ∈ all := by
  cases b <;> decide

instance (p : BaseDimension → Prop) [DecidablePred p] : Decidable (∀ b, p b) :=
  decidable_of_iff (∀ b ∈ all, p b) ⟨fun h b => h b b.mem_all, fun h b _ => h b⟩

/-- The slot of a base dimension. -/
def index : BaseDimension → Nat
  | length => 0
  | mass => 1
  | time => 2
  | current => 3
  | temperature => 4
  | substance => 5
  | luminousIntensity => 6

/-- The symbol of the SI base unit. -/
def symbol : BaseDimension → String
  | length => "m"
  | mass => "kg"
  | time => "s"
  | current => "A"
  | temperature => "K"
  | substance => "mol"
  | luminousIntensity => "cd"

/-- The conventional letter of the dimension. -/
def label : BaseDimension → String
  | length => "L"
  | mass => "M"
  | time => "T"
  | current => "I"
  | temperature => "Θ"
  | substance => "N"
  | luminousIntensity => "J"

/-- The name of the dimension. -/
def name : BaseDimension → String
  | length => "Length"
  | mass => "Mass"
  | time => "Time"
  | current => "Current"
  | temperature => "Temperature"
  | substance => "Substance"
  | luminousIntensity => "LuminousIntensity"

end BaseDimension

end Dimensional
