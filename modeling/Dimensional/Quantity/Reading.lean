import Dimensional.Number.Reading
import Dimensional.Quantity.Text
import Dimensional.Text.Blank

/-!
# Reading quantities

A quantity is written as a number and a registered symbol, separated by blanks. Nothing is converted: the
number counts the coherent unit that the symbol names. A failure leaves a warning in the log.
-/

namespace Dimensional

/-- A reason why a text is not read as a quantity. -/
inductive ReadError where
  /-- The text is not two words. -/
  | format (text : String)
  /-- The first word is not a number. -/
  | number (word : String)
  /-- The second word is not a known symbol. -/
  | unit (word : String)
  /-- The symbol belongs to another dimension. -/
  | dimension (e : DimensionError)
deriving DecidableEq

/-- The text that reports why a text was not read. -/
def ReadError.message : ReadError → String
  | format text => "expected '<value> <unit>', got " ++ Text.quote text
  | number word => "invalid numeric value " ++ Text.quote word ++ ": invalid float literal"
  | unit word => "unknown unit symbol " ++ Text.quote word
  | dimension e => e.message

/-! ## The log -/

/-- How much a log record matters. -/
inductive LogLevel where
  | debug
  | warn
deriving DecidableEq

/-- The name of a level. -/
def LogLevel.name : LogLevel → String
  | debug => "DEBUG"
  | warn => "WARN"

/-- A message in the log. -/
structure LogRecord where
  level : LogLevel
  message : String
deriving DecidableEq

/-- The record as a line. -/
def LogRecord.line (r : LogRecord) : String :=
  r.level.name ++ " " ++ r.message

/-- The record of a text that was refused. -/
def LogRecord.rejected (text : String) (e : ReadError) : LogRecord where
  level := .warn
  message := "rejected quantity string " ++ Text.quote text ++ ": " ++ e.message

/-- The record of a number that was read. -/
def LogRecord.parsed (text : String) (x : Float) : LogRecord where
  level := .debug
  message := "parsed " ++ Text.quote text ++ " as " ++ Number.text {} x

/-! ## Reading -/

/-- The number of a text and the dimension of its symbol. -/
def readParts (text : String) : Except ReadError (Float × Dimension) :=
  match Text.words text.toList with
  | [number, symbol] =>
    match Number.read? number with
    | none => .error (.number (.ofList number))
    | some x =>
      match Registry.findSymbol (.ofList symbol) with
      | none => .error (.unit (.ofList symbol))
      | some v => .ok (x, v)
  | _ => .error (.format text)

/-- The number of a text whose symbol is known. -/
def readValue (text : String) : Except ReadError Float × List LogRecord :=
  match readParts text with
  | .ok (x, _) => (.ok x, [.parsed text x])
  | .error e => (.error e, [.rejected text e])

/-- The quantity of a text whose symbol has the dimension `d`, with no word on the log. -/
def checkQuantity (d : DimensionExpr) (text : String) : Except ReadError (Quantity d) := do
  let (x, found) ← readParts text
  let expected ← d.dimension.mapError (.dimension ∘ .fault)
  (expected.ensureMatches found).mapError .dimension
  return ⟨x⟩

/-- The quantity of a text whose symbol has the dimension `d`. Only a failure is logged. -/
def readQuantity (d : DimensionExpr) (text : String) :
    Except ReadError (Quantity d) × List LogRecord :=
  match checkQuantity d text with
  | .ok q => (.ok q, [])
  | .error e => (.error e, [.rejected text e])

end Dimensional
