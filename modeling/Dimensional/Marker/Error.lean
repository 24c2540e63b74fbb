import Dimensional.Exponent.Fault
import Dimensional.Marker.Complaint

/-! # Why a declaration gives no marker -/

namespace Dimensional.Marker

/-- A reason for a declaration to give no marker. -/
inductive MarkerError where
  /-- The text is not a declaration. -/
  | declaration (c : Complaint)
  /-- No attribute tells the dimension. -/
  | missing
  /-- The attribute ends behind its name. -/
  | noArguments
  /-- The attribute is given a value. -/
  | valueForArguments
  /-- The inside of the attribute is not a sequence of entries. -/
  | entry (c : Complaint)
  /-- An entry has no known key. -/
  | unknownKey (key : Name)
  /-- An exponent is too large to be stored. -/
  | tooLarge
  /-- An exponent is too small to be stored. -/
  | tooSmall
  /-- A string is not a fraction of two numbers that can be stored. -/
  | notFraction (text : String)
  /-- A string is a fraction with the denominator zero. -/
  | zeroDenominator
  /-- An exponent is neither a whole number nor a string. -/
  | notExponent
  /-- The sign of an exponent cannot be worked out. -/
  | fault (f : Fault)
deriving DecidableEq

/-- The text that reports the reason. -/
def MarkerError.message : MarkerError → String
  | declaration c => c.message
  | missing => "missing #[dimension(...)] attribute"
  | noArguments => "expected attribute arguments in parentheses: #[dimension(...)]"
  | valueForArguments => "expected parentheses: #[dimension(...)]"
  | entry c => c.message
  | unknownKey key => "unknown attribute `" ++ key.written ++ "`"
  | tooLarge => "number too large to fit in target type"
  | tooSmall => "number too small to fit in target type"
  | notFraction text => "invalid rational exponent `" ++ text ++ "`"
  | zeroDenominator => "exponent denominator must not be zero"
  | notExponent => "expected an integer exponent or a rational string like \"1/2\""
  | fault f => f.message

end Dimensional.Marker
