import Dimensional.Marker.Token

/-!
# What is wrong with a declaration

A complaint says what the grammar wants where the tokens offer something else, or which of its rules the
tokens break.
-/

namespace Dimensional.Marker

/-- A reason why tokens do not form what is asked for. -/
inductive Complaint where
  /-- The text is not a sequence of tokens with balanced brackets. -/
  | notTokens
  /-- One of the wanted things would have to stand here, perhaps behind the last token. -/
  | expected (wanted : List String) (atEnd : Bool)
  /-- A keyword stands where a name has to. -/
  | keyword (word : String)
  /-- Tokens are left at the end of a group, or at the end of the whole. -/
  | leftover (inside : Option Delimiter)
  /-- The value of an attribute starts with another attribute. -/
  | attributeInAttribute
  /-- An object type names no trait. -/
  | objectWithoutTrait
  /-- An opaque type names no trait. -/
  | opaqueWithoutTrait
  /-- A bound starts in a way that its place does not admit. -/
  | notAllowed (start : String)
  /-- A relaxed bound holds for given lifetimes. -/
  | relaxedForLifetimes
  /-- Conditions start with parameters of their own. -/
  | parametersOnConditions
  /-- A comparison is compared in turn. -/
  | chainedComparison
  /-- Attributes stand before a range that has no start. -/
  | attributesOnRange
  /-- A change of type is followed by what would belong to the type. -/
  | castFollowed (what : String)
  /-- A labelled expression would have to stand in parentheses. -/
  | parenthesesRequired
  /-- The number of a member has a sign. -/
  | invalidDigit
  /-- The number of a member does not fit. -/
  | numberTooLarge
  /-- No semicolon ends a statement that needs one. -/
  | unendedStatement
  /-- A range that is open to one side is an element of a slice. -/
  | openRangeInSlice
  /-- A function takes its own value twice. -/
  | secondReceiver
  /-- A function takes its own value behind another parameter. -/
  | lateReceiver
  /-- An implementation of no trait is negative. -/
  | negativeInherent
deriving DecidableEq

/-- The text of a complaint. -/
def Complaint.message : Complaint → String
  | notTokens => "cannot parse string into token stream"
  | expected [] atEnd => if atEnd then "unexpected end of input" else "unexpected token"
  | expected wanted atEnd =>
    (if atEnd then "unexpected end of input, " else "") ++
      match wanted with
      | [a] => "expected " ++ a
      | [a, b] => "expected " ++ a ++ " or " ++ b
      | _ => "expected one of: " ++ ", ".intercalate wanted
  | keyword word => "expected identifier, found keyword `" ++ word ++ "`"
  | leftover none => "unexpected token"
  | leftover (some d) => "unexpected token, expected `" ++ d.closing.toString ++ "`"
  | attributeInAttribute => "unexpected attribute inside of attribute"
  | objectWithoutTrait => "at least one trait is required for an object type"
  | opaqueWithoutTrait => "at least one trait must be specified"
  | notAllowed start => start ++ " is not allowed here"
  | relaxedForLifetimes => "`for<...>` binder not allowed with `?` trait polarity modifier"
  | parametersOnConditions => "generic parameters on `where` clauses are reserved for future use"
  | chainedComparison => "comparison operators cannot be chained"
  | attributesOnRange => "attributes are not allowed on range expressions starting with `..`"
  | castFollowed what => "casts cannot be followed by " ++ what
  | parenthesesRequired => "parentheses required"
  | invalidDigit => "invalid digit found in string"
  | numberTooLarge => "number too large to fit in target type"
  | unendedStatement => "unexpected token, expected `;`"
  | openRangeInSlice => "range pattern is not allowed unparenthesized inside slice pattern"
  | secondReceiver => "unexpected second method receiver"
  | lateReceiver => "unexpected method receiver"
  | negativeInherent => "inherent impls cannot be negative"

end Dimensional.Marker
