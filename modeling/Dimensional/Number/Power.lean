/-!
# Powers

Programs compute powers of whole numbers with the built-in ones, also where a library brings powers of
its own. An exponent that is a numeral is written with its type, or it would be taken for the library's.
-/

namespace Dimensional.Powers

scoped instance (priority := 2000) builtin {α : Type} [NatPow α] : Pow α Nat := instPowNat

end Dimensional.Powers
