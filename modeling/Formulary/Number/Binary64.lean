import Formulary.Binary64.Decimal
import Formulary.Number.Basic

/-!
# Formula values and doubles

Decimals and doubles approximate each other; infinities and not-a-number
correspond.  A double too large for a decimal becomes an infinity.
-/

namespace Formulary.Number

/-- The double that approximates the value. -/
def toBinary64 : Number → Binary64
  | .finite decimal => decimal.toBinary64
  | .infinite negative => .infinite negative
  | .nan => .nan

/-- The value that approximates a double. -/
def ofBinary64 : Binary64 → Number
  | .finite negative significand exponent =>
      ofResult
        (Binary64.finite negative significand exponent).toDecimal?
        negative
  | .infinite negative => .infinite negative
  | .nan => .nan

end Formulary.Number
