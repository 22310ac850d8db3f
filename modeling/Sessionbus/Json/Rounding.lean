import Mathlib.Tactic.Linarith
import Mathlib.Tactic.Positivity
import Mathlib.Tactic.Ring
import Mathlib.Tactic.FieldSimp
import Sessionbus.Json.Text

/-!
# Whole numbers in binary64
-/

namespace Json

end Json
