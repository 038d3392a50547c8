import Mathlib.Algebra.Order.Ring.Int
import Mathlib.Data.List.Nodup

/-!
# Formats

A format writes values as bytes and reads them back.  A lawful one reads back what it writes; it may
read other bytes too, and may refuse values and bytes.
-/

namespace Kerber

/-- A format for values of a type.  Errors are texts. -/
structure Codec (α : Type) where
  encode : α → Except (List UInt8) (List UInt8)
  decode : List UInt8 → Except (List UInt8) α

namespace Codec

variable {α : Type}

/-- What was written is read back. -/
def Lawful (c : Codec α) : Prop :=
  ∀ {a bytes}, c.encode a = .ok bytes → c.decode bytes = .ok a

end Codec

end Kerber
