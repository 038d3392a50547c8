import Kerber.Issue.Equiv.As

/-!
# Whom a certificate speaks for

A signed PKINIT request is accepted when the certificate names the client or the client's entry has a
rule for it (`authorize_cert`).  The name that is compared with the certificate is the one of the
request as it was received, outside of FAST; the entry the ticket is issued for is the one of the
armored body.  `pkinit_client_authorized`: without FAST, or when the outer body does not name another
client, the certificate speaks for the client.  `certificate_of_another_client`: with the two names
apart, the owner of one certificate gets the ticket of any client.
-/

namespace Kerber.Issue

open PrincipalName

variable {name : PrincipalName}

variable {kdc : PreauthKdc} {pk : PkinitKdc} {cert : Str} {client : Principal}
  {reqClient : PrincipalName} {rock : PreauthRock} {etype : EncryptionType} {raw : Str}

/-- A name stands for an entry: it is the entry's own, or looking it up gives the entry. -/
def resolvesTo (kdc : PreauthKdc) (client : Principal) (name : PrincipalName) (realm : Str) : Bool :=
  matchClient kdc client client.name kdc.store.realm name realm

/-- A certificate speaks for a client: one of its names stands for the entry or is the name the client
goes by in the request, or the entry's rule accepts it. -/
def speaksFor (kdc : PreauthKdc) (pk : PkinitKdc) (cert : Str) (client : Principal)
    (cname : PrincipalName) : Bool :=
  ((pk.certSans cert pk.allowUpn).any fun sans => (sans.names kdc.store.realm).any fun (n, r) =>
      resolvesTo kdc client n r || readName n r == readName cname kdc.store.realm)
    || (stringAttr client (str "pkinit_cert_match")).any fun rule =>
      (pk.certMatch rule cert).toOption.getD false

/-! ### Authorization -/

/-- A name that matches the client stands for the entry or is the client's name in the request. -/
theorem matchClient_eq {realm : Str}
    (h : matchClient kdc client reqClient kdc.store.realm name realm = true) :
    (resolvesTo kdc client name realm
      || readName name realm == readName reqClient kdc.store.realm) = true := by
  unfold matchClient at h
  unfold resolvesTo matchClient
  rw [Bool.or_eq_true, Bool.or_eq_true] at h
  rcases h with (h | h) | h
  · rw [h, Bool.or_true]
  · rw [h, Bool.or_true, Bool.true_or, Bool.true_or]
  · rw [h, Bool.or_true, Bool.true_or]

theorem authorizeSans_ok {sans : CertSans} (hsans : pk.certSans cert pk.allowUpn = some sans)
    (h : authorizeSans kdc sans client reqClient kdc.store.realm = .ok true) :
    speaksFor kdc pk cert client reqClient = true := by
  unfold authorizeSans at h
  split at h
  · cases h
  · obtain ⟨hany, -⟩ := rejectIf_bind_ok h
    rw [Bool.not_eq_false', List.any_eq_true] at hany
    obtain ⟨⟨n, r⟩, hmem, hmatch⟩ := hany
    rw [speaksFor, hsans, Bool.or_eq_true]
    exact .inl (List.any_eq_true.mpr ⟨(n, r), hmem, matchClient_eq hmatch⟩)

theorem authorizeRule_ok (h : authorizeRule pk cert client = .ok true) :
    speaksFor kdc pk cert client reqClient = true := by
  unfold authorizeRule at h
  split at h
  · cases h
  · rename_i rule hrule
    split at h
    · rename_i hmatch
      rw [speaksFor, hrule, Bool.or_eq_true]
      refine .inr ?_
      show (pk.certMatch rule cert).toOption.getD false = true
      rw [hmatch]
      rfl
    · cases h
    · cases h

theorem authorizeCert_ok (h : authorizeCert kdc pk cert client reqClient kdc.store.realm = .ok ()) :
    speaksFor kdc pk cert client reqClient = true := by
  obtain ⟨sans, hsans, h⟩ := bind_ok h
  obtain ⟨bySan, hbySan, h⟩ := bind_ok h
  obtain ⟨-, h⟩ := rejectIf_bind_ok h
  obtain ⟨byRule, hbyRule, h⟩ := bind_ok h
  have haccepted := rejectIf_ok h
  rw [Bool.not_eq_false', Bool.or_eq_true] at haccepted
  rcases haccepted with rfl | rfl
  · exact authorizeSans_ok (elim_ok hsans) hbySan
  · exact authorizeRule_ok hbyRule

/-- The signer of a request that PKINIT has verified. -/
structure SignedBy (kdc : PreauthKdc) (rock : PreauthRock) (pk : PkinitKdc) (cert : Str) : Prop where
  pkinit : kdc.pkinit = some pk
  signed : ∃ raw cms pack, findPa rock.padata paPkAsReq = some raw ∧
    pk.signedAuthPack raw = .ok cms ∧ pk.cmsSigneddataVerify rock.cname cms = .ok pack ∧
    pack.signer = some cert

/-- A signed answer of PKINIT: the certificate speaks for the client under the name of the request as
it was received. -/
theorem processPkinit_signed {key : ProtocolKey} {pa : PaData}
    (h : processPkinit kdc rock = .ok (some (.pkinit key pa true))) :
    ∃ pk cert, SignedBy kdc rock pk cert ∧
      speaksFor kdc pk cert rock.client (pkinitReqCname kdc rock) = true := by
  unfold processPkinit at h
  split at h
  · rename_i pk raw etype hpk hraw hetype
    obtain ⟨cms, hcms, h⟩ := bind_ok h
    obtain ⟨pack, hpack, h⟩ := bind_ok h
    obtain ⟨_, hsigner, h⟩ := bind_ok h
    obtain ⟨ctime, _, h⟩ := bind_ok h
    obtain ⟨_, _, h⟩ := bind_ok h
    obtain ⟨⟨nonce, spki⟩, _, h⟩ := bind_ok h
    obtain ⟨peer, _, h⟩ := bind_ok h
    obtain ⟨_, h⟩ := rejectIf_bind_ok h
    obtain ⟨_, _, h⟩ := bind_ok h
    obtain ⟨peer', _, h⟩ := bind_ok h
    obtain ⟨⟨key', pa'⟩, _, h⟩ := bind_ok h
    have hsome : pack.signer.isSome = true := by
      have haction := Option.some.inj (Except.ok.inj h)
      exact (PreauthAction.pkinit.inj haction).2.2
    obtain ⟨cert, hcert⟩ := Option.isSome_iff_exists.mp hsome
    rw [hcert] at hsigner
    exact ⟨pk, cert, ⟨hpk, raw, cms, pack, hraw, mapError_ok hcms, hpack, hcert⟩,
      authorizeCert_ok hsigner⟩
  · cases h
  · cases h

theorem parseNameEx_anonymous (realm : Str) :
    parseNameEx
        (unparseNoRealm ⟨ntEnterprise, anonymousPrincipalName.nameString⟩)
        realm false
      = .ok ⟨anonymousPrincipalName.nameString, realm, false⟩ := by
  have hloop : parseNameLoop {}
      (unparseNoRealm ⟨ntEnterprise, anonymousPrincipalName.nameString⟩)
      = .ok ⟨[str "WELLKNOWN"], str "ANONYMOUS", none⟩ := by
    decide +kernel
  rw [parseNameEx, if_neg Bool.false_ne_true, hloop]
  rfl

theorem readName_of_isAnonymous (realm : Str) (h : isAnonymousPrincipal name = true) :
    readName name realm = readName anonymousPrincipalName realm := by
  obtain ⟨nameType, nameString⟩ := name
  obtain rfl : nameString = anonymousPrincipalName.nameString := eq_of_beq h
  have hplain : readName anonymousPrincipalName realm = (realm, anonymousPrincipalName.nameString) :=
    if_neg (by decide)
  rw [hplain]
  by_cases htype : nameType = ntEnterprise
  · rw [readName, if_pos htype, htype, parseNameEx_anonymous]
  · exact if_neg htype

theorem speaksFor_congr {name' : PrincipalName}
    (h : readName name kdc.store.realm = readName name' kdc.store.realm) :
    speaksFor kdc pk cert client name = speaksFor kdc pk cert client name' := by
  rw [speaksFor, speaksFor, h]

theorem speaksFor_of_entry (h : speaksFor kdc pk cert client client.name = true) :
    speaksFor kdc pk cert client name = true := by
  rw [speaksFor, Bool.or_eq_true] at h ⊢
  refine h.imp_left fun hsans => ?_
  rw [Option.any_eq_true] at hsans ⊢
  obtain ⟨sans, hsans, hany⟩ := hsans
  refine ⟨sans, hsans, ?_⟩
  rw [List.any_eq_true] at hany ⊢
  obtain ⟨⟨n, r⟩, hmem, hname⟩ := hany
  refine ⟨(n, r), hmem, ?_⟩
  dsimp only at hname ⊢
  rw [Bool.or_eq_true] at hname ⊢
  refine .inl (hname.elim id fun hread => ?_)
  rw [resolvesTo, matchClient, hread, Bool.true_or, Bool.true_or]

namespace As

open Tgs (FastOk Req)

variable {run : Run} {req : Req} {raw : Option Str} {issued : IssuedAs}

/-- **A certificate speaks for the client** of the ticket when the request is not armored, or when its
outer body names the same client as the armored one or none. -/
theorem pkinit_client_authorized (h : issueAsFrom run req raw = .ok issued)
    (hpacket : ∀ der, asReqDer run req raw = .ok der → run.libs.asReqBody der = some req.body) :
    ∃ s, steps run req raw = .ok s ∧
      s.minted.mint run.libs.toLibs run.store run.draw = .ok issued.ticket ∧
      ∀ key pa, s.pre.answer = some (.pkinit, .pkinit key pa true) →
        (s.fast = none ∨ req.body.cname = none ∨ req.body.cname = s.body.cname) →
        ∃ pk cert, SignedBy run.kdc s.pre.rock pk cert ∧
          s.body.cname = some s.pre.lookup.reqCname ∧
          speaksFor run.kdc pk cert s.client s.pre.lookup.reqCname = true := by
  obtain ⟨s, hs, hmint⟩ := steps_of_issued h
  refine ⟨s, hs, hmint, fun key pa hanswer hnames => ?_⟩
  have t := trace_of_steps hs
  have hp := t.preauths
  have hcname := t.looks.reqCname
  obtain ⟨der, paBody, hder, hrock⟩ := hp.rock
  have hrun := hp.answer
  rw [hanswer] at hrun
  obtain ⟨pk, cert, hsigned, hspeaks⟩ := processPkinit_signed (runAsPreauth_some hrun).2
  refine ⟨pk, cert, hsigned, hcname, ?_⟩
  have hclient : s.pre.rock.client = s.client := by rw [hrock]; rfl
  have hreq : pkinitReqCname run.kdc s.pre.rock = req.body.cname.getD s.pre.cname := by
    rw [pkinitReqCname, hrock]
    show ((run.libs.asReqBody der).bind (·.cname)).getD s.pre.cname = _
    rw [hpacket der hder]
    rfl
  rw [hclient, hreq] at hspeaks
  have hsame : req.body.cname = none ∨ req.body.cname = s.body.cname := by
    rcases hnames with hfast | hnone | hsame
    · have hbody := t.body
      rw [hfast] at hbody
      exact .inr (congrArg (·.cname) (Except.ok.inj hbody))
    · exact .inl hnone
    · exact .inr hsame
  rcases hsame with hnone | hsame
  · -- the outer body names no one, and the name of the ticket was compared
    rw [hnone, Option.getD_none] at hspeaks
    cases hanon : s.pre.anonymousAs with
    | true =>
      rw [hp.cname, hanon, if_pos rfl] at hspeaks
      rw [speaksFor_congr (readName_of_isAnonymous _ (hp.anonymousName hanon))]
      exact hspeaks
    | false =>
      rw [hp.cname, hanon, if_neg Bool.false_ne_true] at hspeaks
      rcases t.looks.cname with hl | hl
      · rw [← hl]
        exact hspeaks
      · rw [hl] at hspeaks
        exact speaksFor_of_entry hspeaks
  · rw [hsame, hcname, Option.getD_some] at hspeaks
    exact hspeaks

/-! ### Two names -/

def clientEntry (name : Str) : Principal := plainEntry [name] serverKeyA

/-- A KDC for which every certificate is valid and names `mallory`. -/
def malloryPkinit : PkinitKdc where
  allowUpn := false
  requireEku := false
  signedAuthPack := .ok
  cmsSigneddataVerify _ cms := .ok ⟨cms, some (str "cert")⟩
  certSans _ _ := some ⟨[(str "R", ntPrincipal, [str "mallory"])], []⟩
  certEku _ := true
  certMatch _ _ := .ok false
  authpackCtime _ := some 2000
  authpackMaybeDh _ := some (0, some [])
  serverCheckDh _ spki := .ok spki
  authpackPaChecksumOk _ _ := true
  parseAuthpackFreshnessToken _ := none
  checkFreshnessToken _ := .ok ()
  returnPadata _ _ _ _ _ _ := .ok (kdcKeyB, ⟨17, []⟩)

/-- An armored request for a ticket of a client, with a signature. -/
def armoredPkinit (name : Str) : FastOk where
  armorKey := serverKeyA
  innerPadata := [⟨paPkAsReq, str "signed"⟩]
  innerBody := bodySerial.put (plainAsBody ⟨ntPrincipal, [name]⟩)
  nonce := 0
  hidesClient := false

/-- The request around it, in which the client is `mallory`. -/
def malloryReq : Req := plainAsReq (plainAsBody ⟨ntPrincipal, [str "mallory"]⟩) none

/-- The KDC that receives it. -/
def malloryRun (name : Str) : Run :=
  plainRun [clientEntry (str "mallory"), clientEntry (str "admin")] [.pkinit] (some malloryPkinit)
    (some (armoredPkinit name))

def Steps.signedPkinit (s : Steps) : Bool :=
  match s.pre.answer with
  | some (.pkinit, .pkinit _ _ signed) => signed
  | _ => false

theorem Steps.answer_of_signedPkinit {s : Steps} (h : s.signedPkinit = true) :
    ∃ key pa, s.pre.answer = some (.pkinit, .pkinit key pa true) := by
  unfold Steps.signedPkinit at h
  split at h
  · rename_i key pa signed hanswer
    subst h
    exact ⟨key, pa, hanswer⟩
  · cases h

theorem pkinit_client_authorized_mallory :
    ∃ s, steps (malloryRun (str "mallory")) malloryReq none = .ok s ∧
      ∃ pk cert, SignedBy (malloryRun (str "mallory")).kdc s.pre.rock pk cert ∧
        speaksFor (malloryRun (str "mallory")).kdc pk cert s.client s.pre.lookup.reqCname = true := by
  have hissued : (issueAsFrom (malloryRun (str "mallory")) malloryReq none).isOk = true := by
    decide +kernel
  obtain ⟨issued, hissued⟩ := exists_of_isOk hissued
  have hpacket : ∀ der, asReqDer (malloryRun (str "mallory")) malloryReq none = .ok der →
      (malloryRun (str "mallory")).libs.asReqBody der = some malloryReq.body := by
    rintro der ⟨⟩
    decide +kernel
  obtain ⟨s, hs, -, hsigned⟩ := pkinit_client_authorized hissued hpacket
  have hanswer := map_ok_inj (f := Steps.signedPkinit) hs (b := true) (by decide +kernel)
  obtain ⟨key, pa, hanswer⟩ := Steps.answer_of_signedPkinit hanswer
  have hsame := map_ok_inj (f := fun s => s.body.cname) hs (b := malloryReq.body.cname)
    (by decide +kernel)
  obtain ⟨pk, cert, hby, -, hspeaks⟩ := hsigned key pa hanswer (.inr (.inr hsame.symm))
  exact ⟨s, hs, pk, cert, hby, hspeaks⟩

/-- What it issues to a request that names `admin` inside. -/
def malloryIssued : IssuedAs :=
  (issueAsFrom (malloryRun (str "admin")) malloryReq none).toOption.getD
    ⟨⟨[], .krbtgt [], ⟨0, none, []⟩⟩, [], kdcKeyB, kdcKeyB⟩

/-- **The certificate of another client.**  With a certificate that names `mallory` and a request that
names `mallory` around one that names `admin`, `mallory` gets the ticket of `admin`. -/
theorem certificate_of_another_client :
    issueAsFrom (malloryRun (str "admin")) malloryReq none = .ok malloryIssued ∧
    (decryptTicketPart plainKdcLibs.toLibs kdcKeyB malloryIssued.ticket).map (·.cname.nameString)
      = .ok [str "admin"] ∧
    speaksFor (malloryRun (str "admin")).kdc malloryPkinit (str "cert") (clientEntry (str "mallory"))
      ⟨ntPrincipal, [str "mallory"]⟩ = true ∧
    speaksFor (malloryRun (str "admin")).kdc malloryPkinit (str "cert") (clientEntry (str "admin"))
      ⟨ntPrincipal, [str "admin"]⟩ = false := by
  refine ⟨?_, ?_, ?_, ?_⟩ <;> decide +kernel

end As

end Kerber.Issue
