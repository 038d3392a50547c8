import Kerber.Pac.Equiv.Format
import Kerber.Pac.Verify
import Mathlib.Data.UInt

/-!
# What a verified PAC guarantees

`ZeroedCopy` says what the bytes under a signature are, and `SignedBy` what one signature says.
`verifyPacSignatures_sound` gives the signatures that stand behind an accepted PAC: the server
signature when there is no KDC key, the KDC signatures when there is one
(`server_checksum_overwritten`).
-/

namespace Kerber

open List List

variable {kind : UInt32} {bytes : Str} {key : ProtocolKey} {p : Pac}

namespace Pac

variable {kinds : List UInt32} {kdc : ProtocolKey} {start stop : Nat} {buf : Option Str}
  {b : PacBuffer} {bs : List PacBuffer} {off : Nat}

/-! ### The bytes under a signature -/

def InSignature (p : Pac) (kinds : List UInt32) (i : Nat) : Prop :=
  ∃ b ∈ p.buffers, b.kind ∈ kinds ∧ b.offset + 4 ≤ i ∧ i < b.offset + b.data.length

instance (p : Pac) (kinds : List UInt32) (i : Nat) : Decidable (p.InSignature kinds i) :=
  inferInstanceAs (Decidable (∃ b ∈ p.buffers, _))

def ZeroedCopy (p : Pac) (kinds : List UInt32) (bytes copy : Str) : Prop :=
  ∀ i, copy[i]? = if p.InSignature kinds i ∧ i < bytes.length then some 0 else bytes[i]?

theorem length_fillZero (hle : start ≤ stop) (hstop : stop ≤ bytes.length) :
    (fillZero bytes start stop).length = bytes.length := by
  simp only [fillZero, length_append, length_take, length_replicate,
    length_drop]
  omega

theorem getElem?_fillZero (hle : start ≤ stop) (hstop : stop ≤ bytes.length) (i : Nat) :
    (fillZero bytes start stop)[i]? = if start ≤ i ∧ i < stop then some 0 else bytes[i]? := by
  have hstart : (bytes.take start).length = start := by
    rw [length_take]
    omega
  have hmid : (replicate (stop - start) (0 : UInt8)).length = stop - start :=
    length_replicate
  rw [fillZero, append_assoc]
  by_cases hbefore : i < start
  · rw [if_neg (by omega), getElem?_append_left (by omega), getElem?_take_of_lt hbefore]
  · rw [getElem?_append_right (by omega), hstart]
    by_cases hin : i < stop
    · rw [if_pos ⟨by omega, hin⟩, getElem?_append_left (by omega), getElem?_replicate,
        if_pos (by omega)]
    · rw [if_neg (by omega), getElem?_append_right (by omega), hmid, getElem?_drop]
      congr 1
      omega

theorem checkedAdd_eq_some {a b c : Nat} (h : checkedAdd a b = some c) : c = a + b := by
  unfold checkedAdd at h
  split at h
  · exact (Option.some.inj h).symm
  · cases h

theorem zeroKind_ok {copy copy' : Str} (h : p.zeroKind copy kind = .ok copy') :
    ∃ b, p.buffers.filter (·.kind == kind) = [b] ∧ 4 ≤ b.data.length ∧
      b.offset + b.data.length ≤ copy.length ∧
      copy' = fillZero copy (b.offset + 4) (b.offset + b.data.length) := by
  unfold zeroKind at h
  split at h
  · cases h
  · rename_i b hb
    split at h
    · cases h
    · rename_i hlen
      split at h
      · rename_i start stop hstart hstop
        obtain rfl := checkedAdd_eq_some hstart
        obtain rfl := checkedAdd_eq_some hstop
        split at h
        · cases h
        · rename_i hbound
          simp only [Bool.or_eq_true, decide_eq_true_eq, not_or, Nat.not_lt] at hbound
          exact ⟨b, hb, Nat.not_lt.mp hlen, hbound.1, (Except.ok.inj h).symm⟩
      · cases h
  · cases h

theorem mem_kind_iff (h : p.buffers.filter (·.kind == kind) = [b]) (c : PacBuffer) :
    c ∈ p.buffers ∧ c.kind = kind ↔ c = b := by
  have hmem : c ∈ p.buffers.filter (·.kind == kind) ↔ c ∈ p.buffers ∧ c.kind = kind := by
    rw [mem_filter, beq_iff_eq]
  rw [← hmem, h, mem_singleton]

theorem inSignature_cons (h : p.buffers.filter (·.kind == kind) = [b]) (kinds : List UInt32)
    (i : Nat) :
    p.InSignature (kind :: kinds) i ↔
      (b.offset + 4 ≤ i ∧ i < b.offset + b.data.length) ∨ p.InSignature kinds i := by
  constructor
  · rintro ⟨c, hc, hkind, hpos⟩
    rcases mem_cons.mp hkind with hkind | hkind
    · obtain rfl := (mem_kind_iff h c).mp ⟨hc, hkind⟩
      exact .inl hpos
    · exact .inr ⟨c, hc, hkind, hpos⟩
  · rintro (hpos | ⟨c, hc, hkind, hpos⟩)
    · obtain ⟨hb, hkind⟩ := (mem_kind_iff h b).mpr rfl
      exact ⟨b, hb, hkind ▸ mem_cons_self, hpos⟩
    · exact ⟨c, hc, mem_cons_of_mem _ hkind, hpos⟩

/-- **What `zero_in` leaves**: zeros in the signatures, and all else as it was. -/
theorem zeroIn_zeroedCopy {copy : Str} (h : p.zeroIn bytes kinds = .ok copy) :
    p.ZeroedCopy kinds bytes copy := by
  induction kinds generalizing bytes with
  | nil =>
    cases h
    intro i
    rw [if_neg]
    rintro ⟨⟨b, -, hmem, -⟩, -⟩
    cases hmem
  | cons kind kinds ih =>
    rw [zeroIn, foldlM_cons] at h
    obtain ⟨copy₁, hstep, hrest⟩ := bind_ok h
    obtain ⟨b, hb, hlen, hbound, rfl⟩ := zeroKind_ok hstep
    have hle : b.offset + 4 ≤ b.offset + b.data.length := by omega
    intro i
    rw [ih hrest i, length_fillZero hle hbound, getElem?_fillZero hle hbound]
    simp only [inSignature_cons hb]
    by_cases hhere : b.offset + 4 ≤ i ∧ i < b.offset + b.data.length
    · have hi : i < bytes.length := by omega
      simp [hhere, hi]
    · simp [hhere]

theorem receivedZeroed_zeroedCopy {copy : Str} (hparse : parse bytes = .ok p)
    (h : p.receivedZeroed kinds = .ok copy) : p.ZeroedCopy kinds bytes copy := by
  obtain ⟨hraw, hne⟩ := parse_raw hparse
  rw [receivedZeroed, if_neg (by rw [hraw]; exact hne), hraw] at h
  exact zeroIn_zeroedCopy h

/-! ### Every list of buffers -/

def content (b : PacBuffer) : UInt32 × Str :=
  (b.kind, b.data)

theorem content_place (off : Nat) (bs : List PacBuffer) :
    (place off bs).map content = bs.map content := by
  induction bs generalizing off with
  | nil => rfl
  | cons b bs ih => rw [place, map_cons, ih, map_cons, content, content]

theorem mem_place (h : b ∈ place off bs) (hoff : off % 8 = 0) :
    off ≤ b.offset ∧ b.offset + b.data.length ≤ off + (payloads bs).length ∧
      b.offset % 8 = 0 := by
  induction bs generalizing off with
  | nil => cases h
  | cons c bs ih =>
    have hpad := le_paddedLen c.data.length
    have hmod := paddedLen_mod c.data.length
    rw [payloads_cons, length_append, length_payload]
    rcases mem_cons.mp h with rfl | h
    · dsimp only
      omega
    · have hrest := ih h (by omega)
      omega

theorem pairwise_place (hoff : off % 8 = 0) :
    (place off bs).Pairwise fun a b => a.offset + a.data.length ≤ b.offset := by
  induction bs generalizing off with
  | nil => exact Pairwise.nil
  | cons c bs ih =>
    have hpad := le_paddedLen c.data.length
    have hmod := paddedLen_mod c.data.length
    refine pairwise_cons.mpr ⟨fun b hb => ?_, ih (by omega)⟩
    have hrest := mem_place hb (by omega)
    dsimp only
    omega

/-- What `parse` is to make of the written buffers `bs`. -/
structure ReadBack (bs : List PacBuffer) (p : Pac) : Prop where
  content : p.buffers.map content = bs.map content
  aligned : ∀ b ∈ p.buffers, b.offset % pacAlignment = 0
  inside : ∀ b ∈ p.buffers,
    8 + 16 * bs.length ≤ b.offset ∧ b.offset + b.data.length ≤ (built 0 bs).toBytes.length
  disjoint : p.buffers.Pairwise fun a b => a.offset + a.data.length ≤ b.offset
  zeroed : ∀ kinds out, p.receivedZeroed kinds = .ok out →
    p.ZeroedCopy kinds (built 0 bs).toBytes out
  zeroes : ∀ kinds, (∀ kind ∈ kinds, ∃ data, Only kind bs data ∧ 4 ≤ data.length) →
    ∃ out, p.receivedZeroed kinds = .ok out

theorem readBack_placed (h : Fits bs) : ReadBack bs (placed bs) := by
  have hheader : headerLen bs.length % 8 = 0 := by
    unfold headerLen
    omega
  refine ⟨content_place _ bs, fun b hb => (mem_place hb hheader).2.2, fun b hb => ?_,
    pairwise_place hheader, fun kinds out hout => ?_,
    fun kinds hkinds => ⟨_, receivedZeroed_placed h hkinds⟩⟩
  · rw [length_toBytes]
    exact ⟨(mem_place hb hheader).1, (mem_place hb hheader).2.1⟩
  · exact receivedZeroed_zeroedCopy (parse_toBytes h) hout

/-- **Written buffers are read back** at aligned places of their own, and only their signatures are
zeroed, exactly if each size can be written: a size that cannot is written as zero. -/
theorem readBack_iff (bs : List PacBuffer) (hne : bs ≠ []) (hcount : bs.length ≤ maxBuffers) :
    (∃ p, parse (built 0 bs).toBytes = .ok p ∧ ReadBack bs p) ↔
      ∀ b ∈ bs, b.data.length < 2 ^ 32 := by
  constructor
  · rintro ⟨p, hparse, hread⟩ b hb
    have hmem : content b ∈ p.buffers.map content :=
      hread.content ▸ mem_map_of_mem hb
    obtain ⟨c, hc, hsame⟩ := mem_map.mp hmem
    rw [← (Prod.mk.inj hsame).2]
    exact (sizes_of_parse hparse).2.2 c hc
  · intro hsize
    have hfits : Fits bs := ⟨hne, hcount, hsize⟩
    exact ⟨placed bs, parse_toBytes hfits, readBack_placed hfits⟩

theorem readBack_two : ∃ p,
    parse (built 0 [.new pacLogonInfo [1, 2, 3], .new pacServerChecksum [4, 5, 6, 7, 8]]).toBytes
        = .ok p ∧
      ReadBack [.new pacLogonInfo [1, 2, 3], .new pacServerChecksum [4, 5, 6, 7, 8]] p :=
  (readBack_iff _ (cons_ne_nil _ _) (by decide)).mpr (by decide)

theorem long_buffer_not_readBack : ¬∃ p,
    parse (built 0 [.new pacLogonInfo (replicate (2 ^ 32) 0)]).toBytes = .ok p ∧
      p.buffers.map content
        = [(pacLogonInfo, replicate (2 ^ 32) 0)] := by
  rintro ⟨p, hparse, hcontent⟩
  obtain ⟨b, hb, hsame⟩ := mem_map.mp (hcontent ▸ mem_singleton.mpr rfl)
  have hlen := (sizes_of_parse hparse).2.2 b hb
  rw [(Prod.mk.inj hsame).2, length_replicate] at hlen
  exact Nat.lt_irrefl _ hlen

end Pac

/-! ### One signature -/

/-- The buffer holds a checksum type, a keyed checksum that verifies for the data, and possibly
more. -/
def SignedBy (m : Macs) (key : ProtocolKey) (data buf : Str) : Prop :=
  ∃ cksumtype mac trailer, buf = signatureBuffer cksumtype mac ++ trailer ∧
    cksumtypeIsKeyed cksumtype = true ∧
    m.verifyChecksumType key Ku.kerbNonKerbCksumSalt data cksumtype mac = .ok ()

variable {m : Macs}

theorem verifyPacSigBuffer_ok {data buf mac : Str}
    (h : verifyPacSigBuffer m key data buf kind = .ok mac) : SignedBy m key data buf := by
  obtain ⟨hlen, h⟩ := rejectIf_bind_ok h
  obtain ⟨-, h⟩ := rejectIf_bind_ok h
  obtain ⟨hkeyed, h⟩ := rejectIf_bind_ok h
  split at h
  · cases h
  · rename_i want _
    obtain ⟨-, h⟩ := rejectIf_bind_ok h
    obtain ⟨_, hverify, -⟩ := bind_ok h
    have hfour : 4 ≤ buf.length := by simpa using hlen
    refine ⟨_, (buf.drop 4).take want, (buf.drop 4).drop want, ?_, by simpa using hkeyed,
      mapError_ok hverify⟩
    have htype : (le32At buf 0).toInt32.toUInt32 = le32At buf 0 := UInt32.toUInt32_toInt32 _
    rw [signatureBuffer, htype, ← take_four_eq_le32 hfour, append_assoc,
      take_append_drop, take_append_drop]

theorem verifyPacSig_ok {data mac : Str} (h : verifyPacSig m key data buf kind = .ok mac) :
    ∃ b, buf = some b ∧ SignedBy m key data b := by
  cases buf with
  | none => cases h
  | some b => exact ⟨b, rfl, verifyPacSigBuffer_ok h⟩

/-! ### All signatures -/

def Pac.Signed (m : Macs) (p : Pac) (kind : UInt32) (key : ProtocolKey) (data : Str) : Prop :=
  ∃ sig, p.uniqueBuffer kind = .ok (some sig) ∧ SignedBy m key data sig

theorem signed_of_verify {data : Str} (hbuf : p.uniqueBuffer kind = .ok buf)
    (h : discard (verifyPacSig m key data buf kind) = Except.ok ()) : p.Signed m kind key data := by
  obtain ⟨mac, hmac⟩ := discard_ok h
  obtain ⟨sig, rfl, hsigned⟩ := verifyPacSig_ok hmac
  exact ⟨sig, hbuf, hsigned⟩

theorem verifyFull_ok (h : verifyKdcChecksums.verifyFull m p kdc true = .ok ()) :
    ∃ copy, p.receivedZeroed [pacServerChecksum, pacPrivsvrChecksum, pacFullChecksum] = .ok copy ∧
      p.Signed m pacFullChecksum kdc copy := by
  rw [verifyKdcChecksums.verifyFull, if_pos rfl] at h
  obtain ⟨copy, hcopy, h⟩ := bind_ok h
  obtain ⟨sig, hsig, h⟩ := bind_ok h
  exact ⟨copy, mapError_ok hcopy, signed_of_verify (mapError_ok hsig) h⟩

theorem verifyKdcChecksums_ok {expectFull : Bool}
    (h : verifyKdcChecksums m p kdc expectFull = .ok ()) :
    verifyKdcChecksums.verifyFull m p kdc expectFull = .ok () ∧
      ∃ serverSig, p.serverChecksum = .ok (some serverSig) ∧
        p.Signed m pacPrivsvrChecksum kdc (serverSig.drop 4) := by
  obtain ⟨_, hfull, h⟩ := bind_ok h
  obtain ⟨serverBuf, hserver, h⟩ := bind_ok h
  refine ⟨hfull, ?_⟩
  cases serverBuf with
  | none => cases h
  | some serverSig =>
    obtain ⟨-, h⟩ := rejectIf_bind_ok h
    obtain ⟨kdcSig, hkdc, h⟩ := bind_ok h
    exact ⟨serverSig, mapError_ok hserver, signed_of_verify (mapError_ok hkdc) h⟩

theorem verifyPacSignatures_ok {server : ProtocolKey} {kdc : Option ProtocolKey}
    {der : Option Str} {svc : Bool} (h : verifyPacSignatures m bytes server kdc der svc = .ok ()) :
    ∃ p, Pac.parse bytes = .ok p ∧ verifyTicketChecksum m p kdc der svc = .ok () ∧
      verifyPacChecksums m p server kdc svc = .ok () := by
  obtain ⟨p, hparse, h⟩ := bind_ok h
  obtain ⟨_, hticket, h⟩ := bind_ok h
  exact ⟨p, mapError_ok hparse, hticket, h⟩

/-- **What stands behind an accepted PAC.**  Without a KDC key the server signature verifies over
the received bytes with the server and KDC signatures zeroed.  With one the KDC signature verifies
over the value of the server signature; for a service ticket the full signature verifies over the
received bytes with all three signatures zeroed, and the ticket signature over the encoding, where it
is given. -/
theorem verifyPacSignatures_sound {bytes : Str} {server : ProtocolKey} {kdc : Option ProtocolKey}
    {der : Option Str} {svc : Bool} (h : verifyPacSignatures m bytes server kdc der svc = .ok ()) :
    ∃ p serverSig, Pac.parse bytes = .ok p ∧ p.serverChecksum = .ok (some serverSig) ∧
      (kdc = none → ∃ copy, p.ZeroedCopy [pacServerChecksum, pacPrivsvrChecksum] bytes copy ∧
        SignedBy m server copy serverSig) ∧
      ∀ key, kdc = some key →
        p.Signed m pacPrivsvrChecksum key (serverSig.drop 4) ∧
        (svc = true → (∃ copy,
          p.ZeroedCopy [pacServerChecksum, pacPrivsvrChecksum, pacFullChecksum] bytes copy ∧
          p.Signed m pacFullChecksum key copy) ∧
          ∀ d, der = some d → p.Signed m pacTicketChecksum key d) := by
  obtain ⟨p, hparse, hticket, h⟩ := verifyPacSignatures_ok h
  obtain ⟨copy, hcopy, h⟩ := bind_ok h
  obtain ⟨serverBuf, hserver, h⟩ := bind_ok h
  have hzeroed := Pac.receivedZeroed_zeroedCopy hparse (mapError_ok hcopy)
  cases kdc with
  | none =>
    obtain ⟨serverSig, hsig, hsigned⟩ := signed_of_verify (mapError_ok hserver) h
    exact ⟨p, serverSig, hparse, hsig, fun _ => ⟨copy, hzeroed, hsigned⟩, fun key hkey => nomatch hkey⟩
  | some kdc =>
    obtain ⟨hfull, serverSig, hsig, hkdc⟩ := verifyKdcChecksums_ok h
    refine ⟨p, serverSig, hparse, hsig, fun hnone => (nomatch hnone), fun key hkey => ?_⟩
    obtain rfl := Option.some.inj hkey
    refine ⟨hkdc, fun hsvc => ?_⟩
    subst hsvc
    obtain ⟨fullCopy, hfullCopy, hfullSig⟩ := verifyFull_ok hfull
    refine ⟨⟨fullCopy, Pac.receivedZeroed_zeroedCopy hparse hfullCopy, hfullSig⟩, fun d hd => ?_⟩
    subst hd
    obtain ⟨buf, hbuf, hsig⟩ := bind_ok hticket
    exact signed_of_verify (mapError_ok hbuf) hsig

/-! ### A PAC with a broken server signature -/

/-- The bytes summed up, as often as the checksum is long: hashes to run the checks with. -/
def sumMacs : Macs where
  keyed key _ message := .ok (replicate key.etype.hmacOutputLen (key.bytes ++ message).sum)
  hmacMd5 key _ message _ := .ok (replicate 16 (key ++ message).sum)
  unkeyed _ message := [message.sum]

def serverKeyA : ProtocolKey := ⟨.aes128CtsHmacSha196, replicate 16 1⟩
def kdcKeyB : ProtocolKey := ⟨.aes128CtsHmacSha196, replicate 16 2⟩

/-- A PAC of its server and KDC signatures, the second under `kdcKeyB`. -/
def pacOf (serverMac kdcMac : UInt8) : Str :=
  (Pac.built 0 [.new pacServerChecksum (signatureBuffer 15 (replicate 12 serverMac)),
    .new pacPrivsvrChecksum (signatureBuffer 15 (replicate 12 kdcMac))]).toBytes

theorem verifyPacSignatures_sound_without_kdc_key :
    verifyPacSignatures sumMacs (pacOf 189 0) serverKeyA none none false = .ok () ∧
      ∃ p serverSig copy, Pac.parse (pacOf 189 0) = .ok p ∧
        p.ZeroedCopy [pacServerChecksum, pacPrivsvrChecksum] (pacOf 189 0) copy ∧
        SignedBy sumMacs serverKeyA copy serverSig := by
  have haccepted : verifyPacSignatures sumMacs (pacOf 189 0) serverKeyA none none false = .ok () := by
    decide +kernel
  obtain ⟨p, serverSig, hparse, -, hserver, -⟩ := verifyPacSignatures_sound haccepted
  obtain ⟨copy, hcopy, hsigned⟩ := hserver rfl
  exact ⟨haccepted, p, serverSig, copy, hparse, hcopy, hsigned⟩

/-- **With a KDC key the outcome for the server signature is overwritten**: its value is wrong here
and refused without the KDC key, and the KDC signature over that wrong value is enough. -/
theorem server_checksum_overwritten :
    verifyPacSignatures sumMacs (pacOf 7 116) serverKeyA none none false
        = .error (proto Err.modified Status.headerPac) ∧
      verifyPacSignatures sumMacs (pacOf 7 116) serverKeyA (some kdcKeyB) none false = .ok () := by
  decide +kernel

end Kerber
