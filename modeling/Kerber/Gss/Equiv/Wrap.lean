import Kerber.Gss.Wrap
import Mathlib.Data.List.Rotate
import Mathlib.Data.Nat.ModEq

/-!
# Wrap tokens of RFC 4121

RFC 4121 rotates the body of a token to the right by the count in the header, so that the receiver
rotates it to the left (section 4.2.5); `IsRfcToken` says which tokens that are.  The source rotates
the other way on both sides: `rotateRrc` undoes a rotation to the left, and `applySendRrc` makes one.
`interoperates_iff` says for which lengths of the body and which counts the two directions agree.
-/

namespace Kerber.Gss

open List WrapHeader

variable {seq : UInt64} {ec : UInt16} {conf : Bool}

/-! ### Rotations -/

/-- The receiver undoes a rotation to the left. -/
theorem rotate_rotateRrc (w : Str) (rrc : UInt16) : (rotateRrc w rrc).rotate rrc.toNat = w := by
  suffices h : rotateRrc w rrc = w.rotate (w.length - rrc.toNat % w.length) by
    rw [h]
    exact (rotate_eq_iff.mpr rfl)
  unfold rotateRrc
  by_cases hw : w = []
  · rw [if_pos hw, hw, rotate_nil]
  · rw [if_neg hw]
    by_cases hn : rrc.toNat % w.length = 0
    · rw [if_pos hn, hn, Nat.sub_zero, rotate_length]
    · rw [if_neg hn, rotate_eq_drop_append_take (Nat.sub_le _ _)]

theorem rotateRrc_rotate (w : Str) (rrc : UInt16) : rotateRrc (w.rotate rrc.toNat) rrc = w :=
  rotate_injective rrc.toNat (rotate_rotateRrc _ _)

theorem length_rotateRrc (w : Str) (rrc : UInt16) : (rotateRrc w rrc).length = w.length := by
  conv_rhs => rw [← rotate_rotateRrc w rrc, length_rotate]

/-- **The two directions agree** on a body that is its own rotation by twice the count. -/
theorem rotateRrc_eq_rotate_iff (w : Str) (rrc : UInt16) :
    rotateRrc w rrc = w.rotate rrc.toNat ↔ w.rotate (2 * rrc.toNat) = w := by
  have htwice : w.rotate (2 * rrc.toNat) = (w.rotate rrc.toNat).rotate rrc.toNat := by
    rw [rotate_rotate, two_mul]
  rw [htwice]
  conv_rhs => rhs; rw [← rotate_rotateRrc w rrc]
  rw [rotate_eq_rotate]
  exact eq_comm

theorem rotate_of_dvd {w : Str} {n : Nat} (h : w.length ∣ n) : w.rotate n = w := by
  obtain ⟨k, rfl⟩ := h
  exact rotate_length_mul w k

/-- A body with an octet that is there only once is not its own rotation but by its length. -/
theorem dvd_of_rotate_eq_self {w : Str} {n p : Nat} {b : UInt8} (hp : w[p]? = some b)
    (hone : ∀ i, w[i]? = some b → i = p) (h : w.rotate n = w) : w.length ∣ n := by
  have hlt : p < w.length := (List.getElem?_eq_some_iff.mp hp).1
  have hnext : w[(p + n) % w.length]? = some b := by
    rw [← getElem?_rotate hlt, h, hp]
  have hback : (p + n) % w.length = (p + 0) % w.length := by
    rw [hone _ hnext, Nat.add_zero, Nat.mod_eq_of_lt hlt]
  exact Nat.modEq_zero_iff_dvd.mp (Nat.ModEq.add_left_cancel' p hback)

/-! ### Headers on the wire -/

namespace WrapHeader

variable (h : WrapHeader) (w : Str)

@[simp] theorem length_bytes : h.bytes.length = 16 := rfl

theorem drop_bytes_append : (h.bytes ++ w).drop 16 = w := rfl

theorem ofBytes_bytes_append : ofBytes (h.bytes ++ w) = h := by
  have hec : be16At (h.bytes ++ w) 4 = h.ec := be16At_beWord16 h.ec (beWord16 h.rrc ++ be64 h.seq ++ w)
  have hrrc : be16At (h.bytes ++ w) 6 = h.rrc := be16At_beWord16 h.rrc (be64 h.seq ++ w)
  have hseq : be64At (h.bytes ++ w) 8 = h.seq := be64At_be64 h.seq w
  unfold ofBytes
  rw [hec, hrrc, hseq]
  rfl

end WrapHeader

theorem messageToken_bytes_append (h : WrapHeader) (w : Str) :
    messageToken (h.bytes ++ w) = .ok (h.bytes ++ w) :=
  if_neg (by simp [bytes, tokWrap])

theorem applySendRrc_bytes_append (h : WrapHeader) (cipher : Str) (rrc : UInt16) :
    applySendRrc (h.bytes ++ cipher) rrc
      = .ok ({ h with rrc }.bytes ++ cipher.rotate rrc.toNat) := by
  have hlen : ¬ (h.bytes ++ cipher).length < 16 := by
    simp
  unfold applySendRrc
  rw [if_neg hlen]
  rw [drop_bytes_append, rotate_eq_drop_append_take_mod]
  have hheader : (h.bytes ++ cipher).take 6 ++ beWord16 rrc ++ ((h.bytes ++ cipher).take 16).drop 8
      = { h with rrc }.bytes := rfl
  rw [hheader]
  by_cases hzero : cipher.length = 0
  · rw [if_pos hzero, eq_nil_of_length_eq_zero hzero, drop_nil, take_nil]
    rfl
  · rw [if_neg hzero]
    by_cases hn : rrc.toNat % cipher.length = 0
    · rw [if_pos hn, hn, drop_zero, take_zero, append_nil]
    · rw [if_neg hn]

theorem verifyEncHeader_append (h : WrapHeader) {filler : Str} (plaintext : Str)
    (hfiller : filler.length = h.ec.toNat) :
    verifyEncHeader (plaintext ++ filler ++ { h with rrc := 0 }.bytes) h = true := by
  set copy : WrapHeader := { h with rrc := 0 } with hcopy
  have hdrop : (plaintext ++ filler ++ copy.bytes).drop
      ((plaintext ++ filler ++ copy.bytes).length - 16) = copy.bytes ++ [] := by
    rw [append_nil, length_append, length_bytes, Nat.add_sub_cancel,
      drop_left]
  have hread := ofBytes_bytes_append copy []
  unfold verifyEncHeader
  rw [if_neg (by simp; omega)]
  dsimp only
  rw [hdrop]
  have hec : be16At (copy.bytes ++ []) 4 = h.ec := congrArg ec hread
  have hseq : be64At (copy.bytes ++ []) 8 = h.seq := congrArg seq hread
  have htok : (copy.bytes ++ []).take 2 = tokWrap := rfl
  have hflags : (copy.bytes ++ []).getD 2 0 = h.flags := rfl
  have hfill : (copy.bytes ++ []).getD 3 0 = 0xFF := rfl
  rw [hec, hseq, htok, hflags, hfill]
  simp

/-! ### Tokens -/

/-- The flags of a token, by the side that sends it. -/
def flagsOf (initiator conf subkey : Bool) : UInt8 :=
  (if initiator then 0 else flagSentByAcceptor) ||| (if conf then flagSealed else 0)
    ||| (if subkey then flagAcceptorSubkey else 0)

def GssContext.sendFlags (ctx : GssContext) (conf : Bool) : UInt8 :=
  flagsOf ctx.initiator conf ctx.acceptorSubkey.isSome

def GssContext.header (ctx : GssContext) (conf : Bool) (ec rrc : UInt16) (seq : UInt64) : WrapHeader :=
  ⟨ctx.sendFlags conf, ec, rrc, seq⟩

/-- The body of a token before it is rotated, by the count of extra octets (RFC 4121, section
4.2.4). -/
inductive IsBody (l : GssLibs) (sender : GssContext) (seq : UInt64) (plaintext : Str) :
    Bool → UInt16 → Str → Prop
  | conf {draw : Draw} {filler cipher : Str} {ec : UInt16} (hfiller : filler.length = ec.toNat)
      (hcipher : l.ciphers.encrypt draw sender.sendKey.1 (sealUsage sender.initiator)
        (plaintext ++ filler ++ (sender.header true ec 0 seq).bytes) = .ok cipher) :
      IsBody l sender seq plaintext true ec cipher
  | integ {mac : Str} {ec : UInt16}
      (hmac : l.macs.checksum sender.sendKey.1 (sealUsage sender.initiator)
        (plaintext ++ (sender.header false 0 0 seq).bytes) = .ok mac)
      (hec : ec.toNat = mac.length) :
      IsBody l sender seq plaintext false ec (plaintext ++ mac)

/-- A token of RFC 4121: rotating what follows the header to the left by the count gives the body. -/
def IsRfcToken (l : GssLibs) (sender : GssContext) (rrc : UInt16) (seq : UInt64) (plaintext : Str)
    (conf : Bool) (token : Str) : Prop :=
  ∃ ec wire, IsBody l sender seq plaintext conf ec (wire.rotate rrc.toNat) ∧
    token = (sender.header conf ec rrc seq).bytes ++ wire

/-- The receiver gets a message out of a token, as far as it takes the sequence number. -/
def GssContext.Unwraps (l : GssLibs) (receiver : GssContext) (token : Str) (seq : UInt64)
    (plaintext : Str) (conf : Bool) : Prop :=
  receiver.unwrapV3 l token
    = ((receiver.acceptSeq seq).1.map fun _ => (plaintext, conf), (receiver.acceptSeq seq).2)

/-- The two ends of a context. -/
structure Peers (sender receiver : GssContext) : Prop where
  session : receiver.session = sender.session
  acceptorSubkey : receiver.acceptorSubkey = sender.acceptorSubkey
  initiator : receiver.initiator = !sender.initiator
  sound : sender.sendKey.1.Sound

/-- Decryption inverts encryption, and the hashes have their lengths. -/
structure GssLibs.Sound (l : GssLibs) : Prop where
  macs : l.macs.Sound
  decrypt : ∀ {draw key usage plain cipher}, l.ciphers.encrypt draw key usage plain = .ok cipher →
    l.ciphers.decrypt key usage cipher = .ok plain

namespace Peers

variable {l : GssLibs} {sender receiver : GssContext}

theorem checkDirection (h : Peers sender receiver) (conf : Bool) :
    checkDirection (sender.sendFlags conf) receiver.initiator = .ok () := by
  have hflags : ∀ initiator conf subkey : Bool,
      Gss.checkDirection (flagsOf initiator conf subkey) (!initiator) = .ok () := by
    decide
  rw [h.initiator]
  exact hflags _ _ _

theorem recvKey (h : Peers sender receiver) (conf : Bool) :
    receiver.recvKey (sender.sendFlags conf) = sender.sendKey.1 := by
  have hflags : ∀ initiator conf : Bool,
      (flagsOf initiator conf true &&& flagAcceptorSubkey != 0) = true := by
    decide
  unfold GssContext.recvKey GssContext.sendFlags GssContext.sendKey
  rw [h.acceptorSubkey, h.session]
  cases sender.acceptorSubkey with
  | none => rfl
  | some k => exact if_pos (hflags _ _)

theorem sealUsage (h : Peers sender receiver) :
    sealUsage (!receiver.initiator) = sealUsage sender.initiator := by
  rw [h.initiator, Bool.not_not]

theorem isSealed_sendFlags (sender : GssContext) (conf : Bool) :
    (sender.sendFlags conf &&& flagSealed != 0) = conf := by
  have hflags : ∀ initiator conf subkey : Bool,
      (flagsOf initiator conf subkey &&& flagSealed != 0) = conf := by
    decide
  exact hflags _ _ _

variable {plaintext : Str} {rrc : UInt16} (h : Peers sender receiver) (hl : l.Sound)

include h hl

theorem openSealed {filler cipher : Str} {draw : Draw} (hfiller : filler.length = ec.toNat)
    (hcipher : l.ciphers.encrypt draw sender.sendKey.1 (Gss.sealUsage sender.initiator)
      (plaintext ++ filler ++ (sender.header true ec 0 seq).bytes) = .ok cipher) :
    receiver.openSealed l (sender.header true ec rrc seq) cipher = .ok plaintext := by
  have hverify := verifyEncHeader_append (sender.header true ec rrc seq) plaintext hfiller
  have htake : (plaintext ++ filler ++ (sender.header true ec 0 seq).bytes).take
      ((plaintext ++ filler ++ (sender.header true ec 0 seq).bytes).length - ec.toNat - 16)
        = plaintext := by
    rw [length_append, length_append, length_bytes, hfiller, append_assoc]
    exact take_left' (by omega)
  unfold GssContext.openSealed
  rw [show (sender.header true ec rrc seq).flags = sender.sendFlags true from rfl, h.recvKey,
    h.sealUsage, hl.decrypt hcipher]
  show (rejectIf (!verifyEncHeader (plaintext ++ filler ++ (sender.header true ec 0 seq).bytes)
    (sender.header true ec rrc seq)) _ >>= _) = _
  rw [show verifyEncHeader (plaintext ++ filler ++ (sender.header true ec 0 seq).bytes)
    (sender.header true ec rrc seq) = true from hverify]
  exact congrArg Except.ok htake

theorem openInteg {mac : Str}
    (hmac : l.macs.checksum sender.sendKey.1 (Gss.sealUsage sender.initiator)
      (plaintext ++ (sender.header false 0 0 seq).bytes) = .ok mac) (hec : ec.toNat = mac.length) :
    receiver.openInteg l (sender.header false ec rrc seq) (plaintext ++ mac) = .ok plaintext := by
  have hlen := Macs.length_checksum hl.macs hmac
  have hsplit : (plaintext ++ mac).length - sender.sendKey.1.etype.hmacOutputLen
      = plaintext.length := by
    rw [length_append, hlen, Nat.add_sub_cancel]
  have hfits : (decide (sender.sendKey.1.etype.hmacOutputLen > (plaintext ++ mac).length)
      || (sender.header false ec rrc seq).ec.toNat != sender.sendKey.1.etype.hmacOutputLen)
        = false := by
    rw [show (sender.header false ec rrc seq).ec.toNat = ec.toNat from rfl, hec, hlen]
    simp [hlen]
  unfold GssContext.openInteg
  rw [show (sender.header false ec rrc seq).flags = sender.sendFlags false from rfl, h.recvKey,
    h.sealUsage]
  dsimp only
  rw [Macs.checksumOutputSize_checksumType, Option.elim_some, ok_bind]
  rw [hfits, rejectIf_false_bind, hsplit, take_left, drop_left]
  have hverify := Macs.verifyChecksumType_checksum hl.macs h.sound hmac
  rw [show rfc4121Ckhdr (sender.sendFlags false) (sender.header false ec rrc seq).seq
    = (sender.header false 0 0 seq).bytes from rfl, hverify]
  rfl

theorem openBody {body : Str} (hbody : IsBody l sender seq plaintext conf ec body) :
    receiver.openBody l (sender.header conf ec rrc seq) body = .ok plaintext := by
  unfold GssContext.openBody
  rw [show ((sender.header conf ec rrc seq).flags &&& flagSealed != 0) = conf from
    isSealed_sendFlags sender conf]
  cases hbody with
  | conf hfiller hcipher => exact h.openSealed hl hfiller hcipher
  | integ hmac hec => exact h.openInteg hl hmac hec

/-- **A body that the receiver gets back** by its rotation is opened. -/
theorem openToken {wire : Str}
    (hbody : IsBody l sender seq plaintext conf ec (rotateRrc wire rrc)) :
    receiver.openToken l ((sender.header conf ec rrc seq).bytes ++ wire)
      = .ok (seq, plaintext, conf) := by
  have hshape : (decide (((sender.header conf ec rrc seq).bytes ++ wire).length < 16)
      || ((sender.header conf ec rrc seq).bytes ++ wire).take 2 != tokWrap) = false := by
    rw [show ((sender.header conf ec rrc seq).bytes ++ wire).take 2 = tokWrap from rfl]
    simp
  have hfill : (((sender.header conf ec rrc seq).bytes ++ wire).getD 3 0 != 0xFF) = false := rfl
  have hopen : receiver.openBody l (sender.header conf ec rrc seq)
      (rotateRrc wire (sender.header conf ec rrc seq).rrc) = .ok plaintext := h.openBody hl hbody
  unfold GssContext.openToken
  rw [messageToken_bytes_append, ok_bind, hshape, rejectIf_false_bind]
  rw [hfill, rejectIf_false_bind, ofBytes_bytes_append, drop_bytes_append,
    show (sender.header conf ec rrc seq).flags = sender.sendFlags conf from rfl, h.checkDirection,
    ok_bind, hopen, ok_bind, isSealed_sendFlags]
  rfl

theorem unwraps {wire : Str} (hbody : IsBody l sender seq plaintext conf ec (rotateRrc wire rrc)) :
    receiver.Unwraps l ((sender.header conf ec rrc seq).bytes ++ wire) seq plaintext conf := by
  unfold GssContext.Unwraps GssContext.unwrapV3
  rw [h.openToken hl hbody]

end Peers

/-! ### The tokens of the source -/

namespace GssContext

variable {l : GssLibs} {ctx : GssContext} {draw : Draw} {plaintext token : Str} {rrc : UInt16}

theorem flags_wrapHeader (ctx : GssContext) (conf : Bool) (seq : UInt64) :
    (wrapHeader ctx.initiator conf seq).flags ||| ctx.sendKey.2 = ctx.sendFlags conf := by
  have hnone : ∀ initiator conf : Bool,
      (wrapHeader initiator conf 0).flags ||| 0 = flagsOf initiator conf false := by
    decide
  have hsome : ∀ initiator conf : Bool,
      (wrapHeader initiator conf 0).flags ||| flagAcceptorSubkey = flagsOf initiator conf true := by
    decide
  unfold sendKey sendFlags
  cases ctx.acceptorSubkey with
  | none => exact hnone _ _
  | some k => exact hsome _ _

/-- What `wrap_with_rrc` sends is a body rotated to the left. -/
theorem wrapWithRrc_ok (h : (ctx.wrapWithRrc l draw plaintext rrc).1 = .ok token) :
    ∃ cipher, IsBody l ctx ctx.sendSeq plaintext true 0 cipher ∧
      token = (ctx.header true 0 rrc ctx.sendSeq).bytes ++ cipher.rotate rrc.toNat := by
  have hheader : { wrapHeader ctx.initiator true ctx.sendSeq with
      flags := (wrapHeader ctx.initiator true ctx.sendSeq).flags ||| ctx.sendKey.2, ec := 0 }
        = ctx.header true 0 0 ctx.sendSeq := by
    rw [flags_wrapHeader]
    rfl
  unfold wrapWithRrc wrapConfInner at h
  dsimp only at h
  rw [hheader] at h
  cases hcipher : l.ciphers.encrypt draw ctx.sendKey.1 (sealUsage ctx.initiator)
      (plaintext ++ replicate (0 : UInt16).toNat 0xFF
        ++ (ctx.header true 0 0 ctx.sendSeq).bytes) with
  | error e =>
    rw [hcipher] at h
    cases h
  | ok cipher =>
    rw [hcipher] at h
    refine ⟨cipher, .conf (by rfl) hcipher, ?_⟩
    exact (Except.ok.inj ((applySendRrc_bytes_append _ cipher rrc).symm.trans h)).symm

/-- What `wrap_integ` sends is a body that is not rotated. -/
theorem wrapInteg_ok (h : (ctx.wrapInteg l plaintext).1 = .ok token) :
    ∃ ec body, IsBody l ctx ctx.sendSeq plaintext false ec body ∧
      token = (ctx.header false ec 0 ctx.sendSeq).bytes ++ body := by
  have hheader : { wrapHeader ctx.initiator false ctx.sendSeq with
      flags := (wrapHeader ctx.initiator false ctx.sendSeq).flags ||| ctx.sendKey.2 }
        = ctx.header false 0 0 ctx.sendSeq := by
    rw [flags_wrapHeader]
    rfl
  unfold wrapInteg at h
  dsimp only at h
  rw [hheader] at h
  cases hmac : l.macs.checksum ctx.sendKey.1 (sealUsage ctx.initiator)
      (plaintext ++ (ctx.header false 0 0 ctx.sendSeq).bytes) with
  | error e =>
    rw [hmac] at h
    cases h
  | ok mac =>
    rw [hmac] at h
    dsimp only at h
    by_cases hlen : mac.length ≥ 2 ^ 16
    · rw [if_pos hlen] at h
      cases h
    · rw [if_neg hlen] at h
      have hec : (UInt16.ofNat mac.length).toNat = mac.length :=
        UInt16.toNat_ofNat_of_lt' (Nat.lt_of_not_le hlen)
      refine ⟨UInt16.ofNat mac.length, plaintext ++ mac, .integ hmac hec, ?_⟩
      have htoken := Except.ok.inj h
      rw [flags_wrapHeader] at htoken
      rw [← append_assoc]
      exact htoken.symm

end GssContext

/-! ### Interoperation -/

/-- What a pair of contexts owes RFC 4121 for a count and a length of the body: its tokens are
unwrapped, and the tokens made are such tokens and are unwrapped by the peer. -/
structure Interoperates (l : GssLibs) (sender receiver : GssContext) (rrc : UInt16) (len : Nat) :
    Prop where
  rfc : ∀ {seq plaintext conf token}, IsRfcToken l sender rrc seq plaintext conf token →
    token.length = 16 + len → receiver.Unwraps l token seq plaintext conf
  wrapWithRrc : ∀ {draw plaintext token}, (sender.wrapWithRrc l draw plaintext rrc).1 = .ok token →
    token.length = 16 + len →
      IsRfcToken l sender rrc sender.sendSeq plaintext true token ∧
        receiver.Unwraps l token sender.sendSeq plaintext true
  wrapInteg : ∀ {plaintext token}, (sender.wrapInteg l plaintext).1 = .ok token →
    IsRfcToken l sender 0 sender.sendSeq plaintext false token ∧
      receiver.Unwraps l token sender.sendSeq plaintext false

namespace Peers

variable {l : GssLibs} {sender receiver : GssContext} {rrc : UInt16} {len : Nat}

/-- Bodies whose length divides twice the count look the same from both directions. -/
theorem interoperates (h : Peers sender receiver) (hl : l.Sound) (hdvd : len ∣ 2 * rrc.toNat) :
    Interoperates l sender receiver rrc len where
  rfc := by
    rintro seq plaintext conf token ⟨ec, wire, hbody, rfl⟩ hlen
    have hwire : wire.length = len := by simpa using hlen
    rw [← (rotateRrc_eq_rotate_iff wire rrc).mpr (rotate_of_dvd (hwire ▸ hdvd))] at hbody
    exact h.unwraps hl hbody
  wrapWithRrc := by
    intro draw plaintext token htoken hlen
    obtain ⟨cipher, hbody, rfl⟩ := GssContext.wrapWithRrc_ok htoken
    have hcipher : cipher.length = len := by simpa using hlen
    have htwice : (cipher.rotate rrc.toNat).rotate rrc.toNat = cipher := by
      rw [rotate_rotate, ← two_mul]
      exact rotate_of_dvd (hcipher ▸ hdvd)
    refine ⟨⟨0, _, ?_, rfl⟩, h.unwraps hl ?_⟩
    · rw [htwice]
      exact hbody
    · rw [rotateRrc_rotate]
      exact hbody
  wrapInteg := by
    intro plaintext token htoken
    obtain ⟨ec, body, hbody, rfl⟩ := GssContext.wrapInteg_ok htoken
    have hzero : body.rotate (0 : UInt16).toNat = body := rotate_zero body
    refine ⟨⟨ec, body, ?_, rfl⟩, h.unwraps hl ?_⟩
    · rw [hzero]
      exact hbody
    · rw [← hzero, rotateRrc_rotate]
      exact hbody

end Peers

/-! ### A body that shows its rotation -/

/-- Libraries under which a ciphertext is its text, and a checksum a one and zeros. -/
def markLibs : GssLibs where
  macs := ⟨fun key _ _ => .ok (1 :: List.replicate (key.etype.hmacOutputLen - 1) 0),
    fun _ _ _ _ => .ok (1 :: List.replicate 15 0), fun _ _ => []⟩
  ciphers := ⟨fun _ _ _ plain => .ok plain, fun _ _ cipher => .ok cipher, fun key _ _ => .ok key⟩

theorem sound_markLibs : markLibs.Sound where
  macs := by
    refine ⟨fun {key _ _ _} h => ?_, fun h => ?_⟩
    · obtain rfl := Except.ok.inj h
      cases key.etype <;> rfl
    · obtain rfl := Except.ok.inj h
      rfl
  decrypt h := congrArg Except.ok (Except.ok.inj h).symm

/-- A side of a context without replay detection. -/
def markCtx (initiator : Bool) : GssContext where
  session := ⟨.aes128CtsHmacSha196, List.replicate 16 7⟩
  acceptorSubkey := none
  sendSeq := 0
  recv := .new 0 0 true
  initiator

theorem peers_markCtx : Peers (markCtx true) (markCtx false) := ⟨rfl, rfl, rfl, rfl⟩

/-- Zeros, and the checksum behind them. -/
def markBody (len : Nat) : Str := List.replicate (len - 12) 0 ++ 1 :: List.replicate 11 0

theorem length_markBody {len : Nat} (h : 12 ≤ len) : (markBody len).length = len := by
  simp [markBody]
  omega

theorem one_in_markBody (len i : Nat) : (markBody len)[i]? = some 1 ↔ i = len - 12 := by
  unfold markBody
  constructor
  · intro h
    rcases Nat.lt_trichotomy i (len - 12) with hlt | heq | hgt
    · rw [getElem?_append_left (by simpa using hlt), getElem?_replicate, if_pos hlt] at h
      cases h
    · exact heq
    · obtain ⟨j, rfl⟩ : ∃ j, i = len - 12 + (j + 1) := ⟨i - (len - 12) - 1, by omega⟩
      rw [getElem?_append_right (by simp), length_replicate, Nat.add_sub_cancel_left,
        getElem?_cons_succ, getElem?_replicate] at h
      split at h <;> cases h
  · rintro rfl
    simp

theorem isBody_markBody {len : Nat} (seq : UInt64) :
    IsBody markLibs (markCtx true) seq (replicate (len - 12) 0) false 12 (markBody len) :=
  .integ rfl rfl

/-- What the receiver opens has the checksum in its place. -/
theorem openInteg_markLibs {h : WrapHeader} {payload data : Str}
    (hopen : (markCtx false).openInteg markLibs h payload = .ok data) :
    payload = data ++ 1 :: replicate 11 0 := by
  have hkey : (markCtx false).recvKey h.flags = (markCtx true).session := rfl
  unfold GssContext.openInteg at hopen
  rw [hkey] at hopen
  obtain ⟨cksumsize, hsize, hopen⟩ := bind_ok hopen
  obtain rfl : (12 : Nat) = cksumsize := Except.ok.inj hsize
  obtain ⟨-, hopen⟩ := rejectIf_bind_ok hopen
  obtain ⟨_, hverify, hdata⟩ := bind_ok hopen
  have hmac : 1 :: replicate 11 0 = payload.drop (payload.length - 12) :=
    Except.ok.inj (Macs.checksum_of_verifyChecksumType (by rfl) (mapError_ok hverify))
  rw [← Except.ok.inj hdata, hmac, take_append_drop]

theorem GssContext.Unwraps.openToken {l : GssLibs} {receiver : GssContext} {token plaintext : Str}
    (h : receiver.Unwraps l token seq plaintext conf) (hseq : (receiver.acceptSeq seq).1 = .ok ()) :
    ∃ seq', receiver.openToken l token = .ok (seq', plaintext, conf) := by
  unfold GssContext.Unwraps GssContext.unwrapV3 at h
  rw [hseq] at h
  cases hopen : receiver.openToken l token with
  | error e =>
    rw [hopen] at h
    cases congrArg Prod.fst h
  | ok out =>
    obtain ⟨seq', out⟩ := out
    rw [hopen] at h
    obtain ⟨_, -, rfl⟩ := map_ok (congrArg Prod.fst h)
    exact ⟨seq', rfl⟩

/-- The receiver has to find the mark where the sender put it. -/
theorem dvd_of_unwraps {rrc : UInt16} {len : Nat} {wire : Str} (hlen : 12 ≤ len)
    (hwire : wire.rotate rrc.toNat = markBody len)
    (h : (markCtx false).Unwraps markLibs (((markCtx true).header false 12 rrc 0).bytes ++ wire) 0
      (replicate (len - 12) 0) false) : len ∣ 2 * rrc.toNat := by
  obtain ⟨seq, hopen⟩ := h.openToken (by decide)
  have hrotate : rotateRrc wire rrc = markBody len := by
    unfold GssContext.openToken at hopen
    rw [messageToken_bytes_append, ok_bind] at hopen
    obtain ⟨-, hopen⟩ := rejectIf_bind_ok hopen
    obtain ⟨-, hopen⟩ := rejectIf_bind_ok hopen
    obtain ⟨_, -, hopen⟩ := bind_ok hopen
    obtain ⟨msg, hmsg, hout⟩ := bind_ok hopen
    rw [ofBytes_bytes_append, drop_bytes_append] at hmsg
    obtain rfl : msg = replicate (len - 12) 0 := congrArg (·.2.1) (Except.ok.inj hout)
    have hinteg : ((markCtx true).header false 12 rrc 0).flags &&& flagSealed = 0 := by
      show flagsOf true false false &&& flagSealed = 0
      decide
    unfold GssContext.openBody at hmsg
    rw [hinteg] at hmsg
    exact openInteg_markLibs hmsg
  have hself : (markBody len).rotate (2 * rrc.toNat) = markBody len := by
    have hagree := (rotateRrc_eq_rotate_iff wire rrc).mp (hrotate.trans hwire.symm)
    rw [← hwire, rotate_rotate, Nat.add_comm, ← rotate_rotate, hagree]
  have hdvd := dvd_of_rotate_eq_self ((one_in_markBody len _).mpr rfl)
    (fun i => (one_in_markBody len i).mp) hself
  rwa [length_markBody hlen] at hdvd

/-- **Wrap tokens interoperate** exactly if the length of the body divides twice the rotation count:
then every pair of contexts does, and for every other length from twelve octets on some do not. -/
theorem interoperates_iff (rrc : UInt16) (len : Nat) :
    (len ∣ 2 * rrc.toNat → ∀ {l sender receiver}, l.Sound → Peers sender receiver →
      Interoperates l sender receiver rrc len) ∧
    (12 ≤ len → (∀ {l sender receiver}, l.Sound → Peers sender receiver →
      Interoperates l sender receiver rrc len) → len ∣ 2 * rrc.toNat) := by
  refine ⟨fun hdvd l sender receiver hl hpeers => hpeers.interoperates hl hdvd,
    fun hlen hall => ?_⟩
  have hwire := rotate_rotateRrc (markBody len) rrc
  have htoken : IsRfcToken markLibs (markCtx true) rrc 0 (List.replicate (len - 12) 0) false
      (((markCtx true).header false 12 rrc 0).bytes ++ rotateRrc (markBody len) rrc) := by
    refine ⟨12, _, ?_, rfl⟩
    rw [hwire]
    exact isBody_markBody 0
  refine dvd_of_unwraps hlen hwire ((hall sound_markLibs peers_markCtx).rfc htoken ?_)
  rw [List.length_append, length_bytes, length_rotateRrc, length_markBody hlen]

/-- The token of RFC 4121 for a message that is sealed and rotated by three. -/
def rotatedToken : Str :=
  ((markCtx true).header true 0 3 0).bytes
    ++ (str "hello" ++ ((markCtx true).header true 0 0 0).bytes).rotate 18

/-- **A rotated token is refused.**  The receiver does not find the header at the end, and the
sender's own token for the message is another one. -/
theorem rotated_token_refused :
    IsRfcToken markLibs (markCtx true) 3 0 (str "hello") true rotatedToken ∧
    ((markCtx false).unwrapV3 markLibs rotatedToken).1 = .error .truncated ∧
    ((markCtx true).wrapWithRrc markLibs [] (str "hello") 3).1 ≠ .ok rotatedToken := by
  refine ⟨⟨0, _, ?_, rfl⟩, by decide +kernel, by decide +kernel⟩
  have hfiller : ([] : Str).length = (0 : UInt16).toNat := rfl
  have hcipher : markLibs.ciphers.encrypt [] (markCtx true).sendKey.1 (sealUsage true)
      (str "hello" ++ [] ++ ((markCtx true).header true 0 0 0).bytes)
        = .ok (((str "hello" ++ ((markCtx true).header true 0 0 0).bytes).rotate 18).rotate 3) := by
    decide +kernel
  exact .conf hfiller hcipher

/-- Tokens that are not rotated interoperate, and so do those rotated by half their length. -/
theorem interoperates_half :
    Interoperates markLibs (markCtx true) (markCtx false) 0 21 ∧
      Interoperates markLibs (markCtx true) (markCtx false) 14 28 ∧ 28 ∣ 2 * (14 : UInt16).toNat :=
  ⟨(interoperates_iff 0 21).1 ⟨0, rfl⟩ sound_markLibs peers_markCtx,
    (interoperates_iff 14 28).1 ⟨1, rfl⟩ sound_markLibs peers_markCtx, ⟨1, rfl⟩⟩

end Kerber.Gss
