import Kerber.Gss.Mic
import Kerber.Types.Time

/-!
# Exported contexts

A context is written to a token and made again from it (`export.rs`), and asked about itself
(`context.rs`).  The reader works on what is left of the token.
-/

namespace Kerber.Gss

/-- `GssContext`, all of it. -/
structure FullContext extends GssContext where
  (client delegated spnegoMechList : Option Str)
  lifetimeEnd : UInt32
  acceptorSkew : Int32
  gssFlags : UInt32
  ticketInitial : Bool
  acceptor : Option PrincipalName
  ticketRealm : Option Str
  apRepKey : Option ProtocolKey
  dceStyle : Bool
  apReqTime : Option (KerberosTime × Int)
deriving DecidableEq

/-! ### What a context says of itself -/

namespace FullContext

variable (ctx : FullContext)

def endtime : Option UInt32 := if ctx.lifetimeEnd ≠ 0 then some ctx.lifetimeEnd else none

/-- The seconds that are left at `now`. -/
def lifetime (now : UInt32) : UInt32 :=
  if ctx.lifetimeEnd = 0 then 0
  else
    let start := (now.toNat : Int) - ctx.acceptorSkew.toInt
    let left := max ((ctx.lifetimeEnd.toNat : Int) - start) 0
    if left < 2 ^ 32 then UInt32.ofNat left.toNat else 0xFFFFFFFF

end FullContext

/-! ### Writing -/

def exportMagic : Str := str "K5G1"

def exportVersion : UInt8 := 2

/-- `u8::from` of a `bool`. -/
def flagByte (b : Bool) : UInt8 := if b then 1 else 0

/-- Bytes behind their number, of 16 bits. -/
def writeCounted (b : Str) : Except Error Str :=
  if b.length < 2 ^ 16 then .ok (beWord16 (UInt16.ofNat b.length) ++ b) else .error .truncated

def writeKey (key : ProtocolKey) : Except Error Str := do
  let bytes ← writeCounted key.bytes
  return be32 key.etype.toIana.toUInt32 ++ bytes

def writeSubkey : Option ProtocolKey → Except Error Str
  | some k => do
    let key ← writeKey k
    return [1] ++ key
  | none => .ok [0]

/-- The part of a token whose length is fixed. -/
def FullContext.head (ctx : FullContext) : Str :=
  let r := ctx.recv
  exportMagic ++ [exportVersion] ++ [flagByte ctx.initiator] ++ le32 ctx.gssFlags
    ++ le32 ctx.lifetimeEnd ++ le32 ctx.acceptorSkew.toUInt32 ++ be64 ctx.sendSeq
    ++ [flagByte r.doReplay ||| flagByte r.doSequence <<< 1 ||| flagByte r.wide <<< 2]
    ++ be64 r.base ++ be64 r.next ++ be64 r.recvmap

abbrev TokenReader := StateT Str (Except Error)

/-- `take_arr`, and `token.get(*i..*i + n)`. -/
def takeBytes (n : Nat) : TokenReader Str := fun rest =>
  if n ≤ rest.length then .ok (rest.take n, rest.drop n) else .error .truncated

/-- A number of `n` bytes. -/
def takeNumber {α : Type} (n : Nat) (numberAt : Str → Nat → α) : TokenReader α := do
  let bytes ← takeBytes n
  return numberAt bytes 0

def takeByte : TokenReader UInt8 := takeNumber 1 fun bytes pos => bytes.getD pos 0

def readCounted : TokenReader Str := do
  let n ← takeNumber 2 be16At
  takeBytes n.toNat

def readKey : TokenReader ProtocolKey := do
  let etype ← takeNumber 4 be32At
  let bytes ← readCounted
  let et ← (EncryptionType.known etype.toInt32).mapError Error.inner
  (ProtocolKey.fromBytes et bytes).mapError Error.inner

def readSubkey : TokenReader (Option ProtocolKey) := do
  let hasSub ← takeByte
  if hasSub ≠ 0 then some <$> readKey else return none

end Kerber.Gss
