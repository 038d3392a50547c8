import Kerber.Lib.Endian
import Kerber.Types.Str

/-!
# DER elements (krb5-types, der.rs and the walk of pac.rs)

Lengths as they are written and read, and the walk that puts a zero in the place of the PAC.  An element
is read from the front of a byte string; an offset of the source is what was dropped before.
-/

namespace Kerber.Der

/-- The rounds of the loop of `len_len`, of which a `usize` takes eight at most. -/
def lenLen.loop : Nat → Nat → Nat
  | 0, _ => 0
  | fuel + 1, n => if n = 0 then 0 else loop fuel (n / 256) + 1

def lenLen (len : Nat) : Nat :=
  if len < 128 then 1 else 1 + lenLen.loop 8 len

/-- The octets that `push_len` adds. -/
def pushLen (len : Nat) : Str :=
  let llen := lenLen len
  if llen = 1 then [UInt8.ofNat len]
  else (0x80 ||| UInt8.ofNat (llen - 1)) :: (be64 (UInt64.ofNat len)).drop (8 - (llen - 1))

/-- The octets that `push_tlv` adds. -/
def pushTlv (tag : UInt8) (value : Str) : Str :=
  tag :: (pushLen value.length ++ value)

/-- `read_len`: the length that is written, and the octets it is written in. -/
def readLen (input : Str) : Option (Nat × Nat) := do
  let first ← input.head?
  let (len, hlen) ←
    if first < 0x80 then some (first.toNat, 1)
    else
      let llen := (first &&& 0x7F).toNat
      if llen = 0 ∨ llen > 8 ∨ input.length < 1 + llen then none
      else
        some (((input.drop 1).take llen).foldl (fun (len : Nat) b => len * 256 + b.toNat) 0,
          1 + llen)
  if len ≤ input.length - hlen then some (len, hlen) else none

/-- `read_tlv`: the tag, whether it is constructed, the contents, and the length of it all. -/
def readTlv (data : Str) : Option (UInt8 × Bool × Str × Nat) := do
  let tag ← data.head?
  if tag &&& 0x1F = 0x1F then none
  else
    let (len, lenBytes) ← readLen (data.drop 1)
    let hdr := 1 + lenBytes
    if hdr + len > data.length then none
    else some (tag, tag &&& 0x20 != 0, (data.drop hdr).take len, hdr + len)

/-- The loop of `rewrite_one` over the children, which `one` rewrites. -/
def rewriteAll (one : Str → Option (Str × Bool × Nat)) : Nat → Str → Option (Str × Bool)
  | _, [] => some ([], false)
  | 0, _ => none
  | fuel + 1, content => do
    let (ch, r, n) ← one content
    let (children, any) ← rewriteAll one fuel (content.drop n)
    return (ch ++ children, r || any)

/-- `rewrite_one`, to a depth: what is written, whether the PAC was in it, and the length read. -/
def rewriteOne (pac : Str) : Nat → Str → Option (Str × Bool × Nat)
  | 0, _ => none
  | fuel + 1, data => do
    let (tag, constructed, content, tlvLen) ← readTlv data
    let orig := (data.take tlvLen, false, tlvLen)
    if tag = 0x04 ∧ content = pac then some (pushTlv 0x04 [0], true, tlvLen)
    else if constructed then
      let (children, any) ← rewriteAll (rewriteOne pac fuel) content.length content
      return if any then (pushTlv tag children, true, tlvLen) else orig
    else if tag = 0x04 ∧ content.head? = some 0x30 then
      match rewriteOne pac fuel content with
      | some (inner, true, n) =>
        some (if n = content.length then (pushTlv tag inner, true, tlvLen) else orig)
      | _ => some orig
    else some orig

def zeroPacAdData (encTkt pac : Str) : Option Str :=
  if pac = [] then none
  else
    match rewriteOne pac (encTkt.length + 1) encTkt with
    | some (out, true, n) => if n = encTkt.length then some out else none
    | _ => none

end Kerber.Der
