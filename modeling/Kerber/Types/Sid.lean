import Kerber.Lib.Endian
import Kerber.Types.Str

/-!
# Security identifiers

The SIDs of Windows domains and their members (`krb5_types::pac`).
-/

namespace Kerber

structure RpcSid where
  revision : UInt8
  identifierAuthority : Vector UInt8 6
  subAuthority : List UInt32
deriving DecidableEq

namespace RpcSid

def withRid (s : RpcSid) (rid : UInt32) : RpcSid :=
  { s with subAuthority := s.subAuthority ++ [rid] }

def isInDomain (s domain : RpcSid) : Bool :=
  s.identifierAuthority == domain.identifierAuthority
    && domain.subAuthority.length ≤ s.subAuthority.length
    && s.subAuthority.take domain.subAuthority.length == domain.subAuthority

def ntDomain (a b c : UInt32) : RpcSid :=
  ⟨1, #v[0, 0, 0, 0, 0, 5], [21, a, b, c]⟩

def toMsDtyp (s : RpcSid) : Str :=
  let n := s.subAuthority.length
  [s.revision, if n < 2 ^ 8 then UInt8.ofNat n else 0] ++ s.identifierAuthority.toList
    ++ s.subAuthority.flatMap le32

def fromMsDtyp (b : Str) : Option RpcSid :=
  let n := (b.getD 1 0).toNat
  if b.length < 8 then none
  else if b.length < 8 + n * 4 then none
  else some ⟨b.getD 0 0, Vector.ofFn fun i => b.getD (2 + i) 0,
    (List.range n).map fun i => le32At b (8 + 4 * i)⟩

end RpcSid

end Kerber
