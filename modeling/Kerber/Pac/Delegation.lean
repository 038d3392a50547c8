import Kerber.Pac.Format
import Kerber.Types.NameText

/-!
# S4U delegation information

The DELEGATION_INFO buffer of a PAC, in NDR: the target of the delegation and the services the
ticket has passed through (`delegation_info_buffer` and `parse_delegation_info` of
`krb5_types::pac`).
-/

namespace Kerber

structure S4uDelegationInfo where
  proxyTarget : Str
  transitedServices : List Str
deriving DecidableEq

namespace S4uDelegationInfo

/-! ### Writing -/

def utf16Units (s : Str) : UInt16 :=
  let n := (encodeUtf16 s).length
  if n < 2 ^ 16 then UInt16.ofNat n else UInt16.ofNat (2 ^ 16 - 1)

def encWchar (s : Str) : Str :=
  let units := encodeUtf16 s
  let n : UInt32 := if units.length < 2 ^ 32 then UInt32.ofNat units.length else 0
  le32 (n + 1) ++ le32 0 ++ le32 n ++ units.flatMap le16 ++ if n % 2 = 1 then le16 0 else []

/-- The `k`-th pointer `write_ndr_ptr` writes. -/
def ndrPtr (k : Nat) : Str :=
  le32 (UInt32.ofNat (min (0x00020000 + 4 * k) (2 ^ 32 - 1)))

/-- The lengths and the pointer in front of a text. -/
def wcharHeader (s : Str) (k : Nat) : Str :=
  le16 (2 * utf16Units s) ++ le16 (2 * (utf16Units s + 1)) ++ ndrPtr k

/-- `delegation_info_buffer`. -/
def toBuffer (info : S4uDelegationInfo) : Str :=
  let count := info.transitedServices.length
  let n : UInt32 := if count < 2 ^ 32 then UInt32.ofNat count else 0
  let body := le32 0 ++ ndrPtr 0 ++ wcharHeader info.proxyTarget 1 ++ le32 n ++ ndrPtr 2
    ++ encWchar info.proxyTarget ++ le32 n
    ++ (info.transitedServices.zipIdx.flatMap fun (s, k) => wcharHeader s (3 + k))
    ++ info.transitedServices.flatMap encWchar
  -- the common header is 12 bytes long
  let body := if (12 + body.length) % 8 = 0 then body else body ++ le32 0
  let payload := body.length - 4
  [0x01, 0x10, 0x08, 0x00] ++ le32 0xcccccccc
    ++ le32 (if payload < 2 ^ 32 then UInt32.ofNat payload else 0) ++ body

/-! ### Reading -/

def readU32 (data : Str) (i : Nat) : Except PacError (UInt32 × Nat) :=
  if i + 4 ≤ data.length then .ok (le32At data i, i + 4) else .error .truncated

def skipU16 (data : Str) (i : Nat) : Except PacError Nat :=
  if i + 2 ≤ data.length then .ok (i + 2) else .error .truncated

/-- The padding behind an odd number of units. -/
def skipPad (data : Str) (actual stop : Nat) : Except PacError Nat :=
  if actual % 2 = 1 then skipU16 data stop else .ok stop

def decWchar (data : Str) (i : Nat) : Except PacError (Str × Nat) := do
  let (_, i) ← readU32 data i
  let (_, i) ← readU32 data i
  let (actual, i) ← readU32 data i
  let stop := i + 2 * actual.toNat
  rejectIf (stop > data.length) .truncated
  let units := le16Units ((data.drop i).take (2 * actual.toNat))
  let next ← skipPad data actual.toNat stop
  match fromUtf16 units with
  | some s => .ok (s, next)
  | none => .error .malformed

/-- `n` texts one after another. -/
def decWchars (data : Str) : Nat → Nat → Except PacError (List Str)
  | 0, _ => .ok []
  | n + 1, i => do
    let (s, i) ← decWchar data i
    let rest ← decWchars data n i
    return s :: rest

/-- `parse_delegation_info`. -/
def parse (data : Str) : Except PacError S4uDelegationInfo := do
  rejectIf (data.length < 16) .truncated
  rejectIf (data.take 2 != [0x01, 0x10] || le16At data 2 != 8) .malformed
  rejectIf ((le32At data 8).toNat != data.length - 16) .malformed
  let (_, i) ← readU32 data 16
  let i ← skipU16 data i
  let i ← skipU16 data i
  let (_, i) ← readU32 data i
  let (_, i) ← readU32 data i
  let (_, i) ← readU32 data i
  let (proxyTarget, i) ← decWchar data i
  let (n, i) ← readU32 data i
  rejectIf (n.toNat > data.length / 8) .malformed
  let transitedServices ← decWchars data n.toNat (i + 8 * n.toNat)
  return ⟨proxyTarget, transitedServices⟩

example : parse (toBuffer ⟨str "http/web", [str "svc@A", str "host/b@A"]⟩)
    = .ok ⟨str "http/web", [str "svc@A", str "host/b@A"]⟩ := by
  decide +kernel

end S4uDelegationInfo

end Kerber
