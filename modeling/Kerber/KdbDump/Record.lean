import Kerber.Lib.Except
import Kerber.Store.Crypto

/-!
# Entries of a database dump

One entry of a `kdb5_util` dump of version 6 or 7 (`kdb_dump.rs`): the record `DumpPrincipal`, the
line it is written as (`record`) and the reader of such a line (`parsePrincLine`).
-/

namespace Kerber

/-- `DumpError`; a cause is its text. -/
inductive DumpError
  | format (text : Str)
  | crypto (text : Str)
  | io (text : Str)
deriving DecidableEq

structure DumpKeySlot where
  ty : Int32
  contents : Str
deriving DecidableEq

structure DumpKeyData where
  ver : Int32
  kvno : UInt32
  slots : List DumpKeySlot
deriving DecidableEq

/-- The eight numbers of an entry, in the order they are written. -/
structure DumpNumbers where
  (attributes maxLife maxRenewableLife expiration pwExpiration lastSuccess lastFailed : UInt32)
  failAuthCount : UInt32
deriving DecidableEq

structure DumpPrincipal extends DumpNumbers where
  dbLen : UInt32
  name : Str
  tlData : List TlData
  keys : List DumpKeyData
  eData : Str
deriving DecidableEq

/-! ### Writing -/

def dec (n : Nat) : Str :=
  render 10 n

def encodeHex (bytes : Str) : Str :=
  if bytes = [] then str "-1" else bytes.flatMap hexPair

/-- `{}\t{}\t{}` of a type, a length and its contents. -/
def typedText (ty : Int32) (contents : Str) : Str :=
  renderInt 10 ty.toInt ++ str "\t" ++ dec contents.length ++ str "\t" ++ encodeHex contents

/-- The eight numbers with tabs between them. -/
def DumpNumbers.text (n : DumpNumbers) : Str :=
  dec n.attributes.toNat ++ str "\t" ++ dec n.maxLife.toNat ++ str "\t"
    ++ dec n.maxRenewableLife.toNat ++ str "\t" ++ dec n.expiration.toNat ++ str "\t"
    ++ dec n.pwExpiration.toNat ++ str "\t" ++ dec n.lastSuccess.toNat ++ str "\t"
    ++ dec n.lastFailed.toNat ++ str "\t" ++ dec n.failAuthCount.toNat

def DumpKeyData.text (k : DumpKeyData) : Str :=
  renderInt 10 k.ver.toInt ++ str "\t" ++ dec k.kvno.toNat ++ str "\t"
    ++ k.slots.flatMap fun s => typedText s.ty s.contents ++ str "\t"

def DumpPrincipal.record (p : DumpPrincipal) : Str :=
  str "princ\t" ++ dec p.dbLen.toNat ++ str "\t" ++ dec p.name.length ++ str "\t"
    ++ dec p.tlData.length ++ str "\t" ++ dec p.keys.length ++ str "\t" ++ dec p.eData.length
    ++ str "\t" ++ p.name ++ str "\t" ++ p.toDumpNumbers.text
    ++ (p.tlData.flatMap fun t => str "\t" ++ typedText t.ty t.contents)
    ++ str "\t" ++ p.keys.flatMap DumpKeyData.text ++ encodeHex p.eData ++ str ";"

/-! ### Reading -/

def u32Limit : Nat := 2 ^ 32 - 1
def i32Limit : Nat := 2 ^ 31 - 1

variable (lineno : Nat) (c : Cursor)

/-- `DumpError::Format(format!("line {lineno}: {msg}"))`. -/
def badLine (msg : Str) : DumpError :=
  .format (str "line " ++ dec lineno ++ str ": " ++ msg)

/-- The cursor's own errors never reach a caller: every use replaces them with its own text. -/
def orBad {α : Type} (lineno : Nat) (msg : String) : Option α → Except DumpError α
  | some a => .ok a
  | none => .error (badLine lineno (str msg))

/-- The fields a record has left (`Cursor`). -/
abbrev Cursor := List Str

namespace Cursor

def take : Cursor → Option (Str × Cursor)
  | [] => none
  | s :: rest => some (s, rest)

def u32 : Option (UInt32 × Cursor) := do
  let (s, c) ← take c
  let n ← parseNat 10 u32Limit s
  return (UInt32.ofNat n, c)

def usize : Option (Nat × Cursor) := do
  let (n, c) ← u32 c
  return (n.toNat, c)

def i32 : Option (Int32 × Cursor) := do
  let (s, c) ← take c
  let i ← parseInt 10 i32Limit s
  return (Int32.ofInt i, c)

/-- `decode_hex` to a length; no bytes are written as `-1`. -/
def hexOf (len : Nat) (s : Str) : Option Str :=
  if len = 0 then if s = str "-1" then some [] else none
  else (pairBytes s).filter fun b => b.length = len

def hex (len : Nat) (c : Cursor) : Option (Str × Cursor) := do
  let (s, c) ← take c
  let b ← hexOf len s
  return (b, c)

def typeAndLen : Option ((Int32 × Nat) × Cursor) := do
  let (ty, c) ← i32 c
  let (len, c) ← usize c
  return ((ty, len), c)

def finish : Except DumpError Unit :=
  if c = [] then .ok ()
  else .error (badLine lineno
    (str "extra fields after princ record (" ++ dec c.length ++ str " leftover)"))

end Cursor

/-- The five sizes in front of a record. -/
structure DumpSizes where
  dbLen : UInt32
  (nameLen nTl nKey eLen : Nat)

open Cursor in
def readSizes : Option (DumpSizes × Cursor) := do
  let (dbLen, c) ← u32 c
  let (nameLen, c) ← usize c
  let (nTl, c) ← usize c
  let (nKey, c) ← usize c
  let (eLen, c) ← usize c
  return ({ dbLen, nameLen, nTl, nKey, eLen }, c)

def readName (nameLen : Nat) (c : Cursor) : Option (Str × Cursor) := do
  let (name, c) ← c.take
  if name.length = nameLen then some (name, c) else none

open Cursor in
def readNumbers : Option (DumpNumbers × Cursor) := do
  let (attributes, c) ← u32 c
  let (maxLife, c) ← u32 c
  let (maxRenewableLife, c) ← u32 c
  let (expiration, c) ← u32 c
  let (pwExpiration, c) ← u32 c
  let (lastSuccess, c) ← u32 c
  let (lastFailed, c) ← u32 c
  let (failAuthCount, c) ← u32 c
  return ({ attributes, maxLife, maxRenewableLife, expiration, pwExpiration, lastSuccess,
            lastFailed, failAuthCount }, c)

/-- A type, a length and contents, as tagged data and key slots have them. -/
def readTyped (noType noContents : String) (c : Cursor) :
    Except DumpError ((Int32 × Str) × Cursor) := do
  let ((ty, len), c) ← orBad lineno noType (Cursor.typeAndLen c)
  let (contents, c) ← orBad lineno noContents (Cursor.hex len c)
  return ((ty, contents), c)

/-- One tagged datum of a record. -/
def readTl : Except DumpError (TlData × Cursor) := do
  let ((ty, contents), c) ← readTyped lineno "cannot read tagged data type and length"
    "cannot read tagged data contents" c
  return ({ ty, contents }, c)

def readSlot : Except DumpError (DumpKeySlot × Cursor) := do
  let ((ty, contents), c) ← readTyped lineno "cannot read key type and length"
    "cannot read key data" c
  return ({ ty, contents }, c)

/-- The version and the number of a key. -/
def readKeyHead : Option ((Int32 × UInt32) × Cursor) := do
  let (ver, c) ← c.i32
  let (kvno, c) ← c.u32
  return ((ver, kvno), c)

def readKey : Except DumpError (DumpKeyData × Cursor) := do
  let ((ver, kvno), c) ← orBad lineno "cannot read key size and version" (readKeyHead c)
  rejectIf (!(ver = 1 || ver = 2)) (badLine lineno (str "unsupported key_data_ver version"))
  rejectIf (kvno > 65535) (badLine lineno (str "invalid kvno"))
  let (slots, c) ← readMany (readSlot lineno) ver.toInt.toNat c
  return ({ ver, kvno, slots }, c)

/-- The fields of a record: a semicolon behind the last one and a last one that is empty are
dropped. -/
def princFields (rest : Str) : Cursor :=
  let raw := rest.splitOn tab
  let last := stripSuffix 59 (raw.getLast?.getD [])
  if last = [] then raw.dropLast else raw.dropLast ++ [last]

/-- `parse_princ_line`, on what follows `princ\t`. -/
def parsePrincLine (rest : Str) (lineno : Nat) : Except DumpError DumpPrincipal := do
  let c := princFields rest
  let (sizes, c) ← orBad lineno "cannot match size tokens" (readSizes c)
  let (name, c) ← orBad lineno "cannot read name string" (readName sizes.nameLen c)
  let (numbers, c) ← orBad lineno "cannot read principal attributes" (readNumbers c)
  let (tlData, c) ← readMany (readTl lineno) sizes.nTl c
  let (keys, c) ← readMany (readKey lineno) sizes.nKey c
  let (eData, c) ← orBad lineno "cannot read extra data" (Cursor.hex sizes.eLen c)
  Cursor.finish lineno c
  return { toDumpNumbers := numbers, dbLen := sizes.dbLen, name, tlData, keys, eData }

end Kerber
