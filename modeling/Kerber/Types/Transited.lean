import Kerber.Types.Str

/-!
# Transited realms

The `transited` field of a ticket lists the realms it went through, compressed: a name that begins
with a slash extends the one before it, one that ends in a dot is put in front of it, and an empty
subfield stands for all realms between its neighbours (`krb5_types::TransitedEncoding`).
`appendRealm` adds a realm, `realmsFor` expands the field, and `transitAllowed` compares the result
with the path between two realms (`krb5_types::transited`).

The characters with a meaning are ASCII, so a field is read byte by byte.
-/

namespace Kerber

inductive TransitError
  | fieldTooLong
  | tooManyFields
  | badIntermediates
deriving DecidableEq

structure TransitedEncoding where
  trType : Int
  contents : Str
deriving DecidableEq

namespace Transited

def space : UInt8 := 32
def comma : UInt8 := 44
def dot : UInt8 := 46
def slash : UInt8 := 47
def backslash : UInt8 := 92

def maxTransitRealms : Nat := 256
def maxTransitHops : Nat := 4096
def maxTransitRaw : Nat := 512
def maxTransitJoined : Nat := 512
def maxAddPathRaw : Nat := 500
def maxAddPathJoined : Nat := 499
def maxAddPathTotal : Nat := 500

/-! ### Writing -/

def stripTrailingNul (raw : Str) : Str :=
  if raw.getLast? = some 0 then raw.dropLast else raw

def dropTrailingUnescapedComma (buf : Str) : Str :=
  if buf.getLast? ≠ some comma then buf
  else if (buf.dropLast.reverse.takeWhile (· = backslash)).length % 2 = 0 then buf.dropLast
  else buf

/-- One character of `escape_transit_realm`. -/
def escapeByte (b : UInt8) : Str :=
  if b = backslash ∨ b = comma then [backslash, b] else [b]

def escapeTransitRealm (realm : Str) : Str :=
  realm.flatMap escapeByte

/-- What stands between a field and the realm that is added to it. -/
def separator (realm : Str) : Str :=
  if realm.head? = some slash then [comma, space] else [comma]

def encodeAppend (raw realm : Str) : Str :=
  let contents := dropTrailingUnescapedComma (stripTrailingNul raw)
  if contents = [] then escapeTransitRealm realm
  else contents ++ separator realm ++ escapeTransitRealm realm

def pushHop (out : List Str) (hop : Str) : Except TransitError (List Str) :=
  if out.length ≥ maxTransitHops then .error .tooManyFields else .ok (out ++ [hop])

/-! ### The realms a new one is compared with -/

def addPathJoin (last cur : Str) : Except TransitError Str :=
  match stripPrefix [space] cur with
  | some rest => if rest.length ≥ maxAddPathRaw then .error .fieldTooLong else .ok rest
  | none =>
    if cur.head? = some slash ∧ last.head? = some slash then
      if last.length + cur.length ≥ maxAddPathJoined then .error .fieldTooLong
      else .ok (last ++ cur)
    else if cur.getLast? = some dot then
      if cur.length + last.length ≥ maxAddPathJoined then .error .fieldTooLong
      else .ok (cur ++ last)
    else .ok cur

/-- The variables of the loop of `expand_add_path`. -/
structure AddPath where
  out : List Str := []
  last : Str := []
  cur : Str := []
  escaped : Bool := false
deriving DecidableEq

/-- `emit_add_path_field`. -/
def AddPath.emit (st : AddPath) : Except TransitError AddPath :=
  if st.cur = [] then .ok st
  else do
    let this ← addPathJoin st.last st.cur
    let out ← pushHop st.out this
    return { st with out, last := this, cur := [] }

/-- A character of a name. -/
def AddPath.push (st : AddPath) (b : UInt8) : Except TransitError AddPath :=
  let cur := st.cur ++ [b]
  if cur.length ≥ maxAddPathRaw then .error .fieldTooLong
  else .ok { st with cur, escaped := false }

/-- One character of `expand_add_path`. -/
def AddPath.step (st : AddPath) (b : UInt8) : Except TransitError AddPath :=
  if st.escaped then st.push b
  else if b = backslash then .ok { st with escaped := true }
  else if b = comma then st.emit
  else st.push b

def expandAddPath (raw : Str) : Except TransitError (List Str) := do
  let raw := stripTrailingNul raw
  if (dropTrailingUnescapedComma raw).length ≥ maxAddPathTotal then .error .fieldTooLong
  else if raw = [] then .ok []
  else do
    let st ← (fromUtf8Lossy raw).foldlM AddPath.step {}
    let st ← st.emit
    return st.out

/-! ### Expansion -/

/-- The names between two realms, from the shorter one on. -/
def intermediatesOf (short long : Str) : List Str :=
  if short.head? = some slash then
    ((List.range long.length).filter fun i =>
      short.length < i ∧ long.getD i 0 = slash).map long.take
  else
    (((List.range (long.length - short.length)).filter fun i =>
      0 < i ∧ long.getD (i - 1) 0 = dot).map long.drop).reverse

def processIntermediates (n1 n2 : Str) (out : List Str) : Except TransitError (List Str) :=
  let short := if n1.length > n2.length then n2 else n1
  let long := if n1.length > n2.length then n1 else n2
  if short.length = long.length then
    if short = long then .ok out else .error .badIntermediates
  else if short = [] then .error .badIntermediates
  else if short.head? = some slash then
    if long.head? ≠ some slash ∨ ¬ short <+: long then .error .badIntermediates
    else (intermediatesOf short long).foldlM pushHop out
  else if long.head? = some slash ∨ ¬ short <:+ long then .error .badIntermediates
  else (intermediatesOf short long).foldlM pushHop out

def maybeJoin (last cur : Str) : Except TransitError (Option Str) :=
  if cur = [] then .ok none
  else if cur.length ≥ maxTransitRaw then .error .fieldTooLong
  else
    let expanded :=
      if cur.head? = some slash then last ++ cur
      else if cur.getLast? = some dot then cur ++ last
      else cur
    if expanded.length > maxTransitJoined then .error .fieldTooLong else .ok (some expanded)

/-- The variables of the loop of `expand_domain_x500`. -/
structure Expand where
  out : List Str := []
  last : Str := []
  cur : Str := []
  escaped : Bool := false
  intermediates : Bool := false
  atStart : Bool := true
deriving DecidableEq

/-- The realms an empty subfield before a name stands for. -/
def Expand.between (st : Expand) (this : Str) (out : List Str) : Except TransitError (List Str) :=
  if st.intermediates then processIntermediates this st.last out else .ok out

def Expand.emitJoined (st : Expand) : Except TransitError Expand := do
  match ← maybeJoin st.last st.cur with
  | none => return { st with cur := [] }
  | some this =>
    let out ← pushHop st.out this
    let out ← st.between this out
    return { st with out, last := this, cur := [] }

/-- A comma of `expand_domain_x500`. -/
def Expand.comma (crealm : Str) (st : Expand) : Except TransitError Expand :=
  if st.cur = [] then
    if st.atStart then
      if crealm.length ≥ maxTransitRaw then .error .fieldTooLong
      else .ok { st with intermediates := true, last := crealm, atStart := false }
    else .ok { st with intermediates := true }
  else do
    let st ← st.emitJoined
    return { st with intermediates := false, atStart := false }

/-- One character of `expand_domain_x500`. -/
def Expand.step (crealm : Str) (st : Expand) (b : UInt8) : Except TransitError Expand :=
  if st.escaped then .ok { st with cur := st.cur ++ [b], escaped := false, atStart := false }
  else if b = backslash then .ok { st with escaped := true, atStart := false }
  else if b = Transited.comma then st.comma crealm
  else if b = space ∧ st.cur = [] then .ok { st with last := [], atStart := false }
  else .ok { st with cur := st.cur ++ [b], atStart := false }

/-- What `expand_domain_x500` does at the end of the field. -/
def Expand.finish (srealm : Str) (st : Expand) : Except TransitError (List Str) :=
  if st.cur = [] then
    if srealm.length ≥ maxTransitRaw then .error .fieldTooLong
    else processIntermediates st.last srealm st.out
  else st.emitJoined.map Expand.out

def expandDomainX500 (raw crealm srealm : Str) : Except TransitError (List Str) :=
  let raw := stripTrailingNul raw
  if raw = [] then .ok []
  else if raw.count comma > maxTransitRealms then .error .tooManyFields
  else do
    let st ← (fromUtf8Lossy raw).foldlM (Expand.step crealm) {}
    st.finish srealm

end Transited

namespace TransitedEncoding

open Transited

def realmsFor (t : TransitedEncoding) (crealm srealm : Str) : Except TransitError (List Str) :=
  expandDomainX500 t.contents crealm srealm

/-- `append_realm`; the two realms it is also given are not used. -/
def appendRealm (t : TransitedEncoding) (realm : Str) : Except TransitError TransitedEncoding := do
  let hops ← expandAddPath t.contents
  if realm ∈ hops then .ok t
  else
    let contents := encodeAppend t.contents realm
    if contents.length ≥ maxAddPathTotal then .error .fieldTooLong else .ok ⟨1, contents⟩

def empty : TransitedEncoding := ⟨1, []⟩

end TransitedEncoding

/-! ### Paths between realms -/

namespace Transited

/-- The configured paths: the realms between a client and a server realm
(`capaths.get(client).and_then(|m| m.get(server))`). -/
abbrev Capaths := Str → Str → Option (List Str)

/-- The names of a realm and the ones above it. -/
def realmTails (parts : List Str) : List Str :=
  (parts.tails.filter (· ≠ [])).map [dot].intercalate

def hierarchicalWalkRealms (client server : Str) : List Str :=
  if client.length ≥ maxTransitRaw ∨ server.length ≥ maxTransitRaw then []
  else if client = server then []
  else
    let c := client.splitOn dot
    let s := server.splitOn dot
    let common := ((c.reverse.zip s.reverse).takeWhile fun p => p.1 = p.2).length
    let cKeep := if common = 0 then c.length else c.length - common + 1
    let sKeep := if common = 0 then s.length else s.length - common
    (realmTails c).take cKeep ++ ((realmTails s).take sKeep).reverse

def walkRealmTree (capaths : Capaths) (client server : Str) : List Str :=
  if client = server then []
  else
    match capaths client server with
    | some vals => client :: (vals.filter (· ≠ [dot])) ++ [server]
    | none => hierarchicalWalkRealms client server

def transitAllowed (capaths : Capaths) (crealm srealm : Str) (hops : List Str) : Bool :=
  let tgsRealms := (walkRealmTree capaths crealm srealm).dropLast
  hops.all fun h => h ∈ tgsRealms

end Transited

end Kerber
