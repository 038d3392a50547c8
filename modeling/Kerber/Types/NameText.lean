import Kerber.Types.Name

/-!
# Principal names as text

Quoting, unparsing and parsing of principal names (`krb5_types::name`), and the id a principal is
stored under (`kdb::lookup_principal_id`).  The delimiters and the characters that are quoted are
ASCII, so a name is taken byte by byte.
-/

namespace Kerber

open PrincipalName

inductive NameError
  | notGeneralString
  | malformed
deriving DecidableEq

/-- The text of a `NameError`. -/
def NameError.text : NameError → Str
  | .notGeneralString => str "principal/realm is not a GeneralString"
  | .malformed => str "malformed principal name"

variable (name : PrincipalName)

namespace PrincipalName

/-- A character of a component, quoted. -/
def quoteByte (b : UInt8) : Str :=
  if b = 47 ∨ b = 64 ∨ b = 92 then [92, b]
  else if b = 9 then str "\\t"
  else if b = 10 then str "\\n"
  else if b = 8 then str "\\b"
  else if b = 0 then str "\\0"
  else [b]

def quoteComponent (s : Str) : Str :=
  s.flatMap quoteByte

def unparseComponents (comps : List Str) : Str :=
  (str "/").intercalate (comps.map quoteComponent)

def unparseName (comps : List Str) (realm : Str) : Str :=
  unparseComponents comps ++ str "@" ++ quoteComponent realm

/-- `component_strings`: the components are octets, and a name's text has no others than UTF-8. -/
def componentStrings : List Str :=
  name.nameString.map fromUtf8Lossy

/-- `unparse_components_no_realm`: an at sign is not quoted. -/
def unparseNoRealm : Str :=
  (str "/").intercalate
    (name.componentStrings.map fun c => [64].intercalate ((c.splitOn 64).map quoteComponent))

def unparseWithRealm (realm : Str) : Str :=
  unparseName name.componentStrings realm

def componentsJoined : Str :=
  (str "/").intercalate name.componentStrings

def defaultSalt (realm : Str) : Str :=
  realm ++ name.nameString.flatten

/-- What a backslash before a character stands for. -/
def unquoteByte (b : UInt8) : UInt8 :=
  if b = 110 then 10 else if b = 116 then 9 else if b = 98 then 8 else if b = 48 then 0 else b

/-- The state of `parse_name_ex`: the finished components, the one that is read, the realm once
its separator was seen. -/
structure NameState where
  done : List Str := []
  current : Str := []
  realm : Option Str := none
  deriving DecidableEq

/-- `push_char`. -/
def NameState.push (st : NameState) (b : UInt8) : NameState :=
  match st.realm with
  | some r => { st with realm := some (r ++ [b]) }
  | none => { st with current := st.current ++ [b] }

/-- The loop of `parse_name_ex`, for names that are not enterprise names. -/
def parseNameLoop (st : NameState) : Str → Except NameError NameState
  | [] => .ok st
  | b :: rest =>
    if b = 92 then
      match rest with
      | [] => .error .malformed
      | n :: rest => parseNameLoop (st.push (unquoteByte n)) rest
    else if b = 47 then
      if st.realm.isSome then .error .malformed
      else parseNameLoop { st with done := st.done ++ [st.current], current := [] } rest
    else if b = 64 then
      if st.realm.isSome then .error .malformed
      else parseNameLoop { st with realm := some [] } rest
    else parseNameLoop (st.push b) rest

/-- `parse_name(s, default_realm)`: the components and the realm. -/
def parseName (s defaultRealm : Str) : Except NameError (List Str × Str) :=
  (parseNameLoop {} s).map fun st => (st.done ++ [st.current], st.realm.getD defaultRealm)

/-- The loop of `parse_name_ex` for an enterprise name: its first at sign belongs to it, as slashes
do. -/
def parseEnterpriseLoop (firstAt : Bool) (st : NameState) : Str → Except NameError NameState
  | [] => .ok st
  | b :: rest =>
    if b = 92 then
      match rest with
      | [] => .error .malformed
      | n :: rest => parseEnterpriseLoop firstAt (st.push (unquoteByte n)) rest
    else if b = 64 ∧ firstAt = false then
      if st.realm.isSome then .error .malformed
      else parseEnterpriseLoop firstAt { st with realm := some [] } rest
    else parseEnterpriseLoop (firstAt && b != 64) (st.push b) rest

structure ParsedName where
  components : List Str
  realm : Str
  hasRealm : Bool

def parseNameEx (s defaultRealm : Str) (enterprise : Bool) : Except NameError ParsedName :=
  (if enterprise then parseEnterpriseLoop true {} s else parseNameLoop {} s).map fun st =>
    ⟨st.done ++ [st.current], st.realm.getD defaultRealm, st.realm.isSome⟩

def inferNameType (comps : List Str) : Int :=
  if comps.length = 2 ∧ comps.head? = some (str "krbtgt") then ntSrvInst
  else if 2 ≤ comps.length ∧ comps.head? = some (str "WELLKNOWN") then ntWellknown
  else ntPrincipal

/-- `PrincipalName::try_new`: every component is ASCII. -/
def tryNew (nameType : Int) (comps : List Str) : Except NameError PrincipalName :=
  if comps.all fun c => c.all (· < 128) then .ok ⟨nameType, comps⟩
  else .error .notGeneralString

/-- `principal_compare`: the name type does not count. -/
def compare (nameA : PrincipalName) (realmA : Str) (nameB : PrincipalName) (realmB : Str) : Bool :=
  realmA == realmB && nameA.nameString == nameB.nameString

end PrincipalName

def principalFromUnparsed (s defaultRealm : Str) : Except NameError (PrincipalName × Str) := do
  let (comps, realm) ← parseName s defaultRealm
  let name ← tryNew (inferNameType comps) comps
  return (name, realm)

/-- A text up to and after the last occurrence of a byte (`rsplit_once`). -/
def rsplitOnce (sep : UInt8) (s : Str) : Option (Str × Str) :=
  let parts := s.splitOn sep
  match parts.getLast? with
  | some last =>
    if parts.length = 1 then none else some ([sep].intercalate parts.dropLast, last)
  | none => none

def lookupPrincipalId (realm : Str) : Str :=
  if name.nameType = ntEnterprise then
    let raw := name.componentsJoined
    match rsplitOnce 64 raw with
    | some (user, suffix) =>
      if user ≠ [] ∧ suffix = realm then user ++ str "@" ++ realm
      else unparseName [raw] realm
    | none => unparseName [raw] realm
  else name.unparseWithRealm realm

end Kerber
