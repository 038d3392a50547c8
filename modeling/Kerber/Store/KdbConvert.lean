import Kerber.KdbDump.TlData

/-!
# An update of one principal

The attributes an update carries (`store/kdb_convert.rs`): their numbers, their values (`KdbeVal`),
and the values that the store logs for a principal (`conv2logentry`).
-/

namespace Kerber

def atAttrflags : UInt32 := 0
def atMaxLife : UInt32 := 1
def atMaxRenewLife : UInt32 := 2
def atExp : UInt32 := 3
def atPwExp : UInt32 := 4
def atLastSuccess : UInt32 := 5
def atLastFailed : UInt32 := 6
def atFailAuthCount : UInt32 := 7
def atPrinc : UInt32 := 8
def atKeydata : UInt32 := 9
def atTlData : UInt32 := 10
def atLen : UInt32 := 11
def atModPrinc : UInt32 := 12
def atModTime : UInt32 := 13
def atModWhere : UInt32 := 14
def atPwLastChange : UInt32 := 15
def atPwPolicy : UInt32 := 16
def atPwPolicySwitch : UInt32 := 17
def atPwHistKvno : UInt32 := 18
def atPwHist : UInt32 := 19

def attrBit (at_ : UInt32) : UInt32 := 1 <<< at_

def ulogAddAttrs : UInt32 := (1 <<< (atLen + 1)) - 1

inductive KdbeVal
  | attrFlags (n : UInt32)
  | maxLife (n : UInt32)
  | maxRenewLife (n : UInt32)
  | exp (n : UInt32)
  | pwExp (n : UInt32)
  | lastSuccess (n : UInt32)
  | lastFailed (n : UInt32)
  | failAuthCount (n : UInt32)
  | princ (name : PrincipalName) (realm : Str)
  | keyData (keys : List KeyEntry)
  | tlData (tl : List TlData)
  | len (n : UInt32)
  | modPrinc (name : PrincipalName) (realm : Str)
  | modTime (n : UInt32)
  | modWhere (b : Str)
  | pwLastChange (n : UInt32)
  | pwPolicy (b : Str)
  | pwPolicySwitch (on : Bool)
  | pwHistKvno (n : UInt32)
  | pwHist (hist : List (List OsaKeyData))
  | extension (at_ : UInt32) (b : Str)
deriving DecidableEq

def KdbeVal.attr : KdbeVal → UInt32
  | attrFlags _ => atAttrflags
  | maxLife _ => atMaxLife
  | maxRenewLife _ => atMaxRenewLife
  | exp _ => atExp
  | pwExp _ => atPwExp
  | lastSuccess _ => atLastSuccess
  | lastFailed _ => atLastFailed
  | failAuthCount _ => atFailAuthCount
  | princ _ _ => atPrinc
  | keyData _ => atKeydata
  | tlData _ => atTlData
  | len _ => atLen
  | modPrinc _ _ => atModPrinc
  | modTime _ => atModTime
  | modWhere _ => atModWhere
  | pwLastChange _ => atPwLastChange
  | pwPolicy _ => atPwPolicy
  | pwPolicySwitch _ => atPwPolicySwitch
  | pwHistKvno _ => atPwHistKvno
  | pwHist _ => atPwHist
  | extension at_ _ => at_

structure IpropUpdate where
  (sno time : UInt32)
  name : Str
  (deleted commit : Bool)
  vals : List KdbeVal
  raw : Str
deriving DecidableEq

/-! ### The values of a principal -/

variable (tl : List TlData) (p : Principal)

/-- `mit_tl`: the tagged data a replica is sent. -/
def mitTl : List TlData :=
  let tl := p.tlData.filter fun t =>
    t.ty ≠ tlDbArgs ∧ isS4uNameTl t = false ∧ ¬ (0x4B00 ≤ t.ty ∧ t.ty ≤ 0x4BFF)
  let tl := tl ++ p.s4uAllowedTo.map (nulTl tlConstrainedDelegation)
  let tl := mergeKadmTl tl p
  let strings := encodeStringAttrs p.stringAttrs
  if tl.any (·.ty = tlStringAttrs) then putFirst strings tl
  else if p.stringAttrs = [] then tl
  else tl ++ [⟨tlStringAttrs, strings⟩]
where
  /-- The first string attributes get these contents. -/
  putFirst (contents : Str) : List TlData → List TlData
    | [] => []
    | t :: tl => if t.ty = tlStringAttrs then { t with contents } :: tl else t :: putFirst contents tl

/-- `update_tl_data`: the first datum of the type gets the contents, else the datum is put in front. -/
def updateTlData (new : TlData) : List TlData :=
  if new.ty ≠ tlDbArgs ∧ tl.any (·.ty = new.ty) then replaceFirst tl else new :: tl
where
  replaceFirst : List TlData → List TlData
    | [] => []
    | t :: tl => if t.ty = new.ty then { t with contents := new.contents } :: tl else t :: replaceFirst tl

/-- `stamp_admin_tl`: when, and by whom, the entry was last changed.  `actor` is the name in the form
it is kept. -/
def stampAdminTl (now : UInt32) (actor : Str) (pwdChange : Bool) (p : Principal) : Principal :=
  let tl := if pwdChange then updateTlData p.tlData ⟨tlLastPwdChange, le32 now⟩ else p.tlData
  { p with tlData := updateTlData tl ⟨tlModPrinc, le32 now ++ actor ++ [0]⟩ }

def mitLifetimes : Nat × Nat :=
  if p.aliasTarget.isSome then (0, 0) else (p.maxLife, p.maxRenewableLife)

def lastPwdChange : UInt32 :=
  match (findTl tlLastPwdChange tl).map TlData.contents with
  | some [b0, b1, b2, b3] => joinBytes32 b0 b1 b2 b3
  | _ => 0

/-- `tl_mod_princ`: the time and the name of the last change. -/
def tlModPrincOf (contents : Str) : Option (UInt32 × Str) :=
  if contents.length < 5 ∨ contents.getLast? ≠ some 0 then none
  else
    let name := (contents.drop 4).dropLast
    if isUtf8 name then
      some (joinBytes32 (contents.getD 0 0) (contents.getD 1 0) (contents.getD 2 0)
        (contents.getD 3 0), name)
    else none

def modPrincData : Option (UInt32 × PrincipalName × Str) := do
  let t ← findTl tlModPrinc tl
  let (time, name) ← tlModPrincOf t.contents
  let (princ, realm) ← (principalFromUnparsed name []).toOption
  return (time, princ, realm)

/-- The values for one attribute of a principal; an attribute that is not sent has none. -/
def logValues (at_ : UInt32) : List KdbeVal :=
  if at_ = atAttrflags then
    if p.attributes.toNat < 2 ^ 31 then [.attrFlags p.attributes] else []
  else if at_ = atMaxLife then
    if (mitLifetimes p).1 < 2 ^ 31 then [.maxLife (UInt32.ofNat (mitLifetimes p).1)] else []
  else if at_ = atMaxRenewLife then
    if (mitLifetimes p).2 < 2 ^ 31 then [.maxRenewLife (UInt32.ofNat (mitLifetimes p).2)] else []
  else if at_ = atExp then [.exp p.expiration]
  else if at_ = atPwExp then [.pwExp p.pwExpire]
  else if at_ = atPrinc then
    if p.name.nameString = [] then [] else [.princ p.name p.realm]
  else if at_ = atKeydata then [.keyData p.keys]
  else if at_ = atTlData then
    let tl := mitTl p
    let rest := dropTypes [tlLastPwdChange, tlModPrinc] tl
    [.pwLastChange (lastPwdChange tl)]
      ++ (match modPrincData tl with
          | some (time, princ, realm) => [.modPrinc princ realm, .modTime time]
          | none => [])
      ++ (if rest = [] then [] else [.tlData rest])
  else if at_ = atLen then [.len p.dbEntryLen]
  else []

/-- `conv_2logentry`: the values of the attributes in a mask, in the order of their numbers. -/
def conv2logentry (attrs : UInt32) : List KdbeVal :=
  (List.range 20).flatMap fun n =>
    if attrs &&& attrBit (UInt32.ofNat n) = 0 then [] else logValues p (UInt32.ofNat n)

end Kerber
