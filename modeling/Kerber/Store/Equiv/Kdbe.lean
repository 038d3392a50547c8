import Kerber.Store.Equiv.XdrReads
import Kerber.Types.Equiv.NameText
import Mathlib.Tactic.IntervalCases

/-!
# An update read back

Two readers take an encoded update: `decodeIncrUpdate` builds it, `walkIncrUpdate` only steps over its
values.  `update_read_back` says that both readers give back what was encoded, for every
list of values that can be logged; those of a principal in the store can (`logged_conv2logentry`).
-/

namespace Kerber

open List

variable {keys : List KeyEntry} {draw : Draw} {b : Str}
variable {tag : UInt32} {v : KdbeVal} {tl : List TlData} {parts : List Str} {crypto : Crypto}
  {p : Principal} {r r' : XdrIn}

/-- The results one by one, each with the item it is from. -/
theorem forall₂_of_mapM_zipIdx {ε α β : Type} {f : α × Nat → Except ε β} {xs : List α} {n : Nat}
    {ys : List β} (h : (xs.zipIdx n).mapM f = .ok ys) :
    List.Forall₂ (fun y x => ∃ i, f (x, i) = .ok y) ys xs := by
  induction xs generalizing n ys with
  | nil =>
    cases h
    exact .nil
  | cons x xs ih =>
    rw [zipIdx_cons, mapM_cons] at h
    obtain ⟨y, hy, h⟩ := bind_ok h
    obtain ⟨ys', hys, h⟩ := bind_ok h
    cases h
    exact .cons ⟨n, hy⟩ (ih hys)

theorem forall₂_imp_of_mem {α β : Type} {R S : α → β → Prop} {as : List α} {bs : List β}
    (h : List.Forall₂ R as bs) (himp : ∀ a ∈ as, ∀ b ∈ bs, R a b → S a b) : List.Forall₂ S as bs := by
  obtain ⟨hlen, hzip⟩ := forall₂_iff_zip.mp h
  refine forall₂_iff_zip.mpr ⟨hlen, fun {a b} hab => ?_⟩
  obtain ⟨ha, hb⟩ := of_mem_zip hab
  exact himp a ha b hb (hzip hab)

theorem forall_mem_of_forall₂ {α β : Type} {R : α → β → Prop} {P : α → Prop} {as : List α}
    {bs : List β} (h : List.Forall₂ R as bs) (himp : ∀ a b, R a b → P a) : ∀ a ∈ as, P a := by
  induction h with
  | nil => exact fun _ h => (nomatch h)
  | cons hab _ ih => exact forall_mem_cons.mpr ⟨himp _ _ hab, ih⟩

namespace Store

open XdrIn

/-! ### The front of an update -/

/-- What stands before the commit flag of an update. -/
structure UpdateFront where
  name : Str
  (sno time useconds : UInt32)
  vals : List KdbeVal
  deleted : Bool

def readFront (crypto : Crypto) (mkey : Option ProtocolKey) (r : XdrIn) :
    Except XdrError (UpdateFront × XdrIn) := do
  let (name, r) ← r.bytes
  let (sno, r) ← r.u32
  let (time, r) ← r.u32
  let (useconds, r) ← r.u32
  let (vals, r) ← decodeKdbe crypto mkey r
  let (deleted, r) ← r.bool
  return (⟨name, sno, time, useconds, vals, deleted⟩, r)

/-- What stands behind the commit flag. -/
def skipBack (r : XdrIn) : Except XdrError XdrIn := do
  let r ← r.skipCounted 4 XdrIn.skipBytes
  r.skipBytes

section Front

variable {mkey : Option ProtocolKey} {u : IpropUpdate} {len : Nat}

theorem decodeIncrUpdate_ok : decodeIncrUpdate crypto b mkey = .ok (u, len)
    ↔ ∃ front r commit r₁ r₂, readFront crypto mkey ⟨b, 0⟩ = .ok (front, r)
      ∧ r.bool = .ok (commit, r₁) ∧ skipBack r₁ = .ok r₂ ∧ len = r₂.pos
      ∧ u = { sno := front.sno, time := front.time, name := fromUtf8Lossy front.name
              deleted := front.deleted, commit, vals := front.vals, raw := b.take r₂.pos } := by
  constructor
  · intro h
    obtain ⟨⟨name, r₁⟩, hname, h⟩ := bind_ok h
    obtain ⟨⟨sno, r₂⟩, hsno, h⟩ := bind_ok h
    obtain ⟨⟨time, r₃⟩, htime, h⟩ := bind_ok h
    obtain ⟨⟨useconds, r₄⟩, huseconds, h⟩ := bind_ok h
    obtain ⟨⟨vals, r₅⟩, hvals, h⟩ := bind_ok h
    obtain ⟨⟨deleted, r₆⟩, hdeleted, h⟩ := bind_ok h
    obtain ⟨⟨commit, r₇⟩, hcommit, h⟩ := bind_ok h
    obtain ⟨r₈, hseen, h⟩ := bind_ok h
    obtain ⟨r₉, hlast, h⟩ := bind_ok h
    cases h
    refine ⟨⟨name, sno, time, useconds, vals, deleted⟩, r₆, commit, r₇, r₉, ?_, hcommit, ?_, rfl, rfl⟩
    · rw [readFront]
      simp only [hname, hsno, htime, huseconds, hvals, hdeleted, ok_bind]
      rfl
    · rw [skipBack, hseen]
      exact hlast
  · rintro ⟨front, r, commit, r₁, r₂, hfront, hcommit, hback, rfl, rfl⟩
    obtain ⟨⟨name, r₃⟩, hname, hfront⟩ := bind_ok hfront
    obtain ⟨⟨sno, r₄⟩, hsno, hfront⟩ := bind_ok hfront
    obtain ⟨⟨time, r₅⟩, htime, hfront⟩ := bind_ok hfront
    obtain ⟨⟨useconds, r₆⟩, huseconds, hfront⟩ := bind_ok hfront
    obtain ⟨⟨vals, r₇⟩, hvals, hfront⟩ := bind_ok hfront
    obtain ⟨⟨deleted, r₈⟩, hdeleted, hfront⟩ := bind_ok hfront
    cases hfront
    obtain ⟨r₉, hseen, hlast⟩ := bind_ok hback
    rw [decodeIncrUpdate]
    simp only [hname, hsno, htime, huseconds, hvals, hdeleted, hcommit, hseen, hlast, ok_bind]
    rfl

end Front

/-! ### Names -/

theorem fromUtf8Lossy_of_ascii {s : Str} (h : ∀ b ∈ s, b < 128) : fromUtf8Lossy s = s := by
  induction s with
  | nil => rfl
  | cons a s ih =>
    have ha : a < 0x80 := h a mem_cons_self
    rw [fromUtf8Lossy_ascii ha, ih fun b hb => h b (mem_cons_of_mem a hb)]

/-- What a name in the store is made of: `try_new` takes ASCII only, and a name type has 32 bits. -/
def NameLogged (name : PrincipalName) : Prop :=
  (∀ c ∈ name.nameString, ∀ b ∈ c, b < 128) ∧ -2 ^ 31 ≤ name.nameType ∧ name.nameType < 2 ^ 31

theorem u32ToI32_i32ToU32 {i : Int} (h : -2 ^ 31 ≤ i ∧ i < 2 ^ 31) : u32ToI32 (i32ToU32 i) = i := by
  have hpos : (i % 2 ^ 32).toNat < 2 ^ 32 := by omega
  have hnat : (i32ToU32 i).toNat = (i % 2 ^ 32).toNat := UInt32.toNat_ofNat_of_lt' hpos
  rw [u32ToI32, hnat]
  split <;> omega

theorem tryNew_of_ascii {comps : List Str} (h : ∀ c ∈ comps, ∀ b ∈ c, b < 128) (ntype : Int) :
    PrincipalName.tryNew ntype comps = .ok ⟨ntype, comps⟩ := by
  refine if_pos (all_eq_true.mpr fun c hc => all_eq_true.mpr fun b hb => ?_)
  exact decide_eq_true (h c hc b hb)

theorem reads_component {c : Str} (hc : ∀ b ∈ c, b < 128)
    (hlen : (be32 kv5mData ++ xdrOpaque c).length < 2 ^ 32) :
    Reads readComponent (be32 kv5mData ++ xdrOpaque c) c := by
  intro rest pos
  rw [length_append] at hlen
  rw [readComponent, append_assoc, (reads_u32 _).bind]
  dsimp only
  rw [(reads_bytes (by omega)).bind]
  rw [fromUtf8Lossy_of_ascii hc, length_append, Nat.add_assoc]
  rfl

theorem walks_component : Walks skipTyped readComponent :=
  walks_u32.bind fun _ => walks_bytes.readAs fromUtf8Lossy

section Princ

variable {name : PrincipalName} {realm : Str}

def namePieces (name : PrincipalName) : List Str :=
  name.nameString.map fun c => be32 kv5mData ++ xdrOpaque c

theorem putPrinc_eq : putPrinc name realm
    = xdrOpaque realm ++ (putCounted (namePieces name) ++ be32 (i32ToU32 name.nameType)) :=
  append_assoc ..

theorem length_putPrinc : (putPrinc name realm).length
    = (xdrOpaque realm).length + ((putCounted (namePieces name)).length + 4) := by
  rw [putPrinc_eq, length_append, length_append, length_be32]

theorem reads_princ (hname : NameLogged name) (hrealm : fromUtf8Lossy realm = realm)
    (hlen : (putPrinc name realm).length < 2 ^ 32) :
    Reads decodePrinc (putPrinc name realm) (name, realm) := by
  intro rest pos
  rw [length_putPrinc] at hlen
  have hcomps : Reads (counted 8 readComponent) (putCounted (namePieces name)) name.nameString := by
    have hpieces : (putCounted (namePieces name)).length < 2 ^ 32 := by omega
    refine reads_each (fun c hc => reads_component (hname.1 c hc)) (fun c => ?_) hpieces
    rw [length_append, length_be32, length_xdrOpaque]
    omega
  rw [decodePrinc, length_putPrinc, putPrinc_eq, append_assoc, append_assoc,
    (reads_bytes (by omega)).bind]
  dsimp only
  rw [hcomps.bind]
  rw [(reads_u32 _).bind]
  rw [u32ToI32_i32ToU32 hname.2, tryNew_of_ascii hname.1, hrealm, length_be32,
    Nat.add_assoc, Nat.add_assoc]
  rfl

theorem walks_princ : Walks skipPrinc decodePrinc := by
  have hname : ∀ (realm : Str) (comps : List Str), Walks skipU32 fun r => u32 r >>= fun y =>
      (PrincipalName.tryNew (u32ToI32 y.1) comps).mapError (fun e => invalidText e.text) >>=
        fun name => .ok ((name, fromUtf8Lossy realm), y.2) :=
    fun realm comps => walks_u32.made
      (fun ntype => (PrincipalName.tryNew (u32ToI32 ntype) comps).mapError fun e => invalidText e.text)
      fun _ name => (name, fromUtf8Lossy realm)
  exact walks_bytes.bind fun realm => (walks_component.counted 8).bind fun comps => hname realm comps

end Princ

/-! ### Keys -/

def putParts (k : KeyParts) : Str :=
  be32 k.ver ++ (be32 k.kvno
    ++ (putCounted (k.enctypes.map be32) ++ putCounted (k.contents.map xdrOpaque)))

section Parts

variable {k : KeyParts}

theorem length_putParts : (putParts k).length
    = 4 + (4 + ((putCounted (k.enctypes.map be32)).length
      + (putCounted (k.contents.map xdrOpaque)).length)) := by
  simp only [putParts, length_append, length_be32]

theorem reads_types (types : List UInt32) (hlen : (putCounted (types.map be32)).length < 2 ^ 32) :
    Reads (counted 4 XdrIn.u32) (putCounted (types.map be32)) types :=
  reads_each (fun t _ _ => reads_u32 t) (fun _ => Nat.le_refl 4) hlen

theorem reads_contents (contents : List Str)
    (hlen : (putCounted (contents.map xdrOpaque)).length < 2 ^ 32) :
    Reads (counted 4 XdrIn.bytes) (putCounted (contents.map xdrOpaque)) contents := by
  refine reads_each (fun c _ => reads_bytes) (fun c => ?_) hlen
  rw [length_xdrOpaque]
  omega

theorem reads_keyParts (hlen : (putParts k).length < 2 ^ 32) : Reads readKeyParts (putParts k) k := by
  intro rest pos
  rw [length_putParts] at hlen
  rw [readKeyParts, length_putParts, putParts, append_assoc, append_assoc,
    append_assoc, (reads_u32 _).bind]
  dsimp only
  rw [(reads_u32 _).bind]
  rw [(reads_types k.enctypes (by omega)).bind]
  rw [(reads_contents k.contents (by omega)).bind]
  simp only [length_be32, Nat.add_assoc]
  rfl

theorem walks_keyParts : Walks skipKey readKeyParts :=
  walks_u32.bind fun ver => walks_u32.bind fun kvno => (walks_u32.counted 4).bind fun types =>
    (walks_bytes.counted 4).readAs fun contents => KeyParts.mk ver kvno types contents

end Parts

/-- What a key in the store is: versions end at 65535, the key has the length of its type, and a salt
type comes with a salt. -/
structure KeyLogged (k : KeyEntry) : Prop where
  kvno : k.kvno.toNat ≤ 65535
  etype : k.key.etype = k.etype
  length : k.key.bytes.length = k.etype.keyLen
  salt : k.saltType.isSome = k.kdbSalt.isSome

def partsOf (k : KeyEntry) (enc : Str) : KeyParts :=
  match k.saltType, k.kdbSalt with
  | some saltType, some salt =>
    ⟨2, k.kvno, [i32OrZero k.etype.toIana, saltType.toUInt32], [enc, salt]⟩
  | _, _ => ⟨1, k.kvno, [i32OrZero k.etype.toIana], [enc]⟩

theorem putKey_eq (k : KeyEntry) (enc : Str) : putKey k enc = putParts (partsOf k enc) := by
  obtain ⟨etype, key, kvno, saltType, kdbSalt⟩ := k
  cases saltType <;> cases kdbSalt <;>
    simp [putKey, partsOf, putParts, putCounted, putCount, u32OrMax]

theorem known_toIana (e : EncryptionType) :
    EncryptionType.known (i32OrZero e.toIana).toInt32 = .ok e := by
  cases e <;> rfl

theorem fromBytes_bytes {k : KeyEntry} (hk : KeyLogged k) :
    ProtocolKey.fromBytes k.etype k.key.bytes = .ok k.key := by
  rw [ProtocolKey.fromBytes, if_pos hk.length, ← hk.etype]

theorem entry_partsOf {mkey : ProtocolKey} {k : KeyEntry} {enc : Str} (hk : KeyLogged k)
    (henc : crypto.kdbDecryptKey mkey enc = .ok k.key.bytes) :
    (partsOf k enc).entry crypto (some mkey) = .ok (some k) := by
  have hkvno : ¬ k.kvno.toNat > 65535 := Nat.not_lt.mpr hk.kvno
  have hfrom := fromBytes_bytes hk
  have hsalt := hk.salt
  obtain ⟨etype, key, kvno, saltType, kdbSalt⟩ := k
  have hknown := known_toIana etype
  cases saltType with
  | none =>
    cases kdbSalt with
    | some salt => cases hsalt
    | none =>
      simp [partsOf, KeyParts.entry, rejectIf, hkvno, hknown, rawKey, henc, hfrom, Except.mapError,
        bind, Except.bind, pure, Except.pure]
  | some saltType =>
    cases kdbSalt with
    | none => cases hsalt
    | some salt =>
      simp [partsOf, KeyParts.entry, rejectIf, hkvno, hknown, rawKey, henc, hfrom, Except.mapError,
        bind, Except.bind, pure, Except.pure]

theorem reads_key {mkey : ProtocolKey} {k : KeyEntry} {enc : Str} (hk : KeyLogged k)
    (henc : crypto.kdbDecryptKey mkey enc = .ok k.key.bytes)
    (hlen : (putKey k enc).length < 2 ^ 32) :
    Reads (readKey crypto (some mkey)) (putKey k enc) (some k) := by
  intro rest pos
  rw [putKey_eq] at hlen ⊢
  rw [readKey, (reads_keyParts hlen).bind]
  dsimp only
  rw [entry_partsOf hk henc]
  rfl

section Key

variable (crypto : Crypto) (mkey : Option ProtocolKey)

theorem walks_key : Walks skipKey (readKey crypto mkey) :=
  walks_keyParts.made (fun parts => parts.entry crypto mkey) fun _ entry => entry

theorem walks_keydata : Walks (skipCounted 16 skipKey) (decodeKeydata crypto mkey) :=
  ((walks_key crypto mkey).counted 16).readAs fun keys => keys.filterMap id

end Key

/-! ### Keys of the password history -/

/-- What a history key is: numbers of 16 bits, and an empty second slot when only one is written. -/
structure OsaLogged (k : OsaKeyData) : Prop where
  ver : k.ver < 2 ^ 16
  kvno : k.kvno < 2 ^ 16
  type₁ : -2 ^ 15 ≤ k.types.1 ∧ k.types.1 < 2 ^ 15
  type₂ : -2 ^ 15 ≤ k.types.2 ∧ k.types.2 < 2 ^ 15
  slot : k.ver < 2 → k.types.2 = 0 ∧ k.contents.2 = []

def osaParts (k : OsaKeyData) : KeyParts where
  ver := UInt32.ofNat k.ver
  kvno := UInt32.ofNat k.kvno
  enctypes := ([k.types.1, k.types.2].take (slotCount k.ver)).map i32ToU32
  contents := [k.contents.1, k.contents.2].take (slotCount k.ver)

theorem putOsaKey_eq (k : OsaKeyData) : putOsaKey k = putParts (osaParts k) := by
  simp only [putOsaKey, putParts, osaParts, map_map, append_assoc]
  rfl

theorem i16_roundtrip {t : Int} (h : -2 ^ 15 ≤ t ∧ t < 2 ^ 15) :
    i16OrZero (u32ToI32 (i32ToU32 t)) = t := by
  rw [u32ToI32_i32ToU32 (by omega), i16OrZero, if_pos h]

theorem slots_osaParts {k : OsaKeyData} (hk : OsaLogged k) :
    let types := (osaParts k).enctypes.map fun t => i16OrZero (u32ToI32 t)
    (types.getD 0 0, types.getD 1 0) = k.types ∧
      ((osaParts k).contents.getD 0 [], (osaParts k).contents.getD 1 []) = k.contents := by
  by_cases hver : k.ver < 2
  · have hcount : slotCount k.ver = 1 := by
      rw [slotCount]
      omega
    obtain ⟨htype, hcontents⟩ := hk.slot hver
    refine ⟨Prod.ext ?_ ?_, Prod.ext ?_ ?_⟩ <;>
      simp [osaParts, hcount, i16_roundtrip hk.type₁, htype, hcontents]
  · have hcount : slotCount k.ver = 2 := by
      rw [slotCount]
      omega
    refine ⟨Prod.ext ?_ ?_, Prod.ext ?_ ?_⟩ <;>
      simp [osaParts, hcount, i16_roundtrip hk.type₁, i16_roundtrip hk.type₂]

theorem reads_osaKey {k : OsaKeyData} (hk : OsaLogged k) (hlen : (putOsaKey k).length < 2 ^ 32) :
    Reads readOsaKey (putOsaKey k) k := by
  intro rest pos
  rw [putOsaKey_eq] at hlen ⊢
  rw [length_putParts] at hlen
  have hver : (osaParts k).ver.toNat = k.ver :=
    UInt32.toNat_ofNat_of_lt' (Nat.lt_trans hk.ver (by decide))
  have hkvno : (osaParts k).kvno.toNat = k.kvno :=
    UInt32.toNat_ofNat_of_lt' (Nat.lt_trans hk.kvno (by decide))
  have hsmall : rejectIf (decide (k.kvno ≥ 2 ^ 16)) (XdrError.invalid "iprop key data kvno")
      = .ok () := by
    rw [decide_eq_false (Nat.not_le.mpr hk.kvno)]
    rfl
  have hmin : min k.ver 65535 = k.ver := Nat.min_eq_left (Nat.le_of_lt_succ hk.ver)
  obtain ⟨htypes, hcontents⟩ := slots_osaParts hk
  rw [readOsaKey, length_putParts, putParts, append_assoc, append_assoc,
    append_assoc, (reads_u32 _).bind]
  dsimp only
  rw [(reads_u32 _).bind]
  rw [hkvno, hsmall, ok_bind, (reads_types _ (by omega)).bind]
  rw [(reads_contents _ (by omega)).bind]
  rw [htypes, hcontents, hver, hmin]
  simp only [length_be32, Nat.add_assoc]
  rfl

theorem walks_osaKey : Walks skipKey readOsaKey :=
  walks_u32.bind fun ver => walks_u32.bind fun kvno =>
    Walks.value (rejectIf (kvno.toNat ≥ 2 ^ 16) (.invalid "iprop key data kvno")) fun _ =>
      (walks_u32.counted 4).bind fun types => (walks_bytes.counted 4).readAs fun contents =>
        OsaKeyData.mk (min ver.toNat 65535) kvno.toNat
          ((types.map fun t => i16OrZero (u32ToI32 t)).getD 0 0,
            (types.map fun t => i16OrZero (u32ToI32 t)).getD 1 0)
          (contents.getD 0 [], contents.getD 1 [])

/-! ### Values -/

theorem reads_tl {t : TlData} (hlen : (putTl t).length < 2 ^ 32) : Reads readTl (putTl t) t := by
  intro rest pos
  rw [putTl, length_append] at hlen
  rw [readTl, putTl, append_assoc, (reads_u32 _).bind]
  dsimp only
  rw [(reads_bytes (by omega)).bind, length_append, Nat.add_assoc]
  rw [show t.ty.toUInt32.toInt32 = t.ty from Int32.toInt32_toUInt32 t.ty]
  rfl

theorem walks_tl : Walks skipTyped readTl :=
  walks_u32.bind fun ty => walks_bytes.readAs fun contents => TlData.mk ty.toInt32 contents

theorem reads_tlData (hlen : (putCounted (tl.map putTl)).length < 2 ^ 32) :
    Reads (counted 8 readTl) (putCounted (tl.map putTl)) tl := by
  refine reads_each (fun t _ => reads_tl) (fun t => ?_) hlen
  rw [putTl, length_append, length_be32, length_xdrOpaque]
  omega

theorem le_putParts (k : KeyParts) : max 16 1 ≤ (putParts k).length := by
  rw [length_putParts, length_putCounted, length_putCounted]
  omega

/-- One entry of the password history. -/
def putEntry (entry : List OsaKeyData) : Str := putCounted (entry.map putOsaKey)

theorem reads_entry {entry : List OsaKeyData} (hentry : ∀ k ∈ entry, OsaLogged k)
    (hlen : (putEntry entry).length < 2 ^ 32) : Reads decodeKeydataRaw (putEntry entry) entry := by
  refine reads_each (fun k hk => reads_osaKey (hentry k hk)) (fun k => ?_) hlen
  rw [putOsaKey_eq]
  exact le_putParts _

theorem reads_hist {hist : List (List OsaKeyData)} (hhist : ∀ entry ∈ hist, ∀ k ∈ entry, OsaLogged k)
    (hlen : (putCounted (hist.map putEntry)).length < 2 ^ 32) :
    Reads (counted 4 decodeKeydataRaw) (putCounted (hist.map putEntry)) hist := by
  refine reads_each (fun entry he => reads_entry (hhist entry he)) (fun entry => ?_) hlen
  rw [putEntry, length_putCounted]
  omega

/-! ### The keys of an update -/

def Unwraps (crypto : Crypto) (mkey : ProtocolKey) : Prop :=
  ∀ {draw raw enc}, crypto.kdbEncryptKey draw mkey raw = .ok enc →
    crypto.kdbDecryptKey mkey enc = .ok raw

section Keys

variable {mkey : ProtocolKey}

/-- The wrapping the store logs with. -/
def wrapOf (crypto : Crypto) (mkey : ProtocolKey) (draw : Draw) (raw : Str) : Except Str Str :=
  crypto.kdbEncryptKey draw mkey raw

theorem keydata_pieces (h : encodeKeydata (wrapOf crypto mkey) draw keys = .ok b) :
    ∃ parts, b = putCounted parts ∧
      List.Forall₂ (fun p k => ∃ draw enc, crypto.kdbEncryptKey draw mkey k.key.bytes = .ok enc ∧
        p = putKey k enc) parts keys := by
  obtain ⟨parts, hparts, h⟩ := bind_ok h
  cases h
  refine ⟨parts, rfl, (forall₂_of_mapM_zipIdx hparts).imp ?_⟩
  rintro p k ⟨i, hp⟩
  obtain ⟨enc, henc, hp⟩ := bind_ok hp
  cases hp
  exact ⟨i :: draw, enc, henc, rfl⟩

theorem le_of_keydata_pieces
    (h : List.Forall₂ (fun p k => ∃ draw enc, crypto.kdbEncryptKey draw mkey k.key.bytes = .ok enc ∧
      p = putKey k enc) parts keys) : ∀ p ∈ parts, max 16 1 ≤ p.length := by
  refine forall_mem_of_forall₂ h ?_
  rintro p k ⟨draw, enc, -, rfl⟩
  rw [putKey_eq]
  exact le_putParts _

theorem reads_keydata (hcrypto : Unwraps crypto mkey)
    (hkeys : ∀ k ∈ keys, KeyLogged k) (h : encodeKeydata (wrapOf crypto mkey) draw keys = .ok b)
    (hlen : b.length < 2 ^ 32) : Reads (decodeKeydata crypto (some mkey)) b keys := by
  obtain ⟨parts, rfl, hparts⟩ := keydata_pieces h
  have hreads : List.Forall₂ (Reads (readKey crypto (some mkey))) parts (keys.map some) := by
    refine forall₂_map_right_iff.mpr (forall₂_imp_of_mem hparts ?_)
    rintro p hp k hk ⟨draw, enc, henc, rfl⟩
    have := length_le_of_mem hp
    exact reads_key (hkeys k hk) (hcrypto henc) (by omega)
  intro rest pos
  rw [decodeKeydata, (reads_counted hreads (le_of_keydata_pieces hparts) hlen).bind]
  simp only [filterMap_map, Function.comp_def, id, filterMap_some]
  rfl

theorem le_keydata (h : encodeKeydata (wrapOf crypto mkey) draw keys = .ok b) : 4 ≤ b.length := by
  obtain ⟨parts, rfl, -⟩ := keydata_pieces h
  rw [length_putCounted]
  omega

/-! ### One value -/

def ValLogged : KdbeVal → Prop
  | .princ name realm | .modPrinc name realm => NameLogged name ∧ fromUtf8Lossy realm = realm
  | .keyData keys => ∀ k ∈ keys, KeyLogged k
  | .pwHist hist => ∀ entry ∈ hist, ∀ k ∈ entry, OsaLogged k
  | .extension at_ _ => 20 ≤ at_
  | _ => True

/-- A number past those of the known attributes. -/
theorem decodeVal_extension {key : Option ProtocolKey} (h : 20 ≤ tag) :
    decodeVal crypto key tag = readAs (.extension tag) XdrIn.bytes := by
  have hne : ∀ n : UInt32, n < 20 → tag ≠ n := by
    rintro n hn rfl
    exact absurd h (UInt32.not_le.mpr hn)
  unfold decodeVal
  repeat rw [if_neg (hne _ (by decide))]

theorem skipValue_extension (h : 20 ≤ tag) (r : XdrIn) : r.skipValue tag = r.skipBytes := by
  have hnat : 20 ≤ tag.toNat := UInt32.le_iff_toNat_le.mp h
  unfold skipValue
  split <;> first | rfl | omega

theorem reads_val (hcrypto : Unwraps crypto mkey) (hv : ValLogged v)
    (h : encodeVal (wrapOf crypto mkey) draw v = .ok b) (hlen : b.length < 2 ^ 32) :
    Reads (decodeVal crypto (some mkey) v.attr) b v := by
  cases v with
  | princ name realm =>
    cases h
    exact (reads_princ hv.1 hv.2 hlen).readAs fun n => KdbeVal.princ n.1 n.2
  | modPrinc name realm =>
    cases h
    exact (reads_princ hv.1 hv.2 hlen).readAs fun n => KdbeVal.modPrinc n.1 n.2
  | keyData keys => exact (reads_keydata hcrypto hv h hlen).readAs _
  | tlData tl =>
    cases h
    exact (reads_tlData hlen).readAs _
  | pwHist hist =>
    cases h
    exact (reads_hist hv hlen).readAs _
  | extension at_ bytes =>
    cases h
    show Reads (decodeVal crypto (some mkey) at_) _ _
    rw [decodeVal_extension hv]
    exact (reads_bytes hlen).readAs _
  | modWhere bytes | pwPolicy bytes =>
    cases h
    exact (reads_bytes hlen).readAs _
  | pwPolicySwitch on =>
    cases h
    exact (reads_bool on).readAs _
  | _ n =>
    cases h
    exact (reads_u32 n).readAs _

theorem known_tag (h : ¬ 20 ≤ tag) : ∃ n < 20, tag = UInt32.ofNat n := by
  refine ⟨tag.toNat, ?_, (UInt32.ofNat_toNat).symm⟩
  simpa using UInt32.le_iff_toNat_le.not.mp h

/-- **The value of every attribute is skipped as it is read.** -/
theorem walks_val (crypto : Crypto) (mkey : Option ProtocolKey) (tag : UInt32) :
    Walks (skipValue tag) (decodeVal crypto mkey tag) := by
  by_cases hext : 20 ≤ tag
  · rw [decodeVal_extension hext, funext (skipValue_extension hext)]
    exact walks_bytes.readAs _
  obtain ⟨n, hlt, rfl⟩ := known_tag hext
  interval_cases n
  case «8» => exact walks_princ.readAs fun n => KdbeVal.princ n.1 n.2
  case «9» => exact (walks_keydata crypto mkey).readAs _
  case «10» => exact (walks_tl.counted 8).readAs _
  case «12» => exact walks_princ.readAs fun n => KdbeVal.modPrinc n.1 n.2
  case «14» => exact walks_bytes.readAs _
  case «16» => exact walks_bytes.readAs _
  case «17» => exact walks_bool.readAs _
  case «19» => exact ((walks_osaKey.counted 16).counted 4).readAs _
  all_goals exact walks_u32.readAs _

/-- A value is one of the attribute it was read as. -/
theorem attr_of_decodeVal {mkey : Option ProtocolKey}
    (h : decodeVal crypto mkey tag r = .ok (v, r')) : v.attr = tag := by
  by_cases hext : 20 ≤ tag
  · rw [decodeVal_extension hext] at h
    obtain ⟨_, -, h⟩ := bind_ok h
    cases h
    rfl
  obtain ⟨n, hlt, rfl⟩ := known_tag hext
  interval_cases n
  all_goals
    obtain ⟨_, -, h⟩ := bind_ok h
    cases h
    rfl

theorem le_val (h : encodeVal (wrapOf crypto mkey) draw v = .ok b) : 4 ≤ b.length:= by
  cases v with
  | princ name realm | modPrinc name realm =>
    cases h
    rw [length_putPrinc]
    omega
  | keyData keys => exact le_keydata h
  | tlData tl | pwHist hist =>
    cases h
    rw [length_putCounted]
    omega
  | modWhere bytes | pwPolicy bytes | extension at_ bytes =>
    cases h
    rw [length_xdrOpaque]
    omega
  | _ n =>
    cases h
    exact Nat.le_refl 4

/-! ### All values -/

/-- A value with its number, as it is written. -/
def IsPiece (crypto : Crypto) (mkey : ProtocolKey) (p : Str) (v : KdbeVal) : Prop :=
  ∃ draw b, encodeVal (wrapOf crypto mkey) draw v = .ok b ∧ p = be32 v.attr ++ b

theorem kdbe_pieces {vals : List KdbeVal} {kdbe : Str}
    (h : encodeKdbe (wrapOf crypto mkey) vals = .ok kdbe) :
    ∃ parts, kdbe = putCounted parts ∧ List.Forall₂ (IsPiece crypto mkey) parts vals := by
  obtain ⟨parts, hparts, h⟩ := bind_ok h
  cases h
  refine ⟨parts, rfl, (forall₂_of_mapM_zipIdx hparts).imp ?_⟩
  rintro p v ⟨i, hp⟩
  obtain ⟨b, hb, hp⟩ := bind_ok hp
  cases hp
  exact ⟨[i], b, hb, rfl⟩

theorem le_pieces {vals : List KdbeVal} (h : List.Forall₂ (IsPiece crypto mkey) parts vals) :
    ∀ p ∈ parts, max 8 1 ≤ p.length := by
  refine forall_mem_of_forall₂ h ?_
  rintro p v ⟨draw, b, hb, rfl⟩
  have hle := le_val hb
  rw [length_append, length_be32]
  omega

theorem reads_kdbe (hcrypto : Unwraps crypto mkey) {vals : List KdbeVal}
    (hvals : ∀ v ∈ vals, ValLogged v) {kdbe : Str}
    (h : encodeKdbe (wrapOf crypto mkey) vals = .ok kdbe) (hlen : kdbe.length < 2 ^ 32) :
    Reads (decodeKdbe crypto (some mkey)) kdbe vals := by
  obtain ⟨parts, rfl, hparts⟩ := kdbe_pieces h
  refine reads_counted (forall₂_imp_of_mem hparts ?_) (le_pieces hparts) hlen
  rintro p hp v hv ⟨draw, b, hb, rfl⟩ rest pos
  have hle := length_le_of_mem hp
  rw [length_append] at hle
  rw [readVal, append_assoc, (reads_u32 _).bind]
  dsimp only
  rw [reads_val hcrypto (hvals v hv) hb (by omega), length_append, Nat.add_assoc]

/-- The bit of an attribute; a number past 31 has none. -/
def layoutBit (at_ : UInt32) : UInt32 := if at_ < 32 then (1 : UInt32) <<< at_ else 0

/-- The attributes a walk finds. -/
def layoutAttrs (vals : List KdbeVal) : UInt32 :=
  vals.foldl (fun attrs v => attrs ||| layoutBit v.attr) 0

/-- **All the values.** -/
theorem follows_vals {mkey : Option ProtocolKey} {n : Nat} {vals : List KdbeVal}
    (h : readMany (readVal crypto mkey) n r = .ok (vals, r')) (attrs : UInt32) :
    walkValues n attrs r
      = .ok (vals.foldl (fun attrs v => attrs ||| layoutBit v.attr) attrs, r') ∧ vals.length = n := by
  induction n generalizing attrs r vals with
  | zero =>
    cases h
    exact ⟨rfl, rfl⟩
  | succ n ih =>
    obtain ⟨⟨v, r₁⟩, hval, h⟩ := bind_ok h
    obtain ⟨⟨vals', r₂⟩, hvals, h⟩ := bind_ok h
    cases h
    obtain ⟨⟨tag, r₀⟩, htag, hval⟩ := bind_ok hval
    obtain ⟨hrest, hlen⟩ := ih hvals (attrs ||| layoutBit tag)
    rw [walkValues, htag]
    refine ⟨?_, congrArg (· + 1) hlen⟩
    show (skipValue tag r₀ >>= _) = _
    rw [(walks_val crypto mkey tag).1 r₀ v r₁ hval, foldl_cons, attr_of_decodeVal hval]
    exact hrest

theorem walkIncrUpdate_ok {mkey : Option ProtocolKey} {layout : IncrLayout} {front : UpdateFront}
    {r : XdrIn} (hfront : readFront crypto mkey ⟨b, 0⟩ = .ok (front, r)) :
    walkIncrUpdate b = .ok layout ↔ ∃ commit r₁ r₂, isUtf8 front.name = true
      ∧ r.bool = .ok (commit, r₁) ∧ skipBack r₁ = .ok r₂ ∧ r₂.pos = b.length
      ∧ layout = { name := front.name, sno := front.sno, time := ⟨front.time, front.useconds⟩
                   deleted := front.deleted, commit, commitAt := r.pos
                   attrs := layoutAttrs front.vals, nvals := front.vals.length, len := r₂.pos } := by
  obtain ⟨⟨name, r₁⟩, hname, hfront⟩ := bind_ok hfront
  obtain ⟨⟨sno, r₂⟩, hsno, hfront⟩ := bind_ok hfront
  obtain ⟨⟨time, r₃⟩, htime, hfront⟩ := bind_ok hfront
  obtain ⟨⟨useconds, r₄⟩, huseconds, hfront⟩ := bind_ok hfront
  obtain ⟨⟨vals, r₅⟩, hvals, hfront⟩ := bind_ok hfront
  obtain ⟨⟨deleted, r₆⟩, hdeleted, hfront⟩ := bind_ok hfront
  cases hfront
  obtain ⟨⟨n, r₇⟩, hcount, hmany⟩ := bind_ok hvals
  obtain ⟨hattrs, hn⟩ := follows_vals hmany 0
  rw [walkIncrUpdate]
  simp only [hname, ok_bind]
  constructor
  · intro hwalk
    obtain ⟨hutf8, hwalk⟩ := rejectIf_bind_ok hwalk
    simp only [hsno, htime, huseconds, hcount, hattrs, hdeleted, ok_bind] at hwalk
    obtain ⟨⟨commit, r₈⟩, hcommit, hwalk⟩ := bind_ok hwalk
    obtain ⟨r₉, hseen, hwalk⟩ := bind_ok hwalk
    obtain ⟨r₁₀, hlast, hwalk⟩ := bind_ok hwalk
    obtain ⟨hend, hwalk⟩ := rejectIf_bind_ok hwalk
    cases hwalk
    refine ⟨commit, r₈, r₁₀, by simpa using hutf8, hcommit, ?_, by simpa using hend, by rw [hn]; rfl⟩
    rw [skipBack, hseen]
    exact hlast
  · rintro ⟨commit, r₈, r₁₀, hutf8, hcommit, hback, hend, rfl⟩
    obtain ⟨r₉, hseen, hlast⟩ := bind_ok hback
    rw [hutf8, Bool.not_true, rejectIf_false_bind]
    simp only [hsno, htime, huseconds, hcount, hattrs, hdeleted, hcommit, hseen, hlast, ok_bind]
    rw [hend, bne_self_eq_false, rejectIf_false_bind, hn]
    rfl

/-! ### The update -/

variable {name : Str} {sno : UInt32} {time : UlogTime} {vals : List KdbeVal} {kdbe : Str}
  {deleted commit : Bool}

/-- What stands before the commit flag, as it is encoded. -/
def putFront (front : UpdateFront) (kdbe : Str) : Str :=
  xdrOpaque front.name ++ (be32 front.sno ++ (be32 front.time ++ (be32 front.useconds ++ (kdbe
    ++ be32 (if front.deleted then 1 else 0)))))

theorem length_putFront (front : UpdateFront) : (putFront front kdbe).length
    = (xdrOpaque front.name).length + (12 + kdbe.length + 4) := by
  simp only [putFront, length_append, length_be32]
  omega

theorem reads_front (hcrypto : Unwraps crypto mkey) {front : UpdateFront}
    (hvals : ∀ v ∈ front.vals, ValLogged v) (h : encodeKdbe (wrapOf crypto mkey) front.vals = .ok kdbe)
    (hlen : (putFront front kdbe).length < 2 ^ 32) :
    Reads (readFront crypto (some mkey)) (putFront front kdbe) front := by
  intro rest pos
  have hbytes := hlen
  rw [length_putFront] at hbytes
  rw [readFront, putFront]
  simp only [append_assoc]
  rw [(reads_bytes (by omega)).bind]
  rw [(reads_u32 _).bind]
  rw [(reads_u32 _).bind]
  rw [(reads_u32 _).bind]
  rw [(reads_kdbe hcrypto hvals h (by omega)).bind]
  rw [(reads_bool _).bind]
  simp only [length_append, Nat.add_assoc]
  rfl

/-- The two empty fields that end an update. -/
def putBack : Str := putCounted [] ++ xdrOpaque []

theorem length_putBack : putBack.length = 8 := rfl

theorem skips_back : Skips skipBack putBack := by
  intro rest pos
  have hseen : Skips (skipCounted 4 skipBytes) (putCounted []) :=
    (walks_bytes.counted 4).1.skips (reads_counted .nil (fun _ h => (nomatch h)) (by decide))
  have hlast : Skips skipBytes (xdrOpaque []) := walks_bytes.1.skips (reads_bytes (by decide))
  rw [skipBack, putBack, append_assoc, hseen.bind, hlast, length_append, Nat.add_assoc]

theorem encodeIncrUpdate_eq : encodeIncrUpdate name sno time kdbe deleted commit
    = putFront ⟨name, sno, time.seconds, time.useconds, vals, deleted⟩ kdbe
      ++ (be32 (if commit then 1 else 0) ++ putBack) := by
  simp only [encodeIncrUpdate, putFront, append_assoc]
  rfl

variable {front : UpdateFront}

/-- The front of an encoded update, its commit flag and what is behind it. -/
theorem parts_of_encoded (hcrypto : Unwraps crypto mkey) (hvals : ∀ v ∈ front.vals, ValLogged v)
    (h : encodeKdbe (wrapOf crypto mkey) front.vals = .ok kdbe) {b : Str}
    (hb : b = putFront front kdbe ++ (be32 (if commit then 1 else 0) ++ putBack))
    (hlen : b.length < 2 ^ 32) :
    ∃ r r₁ r₂, readFront crypto (some mkey) ⟨b, 0⟩ = .ok (front, r) ∧ r.bool = .ok (commit, r₁)
      ∧ skipBack r₁ = .ok r₂ ∧ r.pos = b.length - 12 ∧ r₂.pos = b.length := by
  have hsize : b.length = (putFront front kdbe).length + 12 := by
    rw [hb, length_append, length_append, length_be32, length_putBack]
  have hfront := reads_front hcrypto hvals h (by omega) (be32 (if commit then 1 else 0) ++ putBack) 0
  have hback := skips_back []
  rw [append_nil] at hback
  rw [hb]
  refine ⟨_, _, _, hfront, reads_bool commit _ _, hback _, ?_, ?_⟩
  · rw [← hb]
    dsimp only
    omega
  · rw [← hb, length_putBack, length_be32]
    dsimp only
    omega

theorem commit_word : ((encodeIncrUpdate name sno time kdbe deleted commit).drop
      ((encodeIncrUpdate name sno time kdbe deleted commit).length - 12)).take 4
    = be32 (if commit then 1 else 0) := by
  rw [@encodeIncrUpdate_eq name sno time [] kdbe deleted commit]
  set front := putFront ⟨name, sno, time.seconds, time.useconds, [], deleted⟩ kdbe
  have hlen : (front ++ (be32 (if commit then 1 else 0) ++ putBack)).length - 12
      = front.length := by
    simp only [length_append, length_be32, length_putBack]
    omega
  rw [hlen, drop_left, take_left' (length_be32 _)]

end Keys

/-! ### What the store logs -/

/-- A principal as the store keeps it: names are ASCII and realms text, and the keys are as
`KeyLogged` says. -/
structure Stored (p : Principal) : Prop where
  name : NameLogged p.name
  realm : fromUtf8Lossy p.realm = p.realm
  keys : ∀ k ∈ p.keys, KeyLogged k

theorem logged_modPrincData {time : UInt32} {princ : PrincipalName} {realm : Str}
    (h : modPrincData tl = some (time, princ, realm)) :
    NameLogged princ ∧ fromUtf8Lossy realm = realm := by
  obtain ⟨t, -, h⟩ := Option.bind_eq_some_iff.mp h
  obtain ⟨⟨ts, text⟩, htext, h⟩ := Option.bind_eq_some_iff.mp h
  obtain ⟨⟨name, realm'⟩, hname, h⟩ := Option.bind_eq_some_iff.mp h
  cases h
  have hutf8 : isUtf8 text = true := by
    rw [tlModPrincOf] at htext
    split at htext
    · cases htext
    · dsimp only at htext
      split at htext
      · rename_i hutf8
        cases htext
        exact hutf8
      · cases htext
  have hok : principalFromUnparsed text [] = .ok (princ, realm) := by
    cases hparse : principalFromUnparsed text [] with
    | error e =>
      rw [hparse] at hname
      cases hname
    | ok pair =>
      rw [hparse] at hname
      cases hname
      rfl
  obtain ⟨hrealm, hascii, htype⟩ := PrincipalName.realm_of_principalFromUnparsed hutf8 hok
  refine ⟨⟨hascii, ?_⟩, hrealm⟩
  simp only [mem_cons, not_mem_nil, or_false] at htype
  rcases htype with h | h | h <;> rw [h] <;> decide

theorem logged_logValues (hp : Stored p) (at_ : UInt32) : ∀ v ∈ logValues p at_, ValLogged v := by
  intro v hv
  unfold logValues at hv
  by_cases htl : at_ = atTlData
  · -- the tagged data give up to four values
    subst htl
    change v ∈ _ ++ _ ++ _ at hv
    rcases mem_append.mp hv with hv | hv
    · rcases mem_append.mp hv with hv | hv
      · cases mem_singleton.mp hv
        trivial
      · split at hv
        · rename_i time princ realm hmod
          rcases mem_cons.mp hv with rfl | hv
          · exact logged_modPrincData hmod
          · cases mem_singleton.mp hv
            trivial
        · cases hv
    · split at hv
      · cases hv
      · cases mem_singleton.mp hv
        trivial
  · rw [if_neg htl] at hv
    split_ifs at hv <;>
      first
        | cases hv; done
        | (cases mem_singleton.mp hv
           first | exact hp.keys | exact ⟨hp.name, hp.realm⟩ | trivial)

/-- **The values of a principal in the store can be logged.** -/
theorem logged_conv2logentry (hp : Stored p) (attrs : UInt32) :
    ∀ v ∈ conv2logentry p attrs, ValLogged v := by
  intro v hv
  obtain ⟨n, -, hv⟩ := mem_flatMap.mp hv
  split at hv
  · cases hv
  · exact logged_logValues hp _ v hv

/-- **An update is read back.**  Its values are given back, and the update with them; a walk over its
bytes finds its name, its serial and time, its flags, the place of the commit word and its length. -/
theorem update_read_back {crypto : Crypto} {mkey : ProtocolKey} (hcrypto : Unwraps crypto mkey)
    {name : Str} (hname : isUtf8 name = true) {vals : List KdbeVal} (hvals : ∀ v ∈ vals, ValLogged v)
    {kdbe : Str} (h : encodeKdbe (wrapOf crypto mkey) vals = .ok kdbe) {sno : UInt32} {time : UlogTime}
    {deleted commit : Bool} {b : Str} (hb : b = encodeIncrUpdate name sno time kdbe deleted commit)
    (hlen : b.length < 2 ^ 32) :
    decodeKdbe crypto (some mkey) ⟨kdbe, 0⟩ = .ok (vals, ⟨[], kdbe.length⟩) ∧
      decodeKdbeBytes crypto kdbe (some mkey) = .ok vals ∧
      decodeIncrUpdate crypto b (some mkey)
        = .ok (⟨sno, time.seconds, name, deleted, commit, vals, b⟩, b.length) ∧
      walkIncrUpdate b = .ok { name, sno, time, deleted, commit, commitAt := b.length - 12
                               attrs := layoutAttrs vals, nvals := vals.length, len := b.length } ∧
      (b.drop (b.length - 12)).take 4 = be32 (if commit then 1 else 0) := by
  have hkdbe : kdbe.length < 2 ^ 32 := by
    have hsize := congrArg List.length hb
    rw [@encodeIncrUpdate_eq name sno time vals, List.length_append, length_putFront] at hsize
    omega
  have hread := reads_kdbe hcrypto hvals h hkdbe [] 0
  rw [List.append_nil, Nat.zero_add] at hread
  obtain ⟨r, r₁, r₂, hfront, hcommit, hback, hat, hend⟩ :=
    parts_of_encoded hcrypto hvals h (hb.trans encodeIncrUpdate_eq) hlen
  refine ⟨?_, ?_, decodeIncrUpdate_ok.mpr ⟨_, r, commit, r₁, r₂, hfront, hcommit, hback, hend.symm, ?_⟩,
    (walkIncrUpdate_ok hfront).mpr ⟨commit, r₁, r₂, hname, hcommit, hback, hend, ?_⟩, hb ▸ commit_word⟩
  · exact hread
  · rw [decodeKdbeBytes, hread]
    show (rejectIf (kdbe.length != kdbe.length) _ >>= _) = _
    rw [bne_self_eq_false]
    rfl
  · rw [hend, List.take_length, fromUtf8Lossy_eq_self hname]
  · rw [hat, hend]

namespace Sample

/-- Ciphers that leave a key as it is. -/
def plainCrypto : Crypto := ⟨fun _ _ raw => .ok raw, fun _ raw => .ok raw⟩

def masterKey : ProtocolKey := ⟨.rc4Hmac, List.replicate 16 7⟩

/-- `alice@R`, with a key, its salt and a datum. -/
def user : Principal where
  name := ⟨PrincipalName.ntPrincipal, [str "alice"]⟩
  realm := str "R"
  keys := [{ etype := .rc4Hmac, key := masterKey, kvno := 3, saltType := some 4, kdbSalt := some [1, 2] }]
  maxLife := 86400
  tlData := [⟨tlLastPwdChange, [1, 2, 3, 4]⟩, ⟨tlModPrinc, [5, 6, 7, 8] ++ str "root@R" ++ [0]⟩,
    ⟨tlAliasTarget, [9]⟩]

def userKdbe : Str :=
  (encodeKdbe (wrapOf plainCrypto masterKey) (conv2logentry user ulogAddAttrs)).toOption.getD []

def userUpdate : Str :=
  encodeIncrUpdate (str "alice@R") 9 ⟨1700000000, 250⟩ userKdbe false true

end Sample

open Sample in
/-- The update that adds `alice@R`. -/
theorem update_read_back_user :
    decodeIncrUpdate plainCrypto userUpdate (some masterKey)
      = .ok (⟨9, 1700000000, str "alice@R", false, true, conv2logentry user ulogAddAttrs,
          userUpdate⟩, userUpdate.length) := by
  have hascii : (str "alice").all (· < 128) = true := by decide +kernel
  have hname : NameLogged user.name := by
    refine ⟨fun c hc b hb => ?_, by decide, by decide⟩
    obtain rfl := List.mem_singleton.mp hc
    exact of_decide_eq_true (List.all_eq_true.mp hascii b hb)
  have hstored : Stored user := by
    refine ⟨hname, by decide +kernel, ?_⟩
    intro k hk
    obtain rfl := List.mem_singleton.mp hk
    exact ⟨by decide, rfl, by decide, rfl⟩
  have hcrypto : Unwraps plainCrypto masterKey := by
    intro draw raw enc h
    cases h
    rfl
  have hutf8 : isUtf8 (str "alice@R") = true := by decide +kernel
  have hkdbe : encodeKdbe (wrapOf plainCrypto masterKey) (conv2logentry user ulogAddAttrs)
      = .ok userKdbe := by decide +kernel
  have hlen : userUpdate.length < 2 ^ 32 := by decide +kernel
  have hupdate : userUpdate
      = encodeIncrUpdate (str "alice@R") 9 ⟨1700000000, 250⟩ userKdbe false true := rfl
  have hvals := logged_conv2logentry hstored ulogAddAttrs
  exact (update_read_back hcrypto hutf8 hvals hkdbe hupdate hlen).2.2.1

end Store

end Kerber
