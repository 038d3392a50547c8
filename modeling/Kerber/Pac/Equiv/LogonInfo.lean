import Kerber.Pac.LogonInfo

/-!
# Logon information is read as it was written

What `toNdr` writes is read back by `parseKerbValidationInfo` with the same SIDs, as far as it is read at
all (`sids_of_toNdr`); so the filter leaves no SID of the local domain to be read
(`not_claims_of_filter`).
-/

namespace Kerber

open NdrW

open List (append_nil length_append length_cons length_replicate replicate)

variable {p : UInt32} {α : Type}
variable {extras : List ExtraSid} {r : Ndr (List α)} {s : RpcUnicode}

/-! ### Texts -/

theorem length_codePoints_le (s : Str) : (codePoints s).length ≤ s.length := by
  fun_induction codePoints s <;> simp only [length_cons, List.length_nil] <;> omega

theorem length_encodeUtf16_le (s : Str) : (encodeUtf16 s).length ≤ 2 * s.length := by
  have hunits : ∀ cs : List Nat, (cs.flatMap fun c =>
      if c < 0x10000 then [UInt16.ofNat c]
      else [UInt16.ofNat (0xD800 + (c - 0x10000) / 0x400),
        UInt16.ofNat (0xDC00 + (c - 0x10000) % 0x400)]).length ≤ 2 * cs.length := by
    intro cs
    induction cs with
    | nil => exact Nat.le_refl _
    | cons c cs ih =>
      rw [List.flatMap_cons, length_append, length_cons]
      split <;> simp only [length_cons, List.length_nil] <;> omega
  have hpoints := length_codePoints_le s
  have hlen := hunits (codePoints s)
  unfold encodeUtf16
  omega

theorem length_utf8Encode_le (c : Nat) : (utf8Encode c).length ≤ 4 := by
  unfold utf8Encode
  split_ifs <;> simp

theorem length_of_fromUtf16 {u : List UInt16} {s : Str} (h : fromUtf16 u = some s) :
    s.length ≤ 4 * u.length := by
  fun_induction fromUtf16 u generalizing s with
  | case1 =>
    cases h
    exact Nat.le_refl _
  | case2 u rest hplain ih =>
    obtain ⟨t, ht, rfl⟩ := Option.map_eq_some_iff.mp h
    have hhead := length_utf8Encode_le u.toNat
    have htail := ih ht
    rw [length_append, length_cons]
    omega
  | case3 u hplain v rest2 hpair c =>
    rename_i ih
    obtain ⟨t, ht, rfl⟩ := Option.map_eq_some_iff.mp h
    have hhead := length_utf8Encode_le c
    have htail := ih ht
    rw [length_append, length_cons, length_cons]
    omega
  | case4 => cases h
  | case5 => cases h

theorem length_le16Units (b : Str) : 2 * (le16Units b).length ≤ b.length := by
  fun_induction le16Units b with
  | case1 a b rest ih =>
    rw [length_cons, length_cons, length_cons]
    omega
  | case2 => exact Nat.zero_le _

theorem length_flatMap_le16 (u : List UInt16) : (u.flatMap le16).length = 2 * u.length := by
  induction u with
  | nil => rfl
  | cons x u ih =>
    rw [List.flatMap_cons, length_append, length_le16, ih, length_cons]
    omega

/-! ### Writers and readers -/

/-- A reader reads back what a writer added. -/
abbrev Reads {α : Type} (r : Ndr α) (w w' : NdrW) (P : α → Prop) : Prop :=
  ReadsBack b (fun w => w.next ≠ 0) r w w' P

variable (w : NdrW)

namespace Ndr

theorem run_take (n : Nat) (s : Input) : (take n).run s
    = if s.rest.length < n then .error .truncated
      else .ok (s.rest.take n, ⟨s.pos + n, s.rest.drop n⟩) := by
  by_cases h : s.rest.length < n
  · rw [if_pos h]
    show (if s.rest.length < n then (throw .truncated : Ndr Str) else _).run s = _
    rw [if_pos h]
    rfl
  · rw [if_neg h]
    show (if s.rest.length < n then (throw .truncated : Ndr Str) else _).run s = _
    rw [if_neg h]
    rfl

theorem reads_take (piece : Str) : Reads (take piece.length) w (w.put piece) (· = piece) := by
  intro hw
  refine ⟨hw, piece, rfl, fun rest x s hrun => ?_⟩
  have hlen : ¬ (piece ++ rest).length < piece.length := by
    rw [length_append]
    omega
  rw [run_take, if_neg hlen] at hrun
  cases hrun
  refine ⟨List.take_left, ?_⟩
  show Input.mk _ ((piece ++ rest).drop piece.length) = ⟨(w.b ++ piece).length, rest⟩
  rw [List.drop_left, length_append]

theorem reads_u8 (v : UInt8) : Reads u8 w (w.u8 v) (· = v) :=
  (reads_take w [v]).step (.pure rfl)

theorem reads_u16 (v : UInt16) : Reads u16 w (w.u16 v) (· = v) :=
  (reads_take w (le16 v)).step (.pure (le16At_le16_self v))

theorem reads_u32 (v : UInt32) : Reads u32 w (w.u32 v) (· = v) := by
  refine (reads_take w (le32 v)).step (.pure ?_)
  rw [← append_nil (le32 v), le32At_le32]

theorem reads_u64 (v : UInt64) : Reads u64 w (w.u64 v) (· = v) := by
  refine (reads_take w (le64 v)).step (.pure ?_)
  rw [← append_nil (le64 v), le64At_le64]

theorem reads_bytes {n : Nat} (w : NdrW) (v : Vector UInt8 n) :
    Reads (bytes n) w (w.put v.toList) (· = v) := by
  have hlen : v.toList.length = n := Vector.length_toList
  have htake := reads_take w v.toList
  rw [hlen] at htake
  refine htake.step (.pure ?_)
  ext i hi
  simp

/-- A pointer is zero when there is nothing behind it. -/
theorem reads_ptr (present : Bool) :
    Reads u32 w (w.ptr present) fun p => p = 0 ↔ present = false := by
  cases present with
  | false => exact (reads_u32 w 0).mono fun p hp => by simp [hp]
  | true =>
    intro hw
    obtain ⟨-, piece, hpiece, hread⟩ := reads_u32 w w.next hw
    refine ⟨?_, piece, hpiece, fun rest p s hrun => ?_⟩
    · show (if w.next.toNat + 4 < 2 ^ 32 then w.next + 4 else 0xFFFFFFFF) ≠ 0
      split
      · rename_i hlt
        intro hzero
        have hsum : (w.next + 4).toNat = w.next.toNat + 4 := by
          rw [UInt32.toNat_add]
          exact Nat.mod_eq_of_lt hlt
        rw [hzero] at hsum
        exact absurd hsum (by simp)
      · decide
    · obtain ⟨rfl, hs⟩ := hread rest p s hrun
      exact ⟨by simp [hw], hs⟩

theorem exists_ptr (present : Bool) : ∃ p : UInt32, p = 0 ↔ present = false := by
  cases present with
  | false => exact ⟨0, by simp⟩
  | true => exact ⟨1, by simp⟩

/-- A text without what it points to. -/
def bare (s : RpcUnicode) : RpcUnicode := { s with value := [] }

theorem reads_ustr (s : RpcUnicode) : Reads ustr w (w.ustrHdr s) (· = bare s) := by
  refine (reads_u16 w s.length).step ((reads_u16 _ s.maximumLength).step ?_)
  refine (reads_ptr _ s.pointed).bind (fun p hp => .pure ?_) ?_
  · have hpointed : (p != 0) = s.pointed := by
      cases hs : s.pointed with
      | false => simp [hp.mpr hs]
      | true =>
        rw [bne_iff_ne]
        intro hzero
        rw [hp.mp hzero] at hs
        cases hs
    rw [hpointed, bare]
  · exact exists_ptr _

/-! ### Alignment -/

theorem run_skip (n : Nat) (s : Input) :
    (skip n).run s = .ok ((), ⟨s.pos + min n s.rest.length, s.rest.drop n⟩) := rfl

theorem run_align4 (s : Input) : align4.run s = (skip ((4 - s.pos % 4) % 4)).run s := rfl

theorem reads_skip (n : Nat) : Reads (skip n) w (w.put (replicate n 0)) fun _ => True := by
  intro hw
  refine ⟨hw, replicate n 0, rfl, fun rest x s hrun => ⟨trivial, ?_⟩⟩
  rw [run_skip] at hrun
  cases hrun
  show Input.mk _ ((replicate n 0 ++ rest).drop n) = ⟨(w.b ++ replicate n 0).length, rest⟩
  rw [List.drop_left' length_replicate, length_append, length_append,
    length_replicate, Nat.min_eq_left (Nat.le_add_right _ _)]

theorem reads_align4 : Reads align4 w w.align4 fun _ => True := by
  intro hw
  obtain ⟨hw', piece, hpiece, hread⟩ := reads_skip w ((4 - w.b.length % 4) % 4) hw
  refine ⟨hw', piece, hpiece, fun rest x s hrun => ?_⟩
  rw [run_align4] at hrun
  exact hread rest x s hrun

theorem length_align4_mod : w.align4.b.length % 4 = 0 := by
  show (w.b ++ replicate ((4 - w.b.length % 4) % 4) 0).length % 4 = 0
  rw [length_append, length_replicate]
  omega

/-! ### What the pointers point to -/

theorem toNat_count32 {n : Nat} (h : n < 2 ^ 32) : (count32 n).toNat = n := by
  rw [count32, if_pos h, UInt32.toNat_ofNat']
  exact Nat.mod_eq_of_lt h

/-- A text can be written with its length. -/
def Sized (s : RpcUnicode) : Prop := s.pointed = true → (encodeUtf16 s.value).length < 2 ^ 32

theorem reads_text (raw : Str) : Reads (text raw) w w fun _ => True := by
  unfold text
  split
  · exact .pure trivial
  · refine .fails (fun hw => ⟨hw, [], (append_nil _).symm⟩) fun s out hrun => ?_
    cases hrun

/-- The padding behind a text is as long as its own length makes it. -/
theorem align4_put {w : NdrW} (h : w.b.length % 4 = 0) (raw : Str) :
    (w.put raw).align4 = (w.put raw).put (replicate ((4 - raw.length % 4) % 4) 0) := by
  have hpad : (4 - (w.b ++ raw).length % 4) % 4 = (4 - raw.length % 4) % 4 := by
    rw [length_append]
    omega
  show (w.put raw).put (replicate ((4 - (w.b ++ raw).length % 4) % 4) 0) = _
  rw [hpad]

theorem reads_confString (h : (encodeUtf16 s.value).length < 2 ^ 32) (head : RpcUnicode) :
    Reads (confString head) w
      ((((w.align4.u32 (s.maximumLength / 2).toUInt32).u32 0).u32
        (count32 (encodeUtf16 s.value).length)).put ((encodeUtf16 s.value).flatMap le16)).align4
      fun _ => True := by
  let raw : Str := (encodeUtf16 s.value).flatMap le16
  have hraw : raw.length = (count32 (encodeUtf16 s.value).length).toNat * 2 := by
    rw [toNat_count32 h, Nat.mul_comm]
    exact length_flatMap_le16 _
  refine (reads_align4 w).bind (fun _ _ => ?_) ⟨(), trivial⟩
  refine (reads_u32 _ (s.maximumLength / 2).toUInt32).step ((reads_u32 _ 0).step
    ((reads_u32 _ (count32 (encodeUtf16 s.value).length)).step ?_))
  split
  · refine .fails (fun hw => ⟨hw, _, List.append_assoc _ _ _⟩) fun s out hrun => ?_
    cases hrun
  · have haligned : ((((w.align4.u32 (s.maximumLength / 2).toUInt32).u32 0).u32
        (count32 (encodeUtf16 s.value).length)).b).length % 4 = 0 := by
      have halign := length_align4_mod w
      show (((w.align4.b ++ le32 _) ++ le32 _) ++ le32 _).length % 4 = 0
      simp only [length_append, length_le32]
      omega
    rw [align4_put haligned raw, ← hraw]
    refine (reads_take _ raw).step ((reads_text _ raw).bind (fun value _ => ?_) ⟨[], trivial⟩)
    exact (reads_skip _ _).bind (fun _ _ => .pure trivial) ⟨(), trivial⟩

theorem reads_takeStr (h : Sized s) : Reads (takeStr (bare s)) w (w.ustrBody s) fun _ => True := by
  unfold takeStr ustrBody bare
  cases hs : s.pointed with
  | false => exact .pure trivial
  | true => exact reads_confString w (h hs) _

theorem eq_of_forall₂ {xs ys : List α} (h : List.Forall₂ (fun x y => y = x) xs ys) : ys = xs := by
  induction h with
  | nil => rfl
  | cons hxy _ ih => rw [hxy, ih]

theorem reads_group (m : GroupMembership) :
    Reads group w ((w.u32 m.relativeId).u32 m.attributes) (· = m) :=
  (reads_u32 w m.relativeId).step ((reads_u32 _ m.attributes).step (.pure rfl))

/-- A list within its limit is read with the count it was written with. -/
theorem count32_fits (limit : UInt32) {n : Nat} (h : n ≤ limit.toNat) :
    (count32 n).toNat = n ∧ ¬ (count32 n ≠ count32 n ∨ count32 n > limit) := by
  have hcount : (count32 n).toNat = n := toNat_count32 (Nat.lt_of_le_of_lt h limit.toNat_lt)
  refine ⟨hcount, ?_⟩
  rintro (hne | hgt)
  · exact hne rfl
  · have hgt' : limit.toNat < (count32 n).toNat := hgt
    omega

theorem reads_groupArray {g : List GroupMembership} (h : g.length ≤ 1024) :
    Reads (groupArray (count32 g.length)) w (w.groupArray g) (· = g) := by
  obtain ⟨hcount, hfits⟩ := count32_fits 1024 h
  refine (reads_align4 w).bind (fun _ _ => ?_) ⟨(), trivial⟩
  refine (reads_u32 _ (count32 g.length)).step ?_
  rw [if_neg hfits, hcount]
  exact (ReadsBack.times g (fun m _ w => reads_group w m) fun m _ => ⟨m, rfl⟩).mono
    fun xs hxs => eq_of_forall₂ hxs

theorem reads_sid {s : RpcSid} (h : s.subAuthority.length ≤ 15) :
    Reads sid w (w.sid s) (· = s) := by
  have hcount : (count32 s.subAuthority.length).toNat = s.subAuthority.length :=
    toNat_count32 (by omega)
  have hsubc : (UInt8.ofNat s.subAuthority.length).toNat = s.subAuthority.length := by
    rw [UInt8.toNat_ofNat']
    exact Nat.mod_eq_of_lt (by omega)
  have hfits : ¬ ((UInt8.ofNat s.subAuthority.length).toUInt32 > count32 s.subAuthority.length ∨
      UInt8.ofNat s.subAuthority.length > 15) := by
    rintro (hgt | hgt)
    · have hgt' : (count32 s.subAuthority.length).toNat
          < (UInt8.ofNat s.subAuthority.length).toUInt32.toNat := hgt
      rw [hcount, UInt8.toNat_toUInt32, hsubc] at hgt'
      exact absurd hgt' (Nat.lt_irrefl _)
    · have hgt' : (15 : UInt8).toNat < (UInt8.ofNat s.subAuthority.length).toNat := hgt
      rw [hsubc] at hgt'
      exact absurd hgt' (by simpa using h)
  unfold sid NdrW.sid
  refine (reads_align4 w).bind (fun _ _ => ?_) ⟨(), trivial⟩
  dsimp only
  rw [if_pos (show s.subAuthority.length < 2 ^ 8 by omega)]
  refine (reads_u32 _ (count32 s.subAuthority.length)).step ((reads_u8 _ s.revision).step
    ((reads_u8 _ (UInt8.ofNat s.subAuthority.length)).step ?_))
  rw [if_neg hfits, hsubc]
  refine (reads_bytes _ s.identifierAuthority).step ?_
  refine (ReadsBack.times s.subAuthority (fun x _ w => reads_u32 w x) fun x _ => ⟨x, rfl⟩).bind
    (fun xs hxs => .pure ?_) ⟨s.subAuthority, List.forall₂_same.mpr fun _ _ => rfl⟩
  rw [eq_of_forall₂ hxs]

theorem reads_extraHead (attributes : UInt32) :
    Reads extraHead w ((w.ptr true).u32 attributes) fun head => head.1 ≠ 0 ∧ head.2 = attributes := by
  refine (reads_ptr w true).bind (fun p hp => ?_) ⟨1, by simp⟩
  refine (reads_u32 _ attributes).step (.pure ⟨fun hzero => ?_, rfl⟩)
  cases hp.mp hzero

theorem reads_extraBody {e : ExtraSid} {head : UInt32 × UInt32}
    (h : e.sid.subAuthority.length ≤ 15) (hhead : head.1 ≠ 0 ∧ head.2 = e.attributes) :
    Reads (extraBody head) w (w.sid e.sid) (· = e) := by
  unfold extraBody
  rw [if_neg hhead.1]
  refine (reads_sid w h).step (.pure ?_)
  rw [hhead.2]

/-- What the first pass gives for an item. -/
def IsHead (e : ExtraSid) (head : UInt32 × UInt32) : Prop := head.1 ≠ 0 ∧ head.2 = e.attributes

theorem exists_isHead (e : ExtraSid) : ∃ head, IsHead e head :=
  ⟨(1, e.attributes), show (1 : UInt32) ≠ 0 by decide, rfl⟩

theorem reads_extraHeads (extras : List ExtraSid) :
    Reads (extraHead.times extras.length) w
      (extras.foldl (fun w e => (w.ptr true).u32 e.attributes) w) (List.Forall₂ IsHead extras) :=
  .times extras (fun e _ w => reads_extraHead w e.attributes) fun e _ => exists_isHead e

theorem reads_extraBodies {heads : List (UInt32 × UInt32)}
    (hsids : ∀ e ∈ extras, e.sid.subAuthority.length ≤ 15) (h : List.Forall₂ IsHead extras heads) :
    Reads (ByteReader.each extraBody heads) w (extras.foldl (fun w e => w.sid e.sid) w) (· = extras) := by
  have heach : Reads (ByteReader.each extraBody heads) w (extras.foldl (fun w e => w.sid e.sid) w)
      (List.Forall₂ (fun e x => x = e) extras) :=
    .each h (fun e he head w hhead => reads_extraBody w (hsids e he) hhead) fun e _ => ⟨e, rfl⟩
  exact heach.mono fun xs hxs => eq_of_forall₂ hxs

theorem reads_extraSids (h : extras.length ≤ 64)
    (hsids : ∀ e ∈ extras, e.sid.subAuthority.length ≤ 15) :
    Reads (extraSids (count32 extras.length)) w (w.extraSids extras) (· = extras) := by
  obtain ⟨hcount, hfits⟩ := count32_fits 64 h
  refine (reads_align4 w).bind (fun _ _ => ?_) ⟨(), trivial⟩
  refine (reads_u32 _ (count32 extras.length)).step ?_
  rw [if_neg hfits, hcount]
  refine (reads_extraHeads _ extras).bind (fun heads hheads => ?_)
    (ReadsBack.exists_forall₂ fun e _ => exists_isHead e)
  exact reads_extraBodies _ hsids hheads

theorem reads_pointedList {l : List α} {write : NdrW → List α → NdrW}
    (hp : p = 0 ↔ (!l.isEmpty) = false) (h : Reads r w (write w l) (· = l)) :
    Reads (pointedList p r) w (w.pointedList write l) (· = l) := by
  unfold pointedList NdrW.pointedList
  cases l with
  | nil =>
    rw [if_pos (hp.mpr rfl)]
    exact .pure rfl
  | cons a l =>
    have hne : p ≠ 0 := fun hzero => by cases hp.mp hzero
    rw [if_neg hne]
    exact h

theorem reads_pointedSid {sid : Option RpcSid} (hp : p = 0 ↔ sid.isSome = false)
    (h : ∀ s ∈ sid, s.subAuthority.length ≤ 15) :
    Reads (pointedSid p) w (sid.elim w w.sid) (· = sid) := by
  unfold pointedSid
  cases sid with
  | none =>
    rw [if_pos (hp.mpr rfl)]
    exact .pure rfl
  | some s =>
    have hne : p ≠ 0 := fun hzero => by cases hp.mp hzero
    rw [if_neg hne]
    exact (reads_sid w (h s rfl)).step (.pure rfl)

theorem reads_domainSid {s : RpcSid} (hp : p = 0 ↔ true = false)
    (h : s.subAuthority.length ≤ 15) : Reads (domainSid p) w (w.sid s) (· = s) := by
  have hne : p ≠ 0 := fun hzero => by cases hp.mp hzero
  unfold domainSid
  rw [if_neg hne]
  exact reads_sid w h

/-! ### The information as a whole -/

/-- The information without what its pointers point to. -/
def unpointed (info : KerbValidationInfo) : KerbValidationInfo := { info with
  effectiveName := bare info.effectiveName, fullName := bare info.fullName
  logonScript := bare info.logonScript, profilePath := bare info.profilePath
  homeDirectory := bare info.homeDirectory, homeDirectoryDrive := bare info.homeDirectoryDrive
  groups := [], logonServer := bare info.logonServer, logonDomainName := bare info.logonDomainName
  logonDomainId := ⟨0, .replicate 6 0, []⟩, extraSids := [], resourceGroupDomainSid := none
  resourceGroups := [] }

/-- What the fixed part of some information is read as. -/
structure IsFixed (info : KerbValidationInfo) (f : Fixed) : Prop where
  read : f.info = unpointed info
  groupCount : f.groupCount = count32 info.groups.length
  groupsPtr : f.groupsPtr = 0 ↔ (!info.groups.isEmpty) = false
  domainSidPtr : f.domainSidPtr = 0 ↔ true = false
  sidCount : f.sidCount = count32 info.extraSids.length
  extraPtr : f.extraPtr = 0 ↔ (!info.extraSids.isEmpty) = false
  rgSidPtr : f.rgSidPtr = 0 ↔ info.resourceGroupDomainSid.isSome = false
  rgCount : f.rgCount = count32 info.resourceGroups.length
  rgPtr : f.rgPtr = 0 ↔ (!info.resourceGroups.isEmpty) = false

theorem exists_isFixed (info : KerbValidationInfo) : ∃ f, IsFixed info f := by
  obtain ⟨groupsPtr, hgroups⟩ := exists_ptr (!info.groups.isEmpty)
  obtain ⟨domainSidPtr, hdomain⟩ := exists_ptr true
  obtain ⟨extraPtr, hextra⟩ := exists_ptr (!info.extraSids.isEmpty)
  obtain ⟨rgSidPtr, hrgSid⟩ := exists_ptr info.resourceGroupDomainSid.isSome
  obtain ⟨rgPtr, hrg⟩ := exists_ptr (!info.resourceGroups.isEmpty)
  exact ⟨⟨unpointed info, _, groupsPtr, domainSidPtr, _, extraPtr, rgSidPtr, _, rgPtr⟩, rfl, rfl,
    hgroups, hdomain, rfl, hextra, hrgSid, rfl, hrg⟩

theorem reads_fixed (info : KerbValidationInfo) : Reads fixed w (w.fixed info) (IsFixed info) := by
  refine (reads_u64 w info.logonTime).step ?_
  refine (reads_u64 _ info.logoffTime).step ?_
  refine (reads_u64 _ info.kickoffTime).step ?_
  refine (reads_u64 _ info.passwordLastSet).step ?_
  refine (reads_u64 _ info.passwordCanChange).step ?_
  refine (reads_u64 _ info.passwordMustChange).step ?_
  refine (reads_ustr _ info.effectiveName).step ?_
  refine (reads_ustr _ info.fullName).step ?_
  refine (reads_ustr _ info.logonScript).step ?_
  refine (reads_ustr _ info.profilePath).step ?_
  refine (reads_ustr _ info.homeDirectory).step ?_
  refine (reads_ustr _ info.homeDirectoryDrive).step ?_
  refine (reads_u16 _ info.logonCount).step ?_
  refine (reads_u16 _ info.badPasswordCount).step ?_
  refine (reads_u32 _ info.userId).step ?_
  refine (reads_u32 _ info.primaryGroupId).step ?_
  refine (reads_u32 _ (count32 info.groups.length)).step ?_
  refine (reads_ptr _ (!info.groups.isEmpty)).bind (fun groupsPtr hgroups => ?_) (exists_ptr _)
  refine (reads_u32 _ info.userFlags).step ?_
  refine (reads_bytes _ info.sessionKey).step ?_
  refine (reads_ustr _ info.logonServer).step ?_
  refine (reads_ustr _ info.logonDomainName).step ?_
  refine (reads_ptr _ true).bind (fun domainSidPtr hdomain => ?_) (exists_ptr _)
  refine (reads_u32 _ info.reserved1.1).step ?_
  refine (reads_u32 _ info.reserved1.2).step ?_
  refine (reads_u32 _ info.userAccountControl).step ?_
  refine (reads_u32 _ info.subAuthStatus).step ?_
  refine (reads_u64 _ info.lastSuccessfulIlogon).step ?_
  refine (reads_u64 _ info.lastFailedIlogon).step ?_
  refine (reads_u32 _ info.failedIlogonCount).step ?_
  refine (reads_u32 _ info.reserved3).step ?_
  refine (reads_u32 _ (count32 info.extraSids.length)).step ?_
  refine (reads_ptr _ (!info.extraSids.isEmpty)).bind (fun extraPtr hextra => ?_) (exists_ptr _)
  refine (reads_ptr _ info.resourceGroupDomainSid.isSome).bind (fun rgSidPtr hrgSid => ?_)
    (exists_ptr _)
  refine (reads_u32 _ (count32 info.resourceGroups.length)).step ?_
  refine (reads_ptr _ (!info.resourceGroups.isEmpty)).bind (fun rgPtr hrg => ?_) (exists_ptr _)
  exact .pure ⟨rfl, rfl, hgroups, hdomain, rfl, hextra, hrgSid, rfl, hrg⟩

end Ndr

namespace KerbValidationInfo

/-- The limits that reading puts on information. -/
structure WellSized (info : KerbValidationInfo) : Prop where
  effectiveName : Ndr.Sized info.effectiveName
  fullName : Ndr.Sized info.fullName
  logonScript : Ndr.Sized info.logonScript
  profilePath : Ndr.Sized info.profilePath
  homeDirectory : Ndr.Sized info.homeDirectory
  homeDirectoryDrive : Ndr.Sized info.homeDirectoryDrive
  groups : info.groups.length ≤ 1024
  logonServer : Ndr.Sized info.logonServer
  logonDomainName : Ndr.Sized info.logonDomainName
  logonDomainId : info.logonDomainId.subAuthority.length ≤ 15
  extraSids : info.extraSids.length ≤ 64
  extraSid : ∀ e ∈ info.extraSids, e.sid.subAuthority.length ≤ 15
  resourceGroupDomainSid : ∀ s ∈ info.resourceGroupDomainSid, s.subAuthority.length ≤ 15
  resourceGroups : info.resourceGroups.length ≤ 1024

/-- The same SIDs. -/
structure SameSids (info info' : KerbValidationInfo) : Prop where
  logonDomainId : info'.logonDomainId = info.logonDomainId
  extraSids : info'.extraSids = info.extraSids
  resourceGroupDomainSid : info'.resourceGroupDomainSid = info.resourceGroupDomainSid

end KerbValidationInfo

namespace Ndr

variable {info : KerbValidationInfo}

theorem reads_pointees {f : Fixed} (h : info.WellSized) (hf : IsFixed info f) :
    Reads (pointees f) w (w.pointees info) info.SameSids := by
  unfold pointees NdrW.pointees
  rw [hf.read, hf.groupCount, hf.sidCount, hf.rgCount]
  refine (reads_takeStr w h.effectiveName).bind (fun effectiveName _ => ?_) ⟨info.effectiveName, trivial⟩
  refine (reads_takeStr _ h.fullName).bind (fun _ _ => ?_) ⟨info.fullName, trivial⟩
  refine (reads_takeStr _ h.logonScript).bind (fun _ _ => ?_) ⟨info.fullName, trivial⟩
  refine (reads_takeStr _ h.profilePath).bind (fun _ _ => ?_) ⟨info.fullName, trivial⟩
  refine (reads_takeStr _ h.homeDirectory).bind (fun _ _ => ?_) ⟨info.fullName, trivial⟩
  refine (reads_takeStr _ h.homeDirectoryDrive).bind (fun _ _ => ?_) ⟨info.fullName, trivial⟩
  refine (reads_pointedList _ hf.groupsPtr (reads_groupArray _ h.groups)).step ?_
  refine (reads_takeStr _ h.logonServer).bind (fun _ _ => ?_) ⟨info.fullName, trivial⟩
  refine (reads_takeStr _ h.logonDomainName).bind (fun _ _ => ?_) ⟨info.fullName, trivial⟩
  refine (reads_domainSid _ hf.domainSidPtr h.logonDomainId).step ?_
  refine (reads_pointedList _ hf.extraPtr (reads_extraSids _ h.extraSids h.extraSid)).step ?_
  refine (reads_pointedSid _ hf.rgSidPtr h.resourceGroupDomainSid).step ?_
  refine (reads_pointedList _ hf.rgPtr (reads_groupArray _ h.resourceGroups)).step ?_
  split
  · refine .fails (fun hw => ⟨hw, [], (append_nil _).symm⟩) fun s out hrun => ?_
    cases hrun
  · exact .pure ⟨rfl, rfl, rfl⟩

/-! ### What is read has the sizes -/

theorem ensures_take (n : Nat) : Ensures (take n) fun b => b.length = n := by
  intro s b s' hrun
  rw [run_take] at hrun
  split at hrun
  · cases hrun
  · cases hrun
    rw [List.length_take]
    omega

theorem ensures_takeStr (s : RpcUnicode) : Ensures (takeStr s) Sized := by
  refine .ite (fun _ => ?_) fun hs => .pure fun hpointed => absurd hpointed hs
  refine .skip fun _ => .skip fun maxc => .skip fun _ => .skip fun act =>
    .ite (fun _ => .throw) fun hact => ?_
  have hact' : act.toNat ≤ 1024 := UInt32.not_lt.mp (not_or.mp hact).2
  refine (ensures_take _).bind fun raw hraw => ?_
  have htext : Ensures (text raw) fun value => (encodeUtf16 value).length < 2 ^ 32 := by
    unfold text
    split
    · rename_i value hvalue
      refine .pure ?_
      have hutf8 := length_of_fromUtf16 hvalue
      have hunits := length_le16Units raw
      have henc := length_encodeUtf16_le value
      omega
    · exact .throw
  exact htext.bind fun value hvalue => .skip fun _ => .pure fun _ => hvalue

theorem ensures_length_times (r : Ndr α) (n : Nat) :
    Ensures (ByteReader.times r n) fun xs => xs.length = n :=
  (Ensures.times (P := fun _ => True) (fun _ _ _ _ => trivial) n).mono fun _ h => h.1

theorem ensures_groupArray (expect : UInt32) : Ensures (groupArray expect) fun g => g.length ≤ 1024 := by
  refine .skip fun _ => .skip fun maxc => .ite (fun _ => .throw) fun hmax => ?_
  have hmax' : maxc.toNat ≤ (1024 : UInt32).toNat := UInt32.not_lt.mp (not_or.mp hmax).2
  exact (ensures_length_times _ _).mono fun g hg => by rw [hg]; exact hmax'

theorem ensures_sid : Ensures sid fun s => s.subAuthority.length ≤ 15 := by
  refine .skip fun _ => .skip fun maxc => .skip fun _ => .skip fun subc =>
    .ite (fun _ => .throw) fun hsubc => .skip fun _ => ?_
  have hsubc' : subc.toNat ≤ (15 : UInt8).toNat := UInt8.not_lt.mp (not_or.mp hsubc).2
  refine (ensures_length_times _ _).bind fun subs hsubs => .pure ?_
  show subs.length ≤ 15
  rw [hsubs]
  exact hsubc'

theorem ensures_extraSids (expect : UInt32) : Ensures (extraSids expect) fun extras =>
    extras.length ≤ 64 ∧ ∀ e ∈ extras, e.sid.subAuthority.length ≤ 15 := by
  refine .skip fun _ => .skip fun maxc => .ite (fun _ => .throw) fun hmax => ?_
  have hmax' : maxc.toNat ≤ (64 : UInt32).toNat := UInt32.not_lt.mp (not_or.mp hmax).2
  refine (ensures_length_times _ _).bind fun heads hheads => ?_
  have hbody : ∀ head ∈ heads, Ensures (extraBody head) fun e => e.sid.subAuthority.length ≤ 15 := by
    intro head _
    exact .ite (fun _ => .throw) fun _ => ensures_sid.bind fun sid hsid => .pure hsid
  refine (Ensures.each heads hbody).mono fun extras hextras => ⟨?_, hextras.2⟩
  rw [hextras.1, hheads]
  exact hmax'

theorem ensures_pointedList {P : List α → Prop} (h : Ensures r P) (hnil : P []) :
    Ensures (pointedList p r) P :=
  .ite (fun _ => .pure hnil) fun _ => h

theorem ensures_pointees (f : Fixed) : Ensures (pointees f) KerbValidationInfo.WellSized := by
  refine (ensures_takeStr _).bind fun _ heffective => (ensures_takeStr _).bind fun _ hfull => ?_
  refine (ensures_takeStr _).bind fun _ hscript => (ensures_takeStr _).bind fun _ hprofile => ?_
  refine (ensures_takeStr _).bind fun _ hhome => (ensures_takeStr _).bind fun _ hdrive => ?_
  refine (ensures_pointedList (ensures_groupArray _) (Nat.zero_le _)).bind fun _ hgroups => ?_
  refine (ensures_takeStr _).bind fun _ hserver => (ensures_takeStr _).bind fun _ hname => ?_
  have hdomain : Ensures (domainSid f.domainSidPtr) fun s => s.subAuthority.length ≤ 15 :=
    .ite (fun _ => .throw) fun _ => ensures_sid
  refine hdomain.bind fun _ hdomain => ?_
  have hnil : ([] : List ExtraSid).length ≤ 64 ∧ ∀ e ∈ ([] : List ExtraSid),
      e.sid.subAuthority.length ≤ 15 := ⟨Nat.zero_le _, fun e he => absurd he List.not_mem_nil⟩
  refine (ensures_pointedList (ensures_extraSids _) hnil).bind fun _ hextra => ?_
  have hresource : Ensures (pointedSid f.rgSidPtr) fun sid =>
      ∀ s ∈ sid, s.subAuthority.length ≤ 15 := by
    refine .ite (fun _ => .pure fun s hs => by cases hs) fun _ => ensures_sid.bind fun sid hsid => .pure ?_
    rintro s ⟨⟩
    exact hsid
  refine hresource.bind fun _ hresource => ?_
  refine (ensures_pointedList (ensures_groupArray _) (Nat.zero_le _)).bind fun _ hrgroups => ?_
  exact .ite (fun _ => .throw) fun _ => .pure ⟨heffective, hfull, hscript, hprofile, hhome, hdrive,
    hgroups, hserver, hname, hdomain, hextra.1, hextra.2, hresource, hrgroups⟩

end Ndr

/-! ### Reading and writing -/

theorem parseKerbValidationInfo_wellSized {data : Str} {info : KerbValidationInfo}
    (h : parseKerbValidationInfo data = .ok info) : info.WellSized := by
  obtain ⟨out, hrun, rfl⟩ := map_ok h
  have hall : Ensures Ndr.kerbValidationInfo KerbValidationInfo.WellSized :=
    .skip fun _ => .skip fun f => Ndr.ensures_pointees f
  exact hall _ _ _ hrun

namespace Ndr

/-- The length of the object is not looked at. -/
theorem run_preamble_objlen (x y : UInt32) (tail : Str) :
    preamble.run ⟨0, 1 :: 0x10 :: (le16 8 ++ (le32 0xcccccccc ++ (le32 x ++ tail)))⟩
      = preamble.run ⟨0, 1 :: 0x10 :: (le16 8 ++ (le32 0xcccccccc ++ (le32 y ++ tail)))⟩ :=
  rfl

theorem reads_preamble : Reads preamble new new.preamble fun _ => True := by
  refine (reads_u8 _ 1).step ((reads_u8 _ 0x10).step ?_)
  rw [if_neg (by decide)]
  refine (reads_u16 _ 8).step ((reads_u32 _ 0xcccccccc).step ((reads_u32 _ 0).step ((reads_u32 _ 0).step ?_)))
  refine (reads_ptr _ true).bind (fun top htop => ?_) (exists_ptr _)
  rw [if_neg fun hzero => by cases htop.mp hzero]
  exact .pure trivial

theorem reads_kerbValidationInfo {info : KerbValidationInfo} (h : info.WellSized) :
    Reads kerbValidationInfo new ((new.preamble.fixed info).pointees info) info.SameSids := by
  refine reads_preamble.bind (fun _ _ => ?_) ⟨(), trivial⟩
  exact (reads_fixed _ info).bind (fun f hf => reads_pointees _ h hf) (exists_isFixed info)

end Ndr

/-- The bytes in front of the length of the object. -/
theorem toNdr_eq {info : KerbValidationInfo} (h : info.WellSized) : ∃ objlen tail,
    ((new.preamble.fixed info).pointees info).b
      = 1 :: 0x10 :: (le16 8 ++ (le32 0xcccccccc ++ (le32 0 ++ tail))) ∧
    info.toNdr = 1 :: 0x10 :: (le16 8 ++ (le32 0xcccccccc ++ (le32 objlen ++ tail))) := by
  obtain ⟨f, hf⟩ := Ndr.exists_isFixed info
  obtain ⟨hlive, fixedPiece, hfixed, -⟩ := Ndr.reads_fixed new.preamble info (by decide)
  obtain ⟨-, piece, hpiece, -⟩ := Ndr.reads_pointees (new.preamble.fixed info) h hf hlive
  have hb : ((new.preamble.fixed info).pointees info).b
      = 1 :: 0x10 :: (le16 8 ++ (le32 0xcccccccc ++ (le32 0 ++ (le32 0 ++ le32 ndrPtrBase
        ++ fixedPiece ++ piece)))) := by
    rw [hpiece, hfixed]
    rfl
  obtain ⟨objlen, hndr⟩ : ∃ objlen, info.toNdr
      = ((new.preamble.fixed info).pointees info).b.take 8 ++ le32 objlen
        ++ ((new.preamble.fixed info).pointees info).b.drop 12 := ⟨_, rfl⟩
  refine ⟨objlen, _, hb, ?_⟩
  rw [hndr, hb]
  rfl

/-- **What was written is read with the same SIDs.** -/
theorem sids_of_toNdr {info info' : KerbValidationInfo} (h : info.WellSized)
    (hread : parseKerbValidationInfo info.toNdr = .ok info') : info.SameSids info' := by
  obtain ⟨out, hrun, rfl⟩ := map_ok hread
  obtain ⟨-, piece, hpiece, hback⟩ := Ndr.reads_kerbValidationInfo h (by decide)
  obtain ⟨objlen, tail, hb, hndr⟩ := toNdr_eq h
  have hrun' : Ndr.kerbValidationInfo.run ⟨0, piece ++ []⟩ = .ok out := by
    rw [append_nil, show piece = _ from hpiece.symm.trans hb]
    rw [hndr, Ndr.kerbValidationInfo, StateT.run_bind, Ndr.run_preamble_objlen objlen 0] at hrun
    rw [Ndr.kerbValidationInfo, StateT.run_bind]
    exact hrun
  exact (hback [] out.1 out.2 hrun').1

/-! ### The filter -/

namespace KerbValidationInfo

variable {info info' : KerbValidationInfo} {domain : RpcSid}

/-- Information with a SID of a domain: that of the logon domain, an extra SID, or that of the domain
of the resource groups. -/
def Claims (info : KerbValidationInfo) (domain : RpcSid) : Prop :=
  info.logonDomainId.isInDomain domain = true ∨
  (∃ e ∈ info.extraSids, e.sid.isInDomain domain = true) ∨
  ∃ s ∈ info.resourceGroupDomainSid, s.isInDomain domain = true

theorem Claims.sameSids (h : info'.Claims domain) (hsids : info.SameSids info') :
    info.Claims domain := by
  unfold Claims at h
  rw [hsids.logonDomainId, hsids.extraSids, hsids.resourceGroupDomainSid] at h
  exact h

theorem WellSized.filtered (h : info.WellSized) (domain : RpcSid) : (info.filtered domain).WellSized := by
  unfold KerbValidationInfo.filtered
  have hlen : (info.extraSids.filter fun e => !e.sid.isInDomain domain).length ≤ 64 :=
    Nat.le_trans (List.length_filter_le _ _) h.extraSids
  have hsids : ∀ e ∈ info.extraSids.filter fun e => !e.sid.isInDomain domain,
      e.sid.subAuthority.length ≤ 15 := fun e he => h.extraSid e (List.mem_of_mem_filter he)
  dsimp only
  split
  · exact { h with
      extraSids := hlen, extraSid := hsids, resourceGroupDomainSid := fun s hs => by cases hs
      resourceGroups := Nat.zero_le _ }
  · exact { h with extraSids := hlen, extraSid := hsids }

theorem not_claims_filtered (h : info.logonDomainId.isInDomain domain = false) :
    ¬ (info.filtered domain).Claims domain := by
  have hextra : ∀ e ∈ info.extraSids.filter fun e => !e.sid.isInDomain domain,
      e.sid.isInDomain domain = false := by
    intro e he
    simpa using (List.mem_filter.mp he).2
  unfold KerbValidationInfo.filtered
  dsimp only
  split
  · rintro (hdomain | ⟨e, he, hsid⟩ | ⟨s, hs, -⟩)
    · rw [h] at hdomain
      cases hdomain
    · rw [hextra e he] at hsid
      cases hsid
    · cases hs
  · rename_i hresource
    rintro (hdomain | ⟨e, he, hsid⟩ | ⟨s, hs, hsid⟩)
    · rw [h] at hdomain
      cases hdomain
    · rw [hextra e he] at hsid
      cases hsid
    · exact hresource (Option.any_eq_true _ _ |>.mpr ⟨s, hs, hsid⟩)

end KerbValidationInfo

/-- **Nothing of the local domain passes the filter.** -/
theorem not_claims_of_filter {domain : RpcSid} {logon out : Str} {info : KerbValidationInfo}
    (h : filterCrossRealmLogon domain logon = .ok out) (hread : parseKerbValidationInfo out = .ok info) :
    ¬ info.Claims domain := by
  obtain ⟨given, hgiven, h⟩ := bind_ok h
  obtain ⟨hdomain, h⟩ := rejectIf_bind_ok h
  cases h
  have hsized := (parseKerbValidationInfo_wellSized (mapError_ok hgiven)).filtered domain
  intro hclaims
  exact KerbValidationInfo.not_claims_filtered hdomain (hclaims.sameSids (sids_of_toNdr hsized hread))

end Kerber
