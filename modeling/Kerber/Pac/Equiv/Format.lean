import Kerber.Pac.Format

/-!
# The PAC container read back

`parse_toBytes` reads a PAC that was written: every buffer comes back at the offset `place` gives
it.  `zeroIn_toBytes` says what the bytes under a signature of such a PAC are: those of the PAC with
its signatures zeroed.
-/

namespace Kerber

open List

variable {bs xs ys cur as : List PacBuffer} {kind : UInt32} {b : PacBuffer}

namespace Pac

variable {kinds : List UInt32} {off : Nat} {p : Pac} {bytes : Str}

/-! ### The layout -/

def paddedLen (n : Nat) : Nat :=
  n + padLen n

theorem paddedLen_mod (n : Nat) : paddedLen n % 8 = 0 := by
  unfold paddedLen padLen
  omega

theorem le_paddedLen (n : Nat) : n ≤ paddedLen n :=
  Nat.le_add_right _ _

theorem paddedLen_lt (n : Nat) : paddedLen n < n + 8 := by
  unfold paddedLen padLen
  omega

/-- One buffer with its padding. -/
def payload (data : Str) : Str :=
  data ++ List.replicate (padLen data.length) 0

theorem length_payload (data : Str) : (payload data).length = paddedLen data.length := by
  rw [payload, length_append, length_replicate, paddedLen]

theorem payloads_cons (b : PacBuffer) (bs : List PacBuffer) :
    payloads (b :: bs) = payload b.data ++ payloads bs :=
  flatMap_cons

theorem payloads_append (xs ys : List PacBuffer) :
    payloads (xs ++ ys) = payloads xs ++ payloads ys :=
  flatMap_append

theorem length_payloads_mod (bs : List PacBuffer) : (payloads bs).length % 8 = 0 := by
  induction bs with
  | nil => rfl
  | cons b bs ih =>
    have hb := paddedLen_mod b.data.length
    rw [payloads_cons, length_append, length_payload]
    omega

theorem length_payloads_le (h : ∀ b ∈ bs, b.data.length < 2 ^ 32) :
    (payloads bs).length ≤ bs.length * (2 ^ 32 + 8) := by
  induction bs with
  | nil => exact Nat.zero_le _
  | cons b bs ih =>
    have hb := h b mem_cons_self
    have hpad := paddedLen_lt b.data.length
    have hrest := ih fun c hc => h c (mem_cons_of_mem _ hc)
    rw [payloads_cons, length_append, length_payload, length_cons, Nat.succ_mul]
    omega

def descriptor (kind : UInt32) (len off : Nat) : Str :=
  le32 kind ++ le32 (if len < 2 ^ 32 then UInt32.ofNat len else 0) ++ le64 (UInt64.ofNat off)

theorem headers_cons (off : Nat) (b : PacBuffer) (bs : List PacBuffer) :
    headers off (b :: bs) = descriptor b.kind b.data.length off ++
      headers (off + paddedLen b.data.length) bs :=
  rfl

theorem headers_append (off : Nat) (xs ys : List PacBuffer) :
    headers off (xs ++ ys) = headers off xs ++ headers (off + (payloads xs).length) ys := by
  induction xs generalizing off with
  | nil => rfl
  | cons b xs ih =>
    rw [cons_append, headers_cons, headers_cons, ih, payloads_cons, length_append,
      length_payload, append_assoc, Nat.add_assoc]

theorem length_headers (off : Nat) (bs : List PacBuffer) :
    (headers off bs).length = 16 * bs.length := by
  induction bs generalizing off with
  | nil => rfl
  | cons b bs ih =>
    rw [headers_cons, length_append, ih, length_cons]
    show 16 + _ = _
    omega

/-- Where the payloads of `n` buffers begin. -/
def headerLen (n : Nat) : Nat :=
  8 + 16 * n

/-- The first eight bytes. -/
def countAndVersion (n : Nat) : Str :=
  le32 (if n < 2 ^ 32 then UInt32.ofNat n else UInt32.ofNat (2 ^ 32 - 1)) ++ le32 0

/-- A written PAC up to the buffers behind `xs`. -/
def frontOf (bs xs : List PacBuffer) : Str :=
  countAndVersion bs.length ++ headers (headerLen bs.length) bs ++ payloads xs

theorem toBytes_built (bs : List PacBuffer) : (built 0 bs).toBytes = frontOf bs bs :=
  rfl

/-- Where the buffers behind `xs` begin. -/
def offsetOf (bs xs : List PacBuffer) : Nat :=
  headerLen bs.length + (payloads xs).length

theorem length_frontOf (bs xs : List PacBuffer) : (frontOf bs xs).length = offsetOf bs xs := by
  rw [frontOf, length_append, length_append, length_headers]
  rfl

theorem length_toBytes (bs : List PacBuffer) : (built 0 bs).toBytes.length = offsetOf bs bs :=
  length_frontOf bs bs

theorem offsetOf_mod (bs xs : List PacBuffer) : offsetOf bs xs % 8 = 0 := by
  have hxs := length_payloads_mod xs
  unfold offsetOf headerLen
  omega

theorem offsetOf_add_le (hbs : bs = xs ++ b :: ys) :
    offsetOf bs xs + b.data.length ≤ offsetOf bs bs := by
  have hpad := le_paddedLen b.data.length
  have hpay : (payloads bs).length
      = (payloads xs).length + (paddedLen b.data.length + (payloads ys).length) := by
    rw [hbs, payloads_append, payloads_cons, length_append, length_append,
      length_payload]
  unfold offsetOf
  omega

theorem toBytes_split (hbs : bs = xs ++ b :: ys) :
    (built 0 bs).toBytes = frontOf bs xs ++ b.data
      ++ (replicate (padLen b.data.length) 0 ++ payloads ys) := by
  have hpay : payloads bs = payloads xs ++ (payload b.data ++ payloads ys) := by
    rw [hbs, payloads_append, payloads_cons]
  rw [toBytes_built, frontOf, hpay, payload, frontOf]
  simp only [append_assoc]

theorem toBytes_descriptor (hbs : bs = xs ++ b :: ys) :
    ∃ front back, (built 0 bs).toBytes
        = front ++ (descriptor b.kind b.data.length (offsetOf bs xs) ++ back) ∧
      front.length = 8 + 16 * xs.length := by
  refine ⟨countAndVersion bs.length ++ headers (headerLen bs.length) xs,
    headers (offsetOf bs xs + paddedLen b.data.length) ys ++ payloads bs, ?_, ?_⟩
  · have hheaders : headers (headerLen bs.length) bs
        = headers (headerLen bs.length) xs ++ headers (offsetOf bs xs) (b :: ys) :=
      (congrArg (headers _) hbs).trans (headers_append _ _ _)
    rw [toBytes_built, frontOf, hheaders, headers_cons]
    simp only [append_assoc]
  · rw [length_append, length_headers]
    rfl

/-! ### Reading a written PAC -/

theorem le32At_append (front back : Str) (i : Nat) :
    le32At (front ++ back) (front.length + i) = le32At back i := by
  have hget : ∀ k, (front ++ back).getD (front.length + k) 0 = back.getD k 0 := by
    intro k
    rw [getD_eq_getElem?_getD, getElem?_append_right (Nat.le_add_right _ _),
      Nat.add_sub_cancel_left, getD_eq_getElem?_getD]
  simp only [le32At, Nat.add_assoc, hget]

theorem le64At_append (front back : Str) (i : Nat) :
    le64At (front ++ back) (front.length + i) = le64At back i := by
  rw [le64At, le32At_append, Nat.add_assoc, le32At_append, le64At]

def place (off : Nat) : List PacBuffer → List PacBuffer
  | [] => []
  | b :: rest => { b with offset := off } :: place (off + paddedLen b.data.length) rest

theorem place_append (off : Nat) (xs ys : List PacBuffer) :
    place off (xs ++ ys) = place off xs ++ place (off + (payloads xs).length) ys := by
  induction xs generalizing off with
  | nil => rfl
  | cons b xs ih =>
    rw [cons_append, place, place, ih, payloads_cons, length_append, length_payload,
      cons_append, Nat.add_assoc]

theorem length_place (off : Nat) (bs : List PacBuffer) : (place off bs).length = bs.length := by
  induction bs generalizing off with
  | nil => rfl
  | cons b bs ih => rw [place, length_cons, ih, length_cons]

/-- Buffers a PAC can hold. -/
structure Fits (bs : List PacBuffer) : Prop where
  ne_nil : bs ≠ []
  count : bs.length ≤ maxBuffers
  size : ∀ b ∈ bs, b.data.length < 2 ^ 32

/-- The limits `parse` puts on a PAC that was written: a size and a number of buffers. -/
structure Bounded (bytes : Str) : Prop where
  size : bytes.length < 2 ^ 32
  count : (le32At bytes 0).toNat ≤ maxBuffers

theorem length_le_payloads (h : b ∈ bs) : b.data.length ≤ (payloads bs).length := by
  obtain ⟨xs, ys, rfl⟩ := append_of_mem h
  have hb := le_paddedLen b.data.length
  rw [payloads_append, payloads_cons, length_append, length_append, length_payload]
  omega

/-- The number of buffers stands in front. -/
theorem count_toBytes (h : bs.length < 2 ^ 32) :
    (le32At (built 0 bs).toBytes 0).toNat = bs.length := by
  rw [toBytes_built, frontOf, countAndVersion, if_pos h]
  simp only [append_assoc, le32At_le32, UInt32.toNat_ofNat']
  exact Nat.mod_eq_of_lt h

/-- Buffers whose PAC keeps the limits keep them. -/
theorem Bounded.fits (h : Bounded (built 0 bs).toBytes) (hne : bs ≠ []) : Fits bs := by
  have hsize := h.size
  rw [length_toBytes, offsetOf, headerLen] at hsize
  refine ⟨hne, ?_, fun b hb => ?_⟩
  · have hcount := h.count
    rwa [count_toBytes (by omega)] at hcount
  · have hle := length_le_payloads hb
    omega

theorem Fits.offsetOf_lt (h : Fits bs) : offsetOf bs bs < 2 ^ 64 := by
  have hpay := length_payloads_le h.size
  have hcount : bs.length ≤ 4096 := h.count
  unfold offsetOf headerLen
  omega

theorem readBuffer_toBytes (h : Fits bs) (hbs : bs = xs ++ b :: ys) :
    readBuffer (built 0 bs).toBytes (headerLen bs.length) (8 + 16 * xs.length)
      = .ok { b with offset := offsetOf bs xs } := by
  obtain ⟨front, back, hbytes, hfront⟩ := toBytes_descriptor hbs
  have hbound := h.offsetOf_lt
  have hle := offsetOf_add_le hbs
  have hsize : b.data.length < 2 ^ 32 := h.size b (by simp [hbs])
  have hkind : le32At (built 0 bs).toBytes (8 + 16 * xs.length) = b.kind := by
    rw [hbytes, ← hfront]
    exact (le32At_append front _ 0).trans (le32At_le32 _ _)
  have hsz : (le32At (built 0 bs).toBytes (8 + 16 * xs.length + 4)).toNat = b.data.length := by
    rw [hbytes, ← hfront, le32At_append, descriptor, if_pos hsize]
    simp only [append_assoc]
    rw [show (4 : Nat) = 0 + 4 from rfl, le32At_le32_add, le32At_le32, UInt32.toNat_ofNat']
    omega
  have hoff : (le64At (built 0 bs).toBytes (8 + 16 * xs.length + 8)).toNat = offsetOf bs xs := by
    rw [hbytes, ← hfront, le64At_append, descriptor]
    show (le64At (le64 _ ++ back) 0).toNat = _
    rw [le64At_le64, UInt64.toNat_ofNat']
    omega
  have hmod : offsetOf bs xs % pacAlignment = 0 := offsetOf_mod bs xs
  have hdata : ((built 0 bs).toBytes.drop (offsetOf bs xs)).take b.data.length = b.data := by
    rw [toBytes_split hbs, ← length_frontOf, append_assoc, drop_left, take_left]
  have hin : (decide (offsetOf bs xs < headerLen bs.length) ||
      decide (offsetOf bs xs > offsetOf bs bs) ||
      decide (b.data.length > offsetOf bs bs - offsetOf bs xs)) = false := by
    have hheader : headerLen bs.length ≤ offsetOf bs xs := Nat.le_add_right _ _
    simp only [Bool.or_eq_false_iff, decide_eq_false_iff_not]
    omega
  rw [readBuffer]
  simp only [hkind, hsz, hoff, hmod, length_toBytes, hdata, bne_self_eq_false, hin]
  rfl

/-- The PAC read back. -/
def placed (bs : List PacBuffer) : Pac :=
  ⟨0, place (headerLen bs.length) bs, (built 0 bs).toBytes⟩

/-- **A written PAC is read back**, with the offsets of its buffers. -/
theorem parse_toBytes (h : Fits bs) : parse (built 0 bs).toBytes = .ok (placed bs) := by
  have hpos : 0 < bs.length := length_pos_of_ne_nil h.ne_nil
  have hmax : bs.length ≤ 4096 := h.count
  have hcount : (le32At (built 0 bs).toBytes 0).toNat = bs.length := count_toBytes (by omega)
  have hversion : le32At (built 0 bs).toBytes 4 = 0 := by
    rw [toBytes_built, frontOf, countAndVersion]
    exact (le32At_le32_add _ _ 0).trans (le32At_le32 _ _)
  have hbuffers : (range bs.length).mapM
        (fun i => readBuffer (built 0 bs).toBytes (8 + 16 * bs.length) (8 + 16 * i))
      = .ok (place (headerLen bs.length) bs) := by
    have hread : ∀ ys x zs, place (headerLen bs.length) bs = ys ++ x :: zs →
        readBuffer (built 0 bs).toBytes (8 + 16 * bs.length) (8 + 16 * ys.length) = .ok x := by
      intro ys x zs hplaced
      -- the buffer at the same index of the list that was written
      have hi : ys.length < bs.length := by
        rw [← length_place (headerLen bs.length) bs, hplaced, length_append, length_cons]
        omega
      obtain ⟨xs, b, rest, hbs, hxs⟩ : ∃ xs b rest, bs = xs ++ b :: rest ∧ xs.length = ys.length := by
        refine ⟨bs.take ys.length, bs[ys.length], bs.drop (ys.length + 1), ?_, ?_⟩
        · rw [getElem_cons_drop, take_append_drop]
        · rw [length_take]
          omega
      have hb := readBuffer_toBytes h hbs
      have hsame : place (headerLen bs.length) bs = _ := congrArg (place _) hbs
      rw [hplaced, place_append, place] at hsame
      have hhead := append_inj hsame (by rw [length_place, hxs])
      rw [← hxs, (cons.inj hhead.2).1]
      exact hb
    have hall := mapM_range_ok
      (f := fun i => readBuffer (built 0 bs).toBytes (8 + 16 * bs.length) (8 + 16 * i)) hread
    rw [length_place] at hall
    exact hall
  have hlong : headerLen bs.length ≤ offsetOf bs bs := Nat.le_add_right _ _
  unfold headerLen at hlong
  have hrange : (decide (bs.length < 1) || decide (bs.length > maxBuffers)) = false := by
    simp only [Bool.or_eq_false_iff, decide_eq_false_iff_not]
    exact ⟨by omega, Nat.not_lt.mpr h.count⟩
  rw [parse]
  simp only [hcount, hversion, length_toBytes, bne_self_eq_false, hrange, rejectIf_false_bind,
    decide_eq_false (show ¬offsetOf bs bs < 8 by omega),
    decide_eq_false (show ¬offsetOf bs bs < 8 + 16 * bs.length by omega), hbuffers, ok_bind]
  rfl

/-- What `parse` lets through keeps its limits. -/
theorem sizes_of_parse (h : parse bytes = .ok p) :
    (le32At bytes 0).toNat ≤ maxBuffers ∧ p.buffers.length = (le32At bytes 0).toNat ∧
      ∀ b ∈ p.buffers, b.data.length < 2 ^ 32 := by
  obtain ⟨-, h⟩ := rejectIf_bind_ok h
  obtain ⟨-, h⟩ := rejectIf_bind_ok h
  obtain ⟨hcount, h⟩ := rejectIf_bind_ok h
  obtain ⟨-, h⟩ := rejectIf_bind_ok h
  obtain ⟨buffers, hbuffers, h⟩ := bind_ok h
  cases h
  simp only [Bool.or_eq_false_iff, decide_eq_false_iff_not, Nat.not_lt] at hcount
  refine ⟨hcount.2, (length_of_mapM_ok hbuffers).trans length_range, ?_⟩
  refine forall_mem_of_mapM_ok hbuffers fun i _ b hb => ?_
  obtain ⟨-, hb⟩ := rejectIf_bind_ok hb
  obtain ⟨-, hb⟩ := rejectIf_bind_ok hb
  cases hb
  refine Nat.lt_of_le_of_lt (length_take_le _ _) ?_
  exact UInt32.toNat_lt _

theorem parse_raw (h : parse bytes = .ok p) : p.raw = bytes ∧ bytes ≠ [] := by
  obtain ⟨hlen, h⟩ := rejectIf_bind_ok h
  obtain ⟨-, h⟩ := rejectIf_bind_ok h
  obtain ⟨-, h⟩ := rejectIf_bind_ok h
  obtain ⟨-, h⟩ := rejectIf_bind_ok h
  obtain ⟨buffers, -, h⟩ := bind_ok h
  cases h
  refine ⟨rfl, ?_⟩
  rintro rfl
  cases hlen

/-! ### Zeroed signatures -/

def zeroKinds (kinds : List UInt32) (bs : List PacBuffer) : List PacBuffer :=
  bs.map fun b => if b.kind ∈ kinds then { b with data := zeroSignaturePayload b.data } else b

theorem length_zeroSignaturePayload (data : Str) :
    (zeroSignaturePayload data).length = data.length := by
  unfold zeroSignaturePayload
  split
  · rw [length_append, length_take, length_replicate]
    omega
  · rfl

theorem zeroSignaturePayload_idem (data : Str) :
    zeroSignaturePayload (zeroSignaturePayload data) = zeroSignaturePayload data := by
  by_cases h : data.length > 4
  · have hlen : (data.take 4).length = 4 := by
      rw [length_take]
      omega
    conv_lhs => rw [zeroSignaturePayload, length_zeroSignaturePayload, if_pos h]
    rw [zeroSignaturePayload, if_pos h, take_left' hlen]
  · rw [zeroSignaturePayload, if_neg (by rwa [length_zeroSignaturePayload])]

/-- What the layout depends on. -/
def shape (b : PacBuffer) : UInt32 × Nat :=
  (b.kind, b.data.length)

theorem layout_congr (off : Nat) (h : as.map shape = bs.map shape) :
    headers off as = headers off bs ∧ (payloads as).length = (payloads bs).length := by
  induction as generalizing off bs with
  | nil =>
    cases bs with
    | nil => exact ⟨rfl, rfl⟩
    | cons b bs => cases h
  | cons a as ih =>
    cases bs with
    | nil => cases h
    | cons b bs =>
      rw [map_cons, map_cons, cons.injEq] at h
      obtain ⟨hkind, hlen⟩ := Prod.mk.inj h.1
      obtain ⟨hheaders, hpay⟩ := ih _ h.2
      rw [headers_cons, headers_cons, hheaders, hkind, hlen, payloads_cons, payloads_cons,
        length_append, length_append, length_payload, length_payload, hpay, hlen]
      exact ⟨rfl, rfl⟩

theorem frontOf_congr (h : as.map shape = bs.map shape) : frontOf as xs = frontOf bs xs := by
  have hlen : as.length = bs.length := by simpa using congrArg length h
  rw [frontOf, frontOf, hlen, (layout_congr _ h).1]

theorem fillZero_middle (front data back : Str) (h : 4 ≤ data.length) :
    fillZero (front ++ data ++ back) (front.length + 4) (front.length + data.length)
      = front ++ zeroSignaturePayload data ++ back := by
  have htake : (front ++ data ++ back).take (front.length + 4) = front ++ data.take 4 := by
    rw [append_assoc, take_append, take_of_length_le (by omega),
      Nat.add_sub_cancel_left, take_append_of_le_length h]
  have hdrop : (front ++ data ++ back).drop (front.length + data.length) = back := by
    rw [← length_append, drop_left]
  have hzeros : front.length + data.length - (front.length + 4) = data.length - 4 := by omega
  rw [fillZero, htake, hdrop, hzeros, zeroSignaturePayload]
  split
  · simp only [append_assoc]
  · have hfour : data.length = 4 := by omega
    rw [hfour, take_of_length_le (Nat.le_of_eq hfour), Nat.sub_self, replicate_zero,
      append_nil]

/-! ### Signatures of a written PAC -/

/-- The only buffer of its kind. -/
structure Only (kind : UInt32) (bs : List PacBuffer) (data : Str) : Prop where
  found : ∃ b, bs.filter (·.kind == kind) = [b] ∧ b.kind = kind ∧ b.data = data

theorem Only.split {data : Str} (h : Only kind bs data) : ∃ xs b ys, bs = xs ++ b :: ys ∧
    b.kind = kind ∧ b.data = data ∧ ∀ c ∈ xs ++ ys, c.kind ≠ kind := by
  obtain ⟨b, hfilter, hkind, hdata⟩ := h.found
  obtain ⟨xs, ys, rfl, hxs, -, hys⟩ := filter_eq_cons_iff.mp hfilter
  refine ⟨xs, b, ys, rfl, hkind, hdata, fun c hc => ?_⟩
  rcases mem_append.mp hc with hc | hc
  · simpa using hxs c hc
  · simpa using filter_eq_nil_iff.mp hys c hc

theorem kind_place (h : ∀ c ∈ bs, c.kind ≠ kind) : ∀ c ∈ place off bs, c.kind ≠ kind:= by
  induction bs generalizing off with
  | nil => exact h
  | cons b bs ih =>
    intro c hc
    rcases mem_cons.mp hc with rfl | hc
    · exact h b mem_cons_self
    · exact ih (fun c hc => h c (mem_cons_of_mem _ hc)) c hc

theorem filter_kind_eq_nil (h : ∀ c ∈ bs, c.kind ≠ kind) : bs.filter (·.kind == kind) = [] := by
  rw [filter_eq_nil_iff]
  intro c hc
  rw [beq_iff_eq]
  exact h c hc

theorem filter_placed (hbs : bs = xs ++ b :: ys) (hb : b.kind = kind)
    (h : ∀ c ∈ xs ++ ys, c.kind ≠ kind) :
    (placed bs).buffers.filter (·.kind == kind) = [{ b with offset := offsetOf bs xs }] := by
  have hkind : (b.kind == kind) = true := beq_iff_eq.mpr hb
  have hplace : (placed bs).buffers = place _ xs ++ place (offsetOf bs xs) (b :: ys) :=
    (congrArg (place _) hbs).trans (place_append _ _ _)
  rw [hplace, place, filter_append,
    filter_kind_eq_nil (kind_place fun c hc => h c (mem_append_left _ hc)),
    filter_cons, if_pos hkind,
    filter_kind_eq_nil (kind_place fun c hc => h c (mem_append_right _ hc)), nil_append]

theorem zeroKinds_singleton_split (hb : b.kind = kind) (h : ∀ c ∈ xs ++ ys, c.kind ≠ kind) :
    zeroKinds [kind] (xs ++ b :: ys)
      = xs ++ { b with data := zeroSignaturePayload b.data } :: ys := by
  have hkeep : ∀ cs : List PacBuffer, (∀ c ∈ cs, c.kind ≠ kind) → zeroKinds [kind] cs = cs := by
    intro cs hcs
    unfold zeroKinds
    conv_rhs => rw [← map_id cs]
    apply map_congr_left
    intro c hc
    rw [if_neg (by simpa using hcs c hc), id]
  have hhead : zeroKinds [kind] (b :: ys)
      = { b with data := zeroSignaturePayload b.data } :: zeroKinds [kind] ys := by
    rw [zeroKinds, map_cons, if_pos (by simpa using hb), zeroKinds]
  have happ : zeroKinds [kind] (xs ++ b :: ys)
      = zeroKinds [kind] xs ++ zeroKinds [kind] (b :: ys) :=
    map_append
  rw [happ, hhead, hkeep xs fun c hc => h c (mem_append_left _ hc),
    hkeep ys fun c hc => h c (mem_append_right _ hc)]

theorem shape_zeroKinds (kinds : List UInt32) (bs : List PacBuffer) :
    (zeroKinds kinds bs).map shape = bs.map shape := by
  rw [zeroKinds, map_map]
  apply map_congr_left
  intro b _
  simp only [Function.comp_apply]
  split
  · rw [shape, length_zeroSignaturePayload, shape]
  · rfl

theorem zeroKinds_cons (kind : UInt32) (kinds : List UInt32) (bs : List PacBuffer) :
    zeroKinds kinds (zeroKinds [kind] bs) = zeroKinds (kind :: kinds) bs := by
  rw [zeroKinds, zeroKinds, zeroKinds, map_map]
  apply map_congr_left
  intro b _
  by_cases hkind : b.kind = kind
  · simp [hkind, zeroSignaturePayload_idem]
  · simp [hkind]

theorem split_of_shape (hshape : cur.map shape = (xs ++ b :: ys).map shape) (hb : b.kind = kind)
    (h : ∀ c ∈ xs ++ ys, c.kind ≠ kind) :
    ∃ xs' b' ys', cur = xs' ++ b' :: ys' ∧ b'.kind = kind ∧ b'.data.length = b.data.length ∧
      xs'.map shape = xs.map shape ∧ ∀ c ∈ xs' ++ ys', c.kind ≠ kind := by
  rw [map_append, map_cons] at hshape
  obtain ⟨xs', rest, rfl, hxs, hrest⟩ := map_eq_append_iff.mp hshape
  obtain ⟨b', ys', rfl, hb', hys⟩ := map_eq_cons_iff.mp hrest
  obtain ⟨hkind, hlen⟩ := Prod.mk.inj hb'
  refine ⟨xs', b', ys', rfl, hkind.trans hb, hlen, hxs, ?_⟩
  have hsame : (xs' ++ ys').map shape = (xs ++ ys).map shape := by
    rw [map_append, map_append, hxs, hys]
  intro c hc hckind
  have hmem : shape c ∈ (xs ++ ys).map shape := hsame ▸ mem_map_of_mem hc
  obtain ⟨d, hd, hdshape⟩ := mem_map.mp hmem
  exact h d hd ((Prod.mk.inj hdshape).1.trans hckind)

theorem zeroKind_placed {data : Str} (hfits : Fits bs)
    (honly : Only kind bs data) (hdata : 4 ≤ data.length) (hshape : cur.map shape = bs.map shape) :
    (placed bs).zeroKind (built 0 cur).toBytes kind
      = .ok (built 0 (zeroKinds [kind] cur)).toBytes := by
  obtain ⟨xs, b, ys, hbs, hkind, rfl, hothers⟩ := honly.split
  obtain ⟨xs', b', ys', hcur, hkind', hlen', hxs', hothers'⟩ :=
    split_of_shape (hbs ▸ hshape) hkind hothers
  have htotal : cur.length = bs.length := by simpa using congrArg length hshape
  have hoffset : ∀ {us vs}, us.map shape = vs.map shape → offsetOf cur us = offsetOf bs vs := by
    intro us vs h
    rw [offsetOf, offsetOf, htotal, (layout_congr 0 h).2]
  have hbound := hfits.offsetOf_lt
  have hle := offsetOf_add_le hbs
  have hstart : checkedAdd (offsetOf bs xs) 4 = some (offsetOf bs xs + 4) :=
    if_pos (by unfold usizeBound; omega)
  have hstop : checkedAdd (offsetOf bs xs) b.data.length = some (offsetOf bs xs + b.data.length) :=
    if_pos (by unfold usizeBound; omega)
  have hin : (decide (offsetOf bs xs + b.data.length > (built 0 cur).toBytes.length)
      || decide (offsetOf bs xs + 4 > offsetOf bs xs + b.data.length)) = false := by
    rw [length_toBytes, hoffset hshape]
    simp only [Bool.or_eq_false_iff, decide_eq_false_iff_not]
    omega
  have hzeroed : (built 0 (zeroKinds [kind] cur)).toBytes
      = frontOf cur xs' ++ zeroSignaturePayload b'.data
        ++ (replicate (padLen b'.data.length) 0 ++ payloads ys') := by
    have hzero := (congrArg (zeroKinds [kind]) hcur).trans
      (zeroKinds_singleton_split hkind' hothers')
    rw [toBytes_split hzero, frontOf_congr (shape_zeroKinds [kind] cur),
      length_zeroSignaturePayload]
  rw [zeroKind, filter_placed hbs hkind hothers]
  simp only [if_neg (Nat.not_lt.mpr hdata), hstart, hstop, hin]
  rw [if_neg (by simp), hzeroed, toBytes_split hcur, ← hoffset hxs', ← length_frontOf, ← hlen',
    fillZero_middle _ _ _ (by omega)]

/-- **The bytes under a signature of a written PAC** are those with the signatures zeroed. -/
theorem zeroIn_placed (hfits : Fits bs)
    (hkinds : ∀ kind ∈ kinds, ∃ data, Only kind bs data ∧ 4 ≤ data.length)
    (hshape : cur.map shape = bs.map shape) :
    (placed bs).zeroIn (built 0 cur).toBytes kinds
      = .ok (built 0 (zeroKinds kinds cur)).toBytes := by
  induction kinds generalizing cur with
  | nil =>
    have hnone : zeroKinds [] cur = cur := by
      simp [zeroKinds]
    rw [hnone]
    rfl
  | cons kind kinds ih =>
    obtain ⟨data, honly, hdata⟩ := hkinds kind mem_cons_self
    rw [zeroIn, foldlM_cons, zeroKind_placed hfits honly hdata hshape]
    have hrest := ih (fun k hk => hkinds k (mem_cons_of_mem _ hk))
      ((shape_zeroKinds [kind] cur).trans hshape)
    rw [zeroKinds_cons] at hrest
    exact hrest

theorem receivedZeroed_placed (hfits : Fits bs)
    (hkinds : ∀ kind ∈ kinds, ∃ data, Only kind bs data ∧ 4 ≤ data.length) :
    (placed bs).receivedZeroed kinds = .ok (built 0 (zeroKinds kinds bs)).toBytes := by
  have hraw := (parse_raw (parse_toBytes hfits)).2
  rw [receivedZeroed, if_neg (show (placed bs).raw ≠ [] from hraw)]
  exact zeroIn_placed hfits hkinds rfl

end Pac

end Kerber
