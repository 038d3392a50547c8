import Kerber.Issue.TgsReq

/-!
# What the flags of an issued ticket can be

`getTicketFlags_header_spec` says where each flag of a ticket issued from a header ticket comes
from, `kdcGetTicketRenewtime_flags` what the renew-time helper does to it, and
`checkTgsConstraintsSkeleton_ok` what a request that passed the constraints looks like.  Put
together over `issueTgsBody` they give that no flag escalates (`issueTgsBody_flags_le`).
-/

namespace Kerber.Issue

open FlagBit

variable {req : KdcOptions} {f h : TicketFlags} {server : Principal} {m : Nat}

open KerberosFlags

variable {client : Option Principal} {b : Nat}

/-! ### Conditional updates -/

/-- A conditional clear sets nothing, and clears its bit when the condition holds. -/
theorem of_bit_setIf_false {c : Bool} (h : (setIf c b false f).bit m = true) :
    f.bit m = true ∧ (b = m → c = false) := by
  cases c with
  | false => exact ⟨h, fun _ => rfl⟩
  | true =>
    rw [setIf, if_pos rfl] at h
    refine ⟨?_, ?_⟩
    · rcases bit_of_bit_withBit h with ⟨_, hon⟩ | hf
      · cases hon
      · exact hf
    · rintro rfl
      rw [bit_withBit_false] at h
      cases h

theorem of_bit_setIf_true {c : Bool} (h : (setIf c b true f).bit m = true) :
    f.bit m = true ∨ (b = m ∧ c = true) := by
  cases c with
  | false => exact .inl h
  | true =>
    rcases bit_of_bit_withBit h with ⟨hb, _⟩ | hf
    · exact .inr ⟨hb, rfl⟩
    · exact .inl hf

/-- A set bit survives a conditional update that would not clear it. -/
theorem bit_setIf_of_bit {c on : Bool} (hf : f.bit m = true) (hc : c = true → b = m → on = true) :
    (setIf c b on f).bit m = true := by
  cases c with
  | false => exact hf
  | true => exact bit_withBit_of_bit hf (hc rfl)

@[simp] theorem length_setIf (c : Bool) (b : Nat) (on : Bool) (f : TicketFlags) :
    (setIf c b on f).bits.length = f.bits.length := by
  cases c <;> simp [setIf]

/-- A run of copies adds only flags it copies. -/
theorem of_bit_foldl_copy (bs : List Nat) :
    ∀ {f : TicketFlags}, (bs.foldl (fun f b => setIf (h.bit b) b true f) f).bit m = true →
      f.bit m = true ∨ (m ∈ bs ∧ h.bit m = true) := by
  induction bs with
  | nil => exact fun hm => .inl hm
  | cons b bs ih =>
    intro f hm
    rcases ih hm with hf | ⟨hmem, hh⟩
    · rcases of_bit_setIf_true hf with hf | ⟨rfl, hh⟩
      · exact .inl hf
      · exact .inr ⟨List.mem_cons_self, hh⟩
    · exact .inr ⟨List.mem_cons_of_mem _ hmem, hh⟩

/-- A run of copies keeps what is set. -/
theorem bit_foldl_copy_of_bit (bs : List Nat) :
    ∀ {f : TicketFlags}, f.bit m = true →
      (bs.foldl (fun f b => setIf (h.bit b) b true f) f).bit m = true := by
  induction bs with
  | nil => exact fun hf => hf
  | cons b bs ih => exact fun hf => ih (bit_setIf_of_bit hf (fun _ _ => rfl))

/-- A run of copies copies every flag it names that the string has room for. -/
theorem bit_foldl_copy (hh : h.bit m = true) (bs : List Nat) :
    ∀ {f : TicketFlags}, m ∈ bs → m < f.bits.length →
      (bs.foldl (fun f b => setIf (h.bit b) b true f) f).bit m = true := by
  induction bs with
  | nil => exact fun hm => absurd hm List.not_mem_nil
  | cons b bs ih =>
    intro f hm hlen
    rcases List.mem_cons.mp hm with rfl | hm
    · refine bit_foldl_copy_of_bit bs (f := setIf (h.bit m) m true f) ?_
      rw [hh, setIf, if_pos rfl, bit_withBit, if_pos ⟨rfl, hlen⟩]
    · exact ih hm (by simpa using hlen)

@[simp] theorem length_optsToFlags (req : KdcOptions) : (optsToFlags req).bits.length = 32 := by
  unfold optsToFlags
  split <;> simp

/-- The options a ticket takes over as flags of the same number. -/
def optionFlags : List Nat :=
  [FlagBit.forwardable, forwarded, FlagBit.proxiable, proxy,
    mayPostdate, postdated, anonymous]

/-- Every flag `optsToFlags` sets is an option of the request, `enc-pa-rep`, or INVALID for a
postdated ticket. -/
theorem of_bit_optsToFlags (h : (optsToFlags req).bit m = true) :
    (m ∈ optionFlags ∧ req.bit m = true) ∨ m = encPaRep ∨
      (m = FlagBit.invalid ∧ req.bit postdated = true) := by
  have peel : (KerberosFlags.none
      |>.withBit FlagBit.forwardable (req.bit FlagBit.forwardable)
      |>.withBit forwarded (req.bit forwarded)
      |>.withBit FlagBit.proxiable (req.bit FlagBit.proxiable)
      |>.withBit proxy (req.bit proxy)
      |>.withBit mayPostdate (req.bit mayPostdate)
      |>.withBit postdated (req.bit postdated)
      |>.withBit anonymous (req.bit anonymous)
      |>.withBit encPaRep true).bit m = true →
      (m ∈ optionFlags ∧ req.bit m = true) ∨ m = encPaRep := by
    intro hm
    rcases bit_of_bit_withBit hm with ⟨rfl, _⟩ | hm
    · exact .inr rfl
    refine .inl ?_
    -- The remaining updates each carry an option over under its own number.
    iterate 7
      rcases bit_of_bit_withBit hm with ⟨rfl, hon⟩ | hm
      · exact ⟨by decide, hon⟩
    rw [bit_none] at hm
    cases hm
  unfold optsToFlags at h
  split at h
  · rename_i hp
    rcases bit_of_bit_withBit h with ⟨rfl, _⟩ | h
    · exact .inr (.inr ⟨rfl, hp⟩)
    · rcases peel h with h | h
      · exact .inl h
      · exact .inr (.inl h)
  · rcases peel h with h | h
    · exact .inl h
    · exact .inr (.inl h)

/-! ### `get_ticket_flags` -/

/-- **Where a flag of a plain TGS ticket comes from**: it is an option of the request, a flag
copied from the header, `enc-pa-rep`, OK_AS_DELEGATE of the server, or INVALID of a postdated
ticket; and FORWARDABLE, PROXIABLE and ANONYMOUS need the header's consent. -/
theorem of_bit_headerFlags (hm : (headerFlags h server (optsToFlags req)).bit m = true) :
    ((m ∈ optionFlags ∧ req.bit m = true) ∨ m = encPaRep ∨
        (m = FlagBit.invalid ∧ req.bit postdated = true) ∨
        (m ∈ copiedFlags ∧ h.bit m = true) ∨ m = okAsDelegate) ∧
      (m ∈ [FlagBit.proxiable, FlagBit.forwardable, anonymous] → h.bit m = true) := by
  obtain ⟨hm, hanon⟩ := of_bit_setIf_false hm
  obtain ⟨hm, hfwd⟩ := of_bit_setIf_false hm
  obtain ⟨hm, hprox⟩ := of_bit_setIf_false hm
  refine ⟨?_, ?_⟩
  · rcases of_bit_setIf_true hm with hm | ⟨rfl, _⟩
    · rcases of_bit_foldl_copy copiedFlags hm with hm | hm
      · rcases of_bit_optsToFlags hm with hm | hm | hm
        · exact .inl hm
        · exact .inr (.inl hm)
        · exact .inr (.inr (.inl hm))
      · exact .inr (.inr (.inr (.inl hm)))
    · exact .inr (.inr (.inr (.inr rfl)))
  · intro hmem
    simp only [List.mem_cons, List.not_mem_nil, or_false] at hmem
    rcases hmem with rfl | rfl | rfl
    · simpa [KerberosFlags.proxiable] using hprox rfl
    · simpa [KerberosFlags.forwardable] using hfwd rfl
    · simpa using hanon rfl

/-- FORWARDED, PROXY, PRE_AUTHENT, HW_AUTHENT and ANONYMOUS of the header are kept. -/
theorem bit_headerFlags_of_header (hmem : m ∈ copiedFlags) (hh : h.bit m = true) :
    (headerFlags h server (optsToFlags req)).bit m = true := by
  have hlen : m < (optsToFlags req).bits.length := by
    rw [length_optsToFlags]
    clear hh
    revert m
    decide
  have hprox : FlagBit.proxiable ≠ m := by rintro rfl; revert hmem; decide
  have hfwd : FlagBit.forwardable ≠ m := by rintro rfl; revert hmem; decide
  refine bit_setIf_of_bit (bit_setIf_of_bit (bit_setIf_of_bit (bit_setIf_of_bit
    (bit_foldl_copy hh copiedFlags hmem hlen) ?_) ?_) ?_) ?_
  · exact fun _ _ => rfl
  · exact fun _ he => absurd he hprox
  · exact fun _ he => absurd he hfwd
  · rintro hc rfl
    simp [hh] at hc

/-- The attributes of the client and the server only clear flags. -/
theorem of_bit_limitFlags (h : (limitFlags client server f).bit m = true) : f.bit m = true :=
  (of_bit_setIf_false (of_bit_setIf_false h).1).1

/-- The attributes leave every flag but PROXIABLE and FORWARDABLE alone. -/
theorem bit_limitFlags_of_bit (hf : f.bit m = true) (hprox : FlagBit.proxiable ≠ m)
    (hfwd : FlagBit.forwardable ≠ m) : (limitFlags client server f).bit m = true :=
  bit_setIf_of_bit (bit_setIf_of_bit hf fun _ he => absurd he hprox) fun _ he => absurd he hfwd

/-- The flags of a renewed or validated ticket are the header's without INVALID. -/
theorem getTicketFlags_again (client : Option Principal) (server : Principal)
    (h : TicketFlags) (hreq : (req.bit validate || req.bit renew) = true) :
    getTicketFlags req client server (some h) = h.withBit FlagBit.invalid false := by
  simp only [getTicketFlags, hreq, if_true]

theorem getTicketFlags_plain (client : Option Principal) (server : Principal)
    (h : TicketFlags) (hreq : (req.bit validate || req.bit renew) = false) :
    getTicketFlags req client server (some h) =
      limitFlags client server (headerFlags h server (optsToFlags req)) := by
  simp only [getTicketFlags, hreq, Bool.false_eq_true, if_false]

/-! ### The renew-time helper -/

/-- `kdc_get_ticket_renewtime` touches RENEWABLE only, and sets it only with a renew-till and,
when there is a header ticket, only from a renewable one. -/
theorem kdcGetTicketRenewtime_spec (store : PrincipalRead) (body : KdcReqBody)
    (header : Option EncTicketPart) (client : Option Principal) (server : Principal)
    (flags : TicketFlags) (start fin : KerberosTime) :
    (∀ m, FlagBit.renewable ≠ m →
      (kdcGetTicketRenewtime store body header client server flags start fin).2.bit m =
        flags.bit m) ∧
    ((kdcGetTicketRenewtime store body header client server flags start fin).2.bit
        FlagBit.renewable = true →
      (kdcGetTicketRenewtime store body header client server flags start fin).1.isSome = true ∧
        ∀ h, header = some h → h.flags.renewable = true) := by
  have cleared : ∀ m, FlagBit.renewable ≠ m →
      (flags.withBit FlagBit.renewable false).bit m = flags.bit m :=
    fun m hm => bit_withBit_ne flags hm false
  have unset : (flags.withBit FlagBit.renewable false).bit FlagBit.renewable ≠ true := by simp
  simp only [kdcGetTicketRenewtime]
  split
  · exact ⟨cleared, fun h => absurd h unset⟩
  split
  · exact ⟨cleared, fun h => absurd h unset⟩
  rename_i hren
  have renewable : ∀ h, header = some h → h.flags.renewable = true := by
    rintro h rfl
    simpa using hren
  split
  · exact ⟨cleared, fun h => absurd h unset⟩
  split
  · exact ⟨cleared, fun h => absurd h unset⟩
  · refine ⟨fun m hm => ?_, fun _ => ⟨rfl, renewable⟩⟩
    rw [bit_withBit_ne _ hm, cleared m hm]

/-! ### Requests that passed the constraints -/

/-- **What `check_tgs_constraints_skeleton` guarantees.** -/
structure SkeletonOk (now : KerberosTime) (body : KdcReqBody) (encTkt : EncTicketPart)
    (renew validate : Bool) : Prop where
  postdatable : body.kdcOptions.bit mayPostdate = true ∨
      body.kdcOptions.bit postdated = true → encTkt.flags.bit mayPostdate = true
  renewable : renew = true → encTkt.flags.renewable = true
  invalid : encTkt.flags.invalid = true → validate = true
  started : validate = true → encTkt.start.timestamp ≤ now.timestamp
  unexpired : renew = true → ∃ till, encTkt.renewTill = some till ∧
      now.unixSeconds < till.unixSeconds

theorem checkTgsConstraintsSkeleton_ok {now : KerberosTime} {body : KdcReqBody}
    {headerSname : PrincipalName} {headerRealm : Str} {encTkt : EncTicketPart}
    {reqSname : PrincipalName} {reqRealm : Str} {renew validate : Bool}
    (h : checkTgsConstraintsSkeleton now body headerSname headerRealm encTkt reqSname reqRealm
      renew validate = .ok ()) : SkeletonOk now body encTkt renew validate := by
  obtain ⟨-, h⟩ := rejectIf_bind_ok h
  obtain ⟨-, h⟩ := rejectIf_bind_ok h
  obtain ⟨hpost, h⟩ := rejectIf_bind_ok h
  obtain ⟨-, h⟩ := rejectIf_bind_ok h
  obtain ⟨hren, h⟩ := rejectIf_bind_ok h
  obtain ⟨hinv, h⟩ := rejectIf_bind_ok h
  obtain ⟨hstart, h⟩ := rejectIf_bind_ok h
  obtain ⟨hexp, -⟩ := rejectIf_bind_ok h
  refine ⟨?_, ?_, ?_, ?_, ?_⟩
  · intro hopt
    rcases hopt with hopt | hopt <;> simpa [hopt] using hpost
  · rintro rfl
    simpa using hren
  · intro hi
    simpa [hi] using hinv
  · rintro rfl
    have hdelta : ¬ now.deltaSeconds encTkt.start < 0 := by simpa using hstart
    unfold KerberosTime.deltaSeconds at hdelta
    omega
  · rintro rfl
    cases htill : encTkt.renewTill with
    | none => simp [htill] at hexp
    | some till => exact ⟨till, rfl, by simpa [htill] using hexp⟩

end Kerber.Issue
