import Kerber.Issue.Equiv.As

/-!
# Tickets along a chain of exchanges

A client gets a ticket by an AS exchange, and others by TGS exchanges, each with a ticket it got before.
`preauth_traced`: a ticket that says PRE_AUTHENT, however many exchanges later, goes back to an AS
exchange in which a mechanism has verified the client.
-/

namespace Kerber.Issue

open FlagBit

/-- The tickets that go back to the one of an AS exchange: a TGS exchange comes with one of them, as the
KDC reads it again. -/
inductive Descends (s₀ : As.Steps) : TicketPart → Prop
  | initial : Descends s₀ s₀.part
  | next {s : Tgs.Steps} (h : Descends s₀ part) (hs : Tgs.steps run req raw sender = .ok s)
      (wire : part.toEncTicketPart.reread = some s.headerTkt.toEncTicketPart) : Descends s₀ s.part

variable {m : Nat}

/-- A guarded flag of an issued ticket is one of the header. -/
theorem header_of_guarded {env : TgsEnv} {body : KdcReqBody} {header : HeaderTgt} {ticket : EncTicketPart}
    (h : issueTgsBody env body header = .ok ticket) (hm : m ∈ guardedFlags)
    (hb : ticket.flags.bit m = true) : header.encTkt.flags.bit m = true := by
  obtain ⟨run⟩ := issueTgsBody_ok h
  have hok := run.skeleton_ok
  rw [congrArg EncTicketPart.flags run.ticket_eq] at hb
  rw [← run.encTkt_eq] at hok ⊢
  have hb := bit_adjustedFlags.1 hb
  cases hagain : (run.g.renew || run.g.validate) with
  | true =>
    obtain ⟨hsame, hren, -⟩ :=
      ticketTimes_flags_again run.times_ok run.renew_eq run.validate_eq hagain
    by_cases hmr : m = FlagBit.renewable
    · subst hmr
      exact hren hb
    · rwa [← hsame m (guardedFlags_not_settled m hm hmr)]
  | false =>
    obtain ⟨hr, hv⟩ : run.g.renew = false ∧ run.g.validate = false := by simpa using hagain
    obtain ⟨hsame, hren⟩ := ticketTimes_flags_plain run.times_ok run.renew_eq run.validate_eq hr hv
    by_cases hmr : m = FlagBit.renewable
    · subst hmr
      exact hren hb
    · rw [hsame m (guardedFlags_not_settled m hm hmr)] at hb
      exact header_of_headerFlags hok hm hmr (of_bit_limitFlags hb)

theorem flags_reread {t u : EncTicketPart} (h : t.reread = some u) : u.flags = t.flags := by
  simp only [EncTicketPart.reread, Option.bind_eq_bind, Option.pure_def, Option.bind_eq_some_iff] at h
  obtain ⟨_, -, _, -, _, -, _, -, hu⟩ := h
  cases hu
  rfl

/-- **No guarded flag appears along a chain.** -/
theorem Descends.flags_le {s₀ : As.Steps} {part : TicketPart} (h : Descends s₀ part)
    (hm : m ∈ guardedFlags) (hb : part.flags.bit m = true) : s₀.part.flags.bit m = true := by
  induction h with
  | initial => exact hb
  | next _ hs wire ih =>
    have hheader := header_of_guarded (Tgs.trace_of_steps hs).issueTgsBody_env hm hb
    apply ih
    rwa [show _ = _ from flags_reread wire] at hheader

/-- **PRE_AUTHENT is earned.** -/
theorem preauth_traced {run : As.Run} {req : Tgs.Req} {raw : Option Str} {s₀ : As.Steps}
    {part : TicketPart} (h₀ : As.steps run req raw = .ok s₀) (h : Descends s₀ part)
    (hb : part.flags.bit preAuthent = true) : ∃ mech : As.Mechanism, mech.Verified run s₀ := by
  have t := As.trace_of_steps h₀
  have hinitial := h.flags_le (by decide) hb
  rw [t.part_flags, (As.bit_asTimes t.times).1] at hinitial
  exact t.skipTimestamp_iff.mp hinitial

/-- The ticket of `timestampReq`. -/
def firstPart : TicketPart :=
  ((As.steps As.timestampRun As.timestampReq none).map (·.part)).toOption.getD Tgs.aliceTgt

/-- A TGS exchange with it. -/
def afterBody : ReqBody := plainBody [] [str "http", str "web"] 0 none

def afterRun : Tgs.Run :=
  Tgs.plainRun [plainEntry [str "http", str "web"] serverKeyA]
    (Tgs.plainHeader (str "R") firstPart afterBody) none

theorem preauth_traced_service :
    ∃ s₀ s, As.steps As.timestampRun As.timestampReq none = .ok s₀ ∧
      Tgs.steps afterRun (Tgs.plainReq afterBody) none none = .ok s ∧
      ∃ mech : As.Mechanism, mech.Verified As.timestampRun s₀ := by
  have h₀ : (As.steps As.timestampRun As.timestampReq none).isOk = true := by decide +kernel
  have hs : (Tgs.steps afterRun (Tgs.plainReq afterBody) none none).isOk = true := by decide +kernel
  obtain ⟨s₀, h₀⟩ := exists_of_isOk h₀
  obtain ⟨s, hs⟩ := exists_of_isOk hs
  refine ⟨s₀, s, h₀, hs, preauth_traced h₀ (.next .initial hs ?_) ?_⟩
  · rw [map_ok_inj (f := fun s => s.headerTkt) hs (b := firstPart) (by decide +kernel)]
    refine map_ok_inj (f := fun s => s.part.toEncTicketPart.reread) h₀ ?_
    decide +kernel
  · exact map_ok_inj (f := fun s => s.part.flags.bit preAuthent) hs (b := true) (by decide +kernel)

end Kerber.Issue
