import Kerber.Kprop.RecvDatabase

/-!
# When a full propagation is all or nothing

`recvDatabase` is described by its input alone: the announced size (`announced`), the blocks that
verify (`authenticated`), and the shortest run of them that reaches the size (`taken`).
`recvDatabase_eq_ok_iff` says that the transfer succeeds exactly when the verified blocks reach
the size, and that the file then is those blocks as far as their writes went.

A failed write and a surplus of bytes are only reported to the peer, so the file that is renamed
and loaded is the announced one exactly when every write is full and the blocks add up
(`recvDatabase_all_or_nothing_iff`).
-/

namespace Kerber.Kprop

open WriteCalls

variable {σ : Type}
variable {st : RecvState σ} {rest : List ReadOutcome} {chunk : Str}

/-! ### The transfer as its input describes it -/

/-- The announced size, with the session and the input after it, when the size message is
accepted. -/
def announced (ops : AcceptorOps σ) (input : List ReadOutcome) (acceptor : σ) :
    Option (Nat × σ × List ReadOutcome) :=
  match input with
  | .message raw :: rest =>
    if isAppTag raw 30 then none
    else
      match ops.rdSafe acceptor raw with
      | .error _ => none
      | .ok (plain, acceptor) =>
        match decodeDatabaseSize plain with
        | none => none
        | some want =>
          if want > maxDumpSize then none
          else
            match ops.initIvector acceptor with
            | .error _ => none
            | .ok acceptor => some (want, acceptor, rest)
  | _ => none

/-- The blocks that verify, up to the first message that is not one. -/
def authenticated (ops : AcceptorOps σ) : List ReadOutcome → σ → List Str
  | .message raw :: rest, acceptor =>
    if isAppTag raw 30 then []
    else
      match ops.rdPriv acceptor raw with
      | .error _ => []
      | .ok (chunk, acceptor) => chunk :: authenticated ops rest acceptor
  | _, _ => []

/-- The shortest run of blocks that reaches a size. -/
def taken : Nat → List Str → List Str
  | _, [] => []
  | want, chunk :: rest => if want = 0 then [] else chunk :: taken (want - chunk.length) rest

/-- The write calls a run of blocks makes, from the `k`-th on. -/
def callsFrom (write : Nat → Str → WriteOutcome) : Nat → List Str → WriteCalls
  | _, [] => []
  | k, chunk :: rest => (chunk, write k chunk) :: callsFrom write (k + 1) rest

/-! ### Lemmas about write calls -/

@[simp] theorem blocks_callsFrom (write : Nat → Str → WriteOutcome) (k : Nat) (bs : List Str) :
    blocks (callsFrom write k bs) = bs := by
  induction bs generalizing k with
  | nil => rfl
  | cons c bs ih => simpa [callsFrom, blocks] using ih (k + 1)

theorem WriteOutcome.written_of_isFull {o : WriteOutcome} (h : o.isFull chunk = true) :
    o.written chunk = chunk := by
  cases o with
  | wrote n =>
    have hn : n = chunk.length := by simpa [WriteOutcome.isFull] using h
    simp [WriteOutcome.written, hn]
  | failed e => cases h

theorem WriteCalls.content_of_full (calls : WriteCalls) (h : ∀ c ∈ calls, c.2.isFull c.1 = true) :
    calls.content = calls.blocks.flatten := by
  induction calls with
  | nil => rfl
  | cons c calls ih =>
    have hc := WriteOutcome.written_of_isFull (h c List.mem_cons_self)
    have ih := ih fun d hd => h d (List.mem_cons_of_mem _ hd)
    simp only [content, blocks, List.flatMap_cons, List.map_cons,
      List.flatten_cons] at ih ⊢
    rw [hc, ih]

/-! ### The loop -/

section

variable (write : Nat → Str → WriteOutcome) (st : RecvState σ) (chunk : Str)

@[simp] theorem takeBlock_acceptor : (takeBlock write st chunk).acceptor = st.acceptor := by
  simp only [takeBlock]
  cases writeFailure chunk st.received (write st.out.length chunk) <;> rfl

@[simp] theorem takeBlock_received : (takeBlock write st chunk).received = st.received + chunk.length := rfl

@[simp] theorem takeBlock_out :
    (takeBlock write st chunk).out = st.out ++ [(chunk, write st.out.length chunk)] := by
  simp only [takeBlock]
  cases writeFailure chunk st.received (write st.out.length chunk) <;> rfl

end

section Loop

variable (ops : AcceptorOps σ) (closed : Str) (write : Nat → Str → WriteOutcome) (want : Nat)

theorem recvLoop_done (input : List ReadOutcome) (h : want ≤ st.received) :
    recvLoop ops closed write want input st = (.ok (), st) := by
  unfold recvLoop
  exact if_pos h

theorem recvLoop_block {raw : Str} (rest : List ReadOutcome) (h : ¬ want ≤ st.received)
    (happ : isAppTag raw 30 = false) {acceptor : σ}
    (hpriv : ops.rdPriv st.acceptor raw = .ok (chunk, acceptor)) :
    recvLoop ops closed write want (.message raw :: rest) st =
      recvLoop ops closed write want rest (takeBlock write { st with acceptor } chunk) := by
  rw [recvLoop.eq_def, if_neg h]
  dsimp only
  rw [happ, hpriv]
  rfl

theorem recvLoop_stop (input : List ReadOutcome) (h : ¬ want ≤ st.received)
    (hstop : ∀ raw rest, input = .message raw :: rest → isAppTag raw 30 = false →
      ∃ e, ops.rdPriv st.acceptor raw = .error e) :
    (recvLoop ops closed write want input st).1 ≠ .ok () ∧
      authenticated ops input st.acceptor = [] := by
  rw [recvLoop.eq_def, if_neg h]
  match input, hstop with
  | [], _ => exact ⟨nofun, rfl⟩
  | .failed true _ :: _, _ => exact ⟨nofun, rfl⟩
  | .failed false _ :: _, _ => exact ⟨nofun, rfl⟩
  | .message raw :: rest, hstop =>
    dsimp only
    cases happ : isAppTag raw 30 with
    | true =>
      refine ⟨nofun, ?_⟩
      rw [authenticated, if_pos happ]
    | false =>
      obtain ⟨e, he⟩ := hstop raw rest rfl happ
      rw [he]
      refine ⟨nofun, ?_⟩
      rw [authenticated, happ, he]
      rfl

theorem taken_zero (bs : List Str) : taken 0 bs = [] := by
  cases bs <;> rfl

/-- **The read loop** succeeds exactly when the verified blocks reach the size, and has then made
one write call for each block of the shortest run that does. -/
theorem recvLoop_spec (input : List ReadOutcome) (st : RecvState σ) :
    let blocks := authenticated ops input st.acceptor
    let res := recvLoop ops closed write want input st
    (res.1 = .ok () ↔ want ≤ st.received + blocks.flatten.length) ∧
      (res.1 = .ok () →
        res.2.out = st.out ++
          callsFrom write st.out.length (taken (want - st.received) blocks)) := by
  induction input generalizing st with
  | nil =>
    by_cases hdone : want ≤ st.received
    · simp [recvLoop_done ops closed write want _ hdone, hdone, authenticated, taken, callsFrom]
    · obtain ⟨hne, -⟩ := recvLoop_stop ops closed write want [] hdone nofun
      exact ⟨⟨fun h => absurd h hne, fun h => absurd h hdone⟩, fun h => absurd h hne⟩
  | cons m rest ih =>
    by_cases hdone : want ≤ st.received
    · have hzero : want - st.received = 0 := by omega
      simp only [recvLoop_done ops closed write want _ hdone, hzero, taken_zero, callsFrom,
        List.append_nil, implies_true, and_true, true_iff]
      omega
    by_cases hblock : ∃ raw chunk acceptor, m = .message raw ∧ isAppTag raw 30 = false ∧
        ops.rdPriv st.acceptor raw = .ok (chunk, acceptor)
    · obtain ⟨raw, chunk, acceptor, rfl, happ, hpriv⟩ := hblock
      -- One block goes to the file; the rest is the loop from the state after it.
      have ih := ih (takeBlock write { st with acceptor } chunk)
      simp only [takeBlock_acceptor, takeBlock_received, takeBlock_out] at ih
      have hsub : want - (st.received + chunk.length) = want - st.received - chunk.length := by
        omega
      have hauth : authenticated ops (.message raw :: rest) st.acceptor =
          chunk :: authenticated ops rest acceptor := by
        rw [authenticated, happ, hpriv]
        rfl
      have htaken : taken (want - st.received) (chunk :: authenticated ops rest acceptor) =
          chunk :: taken (want - st.received - chunk.length)
            (authenticated ops rest acceptor) := by
        rw [taken, if_neg (by omega)]
      rw [hsub] at ih
      simp only [hauth, htaken, recvLoop_block ops closed write want rest hdone happ hpriv,
        List.flatten_cons, List.length_append, callsFrom]
      refine ⟨by rw [ih.1]; omega, fun hok => ?_⟩
      rw [ih.2 hok]
      simp
    · obtain ⟨hne, hauth⟩ := recvLoop_stop ops closed write want (m :: rest) hdone (by
        rintro raw rest' heq happ
        cases heq
        cases hpriv : ops.rdPriv st.acceptor raw with
        | error e => exact ⟨e, rfl⟩
        | ok p => exact absurd ⟨raw, p.1, p.2, rfl, happ, hpriv⟩ hblock)
      simp only [hauth]
      exact ⟨⟨fun h => absurd h hne, fun h => absurd h (by simpa using hdone)⟩,
        fun h => absurd h hne⟩

end Loop

/-! ### The whole transfer -/

section Transfer

variable (ops : AcceptorOps σ) (closed : Str) (write : Nat → Str → WriteOutcome)
  (input : List ReadOutcome) (acceptor : σ)

/-- A transfer whose size is not accepted fails. -/
theorem recvDatabase_of_not_announced (h : announced ops input acceptor = none) (n : Nat) :
    (recvDatabase ops closed write input acceptor).1 ≠ .ok n := by
  intro hok
  cases input with
  | nil => cases hok
  | cons received rest =>
    cases received with
    | failed expired _ => cases expired <;> cases hok
    | message raw =>
      simp only [announced] at h
      simp only [recvDatabase] at hok
      split at hok
      · cases hok
      · rename_i happ
        rw [if_neg happ] at h
        cases hsafe : ops.rdSafe acceptor raw with
        | error e => simp only [hsafe, reduceCtorEq] at hok
        | ok p =>
          simp only [hsafe] at h hok
          cases hsize : decodeDatabaseSize p.1 with
          | none => simp only [hsize, reduceCtorEq] at hok
          | some want =>
            simp only [hsize] at h hok
            split at hok
            · cases hok
            · rename_i hmax
              rw [if_neg hmax] at h
              cases hiv : ops.initIvector p.2 with
              | error e => simp only [hiv, reduceCtorEq] at hok
              | ok a => rw [hiv] at h; cases h

/-- A transfer whose size is accepted ends as its read loop does, with the same file. -/
theorem recvDatabase_of_announced {want : Nat} {a : σ}
    (h : announced ops input acceptor = some (want, a, rest)) :
    let res := recvDatabase ops closed write input acceptor
    let loop := recvLoop ops closed write want rest
      { acceptor := a, received := 0, out := [], sent := [] }
    res.1 = loop.1.map (fun _ => want) ∧ res.2.out = loop.2.out := by
  match input, h with
  | .message raw :: rest', h =>
    simp only [announced] at h
    split at h
    · cases h
    rename_i happ
    split at h
    · cases h
    rename_i plain b hsafe
    split at h
    · cases h
    rename_i want' hsize
    split at h
    · cases h
    rename_i hmax
    split at h
    · cases h
    rename_i a' hiv
    cases h
    simp only [recvDatabase, if_neg happ, hsafe, hsize, if_neg hmax, hiv]
    rcases recvLoop ops closed write want rest _ with ⟨e | u, st⟩
    · exact ⟨rfl, rfl⟩
    · dsimp only
      split
      · exact ⟨rfl, rfl⟩
      · exact ⟨rfl, rfl⟩

/-- **A transfer succeeds with size `n`** exactly when `n` is announced and the blocks that verify
reach it. -/
theorem recvDatabase_eq_ok_iff (n : Nat) :
    (recvDatabase ops closed write input acceptor).1 = .ok n ↔
      ∃ a rest, announced ops input acceptor = some (n, a, rest) ∧
        n ≤ (authenticated ops rest a).flatten.length := by
  cases hann : announced ops input acceptor with
  | none =>
    have hne := recvDatabase_of_not_announced ops closed write input acceptor hann n
    exact ⟨fun h => absurd h hne, by rintro ⟨a, rest, h, -⟩; cases h⟩
  | some p =>
    obtain ⟨want, a, rest⟩ := p
    obtain ⟨hres, -⟩ := recvDatabase_of_announced ops closed write input acceptor hann
    obtain ⟨hok, -⟩ := recvLoop_spec ops closed write want rest
      { acceptor := a, received := 0, out := [], sent := [] }
    simp only [Nat.zero_add] at hok
    rw [hres]
    constructor
    · intro h
      cases hl : (recvLoop ops closed write want rest
          { acceptor := a, received := 0, out := [], sent := [] }).1 with
      | error e => rw [hl] at h; cases h
      | ok u =>
        rw [hl] at h
        cases h
        exact ⟨a, rest, rfl, hok.mp hl⟩
    · rintro ⟨a', rest', heq, hle⟩
      cases heq
      rw [hok.mpr hle]
      rfl

theorem recvDatabase_out {n : Nat} {a : σ} (hann : announced ops input acceptor = some (n, a, rest))
    (hle : n ≤ (authenticated ops rest a).flatten.length) :
    (recvDatabase ops closed write input acceptor).2.out =
      callsFrom write 0 (taken n (authenticated ops rest a)) := by
  obtain ⟨-, hout⟩ := recvDatabase_of_announced ops closed write input acceptor hann
  obtain ⟨hok, hcalls⟩ := recvLoop_spec ops closed write n rest
    { acceptor := a, received := 0, out := [], sent := [] }
  rw [hout, hcalls (hok.mpr (by simpa using hle))]
  simp

/-- What a failed transfer leaves: nothing renamed, nothing loaded. -/
theorem doit_of_error {host : HostOutcomes} {e : KpropError}
    (h : (recvDatabase ops closed write input acceptor).1 = .error e) :
    (doit ops closed write host input acceptor).renamed = none ∧
      (doit ops closed write host input acceptor).loaded = none := by
  unfold doit
  split
  · exact ⟨rfl, rfl⟩
  · rename_i heq
    rw [heq] at h
    cases h

/-- **Full propagation is all or nothing**: a transfer that succeeds leaves a file of the announced
size that is the authenticated blocks in order; one in which a write is short or fails, or whose
blocks miss the announced size, fails; and a failed one is neither renamed nor loaded. -/
structure AllOrNothing (host : HostOutcomes) : Prop where
  announced_size : ∀ n, (recvDatabase ops closed write input acceptor).1 = .ok n →
    ∃ a rest, announced ops input acceptor = some (n, a, rest)
  exact_content : ∀ n a rest, (recvDatabase ops closed write input acceptor).1 = .ok n →
    announced ops input acceptor = some (n, a, rest) →
    ∃ k, (content (recvDatabase ops closed write input acceptor).2.out) =
        ((authenticated ops rest a).take k).flatten ∧
      (content (recvDatabase ops closed write input acceptor).2.out).length = n
  full_writes : ∀ n, (recvDatabase ops closed write input acceptor).1 = .ok n →
    ∀ c ∈ (recvDatabase ops closed write input acceptor).2.out, c.2.isFull c.1 = true
  exact_size : ∀ n, (recvDatabase ops closed write input acceptor).1 = .ok n →
    (blocks (recvDatabase ops closed write input acceptor).2.out).flatten.length = n
  failed_kept : ∀ e, (recvDatabase ops closed write input acceptor).1 = .error e →
    (doit ops closed write host input acceptor).renamed = none ∧
      (doit ops closed write host input acceptor).loaded = none

/-- The input of a transfer that no write and no surplus damages: once the verified blocks reach
the announced size, the shortest run of them that does adds up to it, and its writes are full. -/
def Undamaged : Prop :=
  ∀ n a rest, announced ops input acceptor = some (n, a, rest) →
    n ≤ (authenticated ops rest a).flatten.length →
    (taken n (authenticated ops rest a)).flatten.length = n ∧
      ∀ c ∈ callsFrom write 0 (taken n (authenticated ops rest a)), c.2.isFull c.1 = true

end Transfer

/-- A run of blocks that reaches a size is a first part of all blocks. -/
theorem taken_eq_take (want : Nat) (bs : List Str) : ∃ k, taken want bs = bs.take k := by
  induction bs generalizing want with
  | nil => exact ⟨0, rfl⟩
  | cons c bs ih =>
    by_cases hw : want = 0
    · exact ⟨0, by rw [hw, taken_zero]; rfl⟩
    · obtain ⟨k, hk⟩ := ih (want - c.length)
      exact ⟨k + 1, by rw [taken, if_neg hw, hk, List.take_succ_cons]⟩

/-- **A full propagation is all or nothing exactly when** its writes are full and its blocks add
up to the announced size. -/
theorem recvDatabase_all_or_nothing_iff (ops : AcceptorOps σ) (closed : Str)
    (write : Nat → Str → WriteOutcome) (host : HostOutcomes) (input : List ReadOutcome)
    (acceptor : σ) :
    AllOrNothing ops closed write input acceptor host ↔
      Undamaged ops write input acceptor := by
  constructor
  · intro h n a rest hann hle
    have hok := (recvDatabase_eq_ok_iff ops closed write input acceptor n).mpr
      ⟨a, rest, hann, hle⟩
    have hout := recvDatabase_out ops closed write input acceptor hann hle
    have hsize := h.exact_size n hok
    have hfull := h.full_writes n hok
    rw [hout] at hsize hfull
    rw [blocks_callsFrom] at hsize
    exact ⟨hsize, hfull⟩
  · intro h
    -- Every success comes with an announced size that the verified blocks reach.
    have key : ∀ n, (recvDatabase ops closed write input acceptor).1 = .ok n →
        ∃ a rest, announced ops input acceptor = some (n, a, rest) ∧
          (recvDatabase ops closed write input acceptor).2.out =
            callsFrom write 0 (taken n (authenticated ops rest a)) ∧
          (taken n (authenticated ops rest a)).flatten.length = n ∧
          ∀ c ∈ callsFrom write 0 (taken n (authenticated ops rest a)),
            c.2.isFull c.1 = true := by
      intro n hok
      obtain ⟨a, rest, hann, hle⟩ :=
        (recvDatabase_eq_ok_iff ops closed write input acceptor n).mp hok
      obtain ⟨hsize, hfull⟩ := h n a rest hann hle
      exact ⟨a, rest, hann, recvDatabase_out ops closed write input acceptor hann hle, hsize,
        hfull⟩
    refine ⟨fun n hok => ?_, fun n a rest hok hann => ?_, fun n hok => ?_, fun n hok => ?_,
      fun e he => doit_of_error ops closed write input acceptor he⟩
    · obtain ⟨a, rest, hann, -⟩ := key n hok
      exact ⟨a, rest, hann⟩
    · obtain ⟨a', rest', hann', hout, hsize, hfull⟩ := key n hok
      rw [hann] at hann'
      cases hann'
      obtain ⟨k, hk⟩ := taken_eq_take n (authenticated ops rest a)
      refine ⟨k, ?_, ?_⟩
      · rw [hout, content_of_full _ hfull, blocks_callsFrom, hk]
      · rw [hout, content_of_full _ hfull, blocks_callsFrom, hsize]
    · obtain ⟨a, rest, -, hout, -, hfull⟩ := key n hok
      rw [hout]
      exact hfull
    · obtain ⟨a, rest, -, hout, hsize, -⟩ := key n hok
      rw [hout, blocks_callsFrom]
      exact hsize

/-! ### Two damaged transfers -/

namespace Sample

/-- A session that passes every message through. -/
def ops : AcceptorOps Unit :=
  { rdSafe := fun _ raw => .ok (raw, ()), rdPriv := fun _ raw => .ok (raw, ()),
    initIvector := fun _ => .ok () }

/-- A host on which every step after the transfer succeeds. -/
def host : HostOutcomes :=
  { rename := .ok (), downgradeLock := .ok (), load := .ok (), unlock := .ok (),
    sendAck := .ok () }

/-- A transfer that announces three bytes and sends one block. -/
def input (block : Str) : List ReadOutcome :=
  [.message [0, 0, 0, 3], .message block]

end Sample

open Sample

/-- A block longer than the announced three bytes, and one whose write fails: both transfers
succeed, and the five bytes and the empty file are renamed into place and loaded. -/
theorem damaged_dump_is_loaded :
    ((recvDatabase ops [] (fun _ c => .wrote c.length) (input [1, 2, 3, 4, 5])
        ()).1 = .ok 3 ∧
      (doit ops [] (fun _ c => .wrote c.length) host
        (input [1, 2, 3, 4, 5]) ()).loaded = some [1, 2, 3, 4, 5]) ∧
    ((recvDatabase ops [] (fun _ _ => .failed []) (input [1, 2, 3]) ()).1 = .ok 3 ∧
      (doit ops [] (fun _ _ => .failed []) host
        (input [1, 2, 3]) ()).loaded = some []) :=
  ⟨⟨rfl, rfl⟩, ⟨rfl, rfl⟩⟩

end Kerber.Kprop
