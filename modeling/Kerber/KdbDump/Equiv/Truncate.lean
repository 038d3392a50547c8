import Kerber.KdbDump.Equiv.Append
import Mathlib.Data.List.Induction

/-!
# The text up to its applied length

An append cuts the database at the applied length that `parseDump` gave and writes its batch there.
`applied_prefix_iff` says when nothing is lost by the cut.  A text without batches is applied to its
end, and one that ends in a torn batch up to that batch.  But `parseDump` takes the records behind
the last batch too, and its applied length stays at the end of the batch; the cut drops them.
-/

namespace Kerber

open List

variable {raws : List (Str × Bool)} {f f' : Fold} {t : Str}

/-- The text of a line, without the carriage return before its newline. -/
def lineText (raw : Str × Bool) : Str :=
  stripSuffix carriageReturn raw.1

/-- The policies after the policy lines among some lines. -/
def putPolicies (policies : List Str) (texts : List Str) : List Str :=
  (texts.filterMap (stripPrefix (str "policy\t"))).foldl
    (fun policies rest => putLast policyName rest policies) policies

def policiesOf (text : Str) : List Str :=
  putPolicies [] ((rawLines text).map lineText)

/-- A line that is no record of a principal: it is empty or a policy. -/
def Quiet (t : Str) : Prop :=
  t = [] ∨ (stripPrefix (str "policy\t") t).isSome

instance (t : Str) : Decidable (Quiet t) :=
  inferInstanceAs (Decidable (_ ∨ _))

def BeginsAt (text : Str) (at_ : Nat) : Prop :=
  ∃ raw ∈ (rawLines (text.drop at_)).head?, lineText raw = journalBegin

theorem putPolicies_append (policies texts more : List Str) :
    putPolicies policies (texts ++ more) = putPolicies (putPolicies policies texts) more := by
  rw [putPolicies, filterMap_append, foldl_append]
  rfl

theorem putPolicies_singleton_none (h : stripPrefix (str "policy\t") t = none)
    (policies : List Str) : putPolicies policies [t] = policies := by
  rw [putPolicies, filterMap_cons_none h]
  rfl

theorem putPolicies_singleton_some {rest : Str} (h : stripPrefix (str "policy\t") t = some rest)
    (policies : List Str) : putPolicies policies [t] = putLast policyName rest policies := by
  rw [putPolicies, filterMap_cons_some h]
  rfl

/-! ### What records do to the fold -/

namespace Fold

/-- What the fold after some lines has in common with the one before. -/
structure Follows (f : Fold) (texts : List Str) (f' : Fold) : Prop where
  policies : f'.policies = putPolicies f.policies texts
  le : f.records ≤ f'.records
  records : f'.records = f.records ↔ ∀ t ∈ texts, Quiet t
  princs : (∀ t ∈ texts, Quiet t) → f'.princs = f.princs

theorem follows_refl (f : Fold) : f.Follows [] f :=
  ⟨rfl, Nat.le_refl _, ⟨fun _ _ h => (nomatch h), fun _ => rfl⟩, fun _ => rfl⟩

theorem Follows.trans {g k : Fold} {texts more : List Str} (hf : f.Follows texts g)
    (hg : g.Follows more k) : f.Follows (texts ++ more) k := by
  have hle := hf.le
  have hle' := hg.le
  refine ⟨?_, Nat.le_trans hf.le hg.le, ?_, ?_⟩
  · rw [putPolicies_append, hg.policies, hf.policies]
  · rw [forall_mem_append, ← hf.records, ← hg.records]
    omega
  · intro hquiet
    rw [forall_mem_append] at hquiet
    rw [hg.princs hquiet.2, hf.princs hquiet.1]

theorem follows_counted (hempty : t ≠ [])
    (hpolicy : stripPrefix (str "policy\t") t = none) (hpolicies : f'.policies = f.policies)
    (hrecords : f'.records = f.records + 1) : f.Follows [t] f' := by
  have hloud : ¬ ∀ s ∈ [t], Quiet s := by
    intro hquiet
    rcases hquiet t mem_cons_self with h | h
    · exact hempty h
    · rw [hpolicy] at h
      cases h
  refine ⟨?_, by omega, ⟨fun h => by omega, fun h => absurd h hloud⟩, fun h => absurd h hloud⟩
  rw [putPolicies_singleton_none hpolicy, hpolicies]

theorem follows_record {line : Line} (h : f.record line = .ok f') : f.Follows [line.text] f' := by
  rw [record] at h
  split at h
  · rename_i hempty
    cases h
    have hquiet : ∀ t ∈ [line.text], Quiet t := fun t ht => .inl (mem_singleton.mp ht ▸ hempty)
    refine ⟨?_, Nat.le_refl _, ⟨fun _ => hquiet, fun _ => rfl⟩, fun _ => rfl⟩
    rw [putPolicies_singleton_none (by rw [hempty]; rfl)]
  · rename_i hempty
    split at h
    · rename_i rest hpolicy
      cases h
      have hquiet : ∀ t ∈ [line.text], Quiet t := fun t ht =>
        .inr (by rw [mem_singleton.mp ht, hpolicy]; rfl)
      exact ⟨(putPolicies_singleton_some hpolicy _).symm, Nat.le_refl _,
        ⟨fun _ => hquiet, fun _ => rfl⟩, fun _ => rfl⟩
    · rename_i hpolicy
      split at h
      · obtain ⟨p, _, h⟩ := bind_ok h
        obtain ⟨⟨sid, rid⟩, _, h⟩ := bind_ok h
        cases h
        exact follows_counted hempty hpolicy rfl rfl
      · split at h
        · cases h
          exact follows_counted hempty hpolicy rfl rfl
        · cases h

theorem follows_recordAll {lines : List Line} (h : f.recordAll lines = .ok f') :
    f.Follows (lines.map Line.text) f' := by
  induction lines generalizing f with
  | nil =>
    cases h
    exact follows_refl _
  | cons line lines ih =>
    obtain ⟨g, hg, h⟩ := bind_ok h
    exact (follows_record hg).trans (ih h)

end Fold

/-! ### Where the reader stood at its applied length -/

theorem not_policy_of_header {version : Nat} (h : parseHeader t = .ok version) :
    stripPrefix (str "policy\t") t = none := by
  cases hpolicy : stripPrefix (str "policy\t") t with
  | none => rfl
  | some rest =>
    rw [stripPrefix_eq_some hpolicy] at h
    cases h

theorem not_policy_of_end {crc : Str} (h : stripPrefix journalEnd t = some crc) :
    stripPrefix (str "policy\t") t = none := by
  rw [stripPrefix_eq_some h]
  rfl

namespace Reader

/-- Among the lines read, those before a batch that is not complete. -/
def Torn (raws : List (Str × Bool)) (f : Fold) (start : Line) : Prop :=
  ∃ front back applied, raws = front ++ back ∧ (run {} front).pos = start.start ∧
    (run {} front).mode = .plain f applied ∧ ∃ raw ∈ back.head?, lineText raw = journalBegin

/-- Among the lines read, those up to the last batch, and what the others did. -/
def Behind (raws : List (Str × Bool)) (f : Fold) (x : Nat) : Prop :=
  ∃ front back g, raws = front ++ back ∧ (run {} front).pos = x ∧
    (run {} front).mode = .plain g (some x) ∧ g.Follows (back.map lineText) f ∧
    ∀ raw ∈ back, lineText raw ≠ journalBegin

/-- What the mode says of the lines read. -/
def Traced (raws : List (Str × Bool)) : Mode → Prop
  | .header => raws = []
  | .plain f applied =>
    f.policies = putPolicies [] (raws.map lineText) ∧ ∀ x ∈ applied, Behind raws f x
  | .batch f start _ records =>
    putPolicies f.policies (records.map Line.text) = putPolicies [] (raws.map lineText) ∧
      Torn raws f start
  | .failed f start => Torn raws f start
  | .error _ => True

theorem Torn.more {start : Line} (h : Torn raws f start)
    (raw : Str × Bool) : Torn (raws ++ [raw]) f start := by
  obtain ⟨front, back, applied, rfl, hpos, hmode, first, hfirst, hbegin⟩ := h
  refine ⟨front, back ++ [raw], applied, append_assoc .., hpos, hmode, first, ?_, hbegin⟩
  rw [head?_append, hfirst]
  rfl

theorem Behind.more {x : Nat} (h : Behind raws f x)
    {raw : Str × Bool} (hf : f.Follows [lineText raw] f') (hraw : lineText raw ≠ journalBegin) :
    Behind (raws ++ [raw]) f' x := by
  obtain ⟨front, back, g, rfl, hpos, hmode, hg, hback⟩ := h
  refine ⟨front, back ++ [raw], g, append_assoc .., hpos, hmode, ?_, ?_⟩
  · rw [map_append]
    exact hg.trans hf
  · exact forall_mem_append.mpr ⟨hback, fun r hr => mem_singleton.mp hr ▸ hraw⟩

theorem putPolicies_more (raws : List (Str × Bool)) (raw : Str × Bool) :
    putPolicies [] ((raws ++ [raw]).map lineText)
      = putPolicies (putPolicies [] (raws.map lineText)) [lineText raw] := by
  rw [map_append, putPolicies_append]
  rfl

theorem traced_step (h : Traced raws (run {} raws).mode)
    (raw : Str × Bool) : Traced (raws ++ [raw]) (run {} (raws ++ [raw])).mode := by
  have hrun : run {} (raws ++ [raw]) = (run {} raws).step raw := run_append ..
  have hstop : ((run {} raws).step raw).pos = (Line.mkAt (run {} raws).no (run {} raws).pos raw).stop :=
    rfl
  have hmode : (run {} (raws ++ [raw])).mode = (run {} raws).mode.step
      (Line.mkAt (run {} raws).no (run {} raws).pos raw) (unline raw) := by rw [hrun]; rfl
  have htext : (Line.mkAt (run {} raws).no (run {} raws).pos raw).text = lineText raw := rfl
  set line := Line.mkAt (run {} raws).no (run {} raws).pos raw with hline
  have hturn := (run {} raws).mode.turns_step line (unline raw)
  rw [← hmode] at hturn
  generalize hbefore : (run {} raws).mode = before at h hturn
  generalize hafter : (run {} (raws ++ [raw])).mode = after at hturn ⊢
  cases hturn with
  | version hversion =>
    obtain rfl : raws = [] := h
    refine ⟨?_, fun _ hx => (nomatch hx)⟩
    rw [putPolicies_more, ← htext, putPolicies_singleton_none (not_policy_of_header hversion)]
    rfl
  | @begins f applied hbegin =>
    refine ⟨?_, raws, [raw], applied, rfl, rfl, hbefore, raw, rfl, hbegin⟩
    rw [putPolicies_more, ← htext, hbegin, putPolicies_singleton_none rfl, ← h.1]
    rfl
  | @record f applied hbegin =>
    cases hrecord : f.record line with
    | error e => trivial
    | ok f' =>
      have hfollows := Fold.follows_record hrecord
      refine ⟨?_, fun x hx => (h.2 x hx).more hfollows hbegin⟩
      rw [putPolicies_more, hfollows.policies, h.1, htext]
  | @closes f _ _ _ records hend =>
    cases hrecords : f.recordAll records with
    | error e => trivial
    | ok f' =>
      -- the batch is complete: the applied length is where the reader now stands
      rw [hrecords] at hafter
      refine ⟨?_, ?_⟩
      · rw [putPolicies_more, ← htext, putPolicies_singleton_none (not_policy_of_end hend),
          (Fold.follows_recordAll hrecords).policies, h.1]
      · rintro x ⟨⟩
        exact ⟨raws ++ [raw], [], f', (append_nil _).symm, by rw [hrun, hstop], hafter,
          f'.follows_refl, fun _ hr => (nomatch hr)⟩
  | more =>
    refine ⟨?_, h.2.more raw⟩
    rw [putPolicies_more, ← h.1, ← htext, ← putPolicies_append, map_append]
    rfl
  | givesUp => exact h.2.more raw
  | stays => exact Torn.more h raw
  | _ => trivial

theorem traced_run (raws : List (Str × Bool)) : Traced raws (run {} raws).mode := by
  induction raws using reverseRecOn with
  | nil => rfl
  | append_singleton raws raw ih => exact traced_step ih raw

end Reader

/-! ### The cut -/

section Cut

open Reader

variable {text : Str} {front back : List (Str × Bool)} {x : Nat}

theorem cut_text (h : rawLines text = front ++ back) (hpos : (run {} front).pos = x) :
    text.take x = front.flatMap unline ∧ rawLines (text.take x) = front ∧
      rawLines (text.drop x) = back := by
  obtain ⟨htext, hfront, hback⟩ := rawLines_split h
  have hlen : (front.flatMap unline).length = x := by
    rw [← hpos, pos_run]
    exact (Nat.zero_add _).symm
  have htake : text.take x = front.flatMap unline := by
    rw [htext, ← hlen, take_left]
  have hdrop : text.drop x = back.flatMap unline := by
    rw [htext, ← hlen, drop_left]
  exact ⟨htake, by rw [htake, hfront], by rw [hdrop, hback]⟩

/-- What the first part reads as when the reader was between records there. -/
theorem parseDump_cut (h : rawLines text = front ++ back) (hpos : (run {} front).pos = x)
    {g : Fold} {applied : Option Nat} (hmode : (run {} front).mode = .plain g applied) :
    ∃ d', parseDump (text.take x) = .ok d' ∧ d'.princs = g.princs ∧ d'.policies = g.policies ∧
      d'.records = g.records := by
  obtain ⟨-, hfront, -⟩ := cut_text h hpos
  refine ⟨g.file (run {} front).version (applied.getD (text.take x).length), ?_, rfl, rfl, rfl⟩
  rw [parseDump_eq, readText, hfront, finish, hmode]

/-- The first part reads with the same principals, policies and number of records. -/
def CutReads (text : Str) (d : DumpFile) : Prop :=
  ∃ d', parseDump (text.take d.appliedLen) = .ok d' ∧ d'.princs = d.princs ∧
    d'.policies = d.policies ∧ d'.records = d.records

theorem cutReads_of_torn {start : Line} (h : Torn (rawLines text) f start) (version : Nat) :
    CutReads text (f.file version start.start) ∧ BeginsAt text start.start := by
  obtain ⟨front, back, applied, hraws, hpos, hmode, raw, hraw, hbegin⟩ := h
  obtain ⟨-, -, hback⟩ := cut_text hraws hpos
  refine ⟨parseDump_cut hraws hpos hmode, raw, ?_, hbegin⟩
  rw [hback]
  exact hraw

/-- Behind the last batch the cut keeps everything only when what follows changes nothing. -/
theorem cutReads_behind_iff (h : Behind (rawLines text) f x)
    (hf : f.policies = policiesOf text) (version : Nat) :
    CutReads text (f.file version x) ↔
      (∀ raw ∈ rawLines (text.drop x), Quiet (lineText raw)) ∧
        policiesOf (text.take x) = policiesOf text := by
  obtain ⟨front, back, g, hraws, hpos, hmode, hg, -⟩ := h
  obtain ⟨d', hd', h1, h2, h3⟩ := parseDump_cut hraws hpos hmode
  obtain ⟨-, hfront, hback⟩ := cut_text hraws hpos
  have hgpolicies : g.policies = policiesOf (text.take x) := by
    have htraced := traced_run front
    rw [hmode] at htraced
    rw [htraced.1, policiesOf, hfront]
  have hquiet : (∀ t ∈ back.map lineText, Quiet t) ↔ ∀ raw ∈ back, Quiet (lineText raw) :=
    forall_mem_map
  rw [hback, ← hquiet, ← hgpolicies, ← hf, ← hg.records]
  constructor
  · rintro ⟨e, he, -, hepolicies, herecords⟩
    cases hd'.symm.trans he
    exact ⟨herecords.symm.trans h3, h2.symm.trans hepolicies⟩
  · rintro ⟨hsame, hkept⟩
    have hprincs : f.princs = g.princs := hg.princs (hg.records.mp hsame)
    exact ⟨d', hd', h1.trans hprincs.symm, h2.trans hkept, h3.trans hsame.symm⟩

theorem not_beginsAt_of_behind (h : Behind (rawLines text) f x) : ¬ BeginsAt text x := by
  obtain ⟨front, back, g, hraws, hpos, -, -, hplain⟩ := h
  obtain ⟨-, -, hback⟩ := cut_text hraws hpos
  rintro ⟨raw, hraw, hbegin⟩
  rw [hback] at hraw
  exact hplain raw (mem_of_head? hraw) hbegin

/-- **When an append drops nothing.**  The text up to its applied length reads with the same
principals, policies and number of records exactly when a batch that was torn begins there, or when
what stands behind it are empty lines and policies that were there before. -/
theorem applied_prefix_iff {d : DumpFile} (h : parseDump text = .ok d) :
    CutReads text d ↔ BeginsAt text d.appliedLen ∨
      (∀ raw ∈ rawLines (text.drop d.appliedLen), Quiet (lineText raw)) ∧
        policiesOf (text.take d.appliedLen) = policiesOf text := by
  have htraced := traced_run (rawLines text)
  have hparse := h
  rw [parseDump_eq, readText, finish] at h
  cases hmode : (run {} (rawLines text)).mode with
  | header =>
    rw [hmode] at h
    cases h
  | error e =>
    rw [hmode] at h
    cases h
  | plain f applied =>
    rw [hmode] at h htraced
    obtain ⟨hf, hbehind⟩ := htraced
    cases applied with
    | none =>
      cases h
      -- no batch was read, and nothing stands behind the applied length
      have hlen : (f.file (run {} (rawLines text)).version text.length).appliedLen = text.length := rfl
      rw [Option.getD_none] at hparse ⊢
      rw [CutReads, hlen, List.take_length, List.drop_length]
      exact ⟨fun _ => .inr ⟨List.forall_mem_nil _, rfl⟩, fun _ => ⟨_, hparse, rfl, rfl, rfl⟩⟩
    | some x =>
      cases h
      have hx := hbehind x rfl
      have hbegins : ¬ BeginsAt text x := not_beginsAt_of_behind hx
      exact (cutReads_behind_iff hx hf _).trans (or_iff_right hbegins).symm
  | batch f start body records =>
    rw [hmode] at h htraced
    cases h
    obtain ⟨hcut, hbegins⟩ := cutReads_of_torn htraced.2 (run {} (rawLines text)).version
    exact ⟨fun _ => .inl hbegins, fun _ => hcut⟩
  | failed f start =>
    rw [hmode] at h htraced
    cases h
    obtain ⟨hcut, hbegins⟩ := cutReads_of_torn htraced (run {} (rawLines text)).version
    exact ⟨fun _ => .inl hbegins, fun _ => hcut⟩

end Cut

namespace Sample

/-- The database with the deletion of `alice@R` behind it. -/
def changed : Str := text ++ batch

/-- The same, and a record of `alice@R` behind the batch. -/
def readded : Str :=
  changed ++ (writePrincRecord env [] store mkey false alice).toOption.getD []

def dumpOf (text : Str) : DumpFile :=
  (parseDump text).toOption.getD ⟨0, [], [], 0, 0, 0⟩

end Sample

open Sample

/-- Nothing is lost when the batch is the last of the text, or a torn one follows it. -/
theorem applied_prefix_at_sample :
    CutReads changed (dumpOf changed) ∧
      CutReads (changed ++ str "begin\ndel\tbob@R") (dumpOf changed) := by
  have hchanged : parseDump changed = .ok (dumpOf changed) := by decide +kernel
  have htorn : parseDump (changed ++ str "begin\ndel\tbob@R")
      = .ok (dumpOf changed) := by decide +kernel
  have hlen : (dumpOf changed).appliedLen = changed.length := by decide +kernel
  refine ⟨(applied_prefix_iff hchanged).mpr (.inr ?_), (applied_prefix_iff htorn).mpr (.inl ?_)⟩
  · rw [hlen, List.drop_length, List.take_length]
    exact ⟨fun _ h => (nomatch h), rfl⟩
  · rw [hlen, BeginsAt, List.drop_left]
    exact ⟨(str "begin", true), by decide +kernel, by decide⟩

/-- A record behind the last batch is read, and an append cuts it off. -/
theorem record_behind_batch_is_cut :
    parseDump readded = .ok (dumpOf readded) ∧
      ((dumpOf readded).princ (str "alice@R")).isSome ∧
      (dumpOf readded).appliedLen = changed.length ∧
      parseDump (readded.take (dumpOf readded).appliedLen)
        = .ok (dumpOf changed) ∧
      (dumpOf changed).princ (str "alice@R") = none ∧
      ¬ CutReads readded (dumpOf readded) := by
  have hcut : parseDump (readded.take (dumpOf readded).appliedLen)
      = .ok (dumpOf changed) := by decide +kernel
  have hprincs : (dumpOf changed).princs ≠ (dumpOf readded).princs := by
    decide +kernel
  refine ⟨by decide +kernel, by decide +kernel, by decide +kernel, hcut, by decide +kernel, ?_⟩
  rintro ⟨d', hd', hsame, -⟩
  have heq : dumpOf changed = d' := Except.ok.inj (hcut.symm.trans hd')
  rw [heq] at hprincs
  exact hprincs hsame

end Kerber
