import Kerber.Lib.Except
import Kerber.Types.Equiv.Str
import Kerber.Types.NameText

/-!
# Which name an id stands for

Parsing an unparsed name gives the name back (`parseName_unparseName`).  The id a principal is looked
up under is such a text, but for an enterprise name that ends in the realm, which is taken as it is:
`principal_id_unambiguous` says for which names the id parses back to what was meant, and that among
these no id stands for two.
-/

namespace Kerber

open List

variable {s realm : Str} {sep : UInt8}
variable {b : UInt8} {user : Str} {name : PrincipalName} {st st' : NameState}

/-! ### Octets and text -/

/-- The decoder writes bytes it has read, and the replacement character. -/
theorem mem_fromUtf8Lossy (h : b ∈ fromUtf8Lossy s) : b ∈ s ∨ b ∈ [0xEF, 0xBF, 0xBD] := by
  induction s using utf8Chunks_induction with
  | nil => cases h
  | step a rest ih =>
    rw [fromUtf8Lossy_cons] at h
    rcases mem_append.mp h with h | h
    · unfold utf8Chunk at h
      split at h
      · exact .inl (mem_of_mem_take h)
      · exact .inr h
    · exact (ih h).imp_left mem_of_mem_drop

section Ascii

variable (hb : b < 0x80)

include hb

theorem not_mem_fromUtf8Lossy (h : b ∉ s) : b ∉ fromUtf8Lossy s := by
  intro hmem
  rcases mem_fromUtf8Lossy hmem with hmem | hmem
  · exact h hmem
  · simp only [mem_cons, not_mem_nil, or_false] at hmem
    obtain rfl | rfl | rfl := hmem <;> exact absurd hb (by decide)

/-- The decoder neither adds nor drops an ASCII byte. -/
theorem count_fromUtf8Lossy (s : Str) : (fromUtf8Lossy s).count b = s.count b := by
  induction hn : s.length using Nat.strong_induction_on generalizing s with
  | _ n ih =>
    by_cases hmem : b ∈ s
    · obtain ⟨front, rest, rfl⟩ := append_of_mem hmem
      rw [length_append, length_cons] at hn
      rw [fromUtf8Lossy_append_ascii hb, count_append, count_append, count_cons_self,
        count_cons_self, ih _ (by omega) front rfl, ih _ (by omega) rest rfl]
    · rw [count_eq_zero_of_not_mem hmem, count_eq_zero_of_not_mem (not_mem_fromUtf8Lossy hb hmem)]

end Ascii

theorem fromUtf8Lossy_eq_nil : fromUtf8Lossy s = [] ↔ s = [] := by
  constructor
  · intro h
    cases s with
    | nil => rfl
    | cons a rest =>
      have hpos := (utf8Head_bounds a rest).1
      rw [fromUtf8Lossy_cons, append_eq_nil_iff] at h
      have hchunk := h.1
      unfold utf8Chunk at hchunk
      split at hchunk
      · rw [take_eq_nil_iff] at hchunk
        rcases hchunk with hzero | hnil
        · omega
        · cases hnil
      · cases hchunk
  · rintro rfl
    rfl

/-! ### The last separator -/

theorem exists_last_of_mem (h : sep ∈ s) : ∃ front last, s = front ++ sep :: last ∧ sep ∉ last := by
  induction s with
  | nil => cases h
  | cons b rest ih =>
    by_cases hrest : sep ∈ rest
    · obtain ⟨front, last, rfl, hlast⟩ := ih hrest
      exact ⟨b :: front, last, rfl, hlast⟩
    · obtain rfl : sep = b := (mem_cons.mp h).resolve_right hrest
      exact ⟨[], rest, rfl, hrest⟩

theorem splitOn_of_not_mem (h : sep ∉ s) : s.splitOn sep = [s] := by
  refine splitOnP_eq_singleton fun b hb => ?_
  rw [beq_eq_false_iff_ne]
  rintro rfl
  exact h hb

theorem rsplitOnce_of_not_mem (h : sep ∉ s) : rsplitOnce sep s = none := by
  simp [rsplitOnce, splitOn_of_not_mem h]

theorem rsplitOnce_append {last : Str} (h : sep ∉ last) (front : Str) :
    rsplitOnce sep (front ++ sep :: last) = some (front, last) := by
  have hsplit : (front ++ sep :: last).splitOn sep = front.splitOn sep ++ [last] := by
    rw [← splitOn_of_not_mem h]
    exact splitOnP_append_cons front last (beq_self_eq_true sep)
  have hne : front.splitOn sep ≠ [] := splitOnP_ne_nil _ _
  have hlen : (front.splitOn sep ++ [last]).length ≠ 1 := by
    rw [length_append]
    have := length_pos_of_ne_nil hne
    simp only [length_singleton]
    omega
  simp only [rsplitOnce, hsplit, getLast?_concat, if_neg hlen, dropLast_concat,
    intercalate_splitOn]

namespace PrincipalName

/-! ### Parsing what was unparsed -/

/-- `push_char` for every character of a text. -/
def NameState.pushAll (st : NameState) (s : Str) : NameState :=
  match st.realm with
  | some r => { st with realm := some (r ++ s) }
  | none => { st with current := st.current ++ s }

theorem NameState.pushAll_nil (st : NameState) : st.pushAll [] = st := by
  rcases st with ⟨done, current, _ | r⟩ <;> simp [pushAll]

theorem NameState.pushAll_cons (st : NameState) (b : UInt8) (s : Str) :
    st.pushAll (b :: s) = (st.push b).pushAll s := by
  rcases st with ⟨done, current, _ | r⟩ <;> simp [pushAll, push]

open NameState

theorem parseNameLoop_escape (st : NameState) (b : UInt8) (rest : Str) :
    parseNameLoop st (92 :: b :: rest) = parseNameLoop (st.push (unquoteByte b)) rest := by
  rw [parseNameLoop.eq_def]
  rfl

theorem parseNameLoop_slash (done : List Str) (current rest : Str) :
    parseNameLoop ⟨done, current, none⟩ (47 :: rest)
      = parseNameLoop ⟨done ++ [current], [], none⟩ rest := by
  rw [parseNameLoop.eq_def]
  rfl

theorem parseNameLoop_at (done : List Str) (current rest : Str) :
    parseNameLoop ⟨done, current, none⟩ (64 :: rest)
      = parseNameLoop ⟨done, current, some []⟩ rest := by
  rw [parseNameLoop.eq_def]
  rfl

theorem parseNameLoop_other (hslash : b ≠ 47) (hat : b ≠ 64) (hback : b ≠ 92) (st : NameState)
    (rest : Str) : parseNameLoop st (b :: rest) = parseNameLoop (st.push b) rest := by
  rw [parseNameLoop.eq_def]
  simp only [if_neg hback, if_neg hslash, if_neg hat]

/-- A quoted character is read as the character. -/
theorem parseNameLoop_quoteByte (st : NameState) (b : UInt8) (rest : Str) :
    parseNameLoop st (quoteByte b ++ rest) = parseNameLoop (st.push b) rest := by
  unfold quoteByte
  split_ifs with hdelim htab hnewline hback hnul
  · -- the delimiters and the backslash stand for themselves
    have hself : unquoteByte b = b := by
      obtain rfl | rfl | rfl := hdelim <;> rfl
    show parseNameLoop st (92 :: b :: rest) = _
    rw [parseNameLoop_escape, hself]
  · subst htab
    exact parseNameLoop_escape st 116 rest
  · subst hnewline
    exact parseNameLoop_escape st 110 rest
  · subst hback
    exact parseNameLoop_escape st 98 rest
  · subst hnul
    exact parseNameLoop_escape st 48 rest
  · rw [not_or, not_or] at hdelim
    exact parseNameLoop_other hdelim.1 hdelim.2.1 hdelim.2.2 st rest

theorem parseNameLoop_quoteComponent (s : Str) (st : NameState) (rest : Str) :
    parseNameLoop st (quoteComponent s ++ rest) = parseNameLoop (st.pushAll s) rest := by
  induction s generalizing st with
  | nil => rw [pushAll_nil]; rfl
  | cons b s ih =>
    rw [quoteComponent, flatMap_cons, append_assoc, parseNameLoop_quoteByte,
      pushAll_cons]
    exact ih (st.push b)

theorem parseNameLoop_unparseComponents (comp : Str) (comps done : List Str) (rest : Str) :
    parseNameLoop ⟨done, [], none⟩ (unparseComponents (comp :: comps) ++ rest)
      = parseNameLoop ⟨done ++ (comp :: comps).dropLast,
          (comp :: comps).getLast (cons_ne_nil _ _), none⟩ rest := by
  induction comps generalizing comp done with
  | nil =>
    rw [unparseComponents, map_cons, map_nil, intercalate_singleton,
      parseNameLoop_quoteComponent]
    simp [pushAll]
  | cons next comps ih =>
    have hsplit : unparseComponents (comp :: next :: comps)
        = quoteComponent comp ++ 47 :: unparseComponents (next :: comps) := by
      simp [unparseComponents, intercalate_cons_cons, str]
      rfl
    rw [hsplit, append_assoc, parseNameLoop_quoteComponent, cons_append]
    simp only [pushAll, nil_append]
    rw [parseNameLoop_slash, ih]
    simp

/-- **Parsing an unparsed name gives the name back.** -/
theorem parseName_unparseName {comps : List Str} (hne : comps ≠ []) (realm defaultRealm : Str) :
    parseName (unparseName comps realm) defaultRealm = .ok (comps, realm) := by
  obtain ⟨comp, rest, rfl⟩ := exists_cons_of_ne_nil hne
  have hloop : parseNameLoop {} (unparseName (comp :: rest) realm)
      = .ok ⟨(comp :: rest).dropLast, (comp :: rest).getLast (cons_ne_nil _ _), some realm⟩ := by
    rw [unparseName, append_assoc, parseNameLoop_unparseComponents]
    show parseNameLoop _ (64 :: quoteComponent realm) = _
    rw [parseNameLoop_at, ← append_nil (quoteComponent realm), parseNameLoop_quoteComponent]
    rfl
  rw [parseName, hloop]
  show Except.ok (_ ++ [_], _) = _
  rw [dropLast_append_getLast]
  rfl

/-! ### What is parsed from a text -/

def NameState.RealmText (st : NameState) : Prop := ∀ r ∈ st.realm, IsText r

theorem NameState.RealmText.pushAll {st : NameState} (h : st.RealmText) {ch : Str} (hch : IsChar ch) :
    (st.pushAll ch).RealmText := by
  obtain ⟨done, current, realm⟩ := st
  cases realm with
  | none => exact fun _ hr => (nomatch hr)
  | some r =>
    rintro _ ⟨⟩
    exact (h r rfl).push hch

/-- Bytes past ASCII are none of the delimiters. -/
theorem parseNameLoop_multi {ch : Str} (h : ∀ b ∈ ch, 0x80 ≤ b) (st : NameState) (rest : Str) :
    parseNameLoop st (ch ++ rest) = parseNameLoop (st.pushAll ch) rest := by
  induction ch generalizing st with
  | nil => rw [pushAll_nil]; rfl
  | cons b ch ih =>
    have hb : 0x80 ≤ b := h b mem_cons_self
    have hne : ∀ n : UInt8, n < 0x80 → b ≠ n := by
      rintro n hn rfl
      exact absurd hb (UInt8.not_le.mpr hn)
    rw [cons_append, parseNameLoop_other (hne 47 (by decide)) (hne 64 (by decide))
      (hne 92 (by decide)), pushAll_cons]
    exact ih (fun c hc => h c (mem_cons_of_mem b hc)) (st.push b)

theorem unquoteByte_ascii (h : b < 0x80) : unquoteByte b < 0x80 := by
  unfold unquoteByte
  split_ifs <;> first | exact h | decide

theorem unquoteByte_multi (h : 0x80 ≤ b) : unquoteByte b = b := by
  have hne : ∀ n : UInt8, n < 0x80 → b ≠ n := by
    rintro n hn rfl
    exact absurd h (UInt8.not_le.mpr hn)
  unfold unquoteByte
  rw [if_neg (hne _ (by decide)), if_neg (hne _ (by decide)), if_neg (hne _ (by decide)),
    if_neg (hne _ (by decide))]

/-- **The realm of a name that is parsed from a text is a text.**  A backslash may stand before a
character of several bytes: so the loop is followed from a backslash too. -/
theorem realmText_of_parse (hs : isUtf8 s = true) :
    (∀ st st' : NameState, st.RealmText → parseNameLoop st s = .ok st' → st'.RealmText) ∧
      ∀ st st' : NameState, st.RealmText → parseNameLoop st (92 :: s) = .ok st' → st'.RealmText := by
  refine isUtf8_induction (P := fun s =>
    (∀ st st' : NameState, st.RealmText → parseNameLoop st s = .ok st' → st'.RealmText) ∧
      ∀ st st' : NameState, st.RealmText → parseNameLoop st (92 :: s) = .ok st' → st'.RealmText)
    ?_ ?_ hs
  · refine ⟨?_, ?_⟩
    · rintro st st' hst h
      cases h
      exact hst
    · rintro st st' - h
      rw [parseNameLoop.eq_def] at h
      cases h
  · rintro ch rest hch - ⟨ihplain, ihback⟩
    have hpush : ∀ {st st' : NameState} {c : Str}, st.RealmText → IsChar c →
        parseNameLoop (st.pushAll c) rest = .ok st' → st'.RealmText :=
      fun hst hc h => ihplain _ _ (hst.pushAll hc) h
    rcases hch.ascii with ⟨a, ha, rfl⟩ | hmulti
    · refine ⟨fun st st' hst h => ?_, fun st st' hst h => ?_⟩
      · obtain ⟨done, current, realm⟩ := st
        by_cases hback : a = 92
        · subst hback
          exact ihback _ _ hst h
        by_cases hslash : a = 47
        · subst hslash
          cases realm with
          | some r =>
            rw [singleton_append, parseNameLoop.eq_def] at h
            cases h
          | none =>
            rw [singleton_append, parseNameLoop_slash] at h
            exact ihplain ⟨done ++ [current], [], none⟩ st' (fun _ hr => (nomatch hr)) h
        by_cases hat : a = 64
        · subst hat
          cases realm with
          | some r =>
            rw [singleton_append, parseNameLoop.eq_def] at h
            cases h
          | none =>
            rw [singleton_append, parseNameLoop_at] at h
            refine ihplain _ _ ?_ h
            rintro _ ⟨⟩
            exact isText_nil
        rw [singleton_append, parseNameLoop_other hslash hat hback] at h
        exact hpush hst (isChar_ascii ha) (by rwa [pushAll_cons, pushAll_nil])
      · rw [singleton_append, parseNameLoop_escape] at h
        refine hpush hst (isChar_ascii (unquoteByte_ascii ha)) ?_
        rwa [pushAll_cons, pushAll_nil]
    · refine ⟨fun st st' hst h => ?_, fun st st' hst h => ?_⟩
      · rw [parseNameLoop_multi hmulti] at h
        exact hpush hst hch h
      · obtain ⟨b, ch, rfl⟩ := exists_cons_of_ne_nil hch.ne_nil
        rw [cons_append, parseNameLoop_escape,
          unquoteByte_multi (hmulti b mem_cons_self),
          parseNameLoop_multi fun c hc => hmulti c (mem_cons_of_mem b hc)] at h
        exact hpush hst hch (by rwa [pushAll_cons])

theorem realm_of_principalFromUnparsed (hs : isUtf8 s = true)
    (h : principalFromUnparsed s [] = .ok (name, realm)) :
    fromUtf8Lossy realm = realm ∧ (∀ c ∈ name.nameString, ∀ b ∈ c, b < 128) ∧
      name.nameType ∈ [ntPrincipal, ntSrvInst, ntWellknown] := by
  obtain ⟨⟨comps, realm'⟩, hparse, h⟩ := bind_ok h
  obtain ⟨name', hname, h⟩ := bind_ok h
  cases h
  obtain ⟨st, hst, hpair⟩ := map_ok hparse
  cases hpair
  refine ⟨?_, ?_⟩
  · have htext := (realmText_of_parse hs).1 {} st (fun _ hr => (nomatch hr)) hst
    cases hrealm : st.realm with
    | none => rfl
    | some r => exact (htext r hrealm).fromUtf8Lossy_eq
  · rw [tryNew] at hname
    split at hname
    · rename_i hascii
      cases hname
      refine ⟨fun c hc b hb => ?_, ?_⟩
      · have hall := all_eq_true.mp (all_eq_true.mp hascii c hc) b hb
        exact of_decide_eq_true hall
      · show inferNameType _ ∈ _
        unfold inferNameType
        split_ifs <;> simp
    · cases hname

/-! ### A text that was not quoted -/

/-- A text without a delimiter and without a backslash. -/
def Plain (s : Str) : Prop := 47 ∉ s ∧ 64 ∉ s ∧ 92 ∉ s

instance (s : Str) : Decidable (Plain s) := by
  unfold Plain
  infer_instance

def NameState.backslashes (st : NameState) : Nat :=
  (st.done.map (·.count 92)).sum + st.current.count 92 + (st.realm.getD []).count 92

theorem NameState.backslashes_push (st : NameState) (b : UInt8) :
    (st.push b).backslashes = st.backslashes + [b].count 92 := by
  rcases st with ⟨done, current, _ | r⟩
  · simp only [push, backslashes, count_append]
    omega
  · simp only [push, backslashes, Option.getD_some, count_append]
    omega

theorem count_unquoteByte_le (b : UInt8) : [unquoteByte b].count 92 ≤ [b].count 92 := by
  unfold unquoteByte
  split_ifs with hn ht hb hz <;> simp_all

/-- Every backslash quotes the character after it, so reading leaves fewer of them. -/
theorem backslashes_of_parse (h : parseNameLoop st s = .ok st') :
    st'.backslashes ≤ st.backslashes + s.count 92 ∧
      (92 ∈ s → st'.backslashes < st.backslashes + s.count 92) := by
  fun_induction parseNameLoop st s with
  | case1 st =>
    obtain rfl := Except.ok.inj h
    exact ⟨Nat.le_add_right _ _, fun hmem => nomatch hmem⟩
  | case2 => cases h
  | case3 st n rest ih =>
    have hle := (ih h).1
    have hn := count_unquoteByte_le n
    rw [backslashes_push] at hle
    rw [count_cons_self, ← singleton_append (l := rest), count_append]
    exact ⟨by omega, fun _ => by omega⟩
  | case4 => cases h
  | case5 st rest hback hrealm ih =>
    have hle := (ih h).1
    have hlt := (ih h).2
    rw [count_cons_of_ne (by decide)]
    have heq : (⟨st.done ++ [st.current], [], st.realm⟩ : NameState).backslashes = st.backslashes := by
      simp [backslashes]
    rw [heq] at hle hlt
    exact ⟨hle, fun hmem => hlt ((mem_cons.mp hmem).resolve_left (by decide))⟩
  | case6 => cases h
  | case7 st rest hrealm hback hslash ih =>
    have hle := (ih h).1
    have hlt := (ih h).2
    rw [count_cons_of_ne (by decide)]
    have heq : ({ st with realm := some [] } : NameState).backslashes = st.backslashes := by
      rw [Bool.not_eq_true, Option.isSome_eq_false_iff, Option.isNone_iff_eq_none] at hrealm
      simp [backslashes, hrealm]
    rw [heq] at hle hlt
    exact ⟨hle, fun hmem => hlt ((mem_cons.mp hmem).resolve_left (by decide))⟩
  | case8 st b rest hback hslash hat ih =>
    have hle := (ih h).1
    have hlt := (ih h).2
    have hcount : [b].count 92 = 0 := count_eq_zero_of_not_mem (by simpa using Ne.symm hback)
    rw [backslashes_push, hcount] at hle hlt
    rw [count_cons_of_ne hback]
    exact ⟨hle, fun hmem => hlt ((mem_cons.mp hmem).resolve_left (Ne.symm hback))⟩

/-- Without a backslash every slash ends a component and the only at sign opens the realm. -/
theorem counts_of_parse (h : parseNameLoop st s = .ok st') (hback : 92 ∉ s) :
    st'.done.length = st.done.length + s.count 47 ∧
      st'.realm.isSome.toNat = st.realm.isSome.toNat + s.count 64 := by
  fun_induction parseNameLoop st s with
  | case1 st =>
    obtain rfl := Except.ok.inj h
    exact ⟨rfl, rfl⟩
  | case2 => cases h
  | case3 st n rest ih => exact absurd mem_cons_self hback
  | case4 => cases h
  | case5 st rest _ hrealm ih =>
    obtain ⟨hdone, hsome⟩ := ih h fun hmem => hback (mem_cons_of_mem _ hmem)
    rw [count_cons_self, count_cons_of_ne (by decide)]
    rw [length_append, length_singleton] at hdone
    exact ⟨by omega, hsome⟩
  | case6 => cases h
  | case7 st rest hrealm _ _ ih =>
    obtain ⟨hdone, hsome⟩ := ih h fun hmem => hback (mem_cons_of_mem _ hmem)
    rw [count_cons_self, count_cons_of_ne (by decide)]
    rw [Bool.not_eq_true] at hrealm
    rw [Option.isSome_some, Bool.toNat_true] at hsome
    rw [hrealm, Bool.toNat_false]
    exact ⟨hdone, by omega⟩
  | case8 st b rest _ hslash hat ih =>
    obtain ⟨hdone, hsome⟩ := ih h fun hmem => hback (mem_cons_of_mem _ hmem)
    rw [count_cons_of_ne hslash, count_cons_of_ne hat]
    rcases st with ⟨done, current, _ | r⟩
    · exact ⟨hdone, hsome⟩
    · exact ⟨hdone, hsome⟩

theorem parseNameLoop_plain (h : Plain s) (st : NameState) (rest : Str) :
    parseNameLoop st (s ++ rest) = parseNameLoop (st.pushAll s) rest := by
  induction s generalizing st with
  | nil => rw [pushAll_nil]; rfl
  | cons b s ih =>
    obtain ⟨hslash, hat, hback⟩ := h
    rw [mem_cons, not_or] at hslash hat hback
    rw [cons_append, parseNameLoop_other (Ne.symm hslash.1) (Ne.symm hat.1) (Ne.symm hback.1),
      pushAll_cons]
    exact ih ⟨hslash.2, hat.2, hback.2⟩ (st.push b)

/-- A user in front of a realm, both without quotes, are read as they are when they are plain. -/
theorem parseName_plain (hu : Plain user) (hr : Plain realm) (defaultRealm : Str) :
    parseName (user ++ 64 :: realm) defaultRealm = .ok ([user], realm) := by
  have hloop : parseNameLoop {} (user ++ 64 :: realm) = .ok ⟨[], user, some realm⟩ := by
    rw [parseNameLoop_plain hu]
    show parseNameLoop ⟨[], [] ++ user, none⟩ (64 :: realm) = _
    rw [nil_append, parseNameLoop_at, ← append_nil realm, parseNameLoop_plain hr]
    rw [append_nil]
    rfl
  rw [parseName, hloop]
  rfl

theorem parseNameLoop_of_parseName
    (h : ∀ defaultRealm, parseName s defaultRealm = .ok ([user], realm)) :
    parseNameLoop {} s = .ok ⟨[], user, some realm⟩ := by
  obtain ⟨⟨done, current, realm'⟩, hloop, hst⟩ := map_ok (h (0 :: realm))
  obtain ⟨hcomps, hrealm⟩ := Prod.mk.inj hst
  have hdone : done = [] := by
    cases done with
    | nil => rfl
    | cons c cs => simp at hcomps
  subst hdone
  cases realm' with
  | none => exact absurd (congrArg length hrealm) (by simp)
  | some r =>
    obtain rfl : r = realm := hrealm
    obtain rfl : current = user := by simpa using hcomps
    exact hloop

/-- **Unquoted text is read back only when it is plain.**  The user is given in octets, the text is
what the decoder makes of them. -/
theorem parseName_unquoted_iff :
    (∀ defaultRealm,
        parseName (fromUtf8Lossy user ++ 64 :: realm) defaultRealm = .ok ([user], realm)) ↔
      fromUtf8Lossy user = user ∧ Plain user ∧ Plain realm := by
  constructor
  · intro h
    have hloop := parseNameLoop_of_parseName h
    -- a backslash would quote something, and the user or the realm would be short of it
    have hback : 92 ∉ fromUtf8Lossy user ++ 64 :: realm := by
      intro hmem
      have hlt := (backslashes_of_parse hloop).2 hmem
      rw [count_append, count_cons_of_ne (by decide),
        count_fromUtf8Lossy (by decide)] at hlt
      simp [backslashes] at hlt
    obtain ⟨hdone, hsome⟩ := counts_of_parse hloop hback
    rw [count_append, count_cons_of_ne (by decide)] at hdone
    rw [count_append, count_cons_self] at hsome
    simp only [length_nil, Option.isSome_some, Option.isSome_none, Bool.toNat_true,
      Bool.toNat_false] at hdone hsome
    rw [mem_append, mem_cons, not_or, not_or] at hback
    have hu : Plain (fromUtf8Lossy user) :=
      ⟨count_eq_zero.mp (by omega), count_eq_zero.mp (by omega), hback.1⟩
    have hr : Plain realm :=
      ⟨count_eq_zero.mp (by omega), count_eq_zero.mp (by omega), hback.2.2⟩
    have hread := (parseName_plain hu hr []).symm.trans (h [])
    obtain htext : fromUtf8Lossy user = user := by simpa using hread
    exact ⟨htext, htext ▸ hu, hr⟩
  · rintro ⟨htext, hu, hr⟩ defaultRealm
    rw [htext]
    exact parseName_plain hu hr defaultRealm

/-! ### The id of a principal -/

def octets (name : PrincipalName) : Str :=
  (str "/").intercalate name.nameString

def localUser (name : PrincipalName) (realm : Str) : Option Str :=
  match rsplitOnce 64 name.octets with
  | some (user, suffix) => if user ≠ [] ∧ fromUtf8Lossy suffix = realm then some user else none
  | none => none

/-- The components a request for a name in a realm is about: an enterprise name is one component, and
the part in front of the realm when it ends in it. -/
def meant (name : PrincipalName) (realm : Str) : List Str :=
  if name.nameType = ntEnterprise then [(name.localUser realm).getD name.octets] else name.nameString

/-- What lets the id of a name stand for it alone: it has a component, its components are texts, and
where it is taken without quotes it is plain. -/
def Unambiguous (name : PrincipalName) (realm : Str) : Prop :=
  name.meant realm ≠ [] ∧ (∀ c ∈ name.meant realm, fromUtf8Lossy c = c) ∧
    (name.nameType = ntEnterprise → ∀ user ∈ name.localUser realm, Plain user ∧ Plain realm)

theorem fromUtf8Lossy_octets (name : PrincipalName) :
    fromUtf8Lossy name.octets = name.componentsJoined := by
  rw [octets, componentsJoined, componentStrings]
  induction name.nameString with
  | nil => rfl
  | cons c cs ih =>
    cases cs with
    | nil => simp
    | cons c' cs =>
      rw [intercalate_cons_cons, map_cons, map_cons, intercalate_cons_cons,
        ← map_cons, ← ih, append_assoc, append_assoc]
      exact fromUtf8Lossy_append_ascii (b := 47) (by decide) c _

/-- The id of an enterprise name: the user it gives is taken as it is. -/
theorem lookupPrincipalId_enterprise (h : name.nameType = ntEnterprise) (realm : Str) :
    lookupPrincipalId name realm
      = (name.localUser realm).elim (unparseName [fromUtf8Lossy name.octets] realm)
          fun user => fromUtf8Lossy user ++ 64 :: realm := by
  rw [lookupPrincipalId, if_pos h, ← fromUtf8Lossy_octets, localUser]
  by_cases hmem : 64 ∈ name.octets
  · obtain ⟨user, suffix, hoctets, hlast⟩ := exists_last_of_mem hmem
    have htext : fromUtf8Lossy name.octets = fromUtf8Lossy user ++ 64 :: fromUtf8Lossy suffix := by
      rw [hoctets]
      exact fromUtf8Lossy_append_ascii (by decide) user suffix
    simp only [htext, rsplitOnce_append (not_mem_fromUtf8Lossy (by decide) hlast)]
    rw [hoctets, rsplitOnce_append hlast]
    have hne : fromUtf8Lossy user ≠ [] ↔ user ≠ [] := not_congr fromUtf8Lossy_eq_nil
    simp only [hne]
    split
    · exact append_assoc _ _ _
    · rfl
  · simp only [rsplitOnce_of_not_mem hmem,
      rsplitOnce_of_not_mem (not_mem_fromUtf8Lossy (by decide) hmem)]
    rfl

theorem parseName_lookupPrincipalId_iff (name : PrincipalName) (realm : Str) :
    (∀ defaultRealm,
        parseName (lookupPrincipalId name realm) defaultRealm = .ok (name.meant realm, realm)) ↔
      name.Unambiguous realm := by
  by_cases hent : name.nameType = ntEnterprise
  · rw [lookupPrincipalId_enterprise hent, Unambiguous, meant, if_pos hent]
    cases huser : name.localUser realm with
    | some user =>
      simp only [Option.elim_some, Option.getD_some, parseName_unquoted_iff]
      simp [hent]
    | none =>
      simp only [Option.elim_none, Option.getD_none, parseName_unparseName (cons_ne_nil _ _)]
      simp
  · rw [lookupPrincipalId, if_neg hent, unparseWithRealm, componentStrings, Unambiguous, meant,
      if_neg hent]
    constructor
    · intro h
      have hne : name.nameString ≠ [] := by
        -- no component is written like one empty component
        intro hnil
        have hempty := h []
        rw [hnil] at hempty
        have hread := parseName_unparseName (cons_ne_nil [] []) realm []
        exact absurd (hread.symm.trans hempty) (by simp)
      have hback := h []
      rw [parseName_unparseName (by simpa using hne)] at hback
      refine ⟨hne, fun c hc => ?_, fun h => absurd h hent⟩
      have hmap : name.nameString.map fromUtf8Lossy = name.nameString.map id := by simpa using hback
      exact map_inj_left.mp hmap c hc
    · rintro ⟨hne, htext, -⟩ defaultRealm
      have hmap : name.nameString.map fromUtf8Lossy = name.nameString :=
        (map_congr_left htext).trans (map_id' _)
      rw [hmap]
      exact parseName_unparseName hne realm defaultRealm

/-- **Principal names are unambiguous.**  Parsing an unparsed name gives the name back; the id a name is
looked up under parses back to the realm and the components that were meant exactly when `Unambiguous`
holds; and then no id stands for two principals. -/
theorem principal_id_unambiguous (name : PrincipalName) (realm : Str) :
    (∀ comps defaultRealm, comps ≠ [] →
      parseName (unparseName comps realm) defaultRealm = .ok (comps, realm)) ∧
    ((∀ defaultRealm,
        parseName (lookupPrincipalId name realm) defaultRealm = .ok (name.meant realm, realm)) ↔
      name.Unambiguous realm) ∧
    (∀ name' realm', name.Unambiguous realm → name'.Unambiguous realm' →
      lookupPrincipalId name realm = lookupPrincipalId name' realm' →
      name.meant realm = name'.meant realm' ∧ realm = realm') := by
  refine ⟨fun comps d hne => parseName_unparseName hne realm d,
    parseName_lookupPrincipalId_iff name realm, fun name' realm' h h' hid => ?_⟩
  have hread := (parseName_lookupPrincipalId_iff name realm).mpr h []
  have hread' := (parseName_lookupPrincipalId_iff name' realm').mpr h' []
  rw [hid] at hread
  exact Prod.mk.inj (Except.ok.inj (hread.symm.trans hread'))

/-- **An enterprise name in front of its realm is not quoted.**  One with a slash is looked up as the
service of two components, not as the user of one; and one with a second at sign under a text that is no
name. -/
theorem enterprise_id_unquoted :
    lookupPrincipalId ⟨ntEnterprise, [str "host/web@R"]⟩ (str "R")
      = lookupPrincipalId ⟨ntSrvInst, [str "host", str "web"]⟩ (str "R") ∧
    meant ⟨ntEnterprise, [str "host/web@R"]⟩ (str "R") = [str "host/web"] ∧
    lookupPrincipalId ⟨ntPrincipal, [str "host/web"]⟩ (str "R")
      ≠ lookupPrincipalId ⟨ntEnterprise, [str "host/web@R"]⟩ (str "R") ∧
    parseName (lookupPrincipalId ⟨ntEnterprise, [str "joe@home@R"]⟩ (str "R")) []
      = .error .malformed := by
  refine ⟨?_, ?_, ?_, ?_⟩ <;> decide +kernel

end PrincipalName

end Kerber
