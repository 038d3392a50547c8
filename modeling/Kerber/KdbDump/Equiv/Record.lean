import Kerber.KdbDump.Record

/-!
# An entry reads back as it was written

`DumpPrincipal.fields` are the fields of an entry's line, and `record_eq` says that the line is
those fields with tabs between them.  An entry whose counts fit the format (`Fits`) is read back from
its line as it was: `parsePrincLine_body`.
-/

namespace Kerber

open List Cursor DumpPrincipal

variable {p : DumpPrincipal}
variable {b : UInt8}

/-! ### The fields of a line -/

def typedFields (ty : Int32) (contents : Str) : List Str :=
  [renderInt 10 ty.toInt, dec contents.length, encodeHex contents]

def DumpKeyData.fields (k : DumpKeyData) : List Str :=
  [renderInt 10 k.ver.toInt, dec k.kvno.toNat]
    ++ k.slots.flatMap fun s => typedFields s.ty s.contents

def DumpNumbers.fields (n : DumpNumbers) : List Str :=
  [dec n.attributes.toNat, dec n.maxLife.toNat, dec n.maxRenewableLife.toNat,
   dec n.expiration.toNat, dec n.pwExpiration.toNat, dec n.lastSuccess.toNat,
   dec n.lastFailed.toNat, dec n.failAuthCount.toNat]

/-- The fields of an entry but for the extra data, which ends the line. -/
def DumpPrincipal.fields (p : DumpPrincipal) : List Str :=
  [dec p.dbLen.toNat, dec p.name.length, dec p.tlData.length, dec p.keys.length, dec p.eData.length,
   p.name]
    ++ p.toDumpNumbers.fields
    ++ (p.tlData.flatMap fun t => typedFields t.ty t.contents)
    ++ p.keys.flatMap DumpKeyData.fields

/-- What follows `princ\t` in the line of an entry. -/
def DumpPrincipal.body (p : DumpPrincipal) : Str :=
  untab p.fields ++ (encodeHex p.eData ++ str ";")

theorem str_tab : str "\t" = [tab] := by decide

theorem untab_typedFields (ty : Int32) (contents : Str) :
    untab (typedFields ty contents) = typedText ty contents ++ [tab] := by
  simp [typedFields, typedText, str_tab]

theorem untab_keyFields (k : DumpKeyData) : untab k.fields = k.text := by
  rw [DumpKeyData.fields, DumpKeyData.text, untab_append, untab_flatMap]
  simp [untab_typedFields, str_tab]

theorem untab_numbers (n : DumpNumbers) : untab n.fields = n.text ++ [tab] := by
  simp [DumpNumbers.fields, DumpNumbers.text, str_tab]

/-- A tab in front of each item and one behind the last is one behind each and one in front. -/
theorem flatMap_tab_append {α : Type} (xs : List α) (f : α → Str) :
    (xs.flatMap fun x => [tab] ++ f x) ++ [tab] = tab :: xs.flatMap fun x => f x ++ [tab] := by
  induction xs with
  | nil => rfl
  | cons x xs ih =>
    rw [flatMap_cons, append_assoc, ih, flatMap_cons]
    simp

/-- **The line of an entry is its fields with tabs between them.** -/
theorem record_eq (p : DumpPrincipal) : p.record = str "princ\t" ++ p.body := by
  have htl : untab (p.tlData.flatMap fun t => typedFields t.ty t.contents)
      = p.tlData.flatMap fun t => typedText t.ty t.contents ++ [tab] := by
    rw [untab_flatMap]
    exact congrArg (flatMap · p.tlData) (funext fun t => untab_typedFields t.ty t.contents)
  have hkeys : untab (p.keys.flatMap DumpKeyData.fields) = p.keys.flatMap DumpKeyData.text := by
    rw [untab_flatMap]
    exact congrArg (flatMap · p.keys) (funext untab_keyFields)
  have hjoin := flatMap_tab_append p.tlData fun t => typedText t.ty t.contents
  rw [body, fields, untab_append, untab_append, untab_append, htl, hkeys,
    untab_numbers, record, str_tab]
  simp only [untab_cons, untab_nil, append_assoc, cons_append, nil_append,
    append_cancel_left_eq] at hjoin ⊢
  simp only [← append_assoc, ← cons_append, ← hjoin]
  simp

/-! ### Fields have no tabs -/

theorem not_mem_of_digits (hb : isDigitByte b = false) {s : Str}
    (h : ∀ x ∈ s, isDigitByte x = true) : b ∉ s := by
  intro hmem
  rw [h b hmem] at hb
  cases hb

theorem not_mem_dec (hb : isDigitByte b = false) (n : Nat) : b ∉ dec n :=
  not_mem_of_digits hb (render_digits (by decide) (by decide) n)

theorem not_mem_renderInt (hb : isDigitByte b = false) (hm : b ≠ minusByte) (i : Int) :
    b ∉ renderInt 10 i := by
  have hd : b ∉ render 10 i.natAbs := not_mem_dec hb _
  rw [renderInt]
  split
  · intro hmem
    rcases mem_cons.mp hmem with h | h
    · exact hm h
    · exact hd h
  · exact hd

theorem not_mem_encodeHex (hb : isDigitByte b = false) (hm : b ≠ minusByte) (bytes : Str) :
    b ∉ encodeHex bytes := by
  rw [encodeHex]
  split
  · show b ∉ renderInt 10 (-1)
    exact not_mem_renderInt hb hm _
  · exact not_mem_of_digits hb (flatMap_hexPair_digits bytes)

theorem encodeHex_ne_nil (bytes : Str) : encodeHex bytes ≠ [] := by
  rw [encodeHex]
  split
  · decide
  · rename_i hne
    obtain ⟨b, rest, rfl⟩ := exists_cons_of_ne_nil hne
    exact fun h => cons_ne_nil _ _ h

section Free

variable (hb : isDigitByte b = false) (hm : b ≠ minusByte)

include hb hm

theorem not_mem_typedFields (ty : Int32) (contents : Str) :
    ∀ f ∈ typedFields ty contents, b ∉ f := by
  intro f hf
  simp only [typedFields, mem_cons, not_mem_nil, or_false] at hf
  rcases hf with rfl | rfl | rfl
  · exact not_mem_renderInt hb hm _
  · exact not_mem_dec hb _
  · exact not_mem_encodeHex hb hm _

theorem not_mem_keyFields (k : DumpKeyData) : ∀ f ∈ k.fields, b ∉ f := by
  intro f hf
  simp only [DumpKeyData.fields, mem_append, mem_cons, not_mem_nil, or_false,
    mem_flatMap] at hf
  rcases hf with (rfl | rfl) | ⟨s, _, hs⟩
  · exact not_mem_renderInt hb hm _
  · exact not_mem_dec hb _
  · exact not_mem_typedFields hb hm _ _ f hs

/-- A byte that no number is written with is in a field only when it is in the name. -/
theorem not_mem_fields (hname : b ∉ p.name) : ∀ f ∈ p.fields, b ∉ f := by
  intro f hf
  simp only [fields, mem_append] at hf
  rcases hf with ((hf | hf) | hf) | hf
  · simp only [mem_cons, not_mem_nil, or_false] at hf
    rcases hf with rfl | rfl | rfl | rfl | rfl | rfl
    all_goals first | exact hname | exact not_mem_dec hb _
  · simp only [DumpNumbers.fields, mem_cons, not_mem_nil, or_false] at hf
    rcases hf with rfl | rfl | rfl | rfl | rfl | rfl | rfl | rfl
    all_goals exact not_mem_dec hb _
  · obtain ⟨t, _, ht⟩ := mem_flatMap.mp hf
    exact not_mem_typedFields hb hm _ _ f ht
  · obtain ⟨k, _, hk⟩ := mem_flatMap.mp hf
    exact not_mem_keyFields hb hm k f hk

end Free

/-! ### Reading the fields -/

theorem Cursor.u32_dec (n : UInt32) (rest : Cursor) :
    u32 (dec n.toNat :: rest) = some (n, rest) := by
  have hparse : parseNat 10 u32Limit (dec n.toNat) = some n.toNat :=
    parseNat_render (by decide) (by decide) (Nat.le_pred_of_lt n.toNat_lt)
  show (parseNat 10 u32Limit (dec n.toNat)).bind _ = _
  rw [hparse, Option.bind_some, UInt32.ofNat_toNat]
  rfl

theorem Cursor.usize_dec {n : Nat} (h : n < 2 ^ 32) (rest : Cursor) :
    usize (dec n :: rest) = some (n, rest) := by
  have hn : (UInt32.ofNat n).toNat = n := UInt32.toNat_ofNat_of_lt' h
  have hu32 := u32_dec (UInt32.ofNat n) rest
  rw [hn] at hu32
  rw [usize, hu32]
  show some ((UInt32.ofNat n).toNat, rest) = _
  rw [hn]

theorem Cursor.i32_renderInt (i : Int32) (rest : Cursor) :
    i32 (renderInt 10 i.toInt :: rest) = some (i, rest) := by
  have hlo := i.le_toInt
  have hhi := i.toInt_lt
  have hparse : parseInt 10 i32Limit (renderInt 10 i.toInt) = some i.toInt :=
    parseInt_renderInt (by decide) (by decide) (by simp only [i32Limit]; omega)
      (by simp only [i32Limit]; omega)
  show (parseInt 10 i32Limit (renderInt 10 i.toInt)).bind _ = _
  rw [hparse, Option.bind_some, Int32.ofInt_toInt]
  rfl

theorem Cursor.hex_encodeHex (bytes : Str) (rest : Cursor) :
    hex bytes.length (encodeHex bytes :: rest) = some (bytes, rest) := by
  have hof : hexOf bytes.length (encodeHex bytes) = some bytes := by
    by_cases hne : bytes = []
    · subst hne
      rfl
    · have hlen : bytes.length ≠ 0 := fun h => hne (eq_nil_of_length_eq_zero h)
      rw [hexOf, if_neg hlen, encodeHex, if_neg hne, pairBytes_flatMap_hexPair]
      simp
  show (hexOf bytes.length (encodeHex bytes)).bind _ = _
  rw [hof, Option.bind_some]
  rfl

section Line

variable (lineno : Nat)

theorem readTyped_typedFields (noType noContents : String) (ty : Int32) {contents : Str}
    (h : contents.length < 2 ^ 32) (rest : Cursor) :
    readTyped lineno noType noContents (typedFields ty contents ++ rest)
      = .ok ((ty, contents), rest) := by
  have hhead : typeAndLen (typedFields ty contents ++ rest)
      = some ((ty, contents.length), encodeHex contents :: rest) := by
    rw [typeAndLen, typedFields, cons_append, i32_renderInt]
    show (usize _).bind _ = _
    rw [cons_append, usize_dec h]
    rfl
  rw [readTyped, hhead]
  show (orBad lineno noContents (hex contents.length (encodeHex contents :: rest)) >>= _) = _
  rw [hex_encodeHex]
  rfl

theorem readTl_fields {t : TlData} (h : t.contents.length < 2 ^ 32) (rest : Cursor) :
    readTl lineno (typedFields t.ty t.contents ++ rest) = .ok (t, rest) := by
  rw [readTl, readTyped_typedFields lineno _ _ _ h]
  rfl

theorem readSlot_fields {s : DumpKeySlot} (h : s.contents.length < 2 ^ 32) (rest : Cursor) :
    readSlot lineno (typedFields s.ty s.contents ++ rest) = .ok (s, rest) := by
  rw [readSlot, readTyped_typedFields lineno _ _ _ h]
  rfl

/-- A key the format has room for: one slot or two, and a number of sixteen bits. -/
structure DumpKeyData.Fits (k : DumpKeyData) : Prop where
  ver : k.ver = 1 ∧ k.slots.length = 1 ∨ k.ver = 2 ∧ k.slots.length = 2
  kvno : k.kvno ≤ 65535
  slots : ∀ s ∈ k.slots, s.contents.length < 2 ^ 32

theorem readKey_fields {k : DumpKeyData} (h : k.Fits) (rest : Cursor) :
    readKey lineno (k.fields ++ rest) = .ok (k, rest) := by
  obtain ⟨ver, kvno, slots⟩ := k
  have hhead : readKeyHead (DumpKeyData.fields ⟨ver, kvno, slots⟩ ++ rest)
      = some ((ver, kvno), (slots.flatMap fun s => typedFields s.ty s.contents) ++ rest) := by
    rw [readKeyHead, DumpKeyData.fields, append_assoc, cons_append, i32_renderInt]
    show (u32 _).bind _ = _
    rw [cons_append, u32_dec]
    rfl
  have hslots : readMany (readSlot lineno) slots.length
      ((slots.flatMap fun s => typedFields s.ty s.contents) ++ rest) = .ok (slots, rest) :=
    readMany_flatMap (fun s hs rest => readSlot_fields lineno (h.slots s hs) rest) rest
  have hkvno : decide (kvno > 65535) = false := decide_eq_false (UInt32.not_lt.mpr h.kvno)
  have hlen : ver.toInt.toNat = slots.length ∧ (!(ver = 1 || ver = 2)) = false := by
    rcases h.ver with ⟨hv, hl⟩ | ⟨hv, hl⟩
    · obtain rfl : ver = 1 := hv
      exact ⟨hl.symm, rfl⟩
    · obtain rfl : ver = 2 := hv
      exact ⟨hl.symm, rfl⟩
  rw [readKey, hhead]
  show (rejectIf (!(ver = 1 || ver = 2)) _ >>= fun _ => rejectIf (decide (kvno > 65535)) _ >>= fun _ =>
    readMany (readSlot lineno) ver.toInt.toNat _ >>= _) = _
  rw [hlen.1, hlen.2, hkvno, hslots]
  rfl

theorem readSizes_fields (dbLen : UInt32) {nameLen nTl nKey eLen : Nat} (hname : nameLen < 2 ^ 32)
    (hTl : nTl < 2 ^ 32) (hKey : nKey < 2 ^ 32) (he : eLen < 2 ^ 32) (rest : Cursor) :
    readSizes (dec dbLen.toNat :: dec nameLen :: dec nTl :: dec nKey :: dec eLen :: rest)
      = some (⟨dbLen, nameLen, nTl, nKey, eLen⟩, rest) := by
  rw [readSizes, u32_dec]
  show (usize _).bind _ = _
  rw [usize_dec hname]
  show (usize _).bind _ = _
  rw [usize_dec hTl]
  show (usize _).bind _ = _
  rw [usize_dec hKey]
  show (usize _).bind _ = _
  rw [usize_dec he]
  rfl

theorem readName_self (name : Str) (rest : Cursor) :
    readName name.length (name :: rest) = some (name, rest) :=
  if_pos rfl

theorem readNumbers_fields (n : DumpNumbers) (rest : Cursor) :
    readNumbers (n.fields ++ rest) = some (n, rest) := by
  simp only [readNumbers, DumpNumbers.fields, cons_append, nil_append, u32_dec,
    Option.bind_eq_bind, Option.bind_some]
  rfl

end Line

/-! ### Reading the line -/

/-- An entry the format has room for. -/
structure DumpPrincipal.Fits (p : DumpPrincipal) : Prop where
  name : tab ∉ p.name ∧ newline ∉ p.name
  nameLen : p.name.length < 2 ^ 32
  nTl : p.tlData.length < 2 ^ 32
  tl : ∀ t ∈ p.tlData, t.contents.length < 2 ^ 32
  nKeys : p.keys.length < 2 ^ 32
  keys : ∀ k ∈ p.keys, k.Fits
  eLen : p.eData.length < 2 ^ 32

theorem princFields_body (h : tab ∉ p.name) :
    princFields p.body = p.fields ++ [encodeHex p.eData] := by
  have hfields : ∀ f ∈ p.fields, tab ∉ f := not_mem_fields (by decide) (by decide) h
  have hlast : tab ∉ encodeHex p.eData ++ str ";" := by
    rw [mem_append]
    rintro (hmem | hmem)
    · exact not_mem_encodeHex (by decide) (by decide) _ hmem
    · revert hmem
      decide
  have hstrip : stripSuffix 59 (encodeHex p.eData ++ str ";") = encodeHex p.eData :=
    stripSuffix_append_self 59 _
  rw [princFields, body, splitOn_untab hfields hlast, getLast?_concat,
    Option.getD_some, hstrip, dropLast_concat, if_neg (encodeHex_ne_nil _)]

/-- **An entry reads back from its line as it was.** -/
theorem parsePrincLine_body (h : p.Fits) (lineno : Nat) : parsePrincLine p.body lineno = .ok p := by
  have hsizes := readSizes_fields p.dbLen h.nameLen h.nTl h.nKeys h.eLen
    (p.name :: (p.toDumpNumbers.fields ++ ((p.tlData.flatMap fun t => typedFields t.ty t.contents)
      ++ (p.keys.flatMap DumpKeyData.fields ++ [encodeHex p.eData]))))
  have hnumbers := readNumbers_fields p.toDumpNumbers
    ((p.tlData.flatMap fun t => typedFields t.ty t.contents)
      ++ (p.keys.flatMap DumpKeyData.fields ++ [encodeHex p.eData]))
  have htl : readMany (readTl lineno) p.tlData.length
      ((p.tlData.flatMap fun t => typedFields t.ty t.contents)
        ++ (p.keys.flatMap DumpKeyData.fields ++ [encodeHex p.eData])) = .ok (p.tlData, _) :=
    readMany_flatMap (fun t ht rest => readTl_fields lineno (h.tl t ht) rest) _
  have hkeys : readMany (readKey lineno) p.keys.length
      (p.keys.flatMap DumpKeyData.fields ++ [encodeHex p.eData]) = .ok (p.keys, _) :=
    readMany_flatMap (fun k hk rest => readKey_fields lineno (h.keys k hk) rest) _
  rw [parsePrincLine, princFields_body h.name.1, fields]
  simp only [append_assoc, cons_append, nil_append]
  rw [hsizes]
  show (orBad lineno _ (readName p.name.length (p.name :: _)) >>= _) = _
  rw [readName_self]
  show (orBad lineno _ (readNumbers _) >>= _) = _
  rw [hnumbers]
  show (readMany (readTl lineno) p.tlData.length _ >>= _) = _
  rw [htl]
  show (readMany (readKey lineno) p.keys.length _ >>= _) = _
  rw [hkeys]
  show (orBad lineno _ (hex p.eData.length [encodeHex p.eData]) >>= _) = _
  rw [hex_encodeHex]
  rfl

theorem newline_not_mem_record (h : newline ∉ p.name) : newline ∉ p.record := by
  have hfields : ∀ f ∈ p.fields, newline ∉ f := not_mem_fields (by decide) (by decide) h
  rw [record_eq, body]
  simp only [mem_append, untab, mem_flatMap, mem_singleton, not_or, not_exists,
    not_and]
  exact ⟨by decide, fun f hf => ⟨hfields f hf, by decide⟩,
    not_mem_encodeHex (by decide) (by decide) _, by decide⟩

theorem getLast?_record (p : DumpPrincipal) : p.record.getLast? = some 59 := by
  rw [record_eq, body, ← append_assoc, ← append_assoc]
  exact getLast?_concat

end Kerber
