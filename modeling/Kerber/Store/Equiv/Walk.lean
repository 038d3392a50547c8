import Kerber.Lib.Rows
import Kerber.Store.Equiv.Kdbe

/-!
# Walking over an update and decoding it

The update log walks over the bytes of an update, the replica decodes them; the two parsers share
nothing but the primitives.  `walk_agrees`: what both accept they read alike, and writing the word the
walk found the commit flag in changes that flag of the decoded update and nothing else.
-/

namespace Kerber.Store

open XdrIn

section Updates

variable {crypto : Crypto} {mkey : Option ProtocolKey} {b : Str} {u : IpropUpdate} {len : Nat}

theorem local_kdbe : Local (decodeKdbe crypto mkey) :=
  Local.counted (local_u32.bind fun tag => (walks_val crypto mkey tag).2) 8

theorem local_front : Local (readFront crypto mkey) :=
  local_bytes.bind fun name => local_u32.bind fun sno => local_u32.bind fun time =>
    local_u32.bind fun useconds => local_kdbe.bind fun vals => local_bool.bind fun deleted =>
      local_pure (UpdateFront.mk name sno time useconds vals deleted)

theorem writeAt_word (front word back : Str) (n : UInt32) (h : word.length = 4) :
    writeAt (front ++ (word ++ back)) front.length (be32 n) = front ++ (be32 n ++ back) := by
  rw [← List.append_assoc, writeAt_over front (be32 n) word back (by rw [length_be32, h]),
    List.append_assoc]

theorem bool_word {r r₁ : XdrIn} {flag : Bool} (h : r.bool = .ok (flag, r₁)) :
    ∃ word : Str, word.length = 4 ∧ r.rest = word ++ r₁.rest ∧ r₁.pos = r.pos + 4 := by
  obtain ⟨⟨n, r₂⟩, hword, hreturn⟩ := bind_ok h
  cases hreturn
  obtain ⟨⟨word, r₃⟩, htake, hreturn⟩ := bind_ok hword
  cases hreturn
  rw [take] at htake
  split at htake
  · rename_i hle
    cases htake
    exact ⟨r.rest.take 4, by rw [List.length_take]; omega, (List.take_append_drop 4 _).symm, rfl⟩
  · cases htake

/-- **The walker of the update log agrees with the decoder**: what both accept they read alike, up to the
same byte, and whatever word is written where the walk found the commit flag, the update then decodes
as before but for that flag (and the copy of its bytes). -/
theorem walk_agrees {layout : IncrLayout} (hwalk : walkIncrUpdate b = .ok layout)
    (hdecode : decodeIncrUpdate crypto b mkey = .ok (u, len)) :
    layout.name = u.name ∧ layout.sno = u.sno ∧ layout.time.seconds = u.time
      ∧ layout.deleted = u.deleted ∧ layout.commit = u.commit ∧ layout.len = len
      ∧ ∀ word : UInt32, decodeIncrUpdate crypto (writeAt b layout.commitAt (be32 word)) mkey
        = .ok ({ u with commit := word != 0, raw := writeAt b layout.commitAt (be32 word) }, len) := by
  obtain ⟨front, r, commit, r₁, r₂, hfront, hcommit, hback, rfl, rfl⟩ :=
    decodeIncrUpdate_ok.mp hdecode
  obtain ⟨commit', r₁', r₂', hutf8, hcommit', hback', hend, rfl⟩ := (walkIncrUpdate_ok hfront).mp hwalk
  -- Behind the front both read the same flag and skip the same bytes.
  rw [hcommit] at hcommit'
  obtain ⟨rfl, rfl⟩ := Prod.mk.inj (Except.ok.inj hcommit')
  rw [hback] at hback'
  obtain rfl := Except.ok.inj hback'
  refine ⟨(fromUtf8Lossy_eq_self hutf8).symm, rfl, rfl, rfl, rfl, rfl, fun word => ?_⟩
  obtain ⟨p, hb, hpos, hsame⟩ := local_front b 0 front r hfront
  obtain ⟨old, hold, hrest, hpos₁⟩ := bool_word hcommit
  have hplace : r.pos = p.length := by
    rw [hpos, Nat.zero_add]
  have hwrite : writeAt b r.pos (be32 word) = p ++ (be32 word ++ r₁.rest) := by
    rw [hb, hrest, hplace]
    exact writeAt_word p old r₁.rest word hold
  have hsize : (be32 word ++ r₁.rest).length = r.rest.length := by
    rw [hrest, List.length_append, List.length_append, length_be32, hold]
  rw [hwrite]
  refine decodeIncrUpdate_ok.mpr ⟨front, ⟨be32 word ++ r₁.rest, r.pos⟩, word != 0, r₁, r₂,
    hsame _ hsize, ?_, hback, rfl, ?_⟩
  · rw [XdrIn.bool, u32_append, ← hpos₁]
    rfl
  · have hraw : (p ++ (be32 word ++ r₁.rest)).take r₂.pos = p ++ (be32 word ++ r₁.rest) := by
      refine List.take_of_length_le ?_
      rw [hend, hb, List.length_append, hsize, List.length_append]
    rw [hraw]

end Updates

/-- An update of one attribute: walked over, decoded, and with its commit word set. -/
theorem walk_agrees_one :
    let b := encodeIncrUpdate (str "a@R") 7 ⟨5, 6⟩ (be32 1 ++ be32 0 ++ be32 9) true false
    ∃ layout u len, walkIncrUpdate b = .ok layout ∧ decodeIncrUpdate Sample.plainCrypto b none = .ok (u, len)
      ∧ layout.name = u.name
      ∧ decodeIncrUpdate Sample.plainCrypto (writeAt b layout.commitAt (be32 1)) none
        = .ok ({ u with commit := true, raw := writeAt b layout.commitAt (be32 1) }, len) := by
  have hwalk : walkIncrUpdate
      (encodeIncrUpdate (str "a@R") 7 ⟨5, 6⟩ (be32 1 ++ be32 0 ++ be32 9) true false)
      = .ok ⟨str "a@R", 7, ⟨5, 6⟩, true, false, 36, 1, 1, 48⟩ := by decide +kernel
  have hdecode : decodeIncrUpdate Sample.plainCrypto
      (encodeIncrUpdate (str "a@R") 7 ⟨5, 6⟩ (be32 1 ++ be32 0 ++ be32 9) true false) none
      = .ok (⟨7, 5, str "a@R", true, false, [.attrFlags 9],
        encodeIncrUpdate (str "a@R") 7 ⟨5, 6⟩ (be32 1 ++ be32 0 ++ be32 9) true false⟩, 48) := by
    decide +kernel
  obtain ⟨hname, -, -, -, -, -, hset⟩ := walk_agrees hwalk hdecode
  exact ⟨_, _, _, hwalk, hdecode, hname, hset 1⟩

end Kerber.Store
