import Kerber.Types.Equiv.Der

/-!
# The PAC is found

`zeroPacAdData_elements`: of elements as `push_tlv` writes them, nested and in octet strings, zeroing
reads every one and finds the PAC wherever it is.
-/

namespace Kerber.Der

open List

/-- Elements as `push_tlv` writes them, and whether the PAC is in them. -/
inductive Elements (pac : Str) : Bool → Str → Prop
  | nil : Elements pac false []
  | cons {tag : UInt8} {content rest : Str} {p q : Bool} (htag : tag &&& 0x1F ≠ 0x1F)
      (hcons : tag &&& 0x20 ≠ 0 → Elements pac p content)
      (hleaf : tag &&& 0x20 = 0 → p = true → tag = 0x04 ∧ content = pac)
      (hrest : Elements pac q rest) : Elements pac (p || q) (pushTlv tag content ++ rest)
  | octets {content rest : Str} {p q : Bool} (hcontent : Elements pac p content)
      (hrest : Elements pac q rest) :
      Elements pac (p || q) (pushTlv 0x04 (pushTlv 0x30 content) ++ rest)

variable {pac data content rest : Str} {tag : UInt8} {p q : Bool}

theorem length_pushTlv (tag : UInt8) (value : Str) : value.length < (pushTlv tag value).length := by
  rw [pushTlv, length_cons, length_append]
  omega

theorem readTlv_pushTlv (htag : tag &&& 0x1F ≠ 0x1F) (h : content.length < 2 ^ 64) (rest : Str) :
    readTlv (pushTlv tag content ++ rest)
      = some (tag, tag &&& 0x20 != 0, content, (pushTlv tag content).length) := by
  have hlen := readLen_pushLen h (content ++ rest)
  rw [if_pos (by simp)] at hlen
  simp [readTlv, pushTlv, htag, hlen, Nat.add_comm 1, Nat.add_right_comm]

/-- An element is read as a whole, and what is in it is found. -/
def Finds (pac : Str) (p : Bool) (e : Str) : Prop :=
  ∀ rest, ∀ fuel ≥ e.length, ∃ ch r, rewriteOne pac fuel (e ++ rest) = some (ch, r, e.length) ∧
    (p = true → r = true)

def Walks (pac : Str) (p : Bool) (s : Str) : Prop :=
  ∀ fuel ≥ s.length, ∀ m ≥ s.length, ∃ out any,
    rewriteAll (rewriteOne pac fuel) m s = some (out, any) ∧ (p = true → any = true)

theorem Walks.cons (he : Finds pac p (pushTlv tag content)) (hrest : Walks pac q rest) :
    Walks pac (p || q) (pushTlv tag content ++ rest) := by
  intro fuel hfuel m hm
  have hpos := length_pushTlv tag content
  rw [length_append] at hfuel hm
  obtain ⟨m, rfl⟩ : ∃ k, m = k + 1 := ⟨m - 1, by omega⟩
  obtain ⟨ch, r, hone, hr⟩ := he rest fuel (by omega)
  obtain ⟨out, any, hout, hany⟩ := hrest fuel (by omega) m (by omega)
  refine ⟨ch ++ out, r || any, ?_, ?_⟩
  · rw [rewriteAll, hone]
    · simp [hout]
    · simp [pushTlv]
  · simp only [Bool.or_eq_true]
    exact Or.imp hr hany

theorem finds_pushTlv (htag : tag &&& 0x1F ≠ 0x1F) (hlen : content.length < 2 ^ 64)
    (hcons : tag &&& 0x20 ≠ 0 → Walks pac p content)
    (hleaf : tag &&& 0x20 = 0 → p = true →
      tag = 0x04 ∧ (content = pac ∨ content.head? = some 0x30 ∧ Finds pac p content)) :
    Finds pac p (pushTlv tag content) := by
  intro rest fuel hfuel
  have hpos := length_pushTlv tag content
  obtain ⟨fuel, rfl⟩ : ∃ k, fuel = k + 1 := ⟨fuel - 1, by omega⟩
  rw [rewriteOne, readTlv_pushTlv htag hlen]
  simp only [Option.bind_eq_bind, Option.bind_some, bne_iff_ne]
  by_cases hpac : tag = 0x04 ∧ content = pac
  · rw [if_pos hpac]
    exact ⟨_, true, rfl, fun _ => rfl⟩
  rw [if_neg hpac]
  by_cases hc : tag &&& 0x20 = 0
  · rw [if_neg (not_not.mpr hc)]
    by_cases hp : p = true
    · obtain ⟨rfl, rfl | ⟨hhead, hfinds⟩⟩ := hleaf hc hp
      · exact absurd ⟨rfl, rfl⟩ hpac
      · obtain ⟨ch, r, hone, hr⟩ := hfinds [] fuel (by omega)
        rw [append_nil, hr hp] at hone
        rw [if_pos ⟨rfl, hhead⟩, hone]
        dsimp only
        rw [if_pos rfl]
        exact ⟨_, true, rfl, fun _ => rfl⟩
    · -- Nothing is sought in here: however the octets are read, they are passed as a whole.
      split_ifs
      · split
        · split_ifs <;> exact ⟨_, _, rfl, fun h => absurd h hp⟩
        · exact ⟨_, _, rfl, fun h => absurd h hp⟩
      · exact ⟨_, _, rfl, fun h => absurd h hp⟩
  · obtain ⟨out, any, hout, hany⟩ := hcons hc fuel (by omega) _ (Nat.le_refl _)
    rw [if_pos hc, hout]
    cases any
    · exact ⟨_, false, rfl, hany⟩
    · exact ⟨_, true, rfl, fun _ => rfl⟩

theorem Elements.walks (h : Elements pac p data) (hlen : data.length < 2 ^ 64) : Walks pac p data := by
  induction h with
  | nil => exact fun _ _ m _ => ⟨[], false, by rw [rewriteAll], fun h => h⟩
  | @cons tag content rest p q htag _ hleaf _ ihcons ihrest =>
    have hpos := length_pushTlv tag content
    rw [length_append] at hlen
    refine .cons (finds_pushTlv htag (by omega) (fun hc => ihcons hc (by omega)) ?_) (ihrest (by omega))
    exact fun hc hp => (hleaf hc hp).imp_right .inl
  | @octets content rest p q _ _ ihcontent ihrest =>
    have hpos := length_pushTlv 0x30 content
    have hpos' := length_pushTlv 0x04 (pushTlv 0x30 content)
    rw [length_append] at hlen
    have hinner : Finds pac p (pushTlv 0x30 content) :=
      finds_pushTlv (by decide) (by omega) (fun _ => ihcontent (by omega)) fun h => absurd h (by decide)
    refine .cons (finds_pushTlv (by decide) (by omega) (absurd rfl) fun _ _ => ?_) (ihrest (by omega))
    exact ⟨rfl, .inr ⟨rfl, hinner⟩⟩

/-- **Zeroing finds the PAC** in every element that holds it, and changes nothing else. -/
theorem zeroPacAdData_elements (htag : tag &&& 0x1F ≠ 0x1F) (hcons : tag &&& 0x20 ≠ 0)
    (hlen : content.length < 2 ^ 64) (hpac : pac ≠ []) (h : Elements pac true content) :
    ∃ out, zeroPacAdData (pushTlv tag content) pac = some out ∧
      Zeroed pac (pushTlv tag content) out true := by
  have hfinds : Finds pac true (pushTlv tag content) :=
    finds_pushTlv htag hlen (fun _ => h.walks hlen) fun h => absurd h hcons
  obtain ⟨out, r, hone, hr⟩ := hfinds [] _ (Nat.le_succ _)
  rw [append_nil, hr rfl] at hone
  have hzeroed := rewriteOne_zeroed _ hone
  rw [take_length] at hzeroed
  refine ⟨out, ?_, hzeroed⟩
  rw [zeroPacAdData, if_neg hpac, hone]
  exact if_pos rfl

/-- A PAC in a sequence in an octet string. -/
theorem zeroPacAdData_elements_nested : ∃ out, zeroPacAdData
    (pushTlv 0x63 (pushTlv 0x04 (pushTlv 0x30 (pushTlv 0x04 [1, 2])))) [1, 2] = some out := by
  have hpac : Elements [1, 2] true (pushTlv 0x04 [1, 2] ++ []) :=
    .cons (p := true) (by decide) (absurd rfl) (fun _ _ => ⟨rfl, rfl⟩) .nil
  have hwrapped : Elements [1, 2] true (pushTlv 0x04 (pushTlv 0x30 (pushTlv 0x04 [1, 2])) ++ []) :=
    .octets hpac .nil
  exact (zeroPacAdData_elements (by decide) (by decide) (by decide) (by decide) hwrapped).imp
    fun _ h => h.1

end Kerber.Der
