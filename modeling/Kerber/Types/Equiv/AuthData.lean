import Kerber.Lib.Endian
import Kerber.Lib.Except
import Kerber.Types.AuthData

/-!
# A plain format of authorization data

`plainAd` writes the number of elements and each of them with its type and length.  It reads back
what it writes (`lawful_plainAd`), so that what is stated for every format can be tried on one.
-/

namespace Kerber

open List

variable {el : AuthorizationDataValue} {bytes rest : Str}

def plainElement (el : AuthorizationDataValue) : Str :=
  le32 el.adType.toUInt32 ++ le32 (UInt32.ofNat el.adData.length) ++ el.adData

/-- An element off the front. -/
def readElement (bytes : Str) : Except Str (AuthorizationDataValue × Str) :=
  let n := (le32At bytes 4).toNat
  if bytes.length < 8 + n then .error []
  else .ok (⟨(le32At bytes 0).toInt32, (bytes.drop 8).take n⟩, (bytes.drop 8).drop n)

theorem readElement_plainElement (h : el.adData.length < 2 ^ 32) (rest : Str) :
    readElement (plainElement el ++ rest) = .ok (el, rest) := by
  have htype : le32At (plainElement el ++ rest) 0 = el.adType.toUInt32 := by
    rw [plainElement, append_assoc, append_assoc, le32At_le32]
  have hlen : (le32At (plainElement el ++ rest) 4).toNat = el.adData.length := by
    rw [plainElement, append_assoc, append_assoc]
    rw [le32At_le32_add _ _ 0, le32At_le32, UInt32.toNat_ofNat', Nat.mod_eq_of_lt h]
  have hdrop : (plainElement el ++ rest).drop 8 = el.adData ++ rest := by
    rw [plainElement, append_assoc]
    rfl
  have hroom : ¬ (plainElement el ++ rest).length < 8 + el.adData.length := by
    rw [length_append, plainElement]
    simp only [length_append, length_le32]
    omega
  rw [readElement, hlen, if_neg hroom, htype, hdrop, take_left, drop_left, Int32.toInt32_toUInt32]

theorem length_of_readElement (h : readElement bytes = .ok (el, rest)) :
    el.adData.length + 1 + rest.length ≤ bytes.length := by
  unfold readElement at h
  dsimp only at h
  split at h
  · cases h
  · cases h
    simp only [length_take, length_drop]
    omega

theorem adSize_of_readMany {n : Nat} {ad : AuthorizationData}
    (h : readMany readElement n bytes = .ok (ad, rest)) : adSize ad + rest.length ≤ bytes.length := by
  induction n generalizing bytes ad with
  | zero =>
    cases h
    exact Nat.le_of_eq (Nat.zero_add _)
  | succ n ih =>
    obtain ⟨⟨el, mid⟩, hel, h⟩ := bind_ok h
    obtain ⟨⟨els, end_⟩, hels, h⟩ := bind_ok h
    cases h
    have hfirst := length_of_readElement hel
    have hrest := ih hels
    rw [adSize_cons]
    omega

/-- The elements of a whole text. -/
def readElements (bytes : Str) : Except Str AuthorizationData := do
  let (ad, rest) ← readMany readElement (le32At bytes 0).toNat (bytes.drop 4)
  if rest = [] then .ok ad else .error []

def plainAd : AdCodec where
  encode ad :=
    if ad.length < 2 ^ 32 ∧ ∀ el ∈ ad, el.adData.length < 2 ^ 32 then
      .ok (le32 (UInt32.ofNat ad.length) ++ ad.flatMap plainElement)
    else .error []
  decode := readElements
  adSize_le := by
    intro bytes ad h
    obtain ⟨⟨els, rest⟩, hels, h⟩ := bind_ok h
    dsimp only at h
    split at h
    · cases h
      have hsize := adSize_of_readMany hels
      rw [length_drop] at hsize
      omega
    · cases h
  refusal _ text := text

theorem lawful_plainAd : plainAd.Lawful := by
  intro ad bytes h
  simp only [plainAd] at h
  split at h
  · rename_i hsizes
    cases h
    have hcount : (le32At (le32 (UInt32.ofNat ad.length) ++ ad.flatMap plainElement) 0).toNat
        = ad.length := by
      rw [le32At_le32, UInt32.toNat_ofNat', Nat.mod_eq_of_lt hsizes.1]
    have hread := readMany_flatMap (fun el hel => readElement_plainElement (hsizes.2 el hel)) []
    rw [append_nil] at hread
    show readElements _ = _
    rw [readElements, hcount]
    show (readMany readElement ad.length (ad.flatMap plainElement) >>= _) = _
    rw [hread]
    rfl
  · cases h

end Kerber
