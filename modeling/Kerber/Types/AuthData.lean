import Kerber.Lib.Codec
import Kerber.Types.Str

/-!
# Authorization data

`krb5_types::AuthorizationData` and the containers in it: the data of an AD-IF-RELEVANT element is
again authorization data in DER.
-/

namespace Kerber

structure AuthorizationDataValue where
  adType : Int32
  adData : Str
deriving DecidableEq

abbrev AuthorizationData := List AuthorizationDataValue

def adIfRelevant : Int32 := 1
def adKdcIssued : Int32 := 4
def adMandatoryForKdc : Int32 := 8
def adCammac : Int32 := 96
def adAuthIndicator : Int32 := 97
def adWin2kPac : Int32 := 128
def adSignticket : Int32 := 512

/-- The bytes of the elements, and one more for each. -/
def adSize (ad : AuthorizationData) : Nat :=
  (ad.map fun el => el.adData.length + 1).sum

theorem adSize_cons (el : AuthorizationDataValue) (ad : AuthorizationData) :
    adSize (el :: ad) = el.adData.length + 1 + adSize ad := by
  rw [adSize, List.map_cons, List.sum_cons, adSize]

/-- The DER of authorization data.  The encoding of each element takes its data and a header. -/
structure AdCodec extends Codec AuthorizationData where
  adSize_le : ∀ {bytes ad}, decode bytes = .ok ad → adSize ad ≤ bytes.length
  /-- The text `asn1_refusal` makes of bytes that do not decode and the decoder's text. -/
  refusal : Str → Str → Str

/-- What an element holds is smaller than the elements from it on. -/
theorem AdCodec.adSize_lt {c : AdCodec} {el : AuthorizationDataValue} {inner ad : AuthorizationData}
    (h : c.decode el.adData = .ok inner) : adSize inner < adSize (el :: ad) := by
  have hle := c.adSize_le h
  rw [adSize_cons]
  omega

end Kerber
