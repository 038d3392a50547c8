/-!
# CRC-32

The reflected cyclic redundancy check with the polynomial `0xEDB88320`, byte by byte through its
table.
-/

namespace Kerber

/-- One bit of a table entry. -/
def crcBit (c : UInt32) : UInt32 :=
  if (c &&& 1) == 1 then (0xEDB88320 : UInt32) ^^^ (c >>> 1) else c >>> 1

/-- `CRC_TABLE[n]`. -/
def crcTable (n : UInt8) : UInt32 :=
  Nat.repeat crcBit 8 n.toUInt32

def crc32 (bytes : List UInt8) : UInt32 :=
  ~~~(bytes.foldl (fun c b => crcTable (c.toUInt8 ^^^ b) ^^^ (c >>> 8)) 0xFFFFFFFF)

/-- The check value of the polynomial, over the digits one to nine. -/
example : crc32 [49, 50, 51, 52, 53, 54, 55, 56, 57] = 0xCBF43926 := by decide +kernel

end Kerber
