import Kerber.Types.Str

/-!
# UTF-16

The Windows buffers of a ticket hold names in UTF-16 (`str::encode_utf16`, `String::from_utf16`).
-/

namespace Kerber

/-- The code points of a text (`str::chars`). -/
def codePoints : Str → List Nat
  | [] => []
  | a :: rest =>
    let low (b : UInt8) : Nat := b.toNat % 64
    if a < 0x80 then a.toNat :: codePoints rest
    else
      match rest with
      | b :: rest2 =>
        if a < 0xE0 then (a.toNat % 32 * 64 + low b) :: codePoints rest2
        else
          match rest2 with
          | c :: rest3 =>
            if a < 0xF0 then ((a.toNat % 16 * 64 + low b) * 64 + low c) :: codePoints rest3
            else
              match rest3 with
              | d :: rest4 =>
                (((a.toNat % 8 * 64 + low b) * 64 + low c) * 64 + low d) :: codePoints rest4
              | [] => []
          | [] => []
      | [] => []

/-- The bytes of a code point. -/
def utf8Encode (c : Nat) : Str :=
  if c < 0x80 then [UInt8.ofNat c]
  else if c < 0x800 then [UInt8.ofNat (0xC0 + c / 64), UInt8.ofNat (0x80 + c % 64)]
  else if c < 0x10000 then
    [UInt8.ofNat (0xE0 + c / 4096), UInt8.ofNat (0x80 + c / 64 % 64), UInt8.ofNat (0x80 + c % 64)]
  else
    [UInt8.ofNat (0xF0 + c / 262144), UInt8.ofNat (0x80 + c / 4096 % 64),
     UInt8.ofNat (0x80 + c / 64 % 64), UInt8.ofNat (0x80 + c % 64)]

def encodeUtf16 (s : Str) : List UInt16 :=
  (codePoints s).flatMap fun c =>
    if c < 0x10000 then [UInt16.ofNat c]
    else
      [UInt16.ofNat (0xD800 + (c - 0x10000) / 0x400), UInt16.ofNat (0xDC00 + (c - 0x10000) % 0x400)]

/-- `String::from_utf16`; a surrogate without its partner is no text. -/
def fromUtf16 : List UInt16 → Option Str
  | [] => some []
  | u :: rest =>
    if u < 0xD800 || u ≥ 0xE000 then (utf8Encode u.toNat ++ ·) <$> fromUtf16 rest
    else
      match rest with
      | v :: rest2 =>
        if u < 0xDC00 && 0xDC00 ≤ v && v < 0xE000 then
          let c := 0x10000 + (u.toNat - 0xD800) * 0x400 + (v.toNat - 0xDC00)
          (utf8Encode c ++ ·) <$> fromUtf16 rest2
        else none
      | [] => none

example : fromUtf16 (encodeUtf16 (str "aé€😀")) = some (str "aé€😀") := by decide +kernel

end Kerber
