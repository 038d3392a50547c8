import Kerber.Lib.Lines

/-!
# Texts

A `&str`, a `String` and a byte vector of the source are all lists of bytes here: the database
file, the names in it and the messages about it are cut and searched at ASCII delimiters only,
which UTF-8 never uses inside another character, so working on bytes loses nothing.
-/

namespace Kerber

/-- The bytes of a `&str`, a `String` or a `Vec<u8>`. -/
abbrev Str := List UInt8

instance instLawfulBEqStr : LawfulBEq Str := inferInstance

/-- The bytes of a literal. -/
def str (s : String) : Str :=
  s.toList.flatMap String.utf8EncodeChar

/-- Whether bytes are UTF-8 (`std::str::from_utf8`): one sequence of one to four bytes after
another, with no overlong form, surrogate or value past the last code point. -/
def isUtf8 : Str → Bool
  | [] => true
  | a :: rest =>
    let cont (b : UInt8) : Bool := 0x80 ≤ b && b ≤ 0xBF
    if a < 0x80 then isUtf8 rest
    else
      match rest with
      | b :: rest2 =>
        if 0xC2 ≤ a && a ≤ 0xDF then cont b && isUtf8 rest2
        else
          match rest2 with
          | c :: rest3 =>
            if a == 0xE0 then 0xA0 ≤ b && b ≤ 0xBF && cont c && isUtf8 rest3
            else if a == 0xED then 0x80 ≤ b && b ≤ 0x9F && cont c && isUtf8 rest3
            else if 0xE1 ≤ a && a ≤ 0xEF then cont b && cont c && isUtf8 rest3
            else
              match rest3 with
              | d :: rest4 =>
                if a == 0xF0 then 0x90 ≤ b && b ≤ 0xBF && cont c && cont d && isUtf8 rest4
                else if a == 0xF4 then 0x80 ≤ b && b ≤ 0x8F && cont c && cont d && isUtf8 rest4
                else if 0xF1 ≤ a && a ≤ 0xF3 then cont b && cont c && cont d && isUtf8 rest4
                else false
              | [] => false
          | [] => false
      | [] => false

/-- The length of the character or of the bytes that are none at the front of a text, and which of
the two it is (one step of `Utf8Chunks`). -/
def utf8Head : Str → Nat × Bool
  | [] => (0, true)
  | a :: rest =>
    let cont (b : UInt8) : Bool := 0x80 ≤ b && b ≤ 0xBF
    let second (b : UInt8) : Bool :=
      if a == 0xE0 then 0xA0 ≤ b && b ≤ 0xBF
      else if a == 0xED then 0x80 ≤ b && b ≤ 0x9F
      else if a == 0xF0 then 0x90 ≤ b && b ≤ 0xBF
      else if a == 0xF4 then 0x80 ≤ b && b ≤ 0x8F
      else cont b
    let need : Nat :=
      if a < 0x80 then 1
      else if 0xC2 ≤ a && a ≤ 0xDF then 2
      else if 0xE0 ≤ a && a ≤ 0xEF then 3
      else if 0xF0 ≤ a && a ≤ 0xF4 then 4
      else 0
    match need, rest with
    | 0, _ => (1, false)
    | 1, _ => (1, true)
    | need, b :: rest =>
      if !second b then (1, false)
      else
        -- the bytes after the second are plain continuations
        let more := (rest.take (need - 2)).takeWhile cont
        if more.length = need - 2 then (need, true) else (2 + more.length, false)
    | _, [] => (1, false)

/-- `String::from_utf8_lossy`: bytes that are no character become the replacement character. -/
def fromUtf8Lossy (s : Str) : Str :=
  go s.length s
where
  go : Nat → Str → Str
    | 0, _ => []
    | _, [] => []
    | fuel + 1, s =>
      match utf8Head s with
      | (n, true) => s.take n ++ go fuel (s.drop n)
      | (n, false) => [0xEF, 0xBF, 0xBD] ++ go fuel (s.drop n)

/-! ### White space -/

/-- The characters with the Unicode property White_Space. -/
def whiteSpace : List Str :=
  [[9], [10], [11], [12], [13], [32], [0xC2, 0x85], [0xC2, 0xA0], [0xE1, 0x9A, 0x80],
   [0xE2, 0x80, 0x80], [0xE2, 0x80, 0x81], [0xE2, 0x80, 0x82], [0xE2, 0x80, 0x83],
   [0xE2, 0x80, 0x84], [0xE2, 0x80, 0x85], [0xE2, 0x80, 0x86], [0xE2, 0x80, 0x87],
   [0xE2, 0x80, 0x88], [0xE2, 0x80, 0x89], [0xE2, 0x80, 0x8A], [0xE2, 0x80, 0xA8],
   [0xE2, 0x80, 0xA9], [0xE2, 0x80, 0xAF], [0xE2, 0x81, 0x9F], [0xE3, 0x80, 0x80]]

/-- A text without the given texts in front. -/
def dropAll (front : List Str) : Nat → Str → Str
  | 0, s => s
  | fuel + 1, s =>
    match front.findSome? fun w => stripPrefix w s with
    | some rest => dropAll front fuel rest
    | none => s

def trim (s : Str) : Str :=
  let s := dropAll whiteSpace s.length s
  (dropAll (whiteSpace.map List.reverse) s.length s.reverse).reverse

end Kerber
