import Kerber.Lib.Digits
import Kerber.Types.Str
import Kerber.Types.Time

/-!
# The octets of a `KerberosTime`

What the decoder makes of the text `YYYYMMDDhhmmssZ` (krb5-types, lib.rs).  An `i64` is an `Int`: with
four digits at most no operation leaves its range, and no division has a negative operand but the
Euclidean ones.
-/

namespace Kerber.Generaltime

/-- The days from the epoch to the first of a month, for the months counted from 1. -/
def daysFromCivil (y m : Int) : Int :=
  let y := if m ≤ 2 then y - 1 else y
  let era := y / 400
  let yoe := y - era * 400
  let mp := (m + 9) % 12
  let doy := (153 * mp + 2) / 5
  let doe := yoe * 365 + yoe / 4 - yoe / 100 + doy
  era * 146097 + doe - 719468

/-- The number that the digits of a slice stand for. -/
def digits (s : Str) (start stop : Nat) : Option Int :=
  (valueOf 10 0 ((s.take stop).drop start)).map Int.ofNat

/-- The part of `mit_generaltime` that does the arithmetic. -/
def civilSeconds (s : Str) : Option UInt32 := do
  let year ← digits s 0 4
  let month := (← digits s 4 6) - 1
  let mday ← digits s 6 8
  let hour ← digits s 8 10
  let min ← digits s 10 12
  let sec ← digits s 12 14
  let y := year + month / 12
  let m := month % 12 + 1
  let days := daysFromCivil y m + mday - 1
  let t := days * 86400 + hour * 3600 + min * 60 + sec
  if t = -1 then none else some (UInt32.ofNat (t % 2 ^ 32).toNat)

def mitGeneraltime (s : Str) : Option UInt32 :=
  if s.length ≠ 15 ∨ s.getD 14 0 ≠ 0x5A then none
  else if s = str "19700101000000Z" then some 0
  else civilSeconds s

/-- `KerberosTime::decode`, on the octets of the string. -/
def decode (octets : Str) : Except Str KerberosTime :=
  match mitGeneraltime octets with
  | some s => .ok (.fromUnixSeconds s.toNat)
  | none => .error (str "KerberosTime is not YYYYMMDDhhmmssZ (" ++ render 10 octets.length
      ++ str " octets)")

end Kerber.Generaltime
