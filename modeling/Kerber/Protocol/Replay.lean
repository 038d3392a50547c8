import Mathlib.Data.Finset.Card
import Kerber.Crypto.Checksum
import Kerber.Types.Time

/-!
# The replay cache

`ReplayCache` (`replay.rs`): the tags of the messages that were taken, each held for the clock skew
after it arrived.  The cache counts whole seconds of the machine's clock from its own start; the
messages are dated in whole seconds of the day (`wall`).
-/

namespace Kerber.Protocol

/-! ### The clock -/

def nanosPerSec : Nat := 1000000000

variable (g : ReplayCache) (clock : Nat)

/-- `KerberosTime::now()` at a point of the machine's clock, which counts nanoseconds since the
epoch. -/
def wall : KerberosTime := .fromUnixSeconds (clock / nanosPerSec)

/-! ### Tags -/

/-- `ReplayKey`: at most 24 bytes, with zeros behind them. -/
structure ReplayKey where
  len : Nat
  tag : Str
deriving DecidableEq

def tagMax : Nat := 24

def file2TagLen : Nat := 12

/-- The array that the bytes are copied to. -/
def padTag (bytes : Str) : Str := bytes ++ List.replicate (tagMax - bytes.length) 0

namespace ReplayKey

/-- `ReplayKey::tag`. -/
def ofTag (bytes : Str) : ReplayKey := ⟨min bytes.length tagMax, padTag (bytes.take tagMax)⟩

/-- `ReplayKey::from_ciphertext`: the checksum at the end of the ciphertext. -/
def fromCiphertext (etype : EncryptionType) (cipher : Str) : Option ReplayKey := do
  let len ← checksumOutputSize etype.checksumType
  if cipher.length < len then none else return ofTag (cipher.drop (cipher.length - len))

def file2 (k : ReplayKey) : ReplayKey := ⟨file2TagLen, padTag (k.tag.take file2TagLen)⟩

end ReplayKey

/-! ### The cache -/

/-- The tags that go at one second. -/
abbrev Bucket := Nat × List ReplayKey

/-- `Inner`, with the lock around it. -/
structure ReplayCache where
  seen : Finset ReplayKey
  buckets : List Bucket
  (maxEntries start : Nat)
  poisoned : Bool
deriving DecidableEq

namespace ReplayCache

def withLimits (maxEntries clock : Nat) : ReplayCache :=
  ⟨∅, [], max maxEntries 1, clock, false⟩

def new : ReplayCache := withLimits 250000 clock

/-- `start.elapsed().as_secs()`. -/
def seconds : Nat := (clock - g.start) / nanosPerSec

/-- The loop that drops the tags of the past. -/
def evict (now : Nat) : List Bucket → Finset ReplayKey → List Bucket × Finset ReplayKey
  | [], seen => ([], seen)
  | (expiry, keys) :: rest, seen =>
    if expiry < now then evict now rest (keys.foldl (fun s k => s.erase k) seen)
    else ((expiry, keys) :: rest, seen)

/-- The tag goes to the last bucket if it has the same second, to a new one otherwise. -/
def pushKey (expiry : Nat) (key : ReplayKey) : List Bucket → List Bucket
  | [] => [(expiry, [key])]
  | [(e, keys)] => if e = expiry then [(e, keys ++ [key])] else [(e, keys), (expiry, [key])]
  | b :: c :: rest => b :: pushKey expiry key (c :: rest)

/-- The cache without the tags of the past. -/
def prune (now : Nat) : ReplayCache :=
  let (buckets, seen) := evict now g.buckets g.seen
  { g with buckets, seen }

/-- The cache with a tag that goes at some second. -/
def store (expiry : Nat) (key : ReplayKey) : ReplayCache :=
  { g with buckets := pushKey expiry key g.buckets, seen := insert key g.seen }

/-- `check_and_store`: whether the tag is a replay.  A negative skew counts as none. -/
def checkAndStore (key : ReplayKey) (skew : Int) : Bool × ReplayCache :=
  if g.poisoned then (true, g)
  else if key ∈ g.seen then (true, g)
  else
    let now := g.seconds clock
    let g := g.prune now
    if g.maxEntries ≤ g.seen.card then (true, g)
    else (false, g.store (now + skew.toNat) key)

end ReplayCache

end Kerber.Protocol
