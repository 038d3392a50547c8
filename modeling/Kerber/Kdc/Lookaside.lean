import Kerber.Lib.HashMap
import Kerber.Types.Str

/-!
# The lookaside cache

The replies the KDC sends again when a request is repeated (`krb5_kdc::lookaside`).  The entries are in
a map under the bytes of the request and in a queue by age; a slot of the queue is emptied when its
entry is discarded and leaves the queue from the front.  The readings of the clock are arguments.
-/

namespace Kerber

namespace Lookaside

def entryOverhead : Nat := 64

structure Entry where
  timein : Nat
  reply : Option Str
  (seq size : Nat)
deriving DecidableEq

inductive Check
  | hit (reply : Str)
  | inProgress
  | fresh
deriving DecidableEq

/-- The readings of the clock during a call: when entries are evicted and when the new one is made. -/
structure Clock where
  (evictAt insertAt : Nat)

end Lookaside

open Lookaside

structure Lookaside where
  map : HashMap Str Entry
  order : List (Option Str)
  (head total maxSize stale : Nat)
  fullLogged : Bool

namespace Lookaside

def withLimits (maxSize stale : Nat) : Lookaside where
  map := ∅
  order := []
  head := 0
  total := 0
  maxSize
  stale
  fullLogged := false

variable (req : Str) (c : Lookaside)

def liveEntry (slot : Option Str) : Option Entry :=
  (slot.bind fun key => c.map.lookup key).filter (·.seq = c.head)

def noteFull : Lookaside :=
  { c with fullLogged := true }

/-- One round of the loop of `evict`, if it goes on. -/
def evictFront (now incoming : Nat) (c : Lookaside) : Option Lookaside :=
  match c.order with
  | [] => none
  | front :: order =>
    match c.liveEntry front with
    | some e =>
      let stale : Bool := c.stale < now - e.timein
      if !stale && c.total + incoming ≤ c.maxSize then none
      else
        let c := { c with
          order
          map := front.elim c.map c.map.erase
          total := c.total - e.size
          head := c.head + 1 }
        some (if stale then c else c.noteFull)
    | none => some { c with order, head := c.head + 1 }

/-- The loop of `evict`, for as many rounds as there are slots. -/
def evictLoop (now incoming : Nat) : Nat → Lookaside → Lookaside
  | 0, c => c
  | rounds + 1, c =>
    match c.evictFront now incoming with
    | none => c
    | some c => evictLoop now incoming rounds c

def evict (now incoming : Nat) (c : Lookaside) : Lookaside :=
  evictLoop now incoming c.order.length c

def sizeOf (key : Str) (reply : Option Str) : Nat :=
  entryOverhead + key.length + reply.elim 0 List.length

def insert (key : Str) (reply : Option Str) (clock : Clock) (c : Lookaside) : Lookaside :=
  let size := sizeOf key reply
  let c := c.evict clock.evictAt size
  { c with
    order := c.order ++ [some key]
    total := c.total + size
    map := c.map.insert key ⟨clock.insertAt, reply, c.head + c.order.length, size⟩ }

def discard : Lookaside :=
  match c.map.lookup req with
  | none => c
  | some e =>
    { c with
      map := c.map.erase req
      total := c.total - e.size
      order := if c.head ≤ e.seq then c.order.set (e.seq - c.head) none else c.order }

def checkOrMark (clock : Clock) (c : Lookaside) : Check × Lookaside :=
  match c.map.lookup req with
  | some e =>
    match e.reply with
    | some reply => (.hit reply, c)
    | none => (.inProgress, c)
  | none => (.fresh, c.insert req none clock)

def finish (reply : Option Str) (clock : Clock) (c : Lookaside) : Lookaside :=
  let c := c.discard req
  match reply with
  | some bytes => if bytes ≠ [] then c.insert req (some bytes) clock else c
  | none => c

/-- A call. -/
inductive Call
  | check (req : Str) (clock : Clock)
  | finish (req : Str) (reply : Option Str) (clock : Clock)

def call : Call → Lookaside
  | .check req clock => (c.checkOrMark req clock).2
  | .finish req reply clock => c.finish req reply clock

def calls (cs : List Call) : Lookaside :=
  cs.foldl call c

end Lookaside

end Kerber
