import Kerber.Lib.Except
import Kerber.Types.Name

/-!
# Receiving a full propagation

What `kpropd` does with a full dump (`krb5-admin`, `kprop.rs`): `recvDatabase` reads the announced
size and then block after block into a temporary file, and `doit` renames that file into place and
has it loaded.

The connection is the list of outcomes its reads have.  The protection of the messages is a
parameter (`AcceptorOps`), and so is the outcome of each write to the file: the file is the
sequence of write calls made on it, each with what became of it.
-/

namespace Kerber.Kprop

/-- The errors of the message protection (`krb5_protocol::Error`). -/
inductive ProtocolError
  | krbError (code : Int) (text : Option Str)
  | crypto (text : Str)
  | asn1 (text : Str)
  | other (text : Str)
deriving DecidableEq

/-- `krb5_admin`'s error: one already reported, or one with a text. -/
inductive KpropError
  | reported
  | inner (text : Str)
deriving DecidableEq

/-- The receiving side of the session (`KpropAuth::acceptor`): unwrapping a KRB-SAFE and a
KRB-PRIV message, and setting the cipher state. -/
structure AcceptorOps (σ : Type) where
  (rdSafe rdPriv : σ → Str → Except ProtocolError (Str × σ))
  initIvector : σ → Except Str σ

/-- The outcome of one `read_message`; `expired` is the deadline of the whole transfer. -/
inductive ReadOutcome
  | message (raw : Str)
  | failed (expired : Bool) (text : Str)
deriving DecidableEq

/-- The outcome of one `write`: the count it returned, or an error. -/
inductive WriteOutcome
  | wrote (n : Nat)
  | failed (text : Str)
deriving DecidableEq

/-- The bytes a write call leaves in the file. -/
def WriteOutcome.written (o : WriteOutcome) (chunk : Str) : Str :=
  match o with
  | .wrote n => chunk.take n
  | .failed _ => []

def WriteOutcome.isFull (o : WriteOutcome) (chunk : Str) : Bool :=
  match o with
  | .wrote n => n == chunk.length
  | .failed _ => false

abbrev WriteCalls := List (Str × WriteOutcome)

def WriteCalls.content (calls : WriteCalls) : Str :=
  calls.flatMap fun (chunk, o) => o.written chunk

/-- The blocks handed to the file. -/
def WriteCalls.blocks (calls : WriteCalls) : List Str :=
  calls.map Prod.fst

/-- One answer to the peer (`KpropAuth::send_error`). -/
structure SentError where
  error : ProtocolError
  text : Str
deriving DecidableEq

def maxDumpSize : Nat := 2 ^ 32

/-- The generic error every local failure is answered with. -/
def genericError : ProtocolError := .krbError 60 none

/-- Big-endian unsigned integer of a byte string. -/
def beNat (b : Str) : Nat :=
  b.foldl (fun acc x => acc * 256 + x.toNat) 0

def decodeDatabaseSize (buf : Str) : Option Nat :=
  match buf.length with
  | 4 => some (beNat buf)
  | 12 =>
    if buf.take 4 ≠ [0, 0, 0, 0] then none
    else
      let size := beNat (buf.drop 4)
      -- A size that fits four bytes must have been sent in four.
      if size > 0 ∧ size < 2 ^ 32 then none else some size
  | _ => none

/-- `is_app_tag(raw, tag)`: the message has this application tag. -/
def isAppTag (raw : Str) (tag : UInt8) : Bool :=
  match raw with
  | [] => false
  | b :: _ => b &&& ~~~(0x20 : UInt8) == tag ||| 0x40

/-- What `recv_database` works on. -/
structure RecvState (σ : Type) where
  acceptor : σ
  /-- The bytes of the blocks received so far. -/
  received : Nat
  /-- The temporary file. -/
  out : WriteCalls
  /-- The errors sent to the peer. -/
  sent : List SentError

namespace RecvState

variable {σ : Type}

/-- `auth.send_error(stream, e, text)`. -/
def sendError (st : RecvState σ) (e : ProtocolError) (text : Str) : RecvState σ :=
  { st with sent := st.sent ++ [⟨e, text⟩] }

end RecvState

/-- The decimal digits of a count. -/
def decimal (n : Nat) : Str := str (toString n)

/-- What went wrong with a write, if anything. -/
def writeFailure (chunk : Str) (offset : Nat) : WriteOutcome → Option Str
  | .failed e =>
    some (e ++ str " while writing database block starting at offset " ++ decimal offset)
  | .wrote n =>
    if n ≠ chunk.length then
      some (str "incomplete write while writing database block starting at \noffset "
        ++ decimal offset ++ str " (" ++ decimal n ++ str " written, " ++ decimal chunk.length
        ++ str " expected)")
    else none

variable {σ : Type}

/-- What one verified block does: it is written, a failure is sent to the peer, and its length
is counted either way. -/
def takeBlock (write : Nat → Str → WriteOutcome) (st : RecvState σ) (chunk : Str) : RecvState σ :=
  let o := write st.out.length chunk
  let st' := { st with out := st.out ++ [(chunk, o)] }
  let st' := (writeFailure chunk st.received o).elim st' (st'.sendError genericError)
  { st' with received := st.received + chunk.length }

/-- The read loop of `recv_database`; a list that ends is a connection the peer closed, with the
text the system has for that. -/
def recvLoop (ops : AcceptorOps σ) (closed : Str) (write : Nat → Str → WriteOutcome)
    (want : Nat) (input : List ReadOutcome) (st : RecvState σ) :
    Except KpropError Unit × RecvState σ :=
  if want ≤ st.received then (.ok (), st)
  else
    let offset := str "database block starting at offset " ++ decimal st.received
    let broken (text : Str) : Except KpropError Unit × RecvState σ :=
      (.error .reported, st.sendError genericError (text ++ str " while reading " ++ offset))
    match input with
    | [] => broken closed
    | .failed true text :: _ => (.error (.inner text), st)
    | .failed false text :: _ => broken text
    | .message raw :: rest =>
      if isAppTag raw 30 then (.error .reported, st)
      else
        match ops.rdPriv st.acceptor raw with
        | .error e =>
          (.error .reported, st.sendError e (str "while decoding " ++ offset))
        | .ok (chunk, acceptor) =>
          recvLoop ops closed write want rest (takeBlock write { st with acceptor } chunk)

/-- `recv_database`: the announced size, or an error, and the state left behind. -/
def recvDatabase (ops : AcceptorOps σ) (closed : Str) (write : Nat → Str → WriteOutcome)
    (input : List ReadOutcome) (acceptor : σ) : Except KpropError Nat × RecvState σ :=
  let st : RecvState σ := { acceptor, received := 0, out := [], sent := [] }
  let broken (text : Str) : Except KpropError Nat × RecvState σ :=
    (.error .reported, st.sendError genericError (text ++ str " while reading database size"))
  match input with
  | [] => broken closed
  | .failed true text :: _ => (.error (.inner text), st)
  | .failed false text :: _ => broken text
  | .message raw :: rest =>
    if isAppTag raw 30 then (.error .reported, st)
    else
      match ops.rdSafe st.acceptor raw with
      | .error e => (.error .reported, st.sendError e (str "while decoding database size"))
      | .ok (plain, acceptor) =>
        let st := { st with acceptor }
        match decodeDatabaseSize plain with
        | none =>
          (.error .reported, st.sendError genericError (str "malformed database size message"))
        | some want =>
          if want > maxDumpSize then
            (.error .reported, st.sendError genericError (str "database size exceeds the limit"))
          else
            match ops.initIvector st.acceptor with
            | .error text => (.error (.inner text), st)
            | .ok acceptor =>
              match recvLoop ops closed write want rest { st with acceptor } with
              | (.error e, st) => (.error e, st)
              | (.ok (), st) =>
                if st.received > want then
                  (.ok want, st.sendError genericError
                    (str "Received " ++ decimal st.received ++ str " bytes, expected "
                      ++ decimal want ++ str " bytes for database file"))
                else (.ok want, st)

/-! ### The rest of the transfer -/

/-- The outcome of each system step of `doit` after the transfer. -/
structure HostOutcomes where
  (rename downgradeLock load unlock sendAck : Except KpropError Unit)

/-- What a connection leaves: the content that was renamed into place, the content handed to
`kdb5_util load`, and how the connection ended. -/
structure DoitResult where
  (renamed loaded : Option Str)
  result : Except KpropError Unit

/-- `doit`, from the point where the temporary file is open and locked. -/
def doit (ops : AcceptorOps σ) (closed : Str) (write : Nat → Str → WriteOutcome)
    (host : HostOutcomes) (input : List ReadOutcome) (acceptor : σ) : DoitResult :=
  match recvDatabase ops closed write input acceptor with
  | (.error e, _) => { renamed := none, loaded := none, result := .error e }
  | (.ok _, st) =>
    let file := WriteCalls.content st.out
    match host.rename with
    | .error e => { renamed := none, loaded := none, result := .error e }
    | .ok () =>
      match host.downgradeLock with
      | .error e => { renamed := some file, loaded := none, result := .error e }
      | .ok () =>
        { renamed := some file, loaded := some file,
          result := host.load.bind fun _ => host.unlock.bind fun _ => host.sendAck }

end Kerber.Kprop
