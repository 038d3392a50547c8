import Kerber.KdbDump.Write

/-!
# Reading the database

The database file is a dump followed by appended batches.  `parseDump` reads the whole of it, a batch
with `readBatch`, which takes lines from the same iterator, so a list of the lines that are left is
passed on.
-/

namespace Kerber

def kdbDumpVersion : Nat := 7
def kdbDumpVersionR18 : Nat := 6

structure DumpFile where
  version : Nat
  princs : List DumpPrincipal
  policies : List Str
  (records appliedLen : Nat)
  seenRid : UInt32
deriving DecidableEq

/-! ### Lines -/

structure Line where
  text : Str
  (no start stop : Nat)
  whole : Bool
deriving DecidableEq

/-- A line at a place; a carriage return before the newline is not part of its text. -/
def Line.mkAt (no start : Nat) (raw : Str × Bool) : Line where
  text := stripSuffix carriageReturn raw.1
  no := no
  start := start
  stop := start + raw.1.length + raw.2.toNat
  whole := raw.2

def numberLines (no start : Nat) : List (Str × Bool) → List Line
  | [] => []
  | raw :: rest => Line.mkAt no start raw :: numberLines (no + 1) (Line.mkAt no start raw).stop rest

/-- `text_lines(text, 0)`. -/
def textLines (text : Str) : List Line :=
  numberLines 1 0 (rawLines text)

/-! ### Records -/

/-- `Fold`: the entries in the order they were first put.  A put of a name that is there replaces
its entry in place; a deleted one is gone, so that the indices of the source are not needed. -/
structure Fold where
  princs : List DumpPrincipal := []
  policies : List Str := []
  records : Nat := 0
  maxRid : UInt32 := 0
deriving DecidableEq

def putLast {α : Type} (key : α → Str) (v : α) (items : List α) : List α :=
  if items.any fun x => key x = key v then items.map fun x => if key x = key v then v else x
  else items ++ [v]

def policyName (rest : Str) : Str :=
  ((rest.splitOn tab).head?).getD []

def Fold.record (f : Fold) (line : Line) : Except DumpError Fold :=
  if line.text = [] then .ok f
  else
    match stripPrefix (str "policy\t") line.text with
    | some rest => .ok { f with policies := putLast policyName rest f.policies }
    | none =>
      match stripPrefix (str "princ\t") line.text with
      | some rest => do
        let p ← parsePrincLine rest line.no
        let (_, rid) ← parseSidTl p.tlData
        return { f with
          maxRid := max f.maxRid rid
          princs := putLast DumpPrincipal.name p f.princs
          records := f.records + 1 }
      | none =>
        match stripPrefix journalDel line.text with
        | some name => .ok { f with
            princs := f.princs.filter fun p => p.name ≠ name
            records := f.records + 1 }
        | none => .error (badLine line.no (str "unknown record type"))

def Fold.recordAll (f : Fold) : List Line → Except DumpError Fold
  | [] => .ok f
  | line :: rest => do
    let f ← f.record line
    f.recordAll rest

/-! ### Batches -/

/-- What `read_batch` returns and the lines it leaves. -/
structure BatchRead where
  found : Option (List Line × Nat)
  rest : List Line

/-- Whether the number behind `end\t` is the checksum of what stands between the lines. -/
def checksumHolds (text : Str) (start : Line) (line : Line) (crc : Str) : Bool :=
  parseNat 16 u32Limit crc
    == some (crc32 ((text.take line.start).drop start.stop)).toNat

def readBatch (text : Str) (start : Line) : List Line → BatchRead
  | [] => ⟨none, []⟩
  | line :: rest =>
    if !line.whole then ⟨none, rest⟩
    else
      match stripPrefix journalEnd line.text with
      | some crc => ⟨if checksumHolds text start line crc then some ([], line.stop) else none, rest⟩
      | none =>
        let read := readBatch text start rest
        ⟨read.found.map fun (records, stop) => (line :: records, stop), read.rest⟩

/-- `lines.any(|l| l.text == JOURNAL_BEGIN)`. -/
def anyBegin (lines : List Line) : Bool :=
  lines.any fun l => l.text = journalBegin

/-! ### The whole database -/

/-- `rest` of the header as a version. -/
def parseVersion (rest : Str) : Except DumpError Nat :=
  match parseNat 10 u32Limit (trim rest) with
  | none => .error (.format (str "bad dump version: " ++ rest))
  | some version =>
    if version ≠ kdbDumpVersion ∧ version ≠ kdbDumpVersionR18 then
      .error (.format (str "unsupported dump version " ++ dec version))
    else .ok version

def parseHeader (line : Str) : Except DumpError Nat :=
  if (stripPrefix (str "ipropx ") line).isSome ∨ (stripPrefix (str "iprop ") line).isSome then
    .ok kdbDumpVersion
  else
    match stripPrefix (str "kdb5_util load_dump version ") line with
    | none => .error (.format (str "bad dump header: " ++ line))
    | some rest => parseVersion rest

/-- The loop of `parse_dump`: what the records give and the applied length.  `fuel` bounds the
number of lines. -/
def parseLoop (text : Str) : Nat → Fold → Nat → List Line → Except DumpError (Fold × Nat)
  | _, f, applied, [] => .ok (f, applied)
  | 0, f, applied, _ :: _ => .ok (f, applied)
  | fuel + 1, f, applied, line :: rest =>
    if line.text ≠ journalBegin then do
      let f ← f.record line
      parseLoop text fuel f applied rest
    else
      let read := readBatch text line rest
      match read.found with
      | some (records, stop) => do
        let f ← f.recordAll records
        parseLoop text fuel f stop read.rest
      | none =>
        if anyBegin read.rest then
          .error (badLine line.no (str "appended change does not check"))
        else .ok (f, line.start)

def parseDump (text : Str) : Except DumpError DumpFile :=
  match textLines text with
  | [] => .error (.format (str "empty dump"))
  | header :: lines => do
    let version ← parseHeader header.text
    let (f, appliedLen) ← parseLoop text lines.length {} text.length lines
    return { version, princs := f.princs, policies := f.policies, records := f.records, appliedLen,
             seenRid := f.maxRid }

def DumpFile.princ (d : DumpFile) (unparsed : Str) : Option DumpPrincipal :=
  d.princs.find? fun p => p.name = unparsed

/-! ### What was appended -/

inductive JournalOp
  | put (p : DumpPrincipal)
  | del (id : Str)
deriving DecidableEq

end Kerber
