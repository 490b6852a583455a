import Bookings.Log.Record

namespace Bookings.Log

inductive DiskError where
  | missing
  | full
  | blocked
  | unsynced
deriving DecidableEq

/-- The files. The present log takes `room` more bytes, and any number if that is `none`. Where a sync fails, what was
written is in the log all the same; blocked drafts cannot be made. -/
structure Disk where
  log : Option ByteArray := none
  draft : Option ByteArray := none
  room : Option Nat := none
  syncs : Bool := true
  blocked : Bool := false

namespace Disk

def bytes (d : Disk) : List UInt8 :=
  match d.log with
  | some file => file.data.toList
  | none => []

def ofBytes (bytes : List UInt8) : Disk := { log := some ⟨bytes.toArray⟩ }

@[simp] theorem bytes_ofBytes (bytes : List UInt8) : (ofBytes bytes).bytes = bytes := rfl

def create (d : Disk) : Disk := { d with log := some (d.log.getD ByteArray.empty) }

def extend : Disk → ByteArray → Disk
  | ⟨log, draft, room, syncs, blocked⟩, bytes =>
    ⟨some (log.getD ByteArray.empty ++ bytes), draft, room, syncs, blocked⟩

/-- Appends bytes to the log as far as there is room, and gives back the others. -/
def take (d : Disk) (bytes : ByteArray) : Disk × ByteArray :=
  match d.room with
  | none => (d.extend bytes, ByteArray.empty)
  | some 0 => (d, bytes)
  | some room =>
    ({ d.extend (bytes.extract 0 room) with room := some (room - bytes.size) }, bytes.extract room bytes.size)

def writeDraft (d : Disk) (es : List Event) : Except DiskError Disk :=
  if d.blocked then .error .blocked
  else .ok { d with draft := some ⟨(records es).toArray⟩ }

def swap (d : Disk) : Except DiskError Disk :=
  match d.draft with
  | some file => .ok { d with log := some file, draft := none, room := none, syncs := true }
  | none => .error .missing

end Disk

/-- The appender: the bytes that it holds back and the records accepted since the last
compaction. -/
structure Writer where
  held : ByteArray := ByteArray.empty
  appends : Nat := 0

structure Attempt where
  result : Except DiskError Unit
  disk : Disk
  writer : Writer

def Attempt.andThen : Attempt → (Writer → Disk → Attempt) → Attempt
  | ⟨.ok (), disk, writer⟩, next => next writer disk
  | ⟨.error cause, disk, writer⟩, _ => ⟨.error cause, disk, writer⟩

namespace Writer

def hold (w : Writer) (bytes : ByteArray) : Writer := { w with held := w.held ++ bytes }

def capacity : Nat := 8192

def complete (rest : ByteArray) : Except DiskError Unit := if rest.size = 0 then .ok () else .error .full

def drain (w : Writer) (d : Disk) : Attempt :=
  match d.take w.held with
  | (d, rest) => ⟨complete rest, d, { w with held := rest }⟩

/-- Holds a part of a record if it fits behind what is held, and otherwise makes way for it. A part that never fits goes
to disk at once, and what the disk does not take of it is lost. -/
def put (part : ByteArray) (w : Writer) (d : Disk) : Attempt :=
  if w.held.size + part.size ≤ capacity ∧ part.size < capacity then ⟨.ok (), d, w.hold part⟩
  else
    (w.drain d).andThen fun w d =>
      if part.size < capacity then ⟨.ok (), d, w.hold part⟩
      else
        match d.take part with
        | (d, rest) => ⟨complete rest, d, w⟩

def parts (e : Event) : List ByteArray :=
  let payload := eventBytes e
  [⟨(wordBytes 4 payload.length).toArray⟩, ⟨payload.toArray⟩,
    ⟨(word32Bytes (checksum payload)).toArray⟩]

def putAll : List ByteArray → Writer → Disk → Attempt
  | [], w, d => ⟨.ok (), d, w⟩
  | part :: rest, w, d => (w.put part d).andThen (putAll rest)

/-- Takes the record of an event in, without bringing it to disk if it can be held; only one that is taken in whole
counts. -/
def append (e : Event) (w : Writer) (d : Disk) : Attempt :=
  (w.putAll (parts e) d).andThen fun w d => ⟨.ok (), d, { w with appends := w.appends + 1 }⟩

def flush (w : Writer) (d : Disk) : Attempt :=
  (w.drain d).andThen fun w d => ⟨if d.syncs then .ok () else .error .unsynced, d, w⟩

/-- Appends the record of an event and flushes, also where the record was not taken in; the first failure counts. -/
@[irreducible]
def write (e : Event) (w : Writer) (d : Disk) : Attempt :=
  match w.append e d with
  | ⟨appended, d, w⟩ =>
    match w.flush d with
    | ⟨flushed, d, w⟩ => ⟨appended.bind fun _ => flushed, d, w⟩

end Writer

structure Journal where
  disk : Disk
  writer : Option Writer

inductive JournalError where
  | writerStopped
  | disk (cause : DiskError)
deriving DecidableEq

namespace Journal

def «open» (d : Disk) : Journal := ⟨d.create, some {}⟩

def appends (j : Journal) : Nat :=
  match j.writer with
  | some w => w.appends
  | none => 0

def attempt : Journal → (Writer → Disk → Attempt) → Except JournalError Unit × Journal
  | ⟨disk, none⟩, _ => (.error .writerStopped, ⟨disk, none⟩)
  | ⟨disk, some w⟩, work =>
    match work w disk with
    | ⟨result, disk, w⟩ => (result.mapError .disk, ⟨disk, some w⟩)

def append (j : Journal) (e : Event) : Except JournalError Unit × Journal := j.attempt (Writer.append e)

def flush (j : Journal) : Except JournalError Unit × Journal := j.attempt Writer.flush

def write (j : Journal) (e : Event) : Except JournalError Unit × Journal := j.attempt (Writer.write e)

def swap (j : Journal) : Except DiskError Unit × Journal :=
  match j.disk.swap with
  | .ok d => (.ok (), ⟨d, some {}⟩)
  | .error e => (.error e, j)

def replaceBy (j : Journal) (es : List Event) : Except DiskError Unit × Journal :=
  match j.disk.writeDraft es with
  | .ok d => { j with disk := d }.swap
  | .error e => (.error e, j)

def compact (j : Journal) (es : List Event) : Except JournalError Unit × Journal :=
  match j.writer with
  | none => (.error .writerStopped, j)
  | some _ =>
    match j.replaceBy es with
    | (.ok (), j) => (.ok (), j)
    | (.error e, j) => (.error (.disk e), j)

end Journal

end Bookings.Log
