import Std.Time.DateTime.Timestamp
import Bookings.Settings
import Bookings.Desk.Service
import Bookings.Protocol.Connection

namespace Bookings.Main

def compactionPeriod : Int := 30000

def settings : IO (Option (Except SettingsError Settings)) := do
  let values ← Settings.keys.mapM fun key => return (key, ← IO.getEnv key)
  return Settings.ofLookup fun key => (values.lookup key).join

def currentTime : IO Int :=
  return (← Std.Time.Timestamp.now).toMillisecondsSinceUnixEpoch.toInt

/-- Identifiers that start with the time and go on from a random number of 80 bits. -/
def freshIds (time : Int) : IO (Nat → Id) := do
  let noise := (← IO.getRandomBytes 10).toList.foldl (fun n b => n * 256 + b.toNat) 0
  return fun n => Id.ofNat (time.toNat * 0x100000000000000000000 + noise + n)

structure Files where
  log : String
  draft : String

def Files.extend (files : Files) (held : Nat) (log : ByteArray) : IO Unit :=
  if held < log.size then
    IO.FS.withFile files.log .append fun file => do
      file.write (log.extract held log.size)
      file.flush
  else return ()

def Files.replace (files : Files) (log : ByteArray) : IO Unit := do
  IO.FS.writeBinFile files.draft log
  IO.FS.rename files.draft files.log

def Files.read (files : Files) : IO ByteArray := do
  IO.FS.withFile files.log .append fun file => file.flush
  IO.FS.readBinFile files.log

def logOf (store : Store) : ByteArray := store.journal.disk.log.getD ByteArray.empty

def compact (files : Files) (threshold : Nat) (store : Store) : IO Store := do
  match store.compactIfDue threshold with
  | (true, store) =>
    files.replace (logOf store)
    return store
  | (false, store) => return store

def explain (_ : String) : String := "no request of this protocol"

partial def serve (files : Files) (zone : Zone) (threshold : Nat) (store : Store)
    (checked : Int) : IO Unit := do
  let line ← (← IO.getStdin).getLine
  if line.isEmpty then return ()
  let time ← currentTime
  let due := checked + compactionPeriod ≤ time
  let store ← if due then compact files threshold store else pure store
  let held := (logOf store).size
  let frames := Frame.ofStream line.toUTF8.toList
  let desk : Desk := ⟨zone, Int64.ofInt time⟩
  let (answered, service) := (Desk.answerFrames explain (fun _ => desk) [] frames).run
    (Service.world (← freshIds time) Service.noFaults) ⟨store, 0⟩
  files.extend held (logOf service.store)
  let out ← IO.getStdout
  answered.lines.forM out.putStrLn
  out.flush
  if frames.contains .tooLong then return ()
  serve files zone threshold service.store (if due then time else checked)

end Bookings.Main

open Bookings in
def main : IO UInt32 := do
  match ← Main.settings with
  | none => return 101
  | some (.error e) =>
    IO.eprintln e.message
    return 1
  | some (.ok settings) =>
    match settings.zone with
    | none => return 101
    | some (.error e) =>
      IO.eprintln e.message
      return 1
    | some (.ok zone) =>
      IO.FS.createDirAll settings.dataDir
      let log := settings.dataDir ++ "/appointments.wal"
      let files : Main.Files := ⟨log, log ++ ".tmp"⟩
      let store := Store.open (Log.Disk.ofBytes (← files.read).toList)
      let time ← Main.currentTime
      let store ← Main.compact files settings.compactThreshold store
      Main.serve files zone settings.compactThreshold store time
      return 0
