import Bookings.Proofs.Desk.Accepted
import Bookings.Proofs.Store.Snapshot

namespace Bookings

namespace Log

theorem utf8ByteSize_ofList_le (cs : List Char) : (String.ofList cs).utf8ByteSize ≤ 4 * cs.length := by
  induction cs with
  | nil =>
    rw [String.ofList_nil, String.utf8ByteSize_empty]
    exact Nat.zero_le _
  | cons c cs ih =>
    have first := c.utf8Size_le_four
    rw [String.ofList_cons, String.utf8ByteSize_append, String.utf8ByteSize_singleton, List.length_cons]
    omega

theorem length_idBytes_le (i : Id) : (idBytes i).length ≤ 112 := by
  have size : i.chars.length = 26 := Id.length_digitsBefore [] 26 i.value.val
  have bound := utf8ByteSize_ofList_le i.chars
  rw [idBytes, length_textBytes, Id.text]
  omega

theorem length_flatMap_le {α : Type} (write : α → List UInt8) {bound : Nat} {items : List α}
    (each : ∀ a ∈ items, (write a).length ≤ bound) : (items.flatMap write).length ≤ items.length * bound := by
  induction items with
  | nil => exact Nat.zero_le _
  | cons a items ih =>
    obtain ⟨first, rest⟩ := List.forall_mem_cons.mp each
    have others := ih rest
    rw [List.flatMap_cons, List.length_append, List.length_cons, Nat.succ_mul]
    omega

theorem length_detailsBytes_le {details : Details} (stored : details.Stored) :
    (detailsBytes details).length ≤ 3104 := by
  have name := stored.name.bounded
  have description := stored.description.bounded
  have location := stored.location.bounded
  simp only [detailsBytes, singleBytes, word32Bytes, List.length_append, length_textBytes, length_wordBytes]
  omega

theorem length_slotBytes_le {z : Zone} {s : Slot} (sound : s.Sound z) : (slotBytes s).length ≤ 4096 := by
  have id := length_idBytes_le s.id
  have queue := length_idBytes_le s.queue
  have details := length_detailsBytes_le sound.details
  have student : (optionalBytes textBytes s.student).length ≤ 329 := by
    cases held : s.student with
    | none => decide
    | some email =>
      have bound := (sound.student email held).bounded
      rw [optionalBytes, List.length_cons, length_textBytes]
      omega
  simp only [slotBytes, word32Bytes, intBytes, List.length_append, length_wordBytes]
  omega

end Log

def Event.Sound (z : Zone) : Event → Prop
  | .scheduleReplaced _ schedule => schedule.validate = .ok ()
  | .slotCreated slot => slot.Sound z
  | .slotsPublished _ slots => slots.length ≤ maxSlotsPerQueue ∧ ∀ slot ∈ slots, slot.Sound z
  | .detailsEdited _ _ details => details.Stored
  | .claimReleased .. => True
  | .slotClaimed _ _ student => Rules.Named student

namespace Event

variable {z : Zone} {e : Event}

theorem Sound.short (sound : e.Sound z) : Log.Short e := by
  rw [Log.Short]
  cases e with
  | scheduleReplaced queue schedule =>
    obtain ⟨_, positive, fits⟩ := schedule.validate_eq_ok_iff.mp sound
    have nonzero : 0 < schedule.duration.toNat := Nat.pos_of_ne_zero fun zero => positive (UInt32.toNat_inj.mp zero)
    have few : schedule.capacities.digits.length ≤ 1440 := Nat.le_trans (Nat.le_mul_of_pos_right _ nonzero) fits
    have named := Log.length_idBytes_le queue
    have digits := Log.utf8ByteSize_ofList_le (schedule.capacities.digits.map Capacities.digitChar)
    rw [List.length_map] at digits
    simp only [Log.eventBytes, Log.scheduleBytes, Log.word32Bytes, List.length_append, List.length_cons,
      Log.length_textBytes, Log.length_wordBytes, Capacities.text]
    omega
  | slotCreated slot =>
    have bound := Log.length_slotBytes_le sound
    simp only [Log.eventBytes, Log.word32Bytes, List.length_append, Log.length_wordBytes]
    omega
  | slotsPublished queue slots =>
    obtain ⟨few, each⟩ := sound
    have named := Log.length_idBytes_le queue
    have bound := Log.length_flatMap_le Log.slotBytes fun slot member => Log.length_slotBytes_le (each slot member)
    rw [maxSlotsPerQueue] at few
    simp only [Log.eventBytes, Log.listBytes, Log.word32Bytes, List.length_append, Log.length_wordBytes]
    omega
  | detailsEdited id queue details =>
    have first := Log.length_idBytes_le id
    have second := Log.length_idBytes_le queue
    have bound := Log.length_detailsBytes_le sound
    simp only [Log.eventBytes, Log.word32Bytes, List.length_append, Log.length_wordBytes]
    omega
  | claimReleased id queue =>
    have first := Log.length_idBytes_le id
    have second := Log.length_idBytes_le queue
    simp only [Log.eventBytes, Log.word32Bytes, List.length_append, Log.length_wordBytes]
    omega
  | slotClaimed id queue student =>
    have first := Log.length_idBytes_le id
    have second := Log.length_idBytes_le queue
    have bound := sound.bounded
    simp only [Log.eventBytes, Log.word32Bytes, List.length_append, Log.length_textBytes, Log.length_wordBytes]
    omega

end Event

def Call.brought : Call → List Slot
  | .insert slot _ => [slot]
  | .publish _ slots => slots
  | _ => []

/-- What a call brings may be stored, and its rows start before searches end. -/
structure Call.Lawful (z : Zone) (c : Call) : Prop where
  sound : c.Sound z
  near : ∀ slot ∈ c.brought, slot.scheduledTime < farFuture

theorem Call.lawful_of_plain {z : Zone} {c : Call} (sound : c.Sound z) (plain : c.brought = []) : c.Lawful z where
  sound := sound
  near := by
    rw [plain]
    exact List.forall_mem_nil _

theorem Call.lawful_of_reads {z : Zone} {c : Call} (reads : c.reads = true) : c.Lawful z := by
  cases c with
  | _ => first | exact lawful_of_plain True.intro rfl | contradiction

theorem Call.newIds_of_reads {c : Call} (reads : c.reads = true) : c.newIds = [] := by
  cases c with
  | _ => first | rfl | contradiction

namespace Register

variable {z : Zone} {r : Register} {c : Call} {e : Event} {a : c.Answer}

theorem Admits.sound (admitted : r.Admits c e a) (asked : c.Sound z) : e.Sound z := by
  cases admitted with
  | replaceSchedule vacant => exact asked
  | insert small room free => exact asked
  | publish filled small =>
    refine ⟨?_, fun row created => ?_⟩
    · rw [List.length_map]
      omega
    · obtain ⟨slot, published, rfl⟩ := List.mem_map.mp created
      obtain ⟨⟨midnight, fits⟩, details⟩ := asked slot published
      exact ⟨⟨midnight, fits.with _ _ _⟩, details, nofun⟩
  | edit indexed present held => exact asked
  | release indexed present held => exact True.intro
  | claim room first taken => exact asked

theorem Admits.near (admitted : r.Admits c e a) (asked : ∀ slot ∈ c.brought, slot.scheduledTime < farFuture)
    {row : Slot} (created : row ∈ e.created) : row.scheduledTime < farFuture := by
  cases admitted with
  | insert small room free => exact asked row created
  | publish filled small =>
    obtain ⟨slot, published, rfl⟩ := List.mem_map.mp created
    exact asked slot published
  | _ => exact absurd created List.not_mem_nil

/-- The rows are sound, and searches that look from some time on find all that are later. -/
structure Lawful (r : Register) (z : Zone) : Prop where
  sound : r.Sound z
  near : ∀ queue, ∀ row ∈ r.rows queue, row.scheduledTime < farFuture

theorem lawful_empty (z : Zone) : empty.Lawful z where
  sound := sound_empty z
  near := by simp

theorem Lawful.of_same {s : Register} (lawful : r.Lawful z) (same : s.Same r) : s.Lawful z where
  sound := lawful.sound.of_same same
  near := by
    intro queue
    rw [same.rows]
    exact lawful.near queue

theorem Lawful.apply (lawful : r.Lawful z) (admitted : r.Admits c e a) (asked : c.Lawful z) :
    (r.apply e).Lawful z where
  sound := lawful.sound.apply admitted asked.sound
  near := by
    intro queue row member
    rcases mem_rows_apply member with ⟨old, present, changed⟩ | ⟨_, created⟩
    · rw [changed]
      exact lawful.near queue old present
    · exact admitted.near asked.near created

theorem Sound.snapshotOf (sound : r.Sound z) (placed : ∀ queue, (r.content queue).Placed)
    {queues : List (Id × Queue)} (listed : queues.Perm r.queues.toList) (member : e ∈ Register.snapshotOf queues) :
    e.Sound z := by
  obtain ⟨⟨id, q⟩, among, event⟩ := List.mem_flatMap.mp member
  obtain rfl := content_of_listed listed among
  rcases List.mem_append.mp event with stored | kept
  · obtain ⟨schedule, scheduled, rfl⟩ := List.mem_map.mp stored
    obtain ⟨weekday, found⟩ := Queue.mem_allSchedules.mp scheduled
    have named := placed id weekday schedule found
    refine sound.valid id schedule.weekday schedule ?_
    rw [schedule?_eq, Queue.schedule?, named, found]
    rfl
  · obtain ⟨row, present, rfl⟩ := List.mem_map.mp kept
    exact sound.rows id row present

end Register

end Bookings
