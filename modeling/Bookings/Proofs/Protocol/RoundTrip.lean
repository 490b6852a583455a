import Bookings.Proofs.Json.Reading
import Bookings.Proofs.Log.Field
import Bookings.Protocol.Dispatch

namespace Bookings

namespace Json

theorem id?_text (i : Id) : id? (.str i.text) = some i := by
  rw [id?, string?, Option.bind_some, Id.ofText?_text]

theorem natBelow?_nat {bound n : Nat} (below : n < bound) : natBelow? bound (.nat n) = some n := if_pos below

theorem byte?_nat (n : UInt8) : byte? (.nat n.toNat) = some n := by
  rw [byte?, natBelow?_nat n.toNat_lt, Option.map_some, UInt8.ofNat_toNat]

theorem word?_nat (n : UInt32) : word? (.nat n.toNat) = some n := by
  rw [word?, natBelow?_nat n.toNat_lt, Option.map_some, UInt32.ofNat_toNat]

theorem optional_ofOption {α : Type} {read : Json → Option α} (write : α → Json)
    (back : ∀ a, read (write a) = some a) (shown : ∀ a, write a ≠ .null) (found : Option α) :
    optional read (some (ofOption write found)) = some found := by
  cases found with
  | none => rfl
  | some a =>
    rw [ofOption, optional, back, Option.map_some]
    exact shown a

theorem legible_nat {depth n : Nat} (most : n < 0x10000000000000000) : Legible depth (.nat n) :=
  .int (by omega) (by omega)

theorem legible_byte {depth : Nat} (n : UInt8) : Legible depth (.nat n.toNat) :=
  legible_nat (Nat.lt_trans n.toNat_lt (by decide))

theorem legible_word {depth : Nat} (n : UInt32) : Legible depth (.nat n.toNat) :=
  legible_nat (Nat.lt_trans n.toNat_lt (by decide))

theorem legible_ofOption {α : Type} {depth : Nat} {write : α → Json} (each : ∀ a, Legible depth (write a))
    (found : Option α) : Legible depth (ofOption write found) := by
  cases found with
  | none => exact .null
  | some a => exact each a

theorem field?_of_mem {members : List (String × Json)} (distinct : (members.map Prod.fst).Nodup) {name : String}
    {v : Json} (member : (name, v) ∈ members) : field? members name = some (some v) := by
  have others : ∀ {members : List (String × Json)}, name ∉ members.map Prod.fst → membersNamed name members = [] := by
    intro members missing
    rw [membersNamed, List.filterMap_eq_nil_iff]
    intro m among
    refine if_neg ?_
    rintro rfl
    exact missing (List.mem_map_of_mem among)
  have single : membersNamed name members = [v] := by
    obtain ⟨front, back, rfl⟩ := List.append_of_mem member
    rw [List.map_append, List.map_cons, List.nodup_append] at distinct
    obtain ⟨_, later, apart⟩ := distinct
    have before := others fun among => apart _ among _ List.mem_cons_self rfl
    have behind := others (List.nodup_cons.mp later).1
    simp only [membersNamed] at before behind ⊢
    rw [List.filterMap_append, before, List.filterMap_cons, if_pos rfl, behind, List.nil_append]
  rw [field?, single]

theorem fields?_obj (others members : List (String × Json)) (distinct : ((others ++ members).map Prod.fst).Nodup) :
    fields? (members.map Prod.fst) (.obj (others ++ members)) = some (members.map fun m => some m.2) := by
  have found : ∀ m ∈ members, field? (others ++ members) m.1 = some (some m.2) := fun m among =>
    field?_of_mem distinct (List.mem_append_right others among)
  rw [fields?]
  clear distinct
  generalize others ++ members = all at found ⊢
  induction members with
  | nil => rfl
  | cons m members ih =>
    have later := ih fun m among => found m (List.mem_cons_of_mem _ among)
    simp only [List.map_cons, List.mapM_cons, found m List.mem_cons_self, later]
    rfl

end Json

theorem Caller.ofJson?_toJson (c : Caller) : ofJson? c.toJson = some c := by
  have fields := Json.fields?_obj [] [("email", .str c.email), ("admin", .bool c.admin)] (by simp)
  rw [ofJson?, toJson]
  simp only [List.nil_append, List.map_cons, List.map_nil] at fields
  rw [fields]
  rfl

theorem ScheduleBody.ofJson?_toJson (body : ScheduleBody) : ofJson? body.toJson = some body := by
  have fields := Json.fields?_obj [] [("duration", .nat body.duration.toNat), ("capacities", .str body.capacities)]
    (by simp)
  simp only [List.nil_append, List.map_cons, List.map_nil] at fields
  rw [ofJson?, toJson, fields]
  simp only [Option.bind_eq_bind, Option.bind_some, Json.required, Json.word?_nat]
  rfl

namespace Draft

def Unplaced (d : Draft) : Prop := d.mapX = none ∧ d.mapY = none

theorem ofJson?_toJson {d : Draft} (unplaced : d.Unplaced) : ofJson? d.toJson = some d := by
  obtain ⟨timeslot, name, description, location, mapX, mapY⟩ := d
  obtain ⟨rfl, rfl⟩ := unplaced
  have fields := Json.fields?_obj [] [
    ("timeslot", .ofOption (fun t : UInt32 => .nat t.toNat) timeslot), ("name", .ofOption .str name),
    ("description", .ofOption .str description), ("location", .ofOption .str location),
    ("map_x", .ofOption .ofSingle none), ("map_y", .ofOption .ofSingle none)] (by simp)
  have number : Json.optional Json.word? (some (.ofOption (fun t => .nat t.toNat) timeslot)) = some timeslot :=
    Json.optional_ofOption _ Json.word?_nat nofun timeslot
  have text (found : Option String) : Json.optional Json.string? (some (.ofOption .str found)) = some found :=
    Json.optional_ofOption .str (fun _ => rfl) nofun found
  simp only [List.nil_append, List.map_cons, List.map_nil] at fields
  rw [ofJson?, toJson, fields]
  simp only [Option.bind_eq_bind, Option.bind_some, number, text]
  rfl

end Draft

namespace Request

def draft? : Request → Option Draft
  | signup _ _ _ _ draft => some draft
  | updateAppointment _ _ draft => some draft
  | publishOpenSlots _ _ _ draft => some draft
  | _ => none

theorem fieldNames_op (r : Request) : fieldNames r.op = some (r.members.map Prod.fst) := by
  cases r <;> rfl

theorem nodup_names (r : Request) : (([("op", Json.str r.op)] ++ r.members).map Prod.fst).Nodup := by
  cases r <;> simp [members]

theorem ofJson?_obj (r : Request) : ofJson? r.toJson = ofFields? r.op (r.members.map fun m => some m.2) := by
  have named : Json.field? (("op", .str r.op) :: r.members) "op" = some (some (.str r.op)) :=
    Json.field?_of_mem r.nodup_names List.mem_cons_self
  have fields := Json.fields?_obj [("op", .str r.op)] r.members r.nodup_names
  rw [List.singleton_append] at fields
  simp only [toJson, ofJson?, named, fieldNames_op, fields, Option.bind_eq_bind, Option.bind_some]

def Unplaced (r : Request) : Prop := ∀ d ∈ r.draft?, d.Unplaced

theorem ofJson?_toJson {r : Request} (unplaced : r.Unplaced) : ofJson? r.toJson = some r := by
  rw [ofJson?_obj]
  cases r with
  | appointmentsForDay | myAppointments | timeslotAvailability | claimTimeslot | removeSignup =>
    simp [op, members, ofFields?, Json.required, Json.id?_text, Json.byte?_nat, Json.word?_nat, Caller.ofJson?_toJson]
  | schedule queue weekday =>
    have day : Json.optional Json.byte? (some (.ofOption (fun d => .nat d.toNat) weekday)) = some weekday :=
      Json.optional_ofOption _ Json.byte?_nat nofun weekday
    simp [op, members, ofFields?, Json.required, Json.id?_text, day]
  | signup | updateAppointment | publishOpenSlots =>
    have draft := Draft.ofJson?_toJson (unplaced _ rfl)
    simp [op, members, ofFields?, Json.required, Json.defaulted, Json.id?_text, Json.byte?_nat, Json.word?_nat,
      Caller.ofJson?_toJson, draft]
  | updateSchedule =>
    simp [op, members, ofFields?, Json.required, Json.id?_text, Json.byte?_nat, Caller.ofJson?_toJson,
      ScheduleBody.ofJson?_toJson]

end Request

open Json

theorem Caller.legible_toJson {depth : Nat} (c : Caller) : Legible (depth + 1) c.toJson := by
  refine .obj ?_
  simp only [List.forall_mem_cons]
  exact ⟨.str _, .bool _, List.forall_mem_nil _⟩

theorem ScheduleBody.legible_toJson {depth : Nat} (body : ScheduleBody) : Legible (depth + 1) body.toJson := by
  refine .obj ?_
  simp only [List.forall_mem_cons]
  exact ⟨legible_word _, .str _, List.forall_mem_nil _⟩

theorem Draft.legible_toJson {depth : Nat} {d : Draft} (unplaced : d.Unplaced) : Legible (depth + 1) d.toJson := by
  obtain ⟨noX, noY⟩ := unplaced
  refine .obj ?_
  simp only [List.forall_mem_cons, noX, noY]
  exact ⟨legible_ofOption legible_word _, legible_ofOption .str _, legible_ofOption .str _, legible_ofOption .str _,
    .null, .null, List.forall_mem_nil _⟩

namespace Request

theorem legible_members {depth : Nat} {r : Request} (unplaced : r.Unplaced) :
    ∀ m ∈ r.members, Legible (depth + 1) m.2 := by
  cases r
  all_goals simp only [members, List.forall_mem_cons]
  case appointmentsForDay caller | myAppointments caller =>
    exact ⟨.str _, legible_byte _, caller.legible_toJson, List.forall_mem_nil _⟩
  case schedule => exact ⟨.str _, legible_ofOption legible_byte _, List.forall_mem_nil _⟩
  case timeslotAvailability => exact ⟨.str _, legible_byte _, List.forall_mem_nil _⟩
  case claimTimeslot caller =>
    exact ⟨.str _, legible_byte _, legible_word _, caller.legible_toJson, List.forall_mem_nil _⟩
  case signup caller draft =>
    exact ⟨.str _, legible_byte _, legible_word _, caller.legible_toJson, Draft.legible_toJson (unplaced draft rfl),
      List.forall_mem_nil _⟩
  case updateAppointment caller draft =>
    exact ⟨.str _, caller.legible_toJson, Draft.legible_toJson (unplaced draft rfl), List.forall_mem_nil _⟩
  case removeSignup caller => exact ⟨.str _, caller.legible_toJson, List.forall_mem_nil _⟩
  case updateSchedule caller body =>
    exact ⟨.str _, legible_byte _, caller.legible_toJson, body.legible_toJson, List.forall_mem_nil _⟩
  case publishOpenSlots caller draft =>
    exact ⟨.str _, legible_byte _, caller.legible_toJson, Draft.legible_toJson (unplaced draft rfl),
      List.forall_mem_nil _⟩

theorem legible_toJson {depth : Nat} {r : Request} (unplaced : r.Unplaced) : Legible (depth + 2) r.toJson :=
  .obj (List.forall_mem_cons.mpr ⟨.str _, legible_members unplaced⟩)

/-- A request without a place on the map is read back from its text, whatever its texts hold, and the line is
carried out as the request is: with the same calls, and so the same response and state, on every store. -/
theorem text_is_read_back {r : Request} (unplaced : r.Unplaced) :
    ofText? r.text = some r ∧ ∀ (d : Desk) (explain : String → String), d.handleLine explain r.text = d.dispatch r := by
  have read : ofText? r.text = some r := by
    rw [ofText?, text, Json.ofText?_text (legible_toJson unplaced), Option.bind_some, ofJson?_toJson unplaced]
  refine ⟨read, fun d explain => ?_⟩
  rw [Desk.handleLine, read]

def quotedSignup : Request :=
  .signup (Id.ofNat (2 ^ 128 - 1)) 255 4294967295 ⟨"ada@x.edu", true⟩
    { name := some "Ada \"Å\" 𝄞", description := some "a\\b\t\n\u0001", location := some "" }

theorem text_is_read_back_quotedSignup :
    quotedSignup.Unplaced ∧ ofText? quotedSignup.text = some quotedSignup ∧
      ∀ (d : Desk) (explain : String → String), d.handleLine explain quotedSignup.text = d.dispatch quotedSignup := by
  have unplaced : quotedSignup.Unplaced := by
    intro d among
    cases among
    exact ⟨rfl, rfl⟩
  exact ⟨unplaced, text_is_read_back unplaced⟩

end Request

end Bookings
