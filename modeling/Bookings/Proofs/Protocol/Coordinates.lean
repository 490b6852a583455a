import Bookings.Proofs.Number.Narrowing
import Bookings.Proofs.Protocol.RoundTrip

namespace Bookings

def Details.coordinates (d : Details) : List Single := [d.mapX, d.mapY]

def Draft.coordinates (d : Draft) : List Single := [d.mapX, d.mapY].filterMap id

def Request.coordinates (r : Request) : List Single := r.draft?.toList.flatMap Draft.coordinates

namespace Json

def coordinates : Json → List Json
  | .obj members => members.filterMap fun (key, value) => if key ∈ ["map_x", "map_y"] then some value else none
  | _ => []

/-- The numeral stands somewhere in the value. -/
inductive Holds (n : Numeral) : Json → Prop
  | here : Holds n (.ofNumeral n)
  | item {items : List Json} {v : Json} (member : v ∈ items) (inside : Holds n v) : Holds n (.arr items)
  | field {members : List (String × Json)} {name : String} {v : Json} (member : (name, v) ∈ members)
      (inside : Holds n v) : Holds n (.obj members)

variable {n : Numeral} {v w : Json}

theorem exists_numeral {x : Single} (read : single? v = some x) : ∃ n : Numeral, v.Holds n ∧ n.toSingle = x := by
  cases v with
  | int n => exact ⟨.int n, .here, Option.some.inj read⟩
  | float d => exact ⟨.float d, .here, Option.some.inj read⟩
  | _ => cases read

theorem exists_of_optional {α : Type} {read : Json → Option α} {field : Option Json} {a : α}
    (present : optional read field = some (some a)) : ∃ w, field = some w ∧ read w = some a := by
  cases field with
  | none => cases present
  | some w =>
    refine ⟨w, rfl, ?_⟩
    cases w with
    | null => cases present
    | _ =>
      obtain ⟨b, found, same⟩ := Option.map_eq_some_iff.mp present
      cases same
      exact found

theorem mem_of_field? {members : List (String × Json)} {name : String}
    (found : field? members name = some (some w)) : (name, w) ∈ members := by
  have only : membersNamed name members = [w] := by
    unfold field? at found
    split at found
    · cases found
    · rename_i single
      cases found
      exact single
    · cases found
  have listed : w ∈ membersNamed name members := only ▸ List.mem_singleton_self w
  obtain ⟨⟨key, v⟩, member, same⟩ := List.mem_filterMap.mp listed
  dsimp only at same
  split at same
  · rename_i named
    cases same
    exact named ▸ member
  · cases same

theorem exists_of_mem_mapM {α β : Type} {f : α → Option β} {as : List α} {bs : List β} (mapped : as.mapM f = some bs)
    {b : β} (member : b ∈ bs) : ∃ a ∈ as, f a = some b := by
  induction as generalizing bs with
  | nil =>
    cases mapped
    cases member
  | cons a as ih =>
    rw [List.mapM_cons] at mapped
    obtain ⟨first, found, rest⟩ := Option.bind_eq_some_iff.mp mapped
    obtain ⟨others, later, same⟩ := Option.bind_eq_some_iff.mp rest
    cases same
    rcases List.mem_cons.mp member with rfl | among
    · exact ⟨a, List.mem_cons_self, found⟩
    · obtain ⟨c, listed, made⟩ := ih later among
      exact ⟨c, List.mem_cons_of_mem _ listed, made⟩

theorem mem_of_itemFields? {names : List String} {items : List Json} {fields : List (Option Json)}
    (found : itemFields? names items = some fields) (member : some w ∈ fields) : w ∈ items := by
  fun_induction itemFields? names items generalizing fields with
  | case1 =>
    cases found
    cases member
  | case2 => cases found
  | case3 name names ih =>
    obtain ⟨rest, read, rfl⟩ := Option.map_eq_some_iff.mp found
    rcases List.mem_cons.mp member with first | later
    · cases first
    · exact ih read later
  | case4 name names v items ih =>
    obtain ⟨rest, read, rfl⟩ := Option.map_eq_some_iff.mp found
    rcases List.mem_cons.mp member with first | later
    · cases first
      exact List.mem_cons_self
    · exact List.mem_cons_of_mem _ (ih read later)

theorem Holds.cons {items : List Json} (inside : Holds n (.arr items)) (first : Json) :
    Holds n (.arr (first :: items)) := by
  generalize whole : Json.arr items = v at inside
  cases inside with
  | here => cases n <;> cases whole
  | item member inside =>
    cases whole
    exact .item (List.mem_cons_of_mem _ member) inside
  | field => cases whole

theorem Holds.of_fields? (inside : w.Holds n) {names : List String} {fields : List (Option Json)}
    (found : v.fields? names = some fields) (member : some w ∈ fields) : v.Holds n := by
  cases v with
  | obj members =>
    obtain ⟨name, _, read⟩ := exists_of_mem_mapM found member
    exact .field (mem_of_field? read) inside
  | arr items => exact .item (mem_of_itemFields? found member) inside
  | _ => cases found

end Json

open Json

theorem Draft.exists_numeral {v : Json} {d : Draft} (read : ofJson? v = some d) {x : Single}
    (submitted : x ∈ d.coordinates) : ∃ n : Numeral, v.Holds n ∧ n.toSingle = x := by
  unfold ofJson? at read
  obtain ⟨fields, listed, read⟩ := Option.bind_eq_some_iff.mp read
  have held {field : Option Json} (member : field ∈ fields) (present : optional single? field = some (some x)) :
      ∃ n : Numeral, v.Holds n ∧ n.toSingle = x := by
    obtain ⟨w, rfl, number⟩ := exists_of_optional present
    obtain ⟨n, inside, same⟩ := Json.exists_numeral number
    exact ⟨n, inside.of_fields? listed member, same⟩
  split at read
  · simp only [Option.bind_eq_bind, Option.bind_eq_some_iff] at read
    obtain ⟨_, _, _, _, _, _, _, _, mapX, readX, mapY, readY, same⟩ := read
    cases same
    obtain ⟨own, among, rfl⟩ := List.mem_filterMap.mp submitted
    rcases List.mem_pair.mp among with rfl | rfl
    · exact held (by simp) readX
    · exact held (by simp) readY
  · cases read

namespace Request

theorem draft_of_fields {op : String} {fields : List (Option Json)} {r : Request} (read : ofFields? op fields = some r)
    {d : Draft} (brought : r.draft? = some d) : d = {} ∨ ∃ w, some w ∈ fields ∧ Draft.ofJson? w = some d := by
  have field {field : Option Json} (member : field ∈ fields) (found : defaulted Draft.ofJson? {} field = some d) :
      d = {} ∨ ∃ w, some w ∈ fields ∧ Draft.ofJson? w = some d := by
    cases field with
    | none => exact .inl (Option.some.inj found).symm
    | some w => exact .inr ⟨w, member, found⟩
  unfold ofFields? at read
  split at read
  case h_11 => cases read
  all_goals simp only [Option.bind_eq_bind, Option.bind_eq_some_iff] at read
  case h_6 queue weekday timeslot caller appointment =>
    obtain ⟨_, _, _, _, _, _, _, _, draft, found, same⟩ := read
    cases same
    cases brought
    exact field (by simp) found
  case h_7 id caller appointment =>
    obtain ⟨_, _, _, _, draft, found, same⟩ := read
    cases same
    cases brought
    exact field (by simp) found
  case h_10 queue weekday caller template =>
    obtain ⟨_, _, _, _, _, _, draft, found, same⟩ := read
    cases same
    cases brought
    exact field (by simp) found
  case h_1 | h_2 =>
    obtain ⟨_, _, _, _, _, _, same⟩ := read
    cases same
    cases brought
  case h_3 | h_4 | h_8 =>
    obtain ⟨_, _, _, _, same⟩ := read
    cases same
    cases brought
  case h_5 | h_9 =>
    obtain ⟨_, _, _, _, _, _, _, _, same⟩ := read
    cases same
    cases brought

theorem exists_numeral {v : Json} {r : Request} (read : ofJson? v = some r) {x : Single}
    (submitted : x ∈ r.coordinates) : ∃ n : Numeral, v.Holds n ∧ n.toSingle = x := by
  obtain ⟨d, brought, placed⟩ := List.mem_flatMap.mp submitted
  rw [Option.mem_toList] at brought
  have held {op : String} {names : List String} {fields : List (Option Json)} {w : Json}
      (listed : w.fields? names = some fields) (given : ofFields? op fields = some r) :
      ∃ n : Numeral, w.Holds n ∧ n.toSingle = x := by
    rcases draft_of_fields given brought with rfl | ⟨own, member, read⟩
    · cases placed
    · obtain ⟨n, inside, same⟩ := Draft.exists_numeral read placed
      exact ⟨n, inside.of_fields? listed member, same⟩
  unfold ofJson? at read
  split at read
  · split at read
    · simp only [Option.bind_eq_bind, Option.bind_eq_some_iff] at read
      obtain ⟨names, _, fields, listed, given⟩ := read
      exact held listed given
    · cases read
  · simp only [Option.bind_eq_bind, Option.bind_eq_some_iff] at read
    obtain ⟨names, _, fields, listed, given⟩ := read
    obtain ⟨n, inside, same⟩ := held listed given
    exact ⟨n, inside.cons _, same⟩
  · cases read

end Request

namespace Json

theorem int64?_toInt (t : Int64) : int64? (.int t.toInt) = some t := by
  have low := t.le_toInt
  have high := t.toInt_lt
  rw [int64?, if_pos ⟨low, high⟩, Int64.ofInt_toInt]

theorem exists_of_finite {x : Single} (finite : x.isFinite = true) :
    ∃ d : Double, ofSingle x = .float d ∧ d.isFinite = true ∧ single? (ofSingle x) = some x := by
  obtain ⟨d, widened, shown, back⟩ := Single.exists_toDouble? finite
  have number : ofSingle x = .float d := by rw [ofSingle, widened]
  refine ⟨d, number, shown, ?_⟩
  rw [number, single?, back]

end Json

namespace Slot

theorem coordinates_toJson (s : Slot) : s.toJson.coordinates = s.details.coordinates.map Json.ofSingle := by
  simp [toJson, Json.coordinates, Details.coordinates]

theorem ofJson?_toJson {s : Slot} (finite : ∀ x ∈ s.details.coordinates, x.isFinite = true) :
    ofJson? s.toJson = some s := by
  obtain ⟨_, _, _, across⟩ := Json.exists_of_finite (finite s.details.mapX (by simp [Details.coordinates]))
  obtain ⟨_, _, _, along⟩ := Json.exists_of_finite (finite s.details.mapY (by simp [Details.coordinates]))
  have fields : s.toJson.fields? ["id", "queue", "timeslot", "scheduled_time", "duration", "student_email",
      "name", "description", "location", "map_x", "map_y"] = some [some (.str s.id.text), some (.str s.queue.text),
        some (.nat s.timeslot.toNat), some (.int s.scheduledTime.toInt), some (.nat s.duration.toNat),
        some (.ofOption .str s.student), some (.str s.details.name), some (.str s.details.description),
        some (.str s.details.location), some (.ofSingle s.details.mapX), some (.ofSingle s.details.mapY)] := rfl
  have student : Json.optional Json.string? (some (.ofOption .str s.student)) = some s.student :=
    Json.optional_ofOption .str (fun _ => rfl) nofun s.student
  rw [ofJson?, fields]
  simp only [Option.bind_eq_bind, Option.bind_some, Json.required, Json.id?_text, Json.word?_nat, Json.int64?_toInt,
    Json.string?, student, across, along]
  rfl

end Slot

end Bookings
