import Bookings.Settings

namespace Bookings.Settings

def offset? (lookup : String → Option String) : Option Int32 :=
  (lookup "OFFICEHOURS_UTC_OFFSET_MINUTES").bind fun s => Whole.int32? (Text.trim s)

/-- Nothing overflows, the settings are refused for an offset that is too large and for nothing else, and those that are
taken have a zone of that offset. -/
structure OffsetChecked (lookup : String → Option String) : Prop where
  ends : (ofLookup lookup).isSome = true
  refused : ∀ e, ofLookup lookup = some (.error e) ↔ ∃ minutes, offset? lookup = some minutes ∧
    maxOffsetMinutes < minutes.toInt.natAbs ∧ e = .utcOffsetOutOfRange minutes
  taken : ∀ s, ofLookup lookup = some (.ok s) → s.utcOffsetMinutes = (offset? lookup).getD 0 ∧
    ∃ z, s.zone = some (.ok z) ∧ z.seconds = s.utcOffsetMinutes.toInt * 60 ∧ z.seconds.natAbs ≤ 64800

theorem int32?_eq_some {n : Int} (low : -2147483648 ≤ n) (high : n < 2147483648) :
    int32? n = some (Int32.ofInt n) ∧ (Int32.ofInt n).toInt = n := by
  refine ⟨if_pos ⟨low, high⟩, ?_⟩
  exact Int32.toInt_ofInt_of_le low high

section

variable {minutes : Int32}

theorem natAbs_lt (usual : minutes ≠ Int32.minValue) : (minutes.toInt.natAbs : Int) < 2147483648 := by
  have differs : minutes.toInt ≠ -2147483648 := fun least => usual (Int32.toInt_inj.mp least)
  have high := minutes.toInt_lt
  have low := minutes.le_toInt
  omega

theorem size_of_usual (usual : minutes ≠ Int32.minValue) :
    ∃ size, int32? minutes.toInt.natAbs = some size ∧
      (Int32.ofNat maxOffsetMinutes < size ↔ maxOffsetMinutes < minutes.toInt.natAbs) := by
  have low : -2147483648 ≤ (minutes.toInt.natAbs : Int) := Int.le_trans (by decide) (Int.natCast_nonneg _)
  obtain ⟨held, exact_⟩ := int32?_eq_some low (natAbs_lt usual)
  have bound : (Int32.ofNat maxOffsetMinutes).toInt = maxOffsetMinutes := by decide
  refine ⟨_, held, ?_⟩
  rw [Int32.lt_iff_toInt_lt, exact_, bound]
  exact Int.ofNat_lt

theorem size_of_least : int32? Int32.minValue.toInt.natAbs = none := by decide

theorem zone_of_small {s : Settings} (small : s.utcOffsetMinutes.toInt.natAbs ≤ maxOffsetMinutes) :
    ∃ z, s.zone = some (.ok z) ∧ z.seconds = s.utcOffsetMinutes.toInt * 60 ∧ z.seconds.natAbs ≤ 64800 := by
  rw [maxOffsetMinutes] at small
  have west : -86400 < s.utcOffsetMinutes.toInt * 60 := by omega
  have east : s.utcOffsetMinutes.toInt * 60 < 86400 := by omega
  obtain ⟨held, product⟩ := int32?_eq_some (n := s.utcOffsetMinutes.toInt * 60) (by omega) (by omega)
  refine ⟨⟨s.utcOffsetMinutes.toInt * 60, west, east⟩, ?_, rfl, by dsimp only; omega⟩
  rw [zone, held, Option.bind_eq_bind, Option.bind_some, product, Zone.ofSeconds?, dif_pos ⟨west, east⟩]
  rfl

end

theorem ofLookup_cases {lookup : String → Option String} (usual : (offset? lookup).getD 0 ≠ Int32.minValue) :
    (maxOffsetMinutes < ((offset? lookup).getD 0).toInt.natAbs ∧
        ofLookup lookup = some (.error (.utcOffsetOutOfRange ((offset? lookup).getD 0)))) ∨
      ((offset? lookup).getD 0).toInt.natAbs ≤ maxOffsetMinutes ∧
        ∃ s, ofLookup lookup = some (.ok s) ∧ s.utcOffsetMinutes = (offset? lookup).getD 0 := by
  obtain ⟨size, held, compared⟩ := size_of_usual usual
  change int32? (((parsed? lookup Whole.int32? _).getD 0).toInt.natAbs) = some size at held
  unfold ofLookup
  dsimp only
  rw [held, Option.bind_eq_bind, Option.bind_some]
  by_cases large : Int32.ofNat maxOffsetMinutes < size
  · rw [if_pos large]
    exact .inl ⟨compared.mp large, rfl⟩
  · rw [if_neg large]
    exact .inr ⟨Nat.not_lt.mp fun more => large (compared.mpr more), _, rfl, rfl⟩

theorem offsetChecked_of_usual {lookup : String → Option String} (usual : offset? lookup ≠ some Int32.minValue) :
    OffsetChecked lookup := by
  have read : (offset? lookup).getD 0 ≠ Int32.minValue := by
    cases asked : offset? lookup with
    | none => decide
    | some minutes => exact fun least => usual (asked.trans (congrArg some least))
  have outcome := ofLookup_cases read
  refine ⟨?_, fun e => ⟨?_, ?_⟩, ?_⟩
  · rcases outcome with ⟨_, found⟩ | ⟨_, s, found, _⟩
    · rw [found, Option.isSome_some]
    · rw [found, Option.isSome_some]
  · intro refused
    rcases outcome with ⟨large, found⟩ | ⟨_, s, found, _⟩
    · cases found.symm.trans refused
      -- A missing offset counts as 0, which is not too large.
      cases asked : offset? lookup with
      | none =>
        rw [asked] at large
        exact absurd large (by decide)
      | some minutes =>
        rw [asked] at large
        exact ⟨minutes, rfl, large, rfl⟩
    · cases found.symm.trans refused
  · rintro ⟨minutes, asked, large, rfl⟩
    rw [asked] at outcome
    rcases outcome with ⟨_, found⟩ | ⟨small, _⟩
    · exact found
    · exact absurd large (Nat.not_lt.mpr small)
  · intro s taken
    rcases outcome with ⟨_, found⟩ | ⟨small, t, found, kept⟩
    · cases found.symm.trans taken
    · cases found.symm.trans taken
      rw [← kept] at small
      exact ⟨kept, zone_of_small small⟩

theorem ofLookup_of_least {lookup : String → Option String} (least : offset? lookup = some Int32.minValue) :
    ofLookup lookup = none := by
  change parsed? lookup Whole.int32? "OFFICEHOURS_UTC_OFFSET_MINUTES" = some Int32.minValue at least
  unfold ofLookup
  dsimp only
  rw [least, Option.getD_some, size_of_least]
  rfl

/-- The offset of the reference zone is checked, and its zone computed, without a fault for every text but one: at that
of the least number of 32 bits the arithmetic overflows, where the settings are to be refused. -/
theorem offset_is_checked_unless_least (lookup : String → Option String) :
    (OffsetChecked lookup ↔ offset? lookup ≠ some Int32.minValue) ∧
      (offset? lookup = some Int32.minValue → ofLookup lookup = none) := by
  refine ⟨⟨?_, offsetChecked_of_usual⟩, ofLookup_of_least⟩
  intro checked least
  have ends := checked.ends
  rw [ofLookup_of_least least] at ends
  cases ends

def onlyOffset (text key : String) : Option String :=
  if key = "OFFICEHOURS_UTC_OFFSET_MINUTES" then some text else none

theorem offset_is_checked_unless_least_west :
    offset? (onlyOffset " -480\n") = some (-480) ∧ OffsetChecked (onlyOffset " -480\n") := by
  have asked : offset? (onlyOffset " -480\n") = some (-480) := by decide
  have usual : offset? (onlyOffset " -480\n") ≠ some Int32.minValue := by
    rw [asked]
    decide
  exact ⟨asked, (offset_is_checked_unless_least _).1.mpr usual⟩

theorem least_offset_overflows :
    offset? (onlyOffset "-2147483648") = some Int32.minValue ∧
      maxOffsetMinutes < Int32.minValue.toInt.natAbs ∧ ofLookup (onlyOffset "-2147483648") = none ∧
        ofLookup (onlyOffset "-2147483648") ≠ some (.error (.utcOffsetOutOfRange Int32.minValue)) := by
  have least : offset? (onlyOffset "-2147483648") = some Int32.minValue := by decide
  have stops := ofLookup_of_least least
  refine ⟨least, by decide, stops, ?_⟩
  rw [stops]
  intro same
  cases same

end Bookings.Settings
