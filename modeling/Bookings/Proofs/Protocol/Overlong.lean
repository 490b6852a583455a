import Bookings.Proofs.Protocol.Connection

namespace Bookings

namespace Line

def isTooLong (line : String) : Bool := maxLineBytes < line.utf8ByteSize

/-- The lines that call for an answer where a line that is too long is answered as well. -/
def due (lines : List String) : List String := lines.filter fun line => isTooLong line || !Text.isBlankText line

theorem due_short {lines : List String} (short : ∀ line ∈ lines, line.utf8ByteSize ≤ maxLineBytes) :
    due lines = lines.filter (!Text.isBlankText ·) := by
  refine List.filter_congr fun line member => ?_
  rw [isTooLong, decide_eq_false (Nat.not_lt.mpr (short line member)), Bool.false_or]

theorem due_cons_long {long : String} (exceeds : isTooLong long = true) (lines : List String) :
    due (long :: lines) = long :: due lines := by
  rw [due, List.filter_cons_of_pos (by rw [exceeds, Bool.true_or]), ← due]

theorem due_cons_filled {line : String} (filled : Text.isBlankText line = false) (lines : List String) :
    due (line :: lines) = line :: due lines := by
  rw [due, List.filter_cons_of_pos (by rw [filled, Bool.not_false, Bool.or_true]), ← due]

theorem due_cons_blank {line : String} (fits : isTooLong line = false) (blank : Text.isBlankText line = true)
    (lines : List String) : due (line :: lines) = due lines := by
  rw [due, List.filter_cons_of_neg (by rw [fits, blank]; decide), ← due]

theorem due_subset (lines : List String) : due lines ⊆ lines := List.filter_sublist.subset

end Line

namespace Desk

def lineTooLong : Response := .refused .badRequest "request line too long"

def replyTo (d : Desk) (explain : String → String) (line : String) : Plan Response :=
  if Line.isTooLong line then .done lineTooLong else d.handleLine explain (Line.text line)

variable {σ : Type} (w : World σ) (explain : String → String) (desk : Nat → Desk)

/-- What a connection answers that goes on behind lines that are too long. -/
def promised (lines : List String) (s : σ) : List Response × σ :=
  Plan.runEach w ((Line.due lines).mapIdx fun n line => (desk n).replyTo explain line) s

theorem length_promised (lines : List String) (s : σ) :
    (promised w explain desk lines s).1.length = (Line.due lines).length := by
  rw [promised, Plan.length_runEach, List.length_mapIdx]

theorem promised_nil {lines : List String} (nothing : Line.due lines = []) (s : σ) :
    promised w explain desk lines s = ([], s) := by
  rw [promised, nothing]
  rfl

theorem promised_append (front back : List String) (s : σ) :
    promised w explain desk (front ++ back) s =
      let answered := promised w explain desk front s
      let behind := promised w explain (fun n => desk (n + (Line.due front).length)) back answered.2
      (answered.1 ++ behind.1, behind.2) := by
  rw [promised, Line.due, List.filter_append, List.mapIdx_append, Plan.runEach_append]
  rfl

theorem promised_cons {line : String} {lines : List String} (needed : Line.due (line :: lines) = line :: Line.due lines)
    (s : σ) :
    promised w explain desk (line :: lines) s =
      let answer := ((desk 0).replyTo explain line).run w s
      let behind := promised w explain (fun n => desk (n + 1)) lines answer.2
      (answer.1 :: behind.1, behind.2) := by
  rw [promised, needed, List.mapIdx_cons]
  rfl

theorem promised_cons_long {long : String} (exceeds : Line.isTooLong long = true) (lines : List String) (s : σ) :
    promised w explain desk (long :: lines) s =
      let behind := promised w explain (fun n => desk (n + 1)) lines s
      (lineTooLong :: behind.1, behind.2) := by
  rw [promised_cons w explain desk (Line.due_cons_long exceeds lines), replyTo, if_pos exceeds]
  rfl

/-- The lines that are not too long are promised what they are answered, at the same desks, where the others are not
sent. -/
theorem promised_without_overlong (lines : List String) (s : σ) :
    let promise := promised w explain desk lines s
    ∃ pick : Nat → Nat, StrictMono pick ∧
      let answered := responses w explain (desk ∘ pick) (Line.asked (lines.filter (!Line.isTooLong ·))) s
      (((Line.due lines).zip promise.1).filter (!Line.isTooLong ·.1)).map Prod.snd = answered.1 ∧
        promise.2 = answered.2 := by
  dsimp only
  induction lines generalizing desk s with
  | nil => exact ⟨id, strictMono_id, rfl, rfl⟩
  | cons line lines ih =>
    cases exceeds : Line.isTooLong line with
    | true =>
      -- The refusal takes the first desk, so all picks move on by one.
      obtain ⟨pick, increasing, shown, after⟩ := ih (fun n => desk (n + 1)) s
      refine ⟨fun n => pick n + 1, fun _ _ less => Nat.add_lt_add_right (increasing less) 1, ?_⟩
      rw [promised_cons_long w explain _ exceeds, Line.due_cons_long exceeds,
        List.filter_cons_of_neg (by rw [exceeds]; decide)]
      dsimp only
      rw [List.zip_cons_cons, List.filter_cons_of_neg (by rw [exceeds]; decide)]
      exact ⟨shown, after⟩
    | false =>
      rw [List.filter_cons_of_pos (by rw [exceeds]; rfl)]
      cases blank : Text.isBlankText line with
      | true =>
        rw [promised, Line.due_cons_blank exceeds blank, ← promised, Line.asked_cons_blank blank]
        exact ih desk s
      | false =>
        obtain ⟨pick, increasing, shown, after⟩ := ih (fun n => desk (n + 1))
          (((desk 0).handleLine explain (Line.text line)).run w s).2
        refine ⟨fun n => n.casesOn 0 fun n => pick n + 1, ?_, ?_⟩
        · refine strictMono_nat_of_lt_succ fun n => ?_
          cases n with
          | zero => exact Nat.succ_pos _
          | succ n => exact Nat.add_lt_add_right (increasing (Nat.lt_succ_self n)) 1
        · rw [promised_cons w explain _ (Line.due_cons_filled blank lines), replyTo, exceeds,
            if_neg Bool.false_ne_true, Line.due_cons_filled blank, Line.asked_cons_filled blank, responses_cons]
          dsimp only
          rw [List.zip_cons_cons, List.filter_cons_of_pos (by rw [exceeds]; rfl), List.map_cons]
          exact ⟨congrArg (_ :: ·) shown, after⟩

theorem promised_short {lines : List String} (short : ∀ line ∈ lines, line.utf8ByteSize ≤ maxLineBytes) (s : σ) :
    promised w explain desk lines s = responses w explain desk (Line.asked lines) s := by
  rw [promised, responses, Line.asked, ← Line.due_short short]
  congr 1
  refine List.ext_getElem (by rw [List.length_mapIdx, List.length_mapIdx, List.length_map]) fun n bound _ => ?_
  rw [List.length_mapIdx] at bound
  have fits := short _ (Line.due_subset lines (List.getElem_mem bound))
  rw [List.getElem_mapIdx, List.getElem_mapIdx, List.getElem_map, replyTo, Line.isTooLong,
    decide_eq_false (Nat.not_lt.mpr fits), if_neg Bool.false_ne_true]

variable {front back : List String} {long : String}

theorem run_attend_overlong (whole : ∀ line ∈ front, '\n' ∉ line.toList)
    (short : ∀ line ∈ front, line.utf8ByteSize ≤ maxLineBytes) (plain : '\n' ∉ long.toList)
    (exceeds : maxLineBytes < long.utf8ByteSize) (s : σ) :
    let answered := responses w explain desk (Line.asked front) s
    (attend explain desk (Line.stream (front ++ long :: back))).run w s =
      (⟨(answered.1 ++ [lineTooLong]).map Response.line, .closed⟩, answered.2) := by
  intro answered
  have bytes : Line.stream (front ++ long :: back) =
      Line.stream front ++ (Line.bytes long ++ (10 :: Line.stream back)) := by
    simp only [Line.stream, List.flatMap_append, List.flatMap_cons, List.append_assoc, List.singleton_append]
  rw [attend, bytes, Frame.ofStream_stream whole short, Frame.ofStream_overlong plain exceeds, run_answerFrames]
  simp only [List.length_nil, Nat.add_zero, List.append_nil, answerFrames, Plan.run, List.reverse_cons,
    List.reverse_reverse, List.map_append, List.map_cons, List.map_nil, lineTooLong, answered]

theorem promised_overlong (short : ∀ line ∈ front, line.utf8ByteSize ≤ maxLineBytes)
    (exceeds : maxLineBytes < long.utf8ByteSize) (s : σ) :
    let answered := responses w explain desk (Line.asked front) s
    let behind := promised w explain (fun n => desk (n + 1 + (Line.due front).length)) back answered.2
    promised w explain desk (front ++ long :: back) s = (answered.1 ++ [lineTooLong] ++ behind.1, behind.2) := by
  intro answered behind
  have refused := promised_cons_long w explain (fun n => desk (n + (Line.due front).length)) (decide_eq_true exceeds) back
    answered.2
  rw [promised_append, promised_short w explain desk short, List.append_assoc, List.singleton_append]
  exact Prod.ext (congrArg (answered.1 ++ ·.1) refused) (congrArg (·.2) refused)

/-- A line that is too long is refused, but nothing behind it is answered: the promise that the connection goes on as if
no such line had been sent is kept up to the refusal, and as a whole only if nothing behind it is due. -/
theorem overlong_line_is_last (whole : ∀ line ∈ front, '\n' ∉ line.toList)
    (short : ∀ line ∈ front, line.utf8ByteSize ≤ maxLineBytes) (plain : '\n' ∉ long.toList)
    (exceeds : maxLineBytes < long.utf8ByteSize) (s : σ) :
    let lines := front ++ long :: back
    let answered := responses w explain desk (Line.asked front) s
    let promise := promised w explain desk lines s
    let ran := (attend explain desk (Line.stream lines)).run w s
    ran = (⟨(answered.1 ++ [lineTooLong]).map Response.line, .closed⟩, answered.2) ∧
      ran.1.lines <+: promise.1.map Response.line ∧
        (ran = (⟨promise.1.map Response.line, .closed⟩, promise.2) ↔ Line.due back = []) ∧
          ∃ pick : Nat → Nat, StrictMono pick ∧
            let unsent := responses w explain (desk ∘ pick) (Line.asked (lines.filter (!Line.isTooLong ·))) s
            (((Line.due lines).zip promise.1).filter (!Line.isTooLong ·.1)).map Prod.snd = unsent.1 ∧
              promise.2 = unsent.2 := by
  intro lines answered promise ran
  have unsent := promised_without_overlong w explain desk lines s
  let behind := promised w explain (fun n => desk (n + 1 + (Line.due front).length)) back answered.2
  have answers : ran = (⟨(answered.1 ++ [lineTooLong]).map Response.line, .closed⟩, answered.2) :=
    run_attend_overlong w explain desk whole short plain exceeds s
  have promises : promise = (answered.1 ++ [lineTooLong] ++ behind.1, behind.2) :=
    promised_overlong w explain desk short exceeds s
  rw [answers]
  refine ⟨rfl, ?_, ⟨fun kept => ?_, fun nothing => ?_⟩, unsent⟩
  · rw [promises]
    exact (List.prefix_append _ _).map _
  · -- The transcripts are equal only if they have as many lines, and each line that is due would add one.
    have sizes := congrArg (·.1.lines.length) (promises ▸ kept)
    simp only [List.length_map, List.length_append] at sizes
    have none : behind.1.length = 0 := by omega
    rw [length_promised] at none
    exact List.length_eq_zero_iff.mp none
  · have unchanged : behind = ([], answered.2) := promised_nil w explain _ nothing answered.2
    rw [promises, unchanged, List.append_nil]

def longLine : String := String.ofList (List.replicate (maxLineBytes + 1) 'a')

theorem newline_notMem_longLine : '\n' ∉ longLine.toList := by
  rw [longLine, String.toList_ofList, List.mem_replicate]
  exact fun member => absurd member.2 (by decide)

theorem over_longLine : maxLineBytes < longLine.utf8ByteSize := by
  have single : (String.utf8EncodeChar 'a').length = 1 := by decide
  rw [← Line.length_bytes, longLine, Line.bytes_ofList, List.length_flatMap, List.map_replicate,
    List.sum_replicate_nat, single, Nat.mul_one]
  exact Nat.lt_succ_self _

def scheduleLine : String :=
  "\x7b\"op\":\"schedule\",\"queue\":\"00000000000000000000000007\",\"weekday\":3\x7d"

theorem overlong_line_is_last_longLine :
    let w := Service.world (fun n => Id.ofNat (n + 1)) Service.noFaults
    let explain := fun _ : String => "expected value at line 1 column 1"
    let desk := fun n : Nat => Desk.mk Zone.utc (1700006400000 + Int64.ofNat n)
    let front := ["", scheduleLine]
    let lines := front ++ longLine :: [scheduleLine]
    (∀ line ∈ front, '\n' ∉ line.toList) ∧ (∀ line ∈ front, line.utf8ByteSize ≤ maxLineBytes) ∧
      '\n' ∉ longLine.toList ∧ maxLineBytes < longLine.utf8ByteSize ∧
        ((attend explain desk (Line.stream lines)).run w ⟨Store.open {}, 0⟩).1.lines =
          ["\x7b\"status\":404,\"error\":\"There is no appointment schedule for that day.\"\x7d",
            "\x7b\"status\":400,\"error\":\"request line too long\"\x7d"] := by
  intro w explain desk front lines
  have whole : ∀ line ∈ front, '\n' ∉ line.toList := by decide +kernel
  have short : ∀ line ∈ front, line.utf8ByteSize ≤ maxLineBytes := by decide +kernel
  have ended := @overlong_line_is_last _ w explain desk front [scheduleLine] longLine whole short newline_notMem_longLine
    over_longLine ⟨Store.open {}, 0⟩
  have ran : (attend explain desk (Line.stream lines)).run w ⟨Store.open {}, 0⟩ = _ := ended.1
  have answers : ((responses w explain desk (Line.asked front) ⟨Store.open {}, 0⟩).1 ++ [lineTooLong]).map Response.line =
      ["\x7b\"status\":404,\"error\":\"There is no appointment schedule for that day.\"\x7d",
        "\x7b\"status\":400,\"error\":\"request line too long\"\x7d"] := by decide +kernel
  refine ⟨whole, short, newline_notMem_longLine, over_longLine, ?_⟩
  rw [ran]
  dsimp only
  exact answers

theorem request_behind_overlong_line_lost :
    let w := Service.world (fun n => Id.ofNat (n + 1)) Service.noFaults
    let explain := fun _ : String => "expected value at line 1 column 1"
    let desk := fun _ : Nat => Desk.mk Zone.utc 1700006400000
    let lines := [longLine, scheduleLine]
    ((attend explain desk (Line.stream lines)).run w ⟨Store.open {}, 0⟩).1.lines =
        ["\x7b\"status\":400,\"error\":\"request line too long\"\x7d"] ∧
      (promised w explain desk lines ⟨Store.open {}, 0⟩).1.map Response.line =
        ["\x7b\"status\":400,\"error\":\"request line too long\"\x7d",
          "\x7b\"status\":404,\"error\":\"There is no appointment schedule for that day.\"\x7d"] := by
  intro w explain desk lines
  have none : ∀ line ∈ ([] : List String), '\n' ∉ line.toList := List.forall_mem_nil _
  have small : ∀ line ∈ ([] : List String), line.utf8ByteSize ≤ maxLineBytes := List.forall_mem_nil _
  constructor
  · have ran := @run_attend_overlong _ w explain desk [] [scheduleLine] longLine none small newline_notMem_longLine
      over_longLine ⟨Store.open {}, 0⟩
    rw [List.nil_append] at ran
    rw [ran]
    decide +kernel
  · rw [promised_cons_long w explain desk (decide_eq_true over_longLine)]
    decide +kernel

end Desk

end Bookings
