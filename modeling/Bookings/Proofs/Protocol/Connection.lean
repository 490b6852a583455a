import Bookings.Proofs.Json.Text
import Bookings.Proofs.Json.Written
import Bookings.Proofs.Protocol.Lines
import Bookings.Desk.Service

namespace Bookings

theorem Plan.runEach_append {σ α : Type} (w : World σ) (ps qs : List (Plan α)) (s : σ) :
    runEach w (ps ++ qs) s =
      ((runEach w ps s).1 ++ (runEach w qs (runEach w ps s).2).1, (runEach w qs (runEach w ps s).2).2) := by
  induction ps generalizing s with
  | nil => rfl
  | cons p ps ih => simp only [List.cons_append, runEach, ih]

theorem Plan.length_runEach {σ α : Type} (w : World σ) (ps : List (Plan α)) (s : σ) :
    (runEach w ps s).1.length = ps.length := by
  induction ps generalizing s with
  | nil => rfl
  | cons p ps ih => simp only [runEach, List.length_cons, ih]

namespace Response

/-- The text is an object with the status, and with the body and the message where the response has them. -/
def ShownBy (r : Response) (text : String) : Prop :=
  Json.Shows (.obj (("status", .int r.status) ::
    ((r.body.toList.map fun body => ("body", body)) ++ r.error.toList.map fun message => ("error", .str message))))
    text.toList

theorem newline_notMem_line (r : Response) : '\n' ∉ r.line.toList := r.toJson.newline_notMem_text

theorem shownBy_line (r : Response) : r.ShownBy r.line := by
  obtain ⟨status, body, error⟩ := r
  rw [ShownBy, line, Json.text, String.toList_ofList]
  have shown := Json.shows_chars (toJson ⟨status, body, error⟩)
  cases body <;> cases error <;> exact shown

end Response

namespace Line

def asked (lines : List String) : List String := (lines.filter (!Text.isBlankText ·)).map text

theorem isBlankText_text (s : String) : Text.isBlankText (text s) = Text.isBlankText s := by
  unfold text
  split
  · rename_i ends
    have blank : Text.isBlank '\r' = true := by decide
    obtain ⟨front, parts⟩ := List.getLast?_eq_some_iff.mp ends
    rw [Text.isBlankText, Text.isBlankText, String.toList_ofList, parts, List.dropLast_concat, List.all_append]
    simp only [List.all_cons, List.all_nil, blank, Bool.and_true]
  · rfl

theorem asked_cons_blank {s : String} (blank : Text.isBlankText s = true) (lines : List String) :
    asked (s :: lines) = asked lines := by
  rw [asked, List.filter_cons_of_neg (by simp [blank]), ← asked]

theorem asked_cons_filled {s : String} (filled : Text.isBlankText s = false) (lines : List String) :
    asked (s :: lines) = text s :: asked lines := by
  rw [asked, List.filter_cons_of_pos (by simp [filled]), List.map_cons, ← asked]

end Line

namespace Desk

variable {σ : Type} (w : World σ) (explain : String → String) (desk : Nat → Desk)

/-- The responses to lines that are handled one after another. -/
def responses (lines : List String) (s : σ) : List Response × σ :=
  Plan.runEach w (lines.mapIdx fun n line => (desk n).handleLine explain line) s

theorem responses_cons (line : String) (lines : List String) (s : σ) :
    responses w explain desk (line :: lines) s =
      let (r, s) := ((desk 0).handleLine explain line).run w s
      let (rs, s) := responses w explain (fun n => desk (n + 1)) lines s
      (r :: rs, s) := by
  rw [responses, List.mapIdx_cons]
  rfl

theorem length_responses (lines : List String) (s : σ) :
    (responses w explain desk lines s).1.length = lines.length := by
  rw [responses, Plan.length_runEach, List.length_mapIdx]

theorem run_answerFrames (lines sent : List String) (rest : List Frame) (s : σ) :
    (answerFrames explain desk sent ((lines.map fun s => .line (Line.text s)) ++ rest)).run w s =
      let (rs, s) := responses w explain (fun n => desk (n + sent.length)) (Line.asked lines) s
      (answerFrames explain desk ((rs.map Response.line).reverse ++ sent) rest).run w s := by
  induction lines generalizing sent s with
  | nil => rfl
  | cons line lines ih =>
    rw [List.map_cons, List.cons_append, answerFrames, Line.isBlankText_text]
    cases blank : Text.isBlankText line with
    | true => rw [if_pos rfl, ih, Line.asked_cons_blank blank]
    | false =>
      -- Behind this line one more answer has been sent, so the desks are counted from the next one on.
      have later : (fun n => desk (n + 1 + sent.length)) = fun n => desk (n + (sent.length + 1)) := by
        funext n
        rw [Nat.add_right_comm, Nat.add_assoc]
      rw [if_neg Bool.false_ne_true, Plan.run_bind, ih, Line.asked_cons_filled blank, responses_cons]
      simp only [List.length_cons, Nat.zero_add, later, List.map_cons, List.reverse_cons, List.append_assoc,
        List.singleton_append]

/-- A connection gives every line that holds something its own line of answer, in order. The line of answer shows the
response to the line, and has no line feed in it. -/
theorem lines_are_answered_in_order {lines : List String} (whole : ∀ line ∈ lines, '\n' ∉ line.toList)
    (short : ∀ line ∈ lines, line.utf8ByteSize ≤ maxLineBytes) (s : σ) :
    let answered := responses w explain desk (Line.asked lines) s
    (attend explain desk (Line.stream lines)).run w s = (⟨answered.1.map Response.line, .closed⟩, answered.2) ∧
      answered.1.length = (lines.filter (!Text.isBlankText ·)).length ∧
        ∀ r ∈ answered.1, r.ShownBy r.line ∧ '\n' ∉ r.line.toList := by
  intro answered
  have frames := Frame.ofStream_stream whole short []
  have nothing : Frame.ofStream [] = [] := rfl
  rw [nothing, List.append_nil] at frames
  refine ⟨?_, ?_, fun r _ => ⟨r.shownBy_line, r.newline_notMem_line⟩⟩
  · rw [attend, frames, run_answerFrames]
    simp only [List.length_nil, Nat.add_zero, answerFrames, Plan.run, List.append_nil, List.reverse_reverse, answered]
  · rw [length_responses, Line.asked, List.length_map]

/-- A day is opened, and Ada's description of her visit has a line feed in it. -/
def visitLines : List String := [
  "[\"update_schedule\",\"00000000000000000000000007\",3,[\"staff@x.edu\",true],[60,\"111111111111\"]]", "", "open",
  "[\"signup\",\"00000000000000000000000007\",3,10,[\"ada@x.edu\"],[null,\"Ada\",\"limits\\nseries\",\"room 1\",null,0.1]]",
  " \t", "[\"schedule\",\"00000000000000000000000007\",3]\r"]

def visitAnswers : List String := [
  "\x7b\"status\":204\x7d",
  "\x7b\"status\":400,\"error\":\"malformed request: expected value at line 1 column 1\"\x7d",
  "\x7b\"status\":201,\"body\":\x7b\"description\":\"limits\\nseries\",\"duration\":60," ++
    "\"id\":\"00000000000000000000000001\",\"location\":\"room 1\",\"map_x\":0.0," ++
    "\"map_y\":0.10000000149011612,\"name\":\"Ada\",\"queue\":\"00000000000000000000000007\"," ++
    "\"scheduled_time\":1700042400000,\"student_email\":\"ada@x.edu\",\"timeslot\":10\x7d\x7d",
  "\x7b\"status\":200,\"body\":\x7b\"capacities\":\"111111111111\",\"duration\":60,\"weekday\":3\x7d\x7d"]

theorem lines_are_answered_in_order_visitLines :
    let w := Service.world (fun n => Id.ofNat (n + 1)) Service.noFaults
    let explain := fun _ : String => "expected value at line 1 column 1"
    let desk := fun n : Nat => Desk.mk Zone.utc (1700006400000 + Int64.ofNat n)
    ∃ rs after, responses w explain desk (Line.asked visitLines) ⟨Store.open {}, 0⟩ = (rs, after) ∧
      rs.map Response.line = visitAnswers ∧
        (attend explain desk (Line.stream visitLines)).run w ⟨Store.open {}, 0⟩ =
            (⟨rs.map Response.line, .closed⟩, after) ∧
          ∀ r ∈ rs, r.ShownBy r.line ∧ '\n' ∉ r.line.toList := by
  intro w explain desk
  have whole : ∀ line ∈ visitLines, '\n' ∉ line.toList := by decide +kernel
  have short : ∀ line ∈ visitLines, line.utf8ByteSize ≤ maxLineBytes := by decide +kernel
  have texts : (responses w explain desk (Line.asked visitLines) ⟨Store.open {}, 0⟩).1.map Response.line =
      visitAnswers := by decide +kernel
  obtain ⟨transcript, _, plain⟩ := lines_are_answered_in_order w explain desk whole short ⟨Store.open {}, 0⟩
  exact ⟨_, _, (Prod.eta _).symm, texts, transcript, plain⟩

end Desk

end Bookings
