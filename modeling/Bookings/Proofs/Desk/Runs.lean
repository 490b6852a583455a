import Bookings.Proofs.Desk.Asks

namespace Bookings

theorem Call.truthful_answerWith (s : Store) (faults : Faults) (c : Call) :
    c.Truthful s.register.schedule? (s.answerWith faults c).1 := by
  cases c with
  | scheduleFor queue weekday =>
    cases answered : (s.answerWith faults (.scheduleFor queue weekday)).1 with
    | error e => exact True.intro
    | ok found => exact Store.scheduleFor_eq_ok answered
  | _ => exact True.intro

theorem Register.Admits.keeps_schedules {r : Register} {c : Call} {e : Event} {a : c.Answer}
    (admitted : r.Admits c e a) (keeps : c.replaces = false) : (r.apply e).schedule? = r.schedule? := by
  apply Register.schedule?_apply
  intro queue schedule same
  cases admitted <;> cases same
  contradiction

theorem Store.Outcome.keeps_schedules {s t : Store} {c : Call} {a : c.Answer} (outcome : s.Outcome c a t)
    (keeps : c.replaces = false) : t.register.schedule? = s.register.schedule? := by
  rcases outcome.quiet_or_applied with ⟨_, same⟩ | ⟨e, admitted, same⟩
  · exact same.schedule?
  · exact same.schedule?.trans (admitted.keeps_schedules keeps)

namespace Service

/-- The identifiers still to be taken before `last` are. -/
def coming (ids : Nat → Id) (last : Nat) (s : Service) : List Id :=
  (List.range' s.minted (last - s.minted)).map ids

/-- The property holds, and the identifiers that were taken and not used, with those still to come, are fresh. -/
structure Safe (I : Register → Prop) (ids : Nat → Id) (last : Nat) (s : Service) (taken : List Id) : Prop where
  holds : I s.store.register
  fresh : s.store.register.Fresh (taken ++ s.coming ids last)

variable {ids : Nat → Id} {last : Nat} {I : Register → Prop} {s : Service}

theorem Safe.drop {taken others : List Id} (safe : s.Safe I ids last (taken ++ others)) : s.Safe I ids last others := by
  refine ⟨safe.holds, ?_⟩
  have fresh := safe.fresh
  rw [List.append_assoc] at fresh
  exact fresh.right

theorem Safe.perm {taken others : List Id} (safe : s.Safe I ids last taken) (moved : taken.Perm others) :
    s.Safe I ids last others := ⟨safe.holds, safe.fresh.perm (moved.append_right _)⟩

theorem coming_cons (bound : s.minted < last) :
    s.coming ids last = ids s.minted :: coming ids last { s with minted := s.minted + 1 } := by
  rw [coming, coming, show last - s.minted = last - (s.minted + 1) + 1 by omega, List.range'_succ, List.map_cons]

theorem Safe.mint {taken : List Id} (safe : s.Safe I ids last taken) (bound : s.minted < last) :
    Safe I ids last { s with minted := s.minted + 1 } (ids s.minted :: taken) := by
  refine ⟨safe.holds, ?_⟩
  have fresh := safe.fresh
  rw [coming_cons bound] at fresh
  exact fresh.perm List.perm_middle

end Service

namespace Plan

variable {α : Type} {permitted : Schedules → Call → Prop} {ids : Nat → Id} {last : Nat} {faults : Faults}
  {I : Register → Prop} {s : Service}

theorem minted_le_step (ids : Nat → Id) (faults : Faults) (p : Plan α) (s : Service) :
    s.minted ≤ (p.step (Service.world ids faults) s).2.minted := by
  cases p with
  | done a => exact Nat.le_refl _
  | ask c next => exact Nat.le_refl _
  | mint next => exact Nat.le_succ _

theorem minted_le_run (ids : Nat → Id) (faults : Faults) (p : Plan α) (s : Service) :
    s.minted ≤ (p.run (Service.world ids faults) s).2.minted := by
  induction p generalizing s with
  | done a => exact Nat.le_refl _
  | ask c next ih => exact ih (s.store.answerWith faults c).1 { s with store := (s.store.answerWith faults c).2 }
  | mint next ih => exact Nat.le_trans (Nat.le_succ _) (ih (ids s.minted) { s with minted := s.minted + 1 })

theorem minted_le_interleave (ids : Nat → Id) (faults : Faults) (turns : List Nat) (plans : List (Plan α))
    (s : Service) :
    s.minted ≤ (interleave (Service.world ids faults) turns plans s).2.minted := by
  induction turns generalizing plans s with
  | nil => exact Nat.le_refl _
  | cons i turns ih =>
    rw [interleave]
    split
    · exact ih plans s
    · rename_i p _
      exact Nat.le_trans (minted_le_step ids faults p s) (ih _ _)

theorem safe_answer {c : Call} {mine others : List Id} (keeps : Register.Keeps I permitted)
    (allowed : permitted s.store.register.schedule? c) (spends : c.newIds = [] ∨ c.newIds.Perm mine)
    (safe : s.Safe I ids last (mine ++ others)) :
    Service.Safe I ids last { s with store := (s.store.answerWith faults c).2 }
      ((if c.newIds = [] then mine else []) ++ others) := by
  have spent : s.Safe I ids last ((if c.newIds = [] then mine else []) ++ others) := by
    split
    · exact safe
    · exact safe.drop
  rcases (s.store.outcome_answerWith faults c).quiet_or_applied with ⟨_, same⟩ | ⟨e, admitted, same⟩
  · exact ⟨keeps.same same spent.holds, spent.fresh.of_same same⟩
  · have reserved : s.store.register.Fresh
        (e.newIds ++ (((if c.newIds = [] then mine else []) ++ others) ++ s.coming ids last)) := by
      rw [admitted.newIds]
      split
      · rename_i none
        rw [none]
        exact safe.fresh
      · rename_i some
        have moved := spends.resolve_left some
        have fresh := safe.fresh
        rw [List.append_assoc] at fresh
        exact fresh.perm (moved.symm.append_right _)
    exact ⟨keeps.same same (keeps.apply admitted allowed reserved.left spent.holds), reserved.apply.of_same same⟩

theorem Asks.step {p : Plan α} {post : Schedules → List Id → α → Prop} {mine others : List Id} (faults : Faults)
    (keeps : Register.Keeps I permitted) (asks : p.Asks permitted post s.store.register.schedule? mine)
    (safe : s.Safe I ids last (mine ++ others))
    (enough : (p.step (Service.world ids faults) s).2.minted ≤ last) :
    ∃ left, (p.step (Service.world ids faults) s).1.Asks permitted post
        (p.step (Service.world ids faults) s).2.store.register.schedule? left ∧
      (p.step (Service.world ids faults) s).2.Safe I ids last (left ++ others) := by
  cases p with
  | done a => exact ⟨mine, asks, safe⟩
  | mint next => exact ⟨_, asks (ids s.minted), safe.mint enough⟩
  | ask c next =>
    obtain ⟨allowed, spends, rest⟩ := asks
    have outcome := s.store.outcome_answerWith faults c
    exact ⟨_, rest _ _ outcome.keeps_schedules (Call.truthful_answerWith s.store faults c),
      safe_answer keeps allowed spends safe⟩

theorem Asks.run {p : Plan α} {post : Schedules → List Id → α → Prop} {mine others : List Id}
    (keeps : Register.Keeps I permitted) (asks : p.Asks permitted post s.store.register.schedule? mine)
    (safe : s.Safe I ids last (mine ++ others))
    (enough : (p.run (Service.world ids faults) s).2.minted ≤ last) :
    ∃ left, (p.run (Service.world ids faults) s).2.Safe I ids last (left ++ others) := by
  induction p generalizing s mine with
  | done a => exact ⟨mine, safe⟩
  | ask c next ih =>
    have first := Nat.le_trans (minted_le_run ids faults (next (s.store.answerWith faults c).1) _) enough
    obtain ⟨left, asks, safe⟩ := asks.step faults keeps safe first
    exact ih _ asks safe enough
  | mint next ih =>
    have first := Nat.le_trans (minted_le_run ids faults (next (ids s.minted)) _) enough
    obtain ⟨left, asks, safe⟩ := asks.step faults keeps safe first
    exact ih _ asks safe enough

end Plan

theorem flatten_split {α : Type} {l : List (List α)} {i : Nat} {mine : List α} (present : l[i]? = some mine) :
    ∃ others, l.flatten.Perm (mine ++ others) ∧ ∀ left, (l.set i left).flatten.Perm (left ++ others) := by
  induction l generalizing i with
  | nil => contradiction
  | cons x l ih =>
    cases i with
    | zero =>
      cases present
      exact ⟨l.flatten, List.Perm.refl _, fun left => List.Perm.refl _⟩
    | succ i =>
      obtain ⟨others, whole, changed⟩ := ih present
      refine ⟨x ++ others, ?_, ?_⟩
      · exact (whole.append_left x).trans (List.perm_append_comm_assoc _ _ _)
      · intro left
        exact ((changed left).append_left x).trans (List.perm_append_comm_assoc _ _ _)

/-- A call as it is made: by which plan, and under which schedules. -/
structure Moment where
  plan : Nat
  call : Call
  schedules : Schedules

namespace Plan

variable {α : Type}

def moment? (i : Nat) (s : Service) : Plan α → Option Moment
  | done _ => none
  | ask c _ => some ⟨i, c, s.store.register.schedule?⟩
  | mint _ => none

def moments (w : World Service) : (turns : List Nat) → List (Plan α) → Service → List Moment
  | [], _, _ => []
  | i :: turns, plans, s =>
    match plans[i]? with
    | none => moments w turns plans s
    | some p => (p.moment? i s).toList ++ moments w turns (plans.set i (p.step w s).1) (p.step w s).2

variable {permitted : Schedules → Call → Prop} {ids : Nat → Id} {last : Nat} {faults : Faults}
  {I : Register → Prop} {s : Service} {schedules : Schedules}

/-- A property survives any turns if each plan, by what it knows of the calls made so far, can take a step that
keeps the property, and knows no less after the steps of others. -/
theorem interleave_holds (Knows : List Moment → Nat → List Id → Plan α → Prop) {R : Moment → Moment → Prop}
    {past : List Moment} {turns : List Nat} {plans : List (Plan α)} {pending : List (List Id)}
    (steps : ∀ {past : List Moment} {i : Nat} {mine others : List Id} {p : Plan α} {s : Service},
      Knows past i mine p → s.Safe I ids last (mine ++ others) →
        (p.step (Service.world ids faults) s).2.minted ≤ last → (∀ m ∈ past, ∀ n ∈ p.moment? i s, R m n) →
          ∃ left, Knows (past ++ (p.moment? i s).toList) i left (p.step (Service.world ids faults) s).1 ∧
            (p.step (Service.world ids faults) s).2.Safe I ids last (left ++ others))
    (stays : ∀ {past : List Moment} {i j : Nat} {mine : List Id} {p q : Plan α} {s : Service},
      i ≠ j → Knows past j mine q → Knows (past ++ (p.moment? i s).toList) j mine q)
    (knows : ∀ (i : Nat) (p : Plan α), plans[i]? = some p → ∃ mine, pending[i]? = some mine ∧ Knows past i mine p)
    (safe : s.Safe I ids last pending.flatten)
    (related : (past ++ moments (Service.world ids faults) turns plans s).Pairwise R)
    (enough : (interleave (Service.world ids faults) turns plans s).2.minted ≤ last) :
    I (interleave (Service.world ids faults) turns plans s).2.store.register := by
  induction turns generalizing past plans pending s with
  | nil => exact safe.holds
  | cons i turns ih =>
    rw [interleave] at enough ⊢
    rw [moments] at related
    cases chosen : plans[i]? with
    | none =>
      simp only [chosen] at related enough ⊢
      exact ih knows safe related enough
    | some p =>
      simp only [chosen] at related enough ⊢
      obtain ⟨mine, stored, known⟩ := knows i p chosen
      obtain ⟨others, whole, changed⟩ := flatten_split stored
      have first := Nat.le_trans (minted_le_interleave ids faults turns _ _) enough
      have before : ∀ m ∈ past, ∀ n ∈ p.moment? i s, R m n := by
        intro m old n new
        exact (List.pairwise_append.mp related).2.2 m old n (List.mem_append_left _ (Option.mem_toList.mpr new))
      obtain ⟨left, remaining, safe⟩ := steps known (safe.perm whole) first before
      rw [← List.append_assoc] at related
      -- The plan that took the step spends its own identifiers, and those of the others stay.
      refine ih ?_ (safe.perm (changed left).symm) related enough
      intro j q member
      rw [List.getElem?_set] at member ⊢
      split at member
      · rename_i same
        subst same
        split at member
        · cases member
          refine ⟨left, ?_, remaining⟩
          rw [if_pos rfl, if_pos (List.getElem?_eq_some_iff.mp stored).1]
        · contradiction
      · rename_i other
        rw [if_neg other]
        obtain ⟨theirs, waiting, held⟩ := knows j q member
        exact ⟨theirs, waiting, stays other held⟩

theorem interleave_safe {turns : List Nat} {plans : List (Plan α)} {pending : List (List Id)}
    (keeps : Register.Keeps I permitted) (fixed : ∀ r, I r → r.schedule? = schedules)
    (asks : ∀ (i : Nat) (p : Plan α), plans[i]? = some p →
      ∃ mine, pending[i]? = some mine ∧ p.Asks permitted (fun _ _ _ => True) schedules mine)
    (safe : s.Safe I ids last pending.flatten)
    (enough : (interleave (Service.world ids faults) turns plans s).2.minted ≤ last) :
    I (interleave (Service.world ids faults) turns plans s).2.store.register := by
  have unrelated : ([] ++ moments (Service.world ids faults) turns plans s).Pairwise fun _ _ => True :=
    List.pairwise_of_forall fun _ _ => True.intro
  refine interleave_holds (fun _ _ mine p => p.Asks permitted (fun _ _ _ => True) schedules mine) ?_
    (fun _ held => held) asks safe unrelated enough
  intro past i mine others p s asked safe enough _
  rw [← fixed _ safe.holds] at asked
  obtain ⟨left, remaining, safe⟩ := asked.step faults keeps safe enough
  rw [fixed _ safe.holds] at remaining
  exact ⟨left, remaining, safe⟩

end Plan

end Bookings
