import LanguageClient.Proofs.Client.Transition

set_option autoImplicit false

/-!
One call by itself. What a call sees of the steps of its client are the end of its send, its own
resumptions, that it is given up, and what resolves its id; when it returns, and what, follows from
these alone.
-/

namespace LanguageClient

open Client (Step)

namespace Slot

def hear (slot : Slot) (answer? : Option Answer) : Slot :=
  match slot, answer? with
  | .empty, some answer => .filled answer
  | slot, _ => slot

def shut : Slot → Slot
  | .empty => .abandoned
  | slot => slot

def settled? (slot : Slot) (id : Id) (steps : List Step) : Option Answer :=
  match slot with
  | .empty => steps.findSome? (Step.resolution? id)
  | .filled answer => some answer
  | .abandoned => none

@[simp] theorem hear_none (slot : Slot) : slot.hear none = slot := by cases slot <;> rfl

theorem settled?_hear (slot : Slot) (id : Id) (step : Step) (rest : List Step) :
    (slot.hear (step.resolution? id)).settled? id rest = slot.settled? id (step :: rest) := by
  cases slot with
  | empty =>
    cases resolved : step.resolution? id with
    | none => simp [hear, settled?, resolved]
    | some answer => simp [hear, settled?, resolved]
  | filled answer => rfl
  | abandoned => rfl

end Slot

namespace RequestCall

/-- What a step makes of a call with a number, if no other call has its id. -/
def next (held : RequestCall) (call : Nat) : Step → RequestCall
  | .sent which result =>
    if which = call ∧ held.stage = .sending then
      match result with
      | .ok () => { held with stage := .waiting }
      | .error error => ⟨held.id, .returned (.error (.transport error)), held.slot.shut⟩
    else held
  | .resume which =>
    match held.slot with
    | .filled answer =>
      if which = call ∧ held.stage = .waiting then { held with stage := .returned answer } else held
    | _ => held
  | .drop which =>
    if which = call ∧ held.stage.isOpen then ⟨held.id, .dropped, held.slot.shut⟩ else held
  | step =>
    if held.stage.isOpen then { held with slot := held.slot.hear (step.resolution? held.id) }
    else held

def run (held : RequestCall) (call : Nat) (steps : List Step) : RequestCall :=
  steps.foldl (fun held step => held.next call step) held

@[simp] theorem run_nil (held : RequestCall) (call : Nat) : held.run call [] = held := rfl

@[simp] theorem run_cons (held : RequestCall) (call : Nat) (step : Step) (rest : List Step) :
    held.run call (step :: rest) = (held.next call step).run call rest := rfl

@[simp] theorem id_next (held : RequestCall) (call : Nat) (step : Step) :
    (held.next call step).id = held.id := by
  cases step <;> simp only [next] <;> repeat' split
  all_goals rfl

/-- A call that has returned or was given up stays as it is. -/
theorem next_of_closed {held : RequestCall} (closed : held.stage.isOpen = false) (call : Nat)
    (step : Step) : held.next call step = held := by
  have unsent : held.stage ≠ .sending := by
    intro sending
    rw [sending] at closed
    cases closed
  have unawaited : held.stage ≠ .waiting := by
    intro waiting
    rw [waiting] at closed
    cases closed
  cases step with
  | sent which result => simp only [next, unsent, and_false, if_false]
  | resume which =>
    simp only [next, unawaited, and_false, if_false]
    split <;> rfl
  | drop which => simp only [next, closed, Bool.false_eq_true, and_false, if_false]
  | start request => simp only [next, closed, Bool.false_eq_true, if_false]
  | receive event => simp only [next, closed, Bool.false_eq_true, if_false]
  | eventsEnded => simp only [next, closed, Bool.false_eq_true, if_false]
  | setHandler handler name => simp only [next, closed, Bool.false_eq_true, if_false]

theorem run_of_closed {held : RequestCall} (closed : held.stage.isOpen = false) (call : Nat)
    (steps : List Step) : held.run call steps = held := by
  induction steps with
  | nil => rfl
  | cons step rest ih => rw [run_cons, next_of_closed closed, ih]

@[simp] theorem run_returned (id : Id) (answer : Answer) (slot : Slot) (call : Nat)
    (steps : List Step) :
    run ⟨id, .returned answer, slot⟩ call steps = ⟨id, .returned answer, slot⟩ :=
  run_of_closed rfl call steps

@[simp] theorem run_dropped (id : Id) (slot : Slot) (call : Nat) (steps : List Step) :
    run ⟨id, .dropped, slot⟩ call steps = ⟨id, .dropped, slot⟩ :=
  run_of_closed rfl call steps

/-- A step that is none of the call's own lets it at most hear an answer. -/
theorem next_of_foreign {held : RequestCall} (running : held.stage.isOpen = true) {call : Nat}
    {step : Step} (unsent : ∀ result, step = .sent call result → held.stage ≠ .sending)
    (unresumed : step = .resume call → held.stage ≠ .waiting) (kept : step ≠ .drop call) :
    held.next call step = { held with slot := held.slot.hear (step.resolution? held.id) } := by
  cases step with
  | sent which result =>
    have other : ¬ (which = call ∧ held.stage = .sending) := by
      intro own
      obtain ⟨rfl, sending⟩ := own
      exact unsent result rfl sending
    simp only [next, other, if_false, Step.resolution?, Step.shutdown?, Option.map_none,
      Slot.hear_none]
  | resume which =>
    have other : ¬ (which = call ∧ held.stage = .waiting) := by
      intro own
      obtain ⟨rfl, waiting⟩ := own
      exact unresumed rfl waiting
    simp only [next, other, if_false, Step.resolution?, Step.shutdown?, Option.map_none,
      Slot.hear_none]
    split <;> rfl
  | drop which =>
    have other : which ≠ call := fun same => kept (by rw [same])
    simp only [next, other, false_and, if_false, Step.resolution?, Step.shutdown?, Option.map_none,
      Slot.hear_none]
  | start request => simp only [next, running, if_true]
  | receive event => simp only [next, running, if_true]
  | eventsEnded => simp only [next, running, if_true]
  | setHandler handler name => simp only [next, running, if_true]

theorem next_eq_self {held : RequestCall} {call : Nat} {step : Step}
    (unsent : ∀ result, step = .sent call result → held.stage ≠ .sending)
    (unanswered : step = .resume call → held.stage = .waiting →
      ∀ answer, held.slot ≠ .filled answer)
    (kept : step = .drop call → held.stage.isOpen = false)
    (deaf : held.stage.isOpen = true → held.slot.hear (step.resolution? held.id) = held.slot) :
    held.next call step = held := by
  cases running : held.stage.isOpen with
  | false => exact next_of_closed running call step
  | true =>
    by_cases resumed : step = .resume call ∧ held.stage = .waiting
    · obtain ⟨rfl, waiting⟩ := resumed
      have unfilled := unanswered rfl waiting
      simp only [next]
    · have spared : step ≠ .drop call := by
        intro dropped
        rw [kept dropped] at running
        cases running
      rw [next_of_foreign running unsent (fun same waiting => resumed ⟨same, waiting⟩) spared,
        deaf running]

@[simp] theorem next_start (held : RequestCall) (call : Nat) (request : Request) :
    held.next call (.start request) = held :=
  next_eq_self nofun nofun nofun fun _ => Slot.hear_none _

theorem next_receive_of_deaf {held : RequestCall} {call : Nat} {event : Event}
    (deaf : held.stage.isOpen = true →
      held.slot.hear (Step.resolution? held.id (.receive event)) = held.slot) :
    held.next call (.receive event) = held :=
  next_eq_self nofun nofun nofun deaf

theorem next_resume_of_ne {held : RequestCall} {call which : Nat} (other : which ≠ call) :
    held.next call (.resume which) = held :=
  next_eq_self nofun (fun same => absurd (Step.resume.inj same) other) nofun fun _ =>
    Slot.hear_none _

theorem next_of_shutdown? {held : RequestCall} {call : Nat} {step : Step} {error : TransportError}
    (closing : step.shutdown? = some error) :
    held.next call step =
      if held.stage.isOpen then
        { held with slot := held.slot.hear (some (.error (.transport error))) }
      else held := by
  rw [← Step.resolution?_of_shutdown? closing held.id]
  cases step with
  | receive event => rfl
  | eventsEnded => rfl
  | start request => cases closing
  | sent which result => cases closing
  | resume which => cases closing
  | drop which => cases closing
  | setHandler handler name => cases closing

/-- A call that still runs after a step has heard what the step resolves its id with. -/
theorem slot_next {held : RequestCall} {call : Nat} {step : Step}
    (running : (held.next call step).stage.isOpen = true) :
    held.stage.isOpen = true ∧
      (held.next call step).slot = held.slot.hear (step.resolution? held.id) := by
  have before : held.stage.isOpen = true := by
    cases ended : held.stage.isOpen with
    | true => rfl
    | false => rw [next_of_closed ended, ended] at running; cases running
  refine ⟨before, ?_⟩
  cases step with
  | sent which result =>
    simp only [next] at running ⊢
    split at running
    · rename_i own
      cases result with
      | ok =>
        rw [if_pos own]
        exact (Slot.hear_none _).symm
      | error error => cases running
    · rename_i other
      rw [if_neg other]
      exact (Slot.hear_none _).symm
  | resume which =>
    simp only [next] at running ⊢
    split
    · split
      · simp only [*] at running
        cases running
      · exact (Slot.hear_none _).symm
    · exact (Slot.hear_none _).symm
  | drop which =>
    simp only [next] at running ⊢
    split at running
    · cases running
    · rename_i other
      rw [if_neg other]
      exact (Slot.hear_none _).symm
  | start request => simp only [next, before, if_true]
  | receive event => simp only [next, before, if_true]
  | eventsEnded => simp only [next, before, if_true]
  | setHandler handler name => simp only [next, before, if_true]

theorem slot_run_of_deaf {held : RequestCall} {call : Nat} {steps : List Step}
    (deaf : ∀ step ∈ steps, step.resolution? held.id = none)
    (running : (held.run call steps).stage.isOpen = true) :
    (held.run call steps).slot = held.slot := by
  induction steps generalizing held with
  | nil => rfl
  | cons step rest ih =>
    rw [run_cons] at running ⊢
    have still : (held.next call step).stage.isOpen = true := by
      cases ended : (held.next call step).stage.isOpen with
      | true => rfl
      | false => rw [run_of_closed ended, ended] at running; cases running
    obtain ⟨now, later⟩ := List.forall_mem_cons.mp deaf
    have kept := (slot_next still).2
    rw [now, Slot.hear_none] at kept
    rw [ih (by rw [id_next]; exact later) running, kept]

/-! ### Returning -/

theorem exists_cut_cons {α : Type} {first : α} {rest : List α}
    {holds : List α → α → List α → Prop} :
    (∃ before value after, first :: rest = before ++ value :: after ∧ holds before value after) ↔
      holds [] first rest ∨
        ∃ before value after, rest = before ++ value :: after ∧
          holds (first :: before) value after := by
  constructor
  · intro cut
    obtain ⟨before, value, after, split, kept⟩ := cut
    cases before with
    | nil =>
      obtain ⟨rfl, rfl⟩ := List.cons.inj split
      exact .inl kept
    | cons head before =>
      obtain ⟨rfl, later⟩ := List.cons.inj split
      exact .inr ⟨before, value, after, later, kept⟩
  · intro either
    rcases either with kept | ⟨before, value, after, rfl, kept⟩
    · exact ⟨[], first, rest, rfl, kept⟩
    · exact ⟨first :: before, value, after, rfl, kept⟩

theorem run_waiting_iff (id : Id) (slot : Slot) (call : Nat) (steps : List Step) (answer : Answer) :
    (run ⟨id, .waiting, slot⟩ call steps).stage = .returned answer ↔
      ∃ waiting step later, steps = waiting ++ step :: later ∧
        (step = .resume call ∧ .drop call ∉ waiting ∧ slot.settled? id waiting = some answer) := by
  induction steps generalizing slot with
  | nil => simp
  | cons first rest ih =>
    rw [run_cons, exists_cut_cons]
    by_cases resumed : first = .resume call
    · subst resumed
      have kept (before : List Step) :
          Step.drop call ∉ .resume call :: before ↔ .drop call ∉ before := by simp
      cases slot with
      | filled found =>
        simp only [next, and_self, if_true, run_returned, Stage.returned.injEq, Slot.settled?,
          Option.some.injEq, List.not_mem_nil, not_false_eq_true, true_and]
        constructor
        · exact .inl
        · rintro (same | ⟨_, _, _, _, _, _, same⟩) <;> exact same
      | empty =>
        simp only [next, ih, kept, ← Slot.settled?_hear]
        simp only [Slot.settled?, List.findSome?_nil, Step.resolution?, Step.shutdown?,
          Option.map_none, Slot.hear, reduceCtorEq, and_false, false_or]
      | abandoned =>
        simp only [next, ih, kept]
        simp only [Slot.settled?, reduceCtorEq, and_false, false_or]
    · by_cases dropped : first = .drop call
      · subst dropped
        simp only [next, Stage.isOpen, and_self, if_true, run_dropped, reduceCtorEq, false_and,
          List.mem_cons, true_or, not_true, and_false, exists_false, or_self]
      · have kept (before : List Step) :
            Step.drop call ∉ first :: before ↔ .drop call ∉ before := by
          simp [Ne.symm dropped]
        have heard : next ⟨id, .waiting, slot⟩ call first =
            ⟨id, .waiting, slot.hear (first.resolution? id)⟩ :=
          next_of_foreign rfl (fun _ _ sending => Stage.noConfusion sending)
            (fun same => absurd same resumed) dropped
        rw [heard, ih]
        simp only [kept, resumed, false_and, false_or, Slot.settled?_hear]

/-- A sending call returns what its send fails with, or goes on to wait, and finds as well what
has come before its send was done. -/
theorem run_sending_iff (id : Id) (slot : Slot) (call : Nat) (steps : List Step) (answer : Answer) :
    (run ⟨id, .sending, slot⟩ call steps).stage = .returned answer ↔
      ∃ sending step rest, steps = sending ++ step :: rest ∧
        ((∀ result, .sent call result ∉ sending) ∧ .drop call ∉ sending ∧
          ((∃ error, step = .sent call (.error error) ∧ answer = .error (.transport error)) ∨
            (step = .sent call (.ok ()) ∧
              ∃ waiting step later, rest = waiting ++ step :: later ∧
                (step = .resume call ∧ .drop call ∉ waiting ∧
                  slot.settled? id (sending ++ waiting) = some answer)))) := by
  induction steps generalizing slot with
  | nil => simp
  | cons first rest ih =>
    rw [run_cons, exists_cut_cons]
    by_cases done : ∃ result, first = .sent call result
    · obtain ⟨result, rfl⟩ := done
      have past (before : List Step) :
          ¬ ∀ other, Step.sent call other ∉ Step.sent call result :: before :=
        fun none => none result (List.mem_cons_self ..)
      simp only [past, false_and, and_false, exists_false, or_false, List.not_mem_nil,
        not_false_eq_true, implies_true, true_and, List.nil_append]
      cases result with
      | error error =>
        simp only [next, and_self, if_true, run_returned, Stage.returned.injEq, Step.sent.injEq,
          true_and, Except.error.injEq, reduceCtorEq, false_and, or_false]
        constructor
        · intro same
          subst same
          exact ⟨error, rfl, rfl⟩
        · intro failed
          obtain ⟨_, rfl, rfl⟩ := failed
          rfl
      | ok =>
        simp only [next, and_self, if_true, run_waiting_iff, Step.sent.injEq, true_and,
          reduceCtorEq, false_and, exists_false, false_or]
    · have unsent : ∀ result, first ≠ .sent call result := fun result same => done ⟨result, same⟩
      by_cases dropped : first = .drop call
      · subst dropped
        simp [next, Stage.isOpen]
      · have kept (before : List Step) :
            Step.drop call ∉ first :: before ↔ .drop call ∉ before := by
          simp [Ne.symm dropped]
        have still (before : List Step) :
            (∀ result, Step.sent call result ∉ first :: before) ↔
              ∀ result, .sent call result ∉ before := by
          simp [fun result => Ne.symm (unsent result)]
        have heard : next ⟨id, .sending, slot⟩ call first =
            ⟨id, .sending, slot.hear (first.resolution? id)⟩ :=
          next_of_foreign rfl (fun result same => absurd same (unsent result)) (fun _ => nofun)
            dropped
        rw [heard, ih]
        simp only [kept, still, unsent, false_and, exists_false, or_self, and_false, false_or,
          Slot.settled?_hear, List.cons_append]

end RequestCall

end LanguageClient
