import LanguageClient.Proofs.Client.Attendance

set_option autoImplicit false

namespace LanguageClient

open Client (Step)

/-- What an occurrence needs of those before it. A message that is handed over is what comes next in
the dialogue, and a result is one that the server has answered with. -/
def Occurrence.Warranted {α : Type} (start : Dialogue α) (before : History) : Occurrence → Prop
  | heard _ => True
  | handed message => ∃ turn rest value, turn.message? = some message ∧
      start.Yields (before.turns ++ turn :: rest) value
  | turned turn => ∀ request result, turn = .asked request (.ok result) →
      before.Answers request result

namespace Encounter

variable {α : Type}

def Attended (client : Client) (history : History) : Activity α → Prop
  | .saying _ | .telling _ _ => client.Settled
  | .asking request _ call => ∃ held, client.Attends history request call held

/-- An encounter that goes along a dialogue from its start. -/
structure Follows (start : Dialogue α) (encounter : Encounter α) : Prop where
  sound : encounter.client.Sound
  attended : Attended encounter.client encounter.history encounter.activity
  /-- What is still to be done completes the turns that were taken. -/
  course : ∀ rest value, encounter.activity.dialogue.Yields rest value →
    start.Yields (encounter.history.turns ++ rest) value
  /-- Of what is said, only what comes last may not be handed over. -/
  begun : encounter.history.handed <+: encounter.said
  complete : encounter.client.shutdown = none → encounter.history.handed = encounter.said
  warranted : Throughout (Occurrence.Warranted start) encounter.history

theorem follows_begin (handlers : Handlers) (start : Dialogue α) :
    (begin handlers start).Follows start where
  sound := ⟨.nil, List.forall_mem_nil _, fun _ => rfl⟩
  attended call id runs := by
    obtain ⟨held, made, -⟩ := runs
    cases made
  course _ _ yields := yields
  begun := List.prefix_refl _
  complete _ := rfl
  warranted := throughout_nil

theorem take_of_unstarted (encounter : Encounter α) (step : Step)
    (unstarted : step.started? = none) :
    encounter.take step = { encounter with client := (encounter.client.step step).1 } := by
  simp [take, Client.handed_step_of_unstarted unstarted]

theorem step_hear (encounter : Encounter α) (event : Event) :
    encounter.step (.hear event) = ⟨(encounter.client.step (.receive event)).1,
      encounter.activity, encounter.history ++ [.heard event]⟩ := by
  change (encounter.take (.receive event)).note _ = _
  rw [encounter.take_of_unstarted (.receive event) rfl]
  rfl

theorem step_eventsEnded (encounter : Encounter α) :
    encounter.step .eventsEnded =
      { encounter with client := (encounter.client.step .eventsEnded).1 } :=
  encounter.take_of_unstarted .eventsEnded rfl

theorem step_sent_of_asking {encounter : Encounter α} {request : Request}
    {next : Answer → Dialogue α} {call : Nat}
    (asking : encounter.activity = .asking request next call)
    (result : Except TransportError Unit) :
    encounter.step (.sent result) =
      { encounter with client := (encounter.client.step (.sent call result)).1 } := by
  have taken : encounter.step (.sent result) = encounter.take (.sent call result) := by
    simp only [step, asking]
  rw [taken, encounter.take_of_unstarted (.sent call result) rfl]

/-- What the client does by itself, and what it hears, leave the dialogue where it is. -/
theorem Follows.advance {start : Dialogue α} {encounter : Encounter α}
    (follows : encounter.Follows start) {step : Step} {news : History}
    (unstarted : step.started? = none) (undropped : ∀ call, step ≠ .drop call)
    (noted : ∀ response, step = .receive (.response response) →
      news = [.heard (.response response)])
    (heard : ∀ occurrence ∈ news, ∃ event, occurrence = .heard event) :
    Follows start
      ⟨(encounter.client.step step).1, encounter.activity, encounter.history ++ news⟩ := by
  have taken := encounter.client.transition_step step
  have unturned : History.turns news = [] := by
    refine List.filterMap_eq_nil_iff.mpr fun occurrence mem => ?_
    obtain ⟨event, rfl⟩ := heard occurrence mem
    rfl
  have unhanded : History.handed news = [] := by
    refine List.filterMap_eq_nil_iff.mpr fun occurrence mem => ?_
    obtain ⟨event, rfl⟩ := heard occurrence mem
    rfl
  have attended := follows.attended
  constructor
  · exact follows.sound.step step
  · cases activity : encounter.activity with
    | saying dialogue =>
      rw [activity] at attended
      exact attended.transition taken unstarted
    | telling notification next =>
      rw [activity] at attended
      exact attended.transition taken unstarted
    | asking request next call =>
      rw [activity] at attended
      obtain ⟨held, attends⟩ := attended
      exact ⟨_, attends.transition follows.sound taken unstarted (undropped call) noted⟩
  · simpa [unturned] using follows.course
  · simpa [said, unturned, unhanded] using follows.begun
  · intro up
    have before : encounter.client.shutdown = none :=
      (Option.or_eq_none_iff.mp (taken.shutdown.symm.trans up)).1
    simpa [said, unturned, unhanded] using follows.complete before
  · refine throughout_append_iff.mpr ⟨follows.warranted, ?_⟩
    rintro before occurrence after rfl
    obtain ⟨event, rfl⟩ := heard occurrence (by simp)
    trivial

theorem turns_finishTurn (encounter : Encounter α) (turn : Turn) (next : Dialogue α) :
    (encounter.finishTurn turn next).history.turns = encounter.history.turns ++ [turn] :=
  History.turns_append _ _

theorem handed_finishTurn (encounter : Encounter α) (turn : Turn) (next : Dialogue α) :
    (encounter.finishTurn turn next).history.handed = encounter.history.handed :=
  (History.handed_append _ _).trans (List.append_nil _)

theorem said_finishTurn (encounter : Encounter α) (turn : Turn) (next : Dialogue α) :
    (encounter.finishTurn turn next).said =
      Turn.messages encounter.history.turns ++ turn.message?.toList := by
  rw [said, turns_finishTurn, Turn.messages_append]
  refine (List.append_nil _).trans (congrArg _ ?_)
  cases turn <;> rfl

theorem said_of_message?_eq_none {encounter : Encounter α}
    (nothing : encounter.activity.message? = none) :
    encounter.said = Turn.messages encounter.history.turns := by
  rw [said, nothing, Option.toList_none, List.append_nil]

/-- A turn ends that was on the way, or that the client refused to begin, or that says nothing. -/
theorem Follows.finishTurn {start : Dialogue α} {encounter : Encounter α}
    (follows : encounter.Follows start) {turn : Turn} {next : Dialogue α}
    (settled : encounter.client.Settled)
    (leads : ∀ rest value, next.Yields rest value →
      encounter.activity.dialogue.Yields (turn :: rest) value)
    (warranted : Occurrence.Warranted start encounter.history (.turned turn))
    (due : encounter.activity.message? = turn.message? ∨
      encounter.activity.message? = none ∧ encounter.client.shutdown ≠ none) :
    (encounter.finishTurn turn next).Follows start where
  sound := follows.sound
  attended := settled
  course rest value yields := by
    rw [turns_finishTurn, List.append_assoc]
    exact follows.course _ _ (leads rest value yields)
  begun := by
    have before := follows.begun
    rw [handed_finishTurn, said_finishTurn]
    rcases due with same | ⟨nothing, -⟩
    · rwa [said, same] at before
    · rw [said_of_message?_eq_none nothing] at before
      exact before.trans (List.prefix_append _ _)
  complete up := by
    have before := follows.complete up
    rw [handed_finishTurn, said_finishTurn]
    rcases due with same | ⟨-, closed⟩
    · rwa [said, same] at before
    · exact absurd up closed
  warranted := by
    refine throughout_append_iff.mpr ⟨follows.warranted, ?_⟩
    simpa using warranted

theorem Follows.handOver {start : Dialogue α} {encounter : Encounter α}
    (follows : encounter.Follows start) (turn : Turn) (up : encounter.client.shutdown = none)
    (nothing : encounter.activity.message? = none) {client : Client} {activity : Activity α}
    {message : Message} {rest : List Turn} {value : α} (sound : client.Sound)
    (attended : Attended client (encounter.history ++ [.handed message]) activity)
    (same : activity.dialogue = encounter.activity.dialogue) (spoken : turn.message? = some message)
    (way : activity.message? = some message)
    (yields : activity.dialogue.Yields (turn :: rest) value) :
    Follows start ⟨client, activity, encounter.history ++ [.handed message]⟩ := by
  have turns : History.turns (encounter.history ++ [.handed message]) =
      encounter.history.turns := (History.turns_append _ _).trans (List.append_nil _)
  have all : History.handed (encounter.history ++ [.handed message]) =
      Turn.messages encounter.history.turns ++ [message] := by
    have before := follows.complete up
    rw [said_of_message?_eq_none nothing] at before
    rw [History.handed_append, before]
    rfl
  have course := follows.course
  rw [← same] at course
  refine ⟨sound, attended, ?_, ?_, ?_, throughout_append_iff.mpr ⟨follows.warranted, ?_⟩⟩
  · rwa [turns]
  · rw [said, all, turns, way]
    exact List.prefix_refl _
  · intro _
    rw [said, all, turns, way]
    rfl
  · simp only [throughout_cons_iff, throughout_nil, and_true, List.append_nil]
    exact ⟨turn, rest, value, spoken, course _ _ yields⟩

theorem Follows.notify {start : Dialogue α} {encounter : Encounter α}
    (follows : encounter.Follows start) {notification : Notification}
    {next : Except TransportError Unit → Dialogue α}
    (saying : encounter.activity = .saying (.notify notification next)) :
    (encounter.say (.notify notification next)).Follows start := by
  have settled := follows.attended
  rw [saying] at settled
  have dialogue : encounter.activity.dialogue = .notify notification next := by rw [saying]; rfl
  have nothing : encounter.activity.message? = none := by rw [saying]; rfl
  cases recorded : encounter.client.shutdown with
  | some error =>
    simp only [say, Client.notify, recorded]
    refine follows.finishTurn settled ?_ ?_ (.inr ⟨nothing, ?_⟩)
    · rw [dialogue]
      exact fun rest value yields => .notify yields
    · intro request result same
      cases same
    · rw [recorded]
      exact Option.some_ne_none error
  | none =>
    simp only [say, Client.notify, recorded]
    obtain ⟨rest, value, yields⟩ := (next (.ok ())).exists_yields
    exact follows.handOver (.told notification (.ok ())) recorded nothing follows.sound settled
      dialogue.symm rfl rfl (.notify yields)

theorem Follows.record {start : Dialogue α} {encounter : Encounter α}
    (follows : encounter.Follows start) {record : Log.Record} {next : Dialogue α}
    (saying : encounter.activity = .saying (.record record next)) :
    (encounter.say (.record record next)).Follows start := by
  obtain ⟨client, activity, history⟩ := encounter
  cases saying
  exact ⟨follows.sound, follows.attended,
    fun rest value yields => follows.course rest value (.record yields), follows.begun,
    follows.complete, follows.warranted⟩

theorem Follows.print {start : Dialogue α} {encounter : Encounter α}
    (follows : encounter.Follows start) {text : String} {next : Dialogue α}
    (saying : encounter.activity = .saying (.print text next)) :
    (encounter.say (.print text next)).Follows start := by
  have settled := follows.attended
  rw [saying] at settled
  have dialogue : encounter.activity.dialogue = .print text next := by rw [saying]; rfl
  have nothing : encounter.activity.message? = none := by rw [saying]; rfl
  refine follows.finishTurn settled ?_ ?_ (.inl nothing)
  · rw [dialogue]
    exact fun rest value yields => .print yields
  · intro request result same
    cases same

theorem Follows.request {start : Dialogue α} {encounter : Encounter α}
    (follows : encounter.Follows start) {request : Request} {next : Answer → Dialogue α}
    (saying : encounter.activity = .saying (.request request next)) :
    (encounter.say (.request request next)).Follows start := by
  have settled := follows.attended
  rw [saying] at settled
  have dialogue : encounter.activity.dialogue = .request request next := by rw [saying]; rfl
  have nothing : encounter.activity.message? = none := by rw [saying]; rfl
  have taken := encounter.client.transition_step (.start request)
  have sound := follows.sound.step (.start request)
  cases recorded : encounter.client.shutdown with
  | some error =>
    have unhanded : (encounter.client.step (.start request)).2 = [] := by
      rw [Client.step_start, Client.start_of_closed recorded]
    have closed : (encounter.client.step (.start request)).1.shutdown = some error := by
      rw [taken.shutdown, recorded, Option.some_or]
    have begun := follows.begun
    rw [said_of_message?_eq_none nothing] at begun
    simp only [say, take, unhanded, List.filterMap_nil, List.map_nil, List.append_nil]
    refine ⟨sound, ⟨_, settled.attends_start follows.sound taken ?_⟩, ?_, ?_, ?_,
      follows.warranted⟩
    · intro up
      rw [recorded] at up
      cases up
    · have course := follows.course
      rwa [dialogue] at course
    · exact begun.trans (List.prefix_append _ _)
    · intro up
      rw [closed] at up
      cases up
  | none =>
    have accepted : encounter.client.refusal? request.id = none := by
      rw [settled.refusal? follows.sound, recorded, Option.map_none]
    have handed : (encounter.client.step (.start request)).2.filterMap Client.Effect.handed? =
        [.request request] := Client.handed_start_of_accepted accepted
    simp only [say, take, handed, List.map_cons, List.map_nil]
    obtain ⟨rest, value, yields⟩ := (next (.ok .null)).exists_yields
    have attends := settled.attends_start follows.sound taken fun _ =>
      List.mem_append_right encounter.history
        (List.mem_singleton_self (Occurrence.handed (.request request)))
    exact follows.handOver (.asked request (.ok .null)) recorded nothing sound ⟨_, attends⟩
      dialogue.symm rfl rfl (.request yields)

theorem Follows.look {start : Dialogue α} {encounter : Encounter α}
    (follows : encounter.Follows start) {request : Request} {next : Answer → Dialogue α}
    {call : Nat} (asking : encounter.activity = .asking request next call) :
    (encounter.look request next call).Follows start := by
  have quiet := encounter.take_of_unstarted (.resume call) rfl
  have resumed : (encounter.take (.resume call)).Follows start := by
    rw [quiet]
    simpa using follows.advance (show (Step.resume call).started? = none from rfl)
      (fun _ => Step.noConfusion) (fun _ => Step.noConfusion) (List.forall_mem_nil _)
  have still : (encounter.take (.resume call)).activity = .asking request next call := by
    rw [quiet]
    exact asking
  unfold Encounter.look
  dsimp only
  split
  · rename_i answer returned
    have attended := resumed.attended
    rw [still] at attended
    obtain ⟨held, attends⟩ := attended
    have ended := attends.serves.answer?_eq_some_iff.mp returned
    refine resumed.finishTurn (attends.settled ended) ?_ ?_ (.inl ?_)
    · rw [still]
      exact fun rest value yields => .request yields
    · intro other result same
      cases same
      exact attends.answered result (.inr ended)
    · rw [still]
      rfl
  · exact resumed

/-- Every move keeps to the dialogue. -/
theorem Follows.step {start : Dialogue α} {encounter : Encounter α}
    (follows : encounter.Follows start) (move : Move) : (encounter.step move).Follows start := by
  have quiet {step : Step} (unstarted : step.started? = none)
      (undropped : ∀ call, step ≠ .drop call) (deaf : ∀ event, step ≠ .receive event) :
      Follows start { encounter with client := (encounter.client.step step).1 } := by
    simpa using follows.advance unstarted undropped
      (fun response same => absurd same (deaf _)) (List.forall_mem_nil _)
  cases move with
  | hear event =>
    rw [step_hear]
    refine follows.advance rfl (fun _ => Step.noConfusion) ?_ ?_
    · intro response same
      cases same
      rfl
    · intro occurrence mem
      exact ⟨event, List.mem_singleton.mp mem⟩
  | eventsEnded =>
    rw [step_eventsEnded]
    exact quiet rfl (fun _ => Step.noConfusion) fun _ => Step.noConfusion
  | sent result =>
    cases activity : encounter.activity with
    | saying dialogue => simpa only [Encounter.step, activity] using follows
    | telling notification next =>
      simp only [Encounter.step, activity]
      have settled := follows.attended
      rw [activity] at settled
      refine follows.finishTurn settled ?_ ?_ (.inl ?_)
      · rw [activity]
        exact fun rest value yields => .notify yields
      · intro request answer same
        cases same
      · rw [activity]
        rfl
    | asking request next call =>
      rw [step_sent_of_asking activity]
      exact quiet rfl (fun _ => Step.noConfusion) fun _ => Step.noConfusion
  | proceed =>
    cases activity : encounter.activity with
    | saying dialogue =>
      simp only [Encounter.step, activity]
      cases dialogue with
      | finish value => exact follows
      | record record next => exact follows.record activity
      | print text next => exact follows.print activity
      | notify notification next => exact follows.notify activity
      | request request next => exact follows.request activity
    | telling notification next => simpa only [Encounter.step, activity] using follows
    | asking request next call =>
      simp only [Encounter.step, activity]
      exact follows.look activity

theorem Follows.run {start : Dialogue α} {encounter : Encounter α}
    (follows : encounter.Follows start) (moves : List Move) :
    (encounter.run moves).Follows start := by
  induction moves generalizing encounter with
  | nil => exact follows
  | cons move rest ih => exact ih (follows.step move)

theorem Follows.exists_course {start : Dialogue α} {encounter : Encounter α}
    (follows : encounter.Follows start) :
    ∃ turns value, start.Yields turns value ∧
      encounter.history.handed <+: Turn.messages turns := by
  obtain ⟨rest, value, yields⟩ := encounter.activity.dialogue.exists_yields
  refine ⟨_, value, follows.course rest value yields, follows.begun.trans ?_⟩
  rw [said, Turn.messages_append, List.prefix_append_right_inj]
  cases activity : encounter.activity with
  | saying dialogue => exact List.nil_prefix
  | telling notification next =>
    rw [activity] at yields
    obtain ⟨result, later, rfl, -⟩ := Dialogue.yields_notify_iff.mp yields
    exact List.prefix_append [_] _
  | asking request next call =>
    rw [activity] at yields
    obtain ⟨answer, later, rfl, -⟩ := Dialogue.yields_request_iff.mp yields
    exact List.prefix_append [_] _

theorem Follows.yields_of_finished {start : Dialogue α} {encounter : Encounter α}
    (follows : encounter.Follows start) {value : α}
    (finished : encounter.activity = .saying (.finish value)) :
    start.Yields encounter.history.turns value := by
  have course := follows.course [] value
  rw [finished, List.append_nil] at course
  exact course (.finish value)

/-- A message is handed over when the turns before it lead to it. -/
theorem Follows.exists_course_of_handed {start : Dialogue α} {encounter : Encounter α}
    (follows : encounter.Follows start) {before after : History} {message : Message}
    (split : encounter.history = before ++ .handed message :: after) :
    ∃ turn rest value, turn.message? = some message ∧
      start.Yields (before.turns ++ turn :: rest) value :=
  follows.warranted before _ after split

theorem Follows.answers_of_mem {start : Dialogue α} {encounter : Encounter α}
    (follows : encounter.Follows start) {before after : History}
    (split : encounter.history = before ++ after) {request : Request} {result : Json}
    (seen : .asked request (.ok result) ∈ before.turns) : before.Answers request result := by
  obtain ⟨occurrence, mem, turned⟩ := List.mem_filterMap.mp seen
  cases occurrence with
  | heard event => cases turned
  | handed message => cases turned
  | turned turn =>
    cases turned
    obtain ⟨earlier, later, rfl⟩ := List.append_of_mem mem
    have answered := follows.warranted earlier _ (later ++ after)
      (by rw [split, List.append_assoc, List.cons_append])
    exact (answered request result rfl).append _

/-! ### The end of an encounter -/

theorem run_append (encounter : Encounter α) (moves more : List Move) :
    encounter.run (moves ++ more) = (encounter.run moves).run more := List.foldl_append

/-- A call has its answer when its message is sent and the events have ended. -/
theorem Follows.exists_answer {start : Dialogue α} {encounter : Encounter α}
    (follows : encounter.Follows start) {request : Request} {next : Answer → Dialogue α}
    {call : Nat} (asking : encounter.activity = .asking request next call) :
    ∃ answer, (encounter.run [.sent (.ok ()), .eventsEnded, .proceed]).activity =
      .saying (next answer) := by
  have attended := follows.attended
  rw [asking] at attended
  obtain ⟨held, attends⟩ := attended
  let sent := (encounter.client.step (.sent call (.ok ()))).1
  let ended := (sent.step .eventsEnded).1
  have sentSound : sent.Sound := follows.sound.step _
  have sound : ended.Sound := sentSound.step _
  have serves := (attends.serves.transition follows.sound
    (encounter.client.transition_step (.sent call (.ok ())))).transition sentSound
    (sent.transition_step .eventsEnded)
  have kept : ((held.next call (.sent call (.ok ()))).next call .eventsEnded).stage ≠ .dropped :=
    RequestCall.stage_next_ne_dropped (RequestCall.stage_next_ne_dropped attends.kept
      Step.noConfusion) Step.noConfusion
  have unsent : ((held.next call (.sent call (.ok ()))).next call .eventsEnded).stage ≠
      .sending := by
    rw [RequestCall.stage_next_eventsEnded]
    exact RequestCall.stage_next_sent_ne_sending held call
  have closed : ended.shutdown ≠ none := by
    rw [(sent.transition_step .eventsEnded).shutdown]
    cases sent.shutdown <;> exact Option.some_ne_none _
  obtain ⟨answer, returned⟩ := serves.exists_returned kept unsent (sound.drained closed)
  have resumed := serves.transition sound (ended.transition_step (.resume call))
  have found := resumed.answer?_eq_some_iff.mpr returned
  refine ⟨answer, ?_⟩
  simp only [Encounter.run, List.foldl_cons, List.foldl_nil]
  rw [step_sent_of_asking asking, step_eventsEnded]
  simp only [Encounter.step, asking, Encounter.look, take_of_unstarted _ (.resume call) rfl]
  rw [found]
  rfl

theorem exists_finish_of_run {encounter : Encounter α} (moves : List Move)
    (finishes : ∃ more value, ((encounter.run moves).run more).activity =
      .saying (.finish value)) :
    ∃ moves value, (encounter.run moves).activity = .saying (.finish value) := by
  obtain ⟨more, value, finished⟩ := finishes
  exact ⟨moves ++ more, value, by rw [run_append, finished]⟩

theorem Follows.exists_finish_of_saying {start dialogue : Dialogue α} {encounter : Encounter α}
    (follows : encounter.Follows start) (saying : encounter.activity = .saying dialogue) :
    ∃ moves value, (encounter.run moves).activity = .saying (.finish value) := by
  induction dialogue generalizing encounter with
  | finish value => exact ⟨[], value, saying⟩
  | record record next ih =>
    refine exists_finish_of_run [.proceed] (ih (follows.run _) ?_)
    change (encounter.step .proceed).activity = _
    simp only [Encounter.step, saying, say]
  | print text next ih =>
    refine exists_finish_of_run [.proceed] (ih (follows.run _) ?_)
    change (encounter.step .proceed).activity = _
    simp only [Encounter.step, saying, say]
    rfl
  | notify notification next ih =>
    cases recorded : encounter.client.shutdown with
    | some error =>
      refine exists_finish_of_run [.proceed] (ih (.error error) (follows.run _) ?_)
      change (encounter.step .proceed).activity = _
      simp only [Encounter.step, saying, say, Client.notify, recorded]
      rfl
    | none =>
      refine exists_finish_of_run [.proceed, .sent (.ok ())] (ih (.ok ()) (follows.run _) ?_)
      change ((encounter.step .proceed).step (.sent (.ok ()))).activity = _
      simp only [Encounter.step, saying, say, Client.notify, recorded]
      rfl
  | request request next ih =>
    have asking : (encounter.run [.proceed]).activity =
        .asking request next encounter.client.calls.length := by
      change (encounter.step .proceed).activity = _
      simp only [Encounter.step, saying, say]
    obtain ⟨answer, answered⟩ := (follows.run [.proceed]).exists_answer asking
    rw [← run_append] at answered
    exact exists_finish_of_run _ (ih answer (follows.run _) answered)

/-- Wherever an encounter stands, it can come to an end. -/
theorem Follows.exists_finish {start : Dialogue α} {encounter : Encounter α}
    (follows : encounter.Follows start) :
    ∃ moves value, (encounter.run moves).activity = .saying (.finish value) := by
  cases activity : encounter.activity with
  | saying dialogue => exact follows.exists_finish_of_saying activity
  | telling notification next =>
    have told : (encounter.run [.sent (.ok ())]).activity = .saying (next (.ok ())) := by
      change (encounter.step (.sent (.ok ()))).activity = _
      simp only [Encounter.step, activity]
      rfl
    exact exists_finish_of_run _ ((follows.run _).exists_finish_of_saying told)
  | asking request next call =>
    obtain ⟨answer, answered⟩ := follows.exists_answer activity
    exact exists_finish_of_run _ ((follows.run _).exists_finish_of_saying answered)

end Encounter

end LanguageClient
