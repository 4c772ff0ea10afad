import LanguageClient.Proofs.Client.Resolution
import LanguageClient.Proofs.Connection.Reading

set_option autoImplicit false

/-!
From the bytes of a server to the answers of its client. A call that waits while the output of the
server is read returns the first response with its id, and the end of the stream if there is none.
-/

namespace LanguageClient

/-- What a segment answers to a request that is pending under an id. -/
def Segment.answer? (id : Id) (segment : Segment) : Option Answer :=
  match segment.message? with
  | some (.response response) =>
    if response.id = some id then some (response.result.mapError .server) else none
  | _ => none

/-- What a request comes to that is pending while a stream of segments is read to its end. -/
def Segment.outcome (id : Id) (segments : List Segment) (ending : Ending) : Answer :=
  (segments.findSome? (Segment.answer? id)).getD (.error (.transport ending.error))

namespace Client

def Step.isHeard : Step → Bool
  | .receive _ | .eventsEnded => true
  | _ => false

theorem Step.resolution?_of_unheard {step : Step} (unheard : step.isHeard = false) (id : Id) :
    step.resolution? id = none := by
  cases step with
  | receive event => cases unheard
  | eventsEnded => cases unheard
  | start request => rfl
  | sent call result => rfl
  | resume call => rfl
  | drop call => rfl
  | setHandler handler name => rfl

theorem findSome?_resolution?_filter (id : Id) (steps : List Step) :
    (steps.filter Step.isHeard).findSome? (Step.resolution? id) =
      steps.findSome? (Step.resolution? id) := by
  induction steps with
  | nil => rfl
  | cons step rest ih =>
    cases news : step.isHeard with
    | true => rw [List.filter_cons_of_pos news, List.findSome?_cons, List.findSome?_cons, ih]
    | false =>
      have unresolved := Step.resolution?_of_unheard news id
      rw [List.filter_cons_of_neg (by simp [news]), ih, List.findSome?_cons, unresolved]

theorem findSome?_resolution?_events (id : Id) (segment : Segment) :
    (segment.events.map Step.receive).findSome? (Step.resolution? id) = segment.answer? id := by
  unfold Segment.events Segment.answer?
  cases segment.message? with
  | none => rfl
  | some message =>
    cases message with
    | response response =>
      simp only [Emission.ofMessage, Emission.ofEvent, List.map_cons, List.map_nil,
        List.findSome?_cons, Step.resolution?, List.findSome?_nil]
      split <;> simp_all
    | notification notification => rfl
    | request request => rfl

/-- What a stream of segments resolves a request with: their first answer, or else its end. -/
theorem findSome?_resolution?_stream (id : Id) (segments : List Segment) (ending : Ending) :
    ((segments.flatMap Segment.events ++ [Event.closed ending.error]).map Step.receive).findSome?
        (Step.resolution? id) =
      some (Segment.outcome id segments ending) := by
  induction segments with
  | nil => rfl
  | cons segment rest ih =>
    rw [List.flatMap_cons, List.append_assoc, List.map_append, List.findSome?_append,
      findSome?_resolution?_events, ih, Segment.outcome, Segment.outcome, List.findSome?_cons]
    cases segment.answer? id <;> rfl

theorem follows_waiting {opening : List Step} {call : Nat} {held : RequestCall}
    (distinct : (opening.filterMap Step.started?).Nodup)
    (unheard : ∀ step ∈ opening, step.isHeard = false)
    (made : (run {} opening).1.calls[call]? = some held) (waiting : held.stage = .waiting) :
    (run {} opening).1.Follows call ⟨held.id, .waiting, .empty⟩ := by
  obtain ⟨before, request, after, rfl, rfl⟩ := exists_start_of_made made
  have follows := follows_run distinct
  have same := follows.made.symm.trans made
  rw [Option.some.injEq] at same
  have deaf : ∀ step ∈ after, step.resolution? request.id = none := by
    intro step mem
    exact Step.resolution?_of_unheard
      (unheard step (List.mem_append_right _ (List.mem_cons_of_mem _ mem))) _
  have empty : held.slot = .empty := by
    rw [← same]
    refine RequestCall.slot_run_of_deaf deaf ?_
    rw [same, waiting]
    rfl
  have record : held = ⟨held.id, .waiting, .empty⟩ := by rw [← waiting, ← empty]
  rw [same, record] at follows
  exact follows

/-- Calls wait under ids of their own, and a client reads a stream of whole segments to its end.
However the stream is cut into reads and whatever the calls do while it is read, a call that is not
given up returns nothing but the first answer to its id, or the end of the stream if there is none;
and it returns this when it is resumed after the end. -/
theorem answer?_of_reads {opening later : List Step} {segments : List Segment}
    {reads : List Bytes} (distinct : ((opening ++ later).filterMap Step.started?).Nodup)
    (unheard : ∀ step ∈ opening, step.isHeard = false)
    (whole : ∀ segment ∈ segments, segment.Whole)
    (written : reads.flatten = segments.flatMap Segment.bytes)
    (heard : later.filter Step.isHeard <+:
      (Inbound.heard reads .closed).map .receive ++ [.eventsEnded]) :
    ∀ call id slot, (run {} opening).1.calls[call]? = some ⟨id, .waiting, slot⟩ →
      .drop call ∉ later →
      (∀ answer, (run {} (opening ++ later)).1.answer? call = some answer →
        answer = Segment.outcome id segments .closed) ∧
      ((Inbound.heard reads .closed).map .receive <+: later.filter Step.isHeard →
        (run {} (opening ++ later ++ [.resume call])).1.answer? call =
          some (Segment.outcome id segments .closed)) := by
  intro call id slot made kept
  rw [Inbound.heard_of_whole whole written] at heard ⊢
  have outcome := findSome?_resolution?_stream id segments .closed
  rw [List.filterMap_append, List.nodup_append] at distinct
  obtain ⟨early, -, apart⟩ := distinct
  have follows := follows_waiting early unheard made rfl
  have fresh : id ∉ later.filterMap Step.started? := by
    intro again
    refine apart id ?_ id again rfl
    have mem := List.mem_of_getElem? made
    have ids := map_id_run {} opening
    rw [List.map_nil, List.nil_append] at ids
    rw [← ids]
    exact List.mem_map_of_mem mem
  have sound := sound_new.run opening
  constructor
  · intro answer returned
    rw [run_append] at returned
    rw [(follows.run sound later fresh).answer?_eq_some_iff,
      RequestCall.run_waiting_iff] at returned
    obtain ⟨waiting, step, rest, split, -, -, settled⟩ := returned
    -- What is heard before the call returns is a beginning of what is heard at all.
    have begun : waiting.filter Step.isHeard <+: later.filter Step.isHeard := by
      rw [split, List.filter_append]
      exact List.prefix_append _ _
    obtain ⟨unread, all⟩ := begun.trans heard
    have found : (waiting.filter Step.isHeard).findSome? (Step.resolution? id) = some answer := by
      rw [findSome?_resolution?_filter]
      exact settled
    have first := congrArg (List.findSome? (Step.resolution? id)) all
    rw [List.findSome?_append, List.findSome?_append, found, outcome, Option.some_or,
      Option.some_or, Option.some.injEq] at first
    exact first
  · intro heard
    obtain ⟨more, all⟩ := heard
    have none : id ∉ (later ++ [Step.resume call]).filterMap Step.started? := by
      rw [List.filterMap_append]
      exact fun mem => fresh (by simpa [Step.started?] using mem)
    rw [List.append_assoc, run_append, (follows.run sound _ none).answer?_eq_some_iff,
      RequestCall.run_waiting_iff]
    refine ⟨later, .resume call, [], rfl, rfl, kept, ?_⟩
    change later.findSome? (Step.resolution? id) = _
    rw [← findSome?_resolution?_filter, ← all, List.findSome?_append, outcome, Option.some_or]

/-- A stream with a broken header, a frame without a message, a response without an id, one that
nobody waits for, and two responses to the first of two requests. -/
theorem answers_among_garbage :
    let request (id : Int64) : Request := ⟨.number id, "textDocument/hover", none⟩
    let opening : List Step :=
      [.start (request 1), .start (request 2), .sent 1 (.ok ()), .sent 0 (.ok ())]
    let frame (text : String) : Segment :=
      .framed (Header.ofLength (Utf8.bytes text).length) (Utf8.bytes text)
    let segments : List Segment := [.unusable (Utf8.bytes "Length: 2") .missingContentLength,
      frame "[]", frame "\x7b\"id\":null,\"result\":true\x7d",
      frame "\x7b\"id\":\"1\",\"result\":true\x7d", frame "\x7b\"id\":1,\"result\":null\x7d",
      frame "\x7b\"id\":1,\"result\":true\x7d"]
    let stream : Bytes := segments.flatMap Segment.bytes
    let later : List Step := [.receive (.response ⟨none, .ok (.bool true)⟩),
      .receive (.response ⟨some (.text "1"), .ok (.bool true)⟩),
      .receive (.response ⟨some (.number 1), .ok .null⟩), .resume 0,
      .receive (.response ⟨some (.number 1), .ok (.bool true)⟩),
      .receive (.closed Ending.closed.error), .eventsEnded]
    (∀ segment ∈ segments, segment.Whole) ∧
      Inbound.heard [stream.take 7, stream.drop 7] .closed =
        segments.flatMap Segment.events ++ [.closed Ending.closed.error] ∧
      (run {} (opening ++ later ++ [.resume 0])).1.answer? 0 = some (.ok .null) ∧
      (run {} (opening ++ later ++ [.resume 1])).1.answer? 1 =
        some (.error (.transport Ending.closed.error)) := by
  intro request opening frame segments stream later
  have broken : (Segment.unusable (Utf8.bytes "Length: 2") .missingContentLength).Whole :=
    ⟨Header.unbroken_of_not_mem (by decide), by decide +kernel⟩
  have framed (text : String) (accepted : (Utf8.bytes text).length ≤ Header.contentLimit) :
      (frame text).Whole := Segment.whole_frame accepted
  have whole : ∀ segment ∈ segments, segment.Whole := by
    simp only [segments, List.forall_mem_cons]
    exact ⟨broken, framed _ (by decide), framed _ (by decide), framed _ (by decide),
      framed _ (by decide), framed _ (by decide), nofun⟩
  have written : [stream.take 7, stream.drop 7].flatten = segments.flatMap Segment.bytes := by
    simp [stream]
  have heard := Inbound.heard_of_whole whole written .closed
  have events : segments.flatMap Segment.events = [.response ⟨none, .ok (.bool true)⟩,
      .response ⟨some (.text "1"), .ok (.bool true)⟩, .response ⟨some (.number 1), .ok .null⟩,
      .response ⟨some (.number 1), .ok (.bool true)⟩] := by decide +kernel
  have news : later.filter Step.isHeard =
      (Inbound.heard [stream.take 7, stream.drop 7] .closed).map .receive ++ [.eventsEnded] := by
    rw [heard, events]
    rfl
  have answers (call : Nat) (id : Id) (slot : Slot) (made) (kept) :=
    (answer?_of_reads (by decide : ((opening ++ later).filterMap Step.started?).Nodup) (by decide)
      whole written (news ▸ List.prefix_refl _) call id slot made kept).2
      (news ▸ List.prefix_append _ _)
  refine ⟨whole, heard, ?_, ?_⟩
  · rw [answers 0 (.number 1) .empty (by decide) (by decide)]
    decide +kernel
  · rw [answers 1 (.number 2) .empty (by decide) (by decide)]
    decide +kernel

end Client

end LanguageClient
