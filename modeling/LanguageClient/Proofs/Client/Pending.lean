import LanguageClient.Proofs.Client.Calls

set_option autoImplicit false

namespace LanguageClient

namespace Client

theorem pending?_eq_some {client : Client} {id : Id} {entry : Pending}
    (found : client.pending? id = some entry) : entry ∈ client.pending ∧ entry.id = id := by
  unfold pending? at found
  exact ⟨List.mem_of_find?_eq_some found, by simpa using List.find?_some found⟩

theorem pending?_eq_none_iff {client : Client} {id : Id} :
    client.pending? id = none ↔ ∀ entry ∈ client.pending, entry.id ≠ id := by
  simp [pending?]

def DistinctPending (client : Client) : Prop := client.pending.Pairwise fun a b => a.id ≠ b.id

theorem mem_forget {client : Client} (distinct : client.DistinctPending) (id : Id)
    (entry : Pending) :
    entry ∈ (client.forget id).pending ↔ entry ∈ client.pending ∧ entry.id ≠ id := by
  obtain ⟨pending, shutdown, calls, handlers⟩ := client
  simp only [forget]
  induction pending with
  | nil => simp
  | cons first rest ih =>
    obtain ⟨apart, later⟩ := List.pairwise_cons.mp distinct
    by_cases same : first.id = id
    · subst same
      rw [List.eraseP_cons_of_pos (by simp), List.mem_cons]
      constructor
      · intro inside
        exact ⟨.inr inside, (apart entry inside).symm⟩
      · intro kept
        rcases kept with ⟨rfl | inside, other⟩
        · exact absurd rfl other
        · exact inside
    · rw [List.eraseP_cons_of_neg (by simp [same]), List.mem_cons, List.mem_cons, ih later]
      constructor
      · intro either
        rcases either with rfl | ⟨inside, other⟩
        · exact ⟨.inl rfl, same⟩
        · exact ⟨.inr inside, other⟩
      · intro kept
        rcases kept with ⟨rfl | inside, other⟩
        · exact .inl rfl
        · exact .inr ⟨inside, other⟩

theorem pending?_of_mem {client : Client} (distinct : client.DistinctPending) {entry : Pending}
    (mem : entry ∈ client.pending) : client.pending? entry.id = some entry := by
  obtain ⟨pending, shutdown, calls, handlers⟩ := client
  simp only [pending?]
  induction pending with
  | nil => cases mem
  | cons first rest ih =>
    obtain ⟨apart, later⟩ := List.pairwise_cons.mp distinct
    rcases List.mem_cons.mp mem with rfl | inside
    · exact List.find?_cons_of_pos (by simp)
    · rw [List.find?_cons_of_neg (by simp [apart entry inside])]
      exact ih later inside

theorem pending_remove (client : Client) (id : Id) :
    (client.remove id).pending = (client.forget id).pending := by
  unfold remove
  split
  · rename_i unknown
    refine (List.eraseP_of_forall_not fun entry inside => ?_).symm
    simpa using pending?_eq_none_iff.mp unknown entry inside
  · rfl

/-! ### The invariant -/

/-- What holds of a client in every state. -/
structure Sound (client : Client) : Prop where
  distinct : client.DistinctPending
  /-- The call of a pending request still runs, and was not answered. -/
  awaited : ∀ entry ∈ client.pending, ∃ stage : Stage, stage.isOpen = true ∧
    client.calls[entry.call]? = some ⟨entry.id, stage, .empty⟩
  drained : client.shutdown ≠ none → client.pending = []

theorem sound_new : Sound {} := ⟨.nil, nofun, fun _ => rfl⟩

/-- A step that adds no pending request and does not touch the calls of those that stay. -/
theorem Sound.of_frame {client next : Client} (sound : client.Sound)
    (fewer : next.pending.Sublist client.pending) (same : next.shutdown = client.shutdown)
    (kept : ∀ entry ∈ next.pending, next.calls[entry.call]? = client.calls[entry.call]?) :
    next.Sound where
  distinct := sound.distinct.sublist fewer
  awaited entry mem := by
    rw [kept entry mem]
    exact sound.awaited entry (fewer.subset mem)
  drained closed := by
    rw [same] at closed
    exact List.sublist_nil.mp (sound.drained closed ▸ fewer)

theorem Sound.getElem?_remove_of_ne {client : Client} (sound : client.Sound) {id : Id} {call : Nat}
    {held : RequestCall} (made : client.calls[call]? = some held) (other : held.id ≠ id) :
    (client.remove id).calls[call]? = some held := by
  have elsewhere : ¬ ∃ entry, client.pending? id = some entry ∧ entry.call = call := by
    intro waits
    obtain ⟨entry, found, here⟩ := waits
    obtain ⟨inside, named⟩ := pending?_eq_some found
    obtain ⟨_, _, record⟩ := sound.awaited entry inside
    rw [here, made, Option.some.injEq] at record
    rw [record] at other
    exact other named
  rw [getElem?_remove, made, Option.map_some, if_neg fun both => elsewhere both.1]

theorem Sound.getElem?_withdraw {client : Client} (sound : client.Sound) {call which : Nat}
    {held record : RequestCall} (made : client.calls[call]? = some held)
    (also : client.calls[which]? = some record) (other : held.id ≠ record.id) (stage : Stage) :
    ((client.remove record.id).setStage which stage).calls[call]? = some held := by
  have apart : which ≠ call := by
    intro same
    rw [same, made, Option.some.injEq] at also
    exact other (by rw [also])
  rw [getElem?_setStage_of_ne _ _ apart, sound.getElem?_remove_of_ne made other]

theorem Sound.withdraw {client : Client} (sound : client.Sound) {call : Nat} {held : RequestCall}
    (made : client.calls[call]? = some held) (stage : Stage) :
    ((client.remove held.id).setStage call stage).Sound := by
  have fewer : ((client.remove held.id).setStage call stage).pending.Sublist client.pending := by
    change (client.remove held.id).pending.Sublist client.pending
    rw [pending_remove]
    exact List.eraseP_sublist
  refine sound.of_frame fewer (shutdown_remove client held.id) ?_
  intro entry mem
  change entry ∈ (client.remove held.id).pending at mem
  rw [pending_remove, mem_forget sound.distinct] at mem
  obtain ⟨_, _, waits⟩ := sound.awaited entry mem.1
  rw [sound.getElem?_withdraw waits made mem.2, waits]

theorem Sound.addCall {client : Client} (sound : client.Sound) (id : Id) (stage : Stage) :
    (client.addCall id stage).Sound := by
  refine sound.of_frame (List.Sublist.refl _) rfl ?_
  intro entry mem
  obtain ⟨_, _, waits⟩ := sound.awaited entry mem
  rw [getElem?_addCall_of_some id stage waits, waits]

theorem refusal?_eq_none_iff {client : Client} {id : Id} :
    client.refusal? id = none ↔ client.shutdown = none ∧ client.pending? id = none := by
  unfold refusal?
  cases client.shutdown with
  | some error => simp
  | none => simp

theorem Sound.register {client : Client} (sound : client.Sound) {id : Id}
    (accepted : client.refusal? id = none) : (client.register id).Sound := by
  obtain ⟨running, free⟩ := refusal?_eq_none_iff.mp accepted
  constructor
  · refine List.pairwise_append.mpr ⟨sound.distinct, List.pairwise_singleton _ _, ?_⟩
    intro entry mem fresh new
    rw [List.mem_singleton.mp new]
    exact pending?_eq_none_iff.mp free entry mem
  · intro entry mem
    rcases List.mem_append.mp mem with old | new
    · obtain ⟨stage, unfinished, waits⟩ := sound.awaited entry old
      exact ⟨stage, unfinished, getElem?_addCall_of_some id .sending waits⟩
    · rw [List.mem_singleton.mp new]
      exact ⟨.sending, rfl, List.getElem?_concat_length⟩
  · intro closed
    exact absurd running closed

theorem Sound.setStage_of_settled {client : Client} (sound : client.Sound) {call : Nat}
    {held : RequestCall} (made : client.calls[call]? = some held) (settled : held.slot ≠ .empty)
    (stage : Stage) : (client.setStage call stage).Sound := by
  refine sound.of_frame (List.Sublist.refl _) rfl ?_
  intro entry mem
  obtain ⟨_, _, waits⟩ := sound.awaited entry mem
  refine getElem?_setStage_of_ne client stage ?_
  intro same
  subst same
  rw [made, Option.some.injEq] at waits
  exact settled (by rw [waits])

theorem Sound.setStage_of_open {client : Client} (sound : client.Sound) (call : Nat)
    {stage : Stage} (unfinished : stage.isOpen = true) : (client.setStage call stage).Sound where
  distinct := sound.distinct
  awaited entry mem := by
    obtain ⟨before, running, waits⟩ := sound.awaited entry mem
    rw [getElem?_setStage, waits, Option.map_some]
    split
    · exact ⟨stage, unfinished, rfl⟩
    · exact ⟨before, running, rfl⟩
  drained := sound.drained

theorem Sound.respond {client : Client} (sound : client.Sound) {id : Id} {entry : Pending}
    (found : client.pending? id = some entry) (answer : Answer) :
    ((client.forget id).fill entry.call answer).Sound := by
  obtain ⟨inside, named⟩ := pending?_eq_some found
  obtain ⟨_, _, waits⟩ := sound.awaited entry inside
  refine sound.of_frame List.eraseP_sublist rfl ?_
  intro other mem
  change other ∈ (client.forget id).pending at mem
  obtain ⟨stays, apart⟩ := (mem_forget sound.distinct id other).mp mem
  obtain ⟨_, _, also⟩ := sound.awaited other stays
  refine getElem?_fill_of_ne (client.forget id) answer fun same => ?_
  rw [same, also, Option.some.injEq, RequestCall.mk.injEq] at waits
  exact apart (waits.1.trans named)

theorem Sound.closeWith (client : Client) (error : TransportError) :
    (client.closeWith error).Sound := by
  constructor
  · rw [DistinctPending, pending_closeWith]
    exact .nil
  · rw [pending_closeWith]
    exact nofun
  · exact fun _ => pending_closeWith client error

theorem Sound.transition {client next : Client} {step : Step} (sound : client.Sound)
    (taken : client.Transition step next) : next.Sound := by
  cases taken with
  | refuse refused => exact sound.addCall _ _
  | register accepted => exact sound.register accepted
  | deliver sending => exact sound.setStage_of_open _ rfl
  | fail sending => exact sound.withdraw sending _
  | cancel made running => exact sound.withdraw made _
  | answer ready => exact sound.setStage_of_settled ready nofun _
  | forsake forsaken => exact sound.setStage_of_settled forsaken nofun _
  | respond named found => exact sound.respond found _
  | close closing running => exact Sound.closeWith client _
  | idle nothing handlers => exact ⟨sound.distinct, sound.awaited, sound.drained⟩

theorem Sound.step {client : Client} (sound : client.Sound) (step : Step) :
    (client.step step).1.Sound :=
  sound.transition (client.transition_step step)

theorem Sound.run {client : Client} (sound : client.Sound) (steps : List Step) :
    (client.run steps).1.Sound := by
  induction steps generalizing client with
  | nil => exact sound
  | cons step rest ih => exact ih (sound.step step)

end Client

end LanguageClient
