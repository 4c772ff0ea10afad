import LanguageClient.Connection.Outbound
import LanguageClient.Proofs.Packet.Delimiting
import Mathlib.Data.List.Induction

set_option autoImplicit false

/-!
What concurrent sends leave on a stream. They take turns, and a packet stands behind the ones whose
sends had the lock before. But a send that fails or is dropped between two of its writes leaves a
part of its packet for good, and the next packet goes on behind it as if it belonged to the same
one.
-/

namespace LanguageClient

namespace Outbound

def run (outbound : Outbound) (steps : List Step) : Outbound := steps.foldl step outbound

theorem run_concat (outbound : Outbound) (steps : List Step) (last : Step) :
    outbound.run (steps ++ [last]) = (outbound.run steps).step last := by
  rw [run, List.foldl_append]
  rfl

/-- The time for which a send has the lock, with the bytes that it has written until now. -/
structure Turn where
  sender : Nat
  written : Bytes := []
  remaining : Bytes
deriving DecidableEq

namespace Turn

def packet (turn : Turn) : Bytes := turn.written ++ turn.remaining

/-- Whether a part of the packet is written, and another part is not. -/
def Cut (turn : Turn) : Prop := turn.written ≠ [] ∧ turn.remaining ≠ []

instance (turn : Turn) : Decidable turn.Cut := inferInstanceAs (Decidable (_ ∧ _))

def write (turn : Turn) (count : Nat) : Turn :=
  { turn with
    written := turn.written ++ turn.remaining.take count
    remaining := turn.remaining.drop count }

@[simp] theorem packet_write (turn : Turn) (count : Nat) :
    (turn.write count).packet = turn.packet := by
  simp [write, packet]

theorem write_write (turn : Turn) (count more : Nat) :
    (turn.write count).write more = turn.write (count + more) := by
  simp [write, List.take_add]

end Turn

structure Ledger where
  past : List Turn := []
  current : Option Turn := none
deriving DecidableEq

namespace Ledger

def step (ledger : Ledger) : Step → Ledger
  | .acquire sender packet =>
    match ledger.current with
    | none => { ledger with current := some { sender := sender, remaining := packet } }
    | some _ => ledger
  | .write count => { ledger with current := ledger.current.map (·.write count) }
  | .release => { past := ledger.past ++ ledger.current.toList }

def run (ledger : Ledger) (steps : List Step) : Ledger := steps.foldl step ledger

theorem run_concat (ledger : Ledger) (steps : List Step) (last : Step) :
    ledger.run (steps ++ [last]) = (ledger.run steps).step last := by
  rw [run, List.foldl_append]
  rfl

def turns (ledger : Ledger) : List Turn := ledger.past ++ ledger.current.toList

def part (ledger : Ledger) : Bytes := ledger.current.elim [] Turn.written

/-- The stream holds what was written in all turns, and the lock is with the current one. -/
structure Describes (ledger : Ledger) (outbound : Outbound) : Prop where
  written : outbound.written = ledger.past.flatMap Turn.written ++ ledger.part
  holder : outbound.holder = ledger.current.map fun turn => ⟨turn.sender, turn.remaining⟩

theorem Describes.step {ledger : Ledger} {outbound : Outbound}
    (describes : ledger.Describes outbound) (step : Step) :
    (ledger.step step).Describes (outbound.step step) := by
  obtain ⟨written, holder⟩ := describes
  obtain ⟨past, current⟩ := ledger
  cases step with
  | acquire sender packet =>
    cases current with
    | none =>
      rw [Outbound.step, show outbound.holder = none from holder]
      exact ⟨written, rfl⟩
    | some turn =>
      rw [Outbound.step, show outbound.holder = some _ from holder]
      exact ⟨written, holder⟩
  | write count =>
    cases current with
    | none =>
      rw [Outbound.step, show outbound.holder = none from holder]
      exact ⟨written, holder⟩
    | some turn =>
      refine ⟨?_, ?_⟩
      · rw [written_step_write outbound _ count holder, written]
        exact List.append_assoc ..
      · rw [Outbound.step, show outbound.holder = some _ from holder]
        rfl
  | release =>
    refine ⟨?_, rfl⟩
    rw [show (outbound.step .release).written = outbound.written from rfl, written]
    cases current with
    | none => simp [Ledger.step, part]
    | some turn => simp [Ledger.step, part]

theorem describes_run (steps : List Step) :
    (run {} steps).Describes (Outbound.run {} steps) := by
  induction steps using List.reverseRecOn with
  | nil => exact ⟨rfl, rfl⟩
  | append_singleton before last ih =>
    rw [run_concat, Outbound.run_concat]
    exact ih.step last

theorem exists_acquire_of_mem {steps : List Step} {turn : Turn}
    (mem : turn ∈ (run {} steps).turns) : ∃ sender, .acquire sender turn.packet ∈ steps := by
  induction steps using List.reverseRecOn generalizing turn with
  | nil => cases mem
  | append_singleton before last ih =>
    have earlier {turn : Turn} (mem : turn ∈ (run {} before).turns) :
        ∃ sender, .acquire sender turn.packet ∈ before ++ [last] := by
      obtain ⟨sender, acquired⟩ := ih mem
      exact ⟨sender, List.mem_append_left _ acquired⟩
    rw [run_concat] at mem
    generalize run {} before = ledger at mem earlier
    obtain ⟨past, current⟩ := ledger
    rcases List.mem_append.mp mem with old | now
    · cases last with
      | acquire sender packet =>
        cases current with
        | none => exact earlier (List.mem_append_left _ old)
        | some held => exact earlier (List.mem_append_left _ old)
      | write count => exact earlier (List.mem_append_left _ old)
      | release => exact earlier old
    · cases last with
      | acquire sender packet =>
        cases current with
        | none =>
          rw [Option.mem_toList.mp now |> Option.some.inj |>.symm]
          exact ⟨sender, List.mem_append_right _ (List.mem_singleton_self _)⟩
        | some held => exact earlier (List.mem_append_right _ now)
      | write count =>
        cases current with
        | none => cases now
        | some held =>
          have moved : turn = held.write count := List.mem_singleton.mp now
          rw [moved, Turn.packet_write]
          exact earlier (List.mem_append_right _ (List.mem_singleton_self _))
      | release => cases now

/-! ### Writes that fail -/

section

variable {sink : Sink} {reason : String}

/-- A write meets the error where it stands, and before takes some bytes, but none behind it. -/
theorem write_eq_of_error (fails : sink.writeError = some reason)
    (takes : sink.writeLimit ≠ some 0) (taken : Nat) {count : Nat} (nonempty : 0 < count) :
    (sink.errorBehind ≤ taken ∧ sink.write taken count = .error reason) ∨
      ∃ more, sink.write taken count = .ok (more + 1) ∧ more < count ∧
        taken + (more + 1) ≤ sink.errorBehind := by
  rcases Nat.lt_or_ge taken sink.errorBehind with before | behind
  · have most : 0 < min count (sink.writeLimit.getD count) := by
      cases limit : sink.writeLimit with
      | none => simpa using nonempty
      | some least =>
        have positive : least ≠ 0 := fun zero => takes (by rw [limit, zero])
        rw [Option.getD_some]
        omega
    right
    refine ⟨min (min count (sink.writeLimit.getD count)) (sink.errorBehind - taken) - 1, ?_, ?_, ?_⟩
    · simp only [Sink.write, fails, Nat.not_le.mpr before, if_false, Except.ok.injEq]
      omega
    · omega
    · omega
  · left
    refine ⟨behind, ?_⟩
    simp only [Sink.write, fails, behind, if_true]

theorem run_writeAll_of_error (fails : sink.writeError = some reason)
    (takes : sink.writeLimit ≠ some 0) {taken : Nat} {remaining : Bytes}
    (before : taken ≤ sink.errorBehind) (late : sink.errorBehind < taken + remaining.length)
    (past : List Turn) (turn : Turn) :
    (sink.writeAll taken remaining).2 = .error (.io reason) ∧
      run ⟨past, some turn⟩ (sink.writeAll taken remaining).1 =
        ⟨past, some (turn.write (sink.errorBehind - taken))⟩ := by
  fun_induction sink.writeAll taken remaining generalizing turn with
  | case1 taken =>
    rw [List.length_nil] at late
    omega
  | case2 taken remaining nonempty error failed =>
    have some : 0 < remaining.length := List.length_pos_iff.mpr nonempty
    rcases write_eq_of_error fails takes taken some with ⟨behind, met⟩ | ⟨more, wrote, -⟩
    · rw [failed] at met
      cases met
      have nothing : sink.errorBehind - taken = 0 := by omega
      rw [nothing]
      exact ⟨rfl, by simp [run, Turn.write]⟩
    · rw [failed] at wrote
      cases wrote
  | case3 taken remaining nonempty none =>
    have some : 0 < remaining.length := List.length_pos_iff.mpr nonempty
    rcases write_eq_of_error fails takes taken some with ⟨-, met⟩ | ⟨more, wrote, -⟩
    · rw [none] at met
      cases met
    · rw [none] at wrote
      cases wrote
  | case4 taken remaining nonempty count wrote later ih =>
    have some : 0 < remaining.length := List.length_pos_iff.mpr nonempty
    rcases write_eq_of_error fails takes taken some with ⟨-, met⟩ | ⟨more, same, inside, within⟩
    · rw [wrote] at met
      cases met
    rw [wrote] at same
    cases same
    obtain ⟨failed, further⟩ := ih within (by rw [List.length_drop]; omega) (turn.write (count + 1))
    refine ⟨failed, further.trans ?_⟩
    rw [Turn.write_write]
    congr 3
    omega

/-- A write that fails behind the first bytes of a packet and before its end leaves a part of it,
and frees the lock as a drop does. -/
theorem run_steps_of_error (fails : sink.writeError = some reason)
    (takes : sink.writeLimit ≠ some 0) {packet : Bytes} (late : sink.errorBehind < packet.length)
    (sender : Nat) :
    (sink.steps sender packet).2 = .error (.io reason) ∧
      run {} (sink.steps sender packet).1 =
        { past := [⟨sender, packet.take sink.errorBehind, packet.drop sink.errorBehind⟩] } := by
  obtain ⟨failed, wrote⟩ := run_writeAll_of_error fails takes (Nat.zero_le _)
    (by rwa [Nat.zero_add]) [] { sender := sender, remaining := packet }
  refine ⟨by rw [Sink.steps, failed]; rfl, ?_⟩
  have begun : run {} (sink.steps sender packet).1 =
      (run ⟨[], some { sender := sender, remaining := packet }⟩ (sink.writeAll 0 packet).1).step
        .release := by
    simp [Sink.steps, run, step]
  rw [begun, wrote]
  simp [step, Turn.write]

theorem exists_cut_of_error (fails : sink.writeError = some reason)
    (takes : sink.writeLimit ≠ some 0) {packet : Bytes} (behind : 0 < sink.errorBehind)
    (late : sink.errorBehind < packet.length) (sender : Nat) :
    ∃ turn ∈ (run {} (sink.steps sender packet).1).past, turn.Cut := by
  rw [(run_steps_of_error fails takes late sender).2]
  refine ⟨_, List.mem_singleton_self _, ?_, ?_⟩
  · exact List.ne_nil_of_length_pos (by rw [List.length_take]; omega)
  · exact List.ne_nil_of_length_pos (by rw [List.length_drop]; omega)

end

/-! ### Whole packets -/

def finished (turns : List Turn) : List Bytes :=
  (turns.filter fun turn => turn.remaining = []).map Turn.packet

theorem finished_sublist (turns : List Turn) :
    (finished turns).Sublist (turns.map Turn.packet) :=
  List.filter_sublist.map _

/-- What was written in turns of which none was broken off are whole packets. -/
theorem flatMap_written_of_uncut {turns : List Turn} (uncut : ∀ turn ∈ turns, ¬ turn.Cut) :
    turns.flatMap Turn.written = (finished turns).flatten := by
  induction turns with
  | nil => rfl
  | cons turn turns ih =>
    obtain ⟨this, later⟩ := List.forall_mem_cons.mp uncut
    rw [List.flatMap_cons, ih later]
    by_cases done : turn.remaining = []
    · simp [finished, done, Turn.packet]
    · have unbegun : turn.written = [] := Decidable.byContradiction fun begun => this ⟨begun, done⟩
      simp [finished, done, unbegun]

/-- The stream holds whole packets of earlier sends in the order of their turns and, behind them, no
more than what the send that has the lock has written. -/
def Intact (ledger : Ledger) (outbound : Outbound) : Prop :=
  ∃ whole : List Bytes, whole.Sublist (ledger.past.map Turn.packet) ∧
    outbound.written = whole.flatten ++ ledger.part

theorem Describes.intact {ledger : Ledger} {outbound : Outbound}
    (describes : ledger.Describes outbound) (uncut : ∀ turn ∈ ledger.past, ¬ turn.Cut) :
    ledger.Intact outbound :=
  ⟨finished ledger.past, finished_sublist _,
    by rw [describes.written, flatMap_written_of_uncut uncut]⟩

theorem past_step_subset (ledger : Ledger) (step : Step) :
    ledger.past ⊆ (ledger.step step).past := by
  cases step with
  | acquire sender packet =>
    simp only [Ledger.step]
    split <;> exact List.Subset.refl _
  | write count => exact List.Subset.refl _
  | release => exact List.subset_append_left _ _

theorem past_run_subset (ledger : Ledger) (steps : List Step) :
    ledger.past ⊆ (ledger.run steps).past := by
  induction steps generalizing ledger with
  | nil => exact List.Subset.refl _
  | cons step rest ih =>
    exact List.Subset.trans (past_step_subset ledger step) (ih (ledger.step step))

/-- A send that fails or is dropped between two of its writes breaks the stream. -/
theorem Describes.uncut {ledger : Ledger} {outbound : Outbound} {turn : Turn}
    (describes : ledger.Describes outbound) (held : ledger.current = some turn)
    (framed : ∀ turn ∈ ledger.turns, Packet.Framed turn.packet)
    (before : ∀ turn ∈ ledger.past, ¬ turn.Cut)
    (intact : (ledger.step .release).Intact (outbound.step .release)) : ¬ turn.Cut := by
  intro cut
  obtain ⟨whole, sublist, same⟩ := intact
  rw [show (outbound.step .release).written = outbound.written from rfl, describes.written,
    flatMap_written_of_uncut before, part, held] at same
  have own : turn ∈ ledger.turns := List.mem_append_right _ (by simp [held])
  have past (packet : Bytes) (mem : packet ∈ whole) : Packet.Framed packet := by
    obtain ⟨other, inside, rfl⟩ := List.mem_map.mp (sublist.subset mem)
    exact framed other inside
  have earlier (packet : Bytes) (mem : packet ∈ finished ledger.past) : Packet.Framed packet := by
    obtain ⟨other, inside, rfl⟩ := List.mem_map.mp ((finished_sublist _).subset mem)
    exact framed other (List.mem_append_left _ inside)
  have incomplete : turn.written ≠ turn.packet := fun same =>
    cut.2 (List.append_right_eq_self.mp same.symm)
  exact cut.1 (Packet.eq_nil_of_flatten_eq past earlier (framed turn own) (List.prefix_append _ _)
    incomplete (by simpa [part, Ledger.step] using same.symm))

/-! ### Receivers -/

/-- What a send has written that has not come to the end of its packet. -/
def unfinished (ledger : Ledger) : Bytes :=
  match ledger.current with
  | some turn => if turn.remaining = [] then [] else turn.written
  | none => []

theorem Describes.written_of_uncut {ledger : Ledger} {outbound : Outbound}
    (describes : ledger.Describes outbound) (uncut : ∀ turn ∈ ledger.past, ¬ turn.Cut) :
    outbound.written = (finished ledger.turns).flatten ++ ledger.unfinished := by
  rw [describes.written, flatMap_written_of_uncut uncut]
  obtain ⟨past, current⟩ := ledger
  cases current with
  | none => simp [turns, part, unfinished]
  | some turn =>
    by_cases done : turn.remaining = [] <;>
      simp [turns, part, unfinished, finished, done, Turn.packet]

theorem exists_messages {packets : List Bytes} {accepts : Message → Prop}
    (framed : ∀ packet ∈ packets, ∃ message, accepts message ∧
      packet = (Packet.ofMessage message).toBytes) :
    ∃ messages : List Message, (∀ message ∈ messages, accepts message) ∧
      packets = messages.map fun message => (Packet.ofMessage message).toBytes := by
  induction packets with
  | nil => exact ⟨[], List.forall_mem_nil _, rfl⟩
  | cons packet packets ih =>
    obtain ⟨⟨message, accepted, rfl⟩, later⟩ := List.forall_mem_cons.mp framed
    obtain ⟨messages, all, rfl⟩ := ih later
    exact ⟨message :: messages, List.forall_mem_cons.mpr ⟨accepted, all⟩, rfl⟩

/-- A receiver finds the packets that came to their end, and waits for the rest of the last one. -/
theorem Describes.exists_detectAll {ledger : Ledger} {outbound : Outbound}
    (describes : ledger.Describes outbound) (uncut : ∀ turn ∈ ledger.past, ¬ turn.Cut)
    (framed : ∀ turn ∈ ledger.turns, ∃ message : Message,
      message.encode.length ≤ Header.contentLimit ∧
        turn.packet = (Packet.ofMessage message).toBytes)
    {chunks : List Bytes} (arrived : chunks.flatten = outbound.written) :
    ∃ messages : List Message,
      finished ledger.turns = messages.map (fun message => (Packet.ofMessage message).toBytes) ∧
      (Detector.detectAll {} chunks).1 =
        messages.map (fun message => Packet.ofContent message.encode) ∧
      (Detector.detectAll {} chunks).2.2.buffer = ledger.unfinished := by
  have whole (packet : Bytes) (mem : packet ∈ finished ledger.turns) : ∃ message : Message,
      message.encode.length ≤ Header.contentLimit ∧
        packet = (Packet.ofMessage message).toBytes := by
    obtain ⟨turn, inside, rfl⟩ := List.mem_map.mp ((finished_sublist _).subset mem)
    exact framed turn inside
  have nothing : Segment.scan ledger.unfinished = ([], ledger.unfinished) := by
    refine Segment.scan_of_none ?_
    unfold unfinished
    split
    · rename_i turn held
      split
      · rfl
      · rename_i remains
        obtain ⟨message, accepted, same⟩ := framed turn (List.mem_append_right _ (by simp [held]))
        refine Segment.first?_of_incomplete (Segment.whole_frame accepted) ?_ ?_
        · exact ⟨turn.remaining, same⟩
        · intro all
          have longer : turn.written = turn.packet := all.trans same.symm
          exact remains (List.append_right_eq_self.mp longer.symm)
    · rfl
  obtain ⟨messages, accepted, packets⟩ := exists_messages whole
  obtain ⟨found, left⟩ := Detector.detectAll_eq_scan chunks
  have stream : outbound.written =
      (messages.map fun message => Segment.frame message.encode).flatMap Segment.bytes ++
        ledger.unfinished := by
    rw [describes.written_of_uncut uncut, packets, List.flatMap_map, List.flatMap_def]
    rfl
  have frames : ∀ segment ∈ messages.map fun message => Segment.frame message.encode,
      segment.Whole := by
    intro segment mem
    obtain ⟨message, inside, rfl⟩ := List.mem_map.mp mem
    exact Segment.whole_frame (accepted message inside)
  rw [arrived, stream, Segment.scan_flatMap_bytes_append frames, nothing] at found left
  refine ⟨messages, packets, ?_, left⟩
  rw [found, List.append_nil, List.map_map]
  rfl

/-- The stream is at all times the packets of earlier sends in the order of their turns, and behind
them what the send that has the lock has written, if and only if no send gives the lock back between
two of its writes, be it that one of them fails or that the send is dropped. A receiver then finds
each packet that was written to its end by itself. -/
theorem intact_iff_uncut (steps : List Step)
    (framed : ∀ sender packet, .acquire sender packet ∈ steps → Packet.Framed packet) :
    (run {} steps).Describes (Outbound.run {} steps) ∧
    ((∀ before, before <+: steps → (run {} before).Intact (Outbound.run {} before)) ↔
      ∀ turn ∈ (run {} steps).past, ¬ turn.Cut) ∧
    ((∀ turn ∈ (run {} steps).past, ¬ turn.Cut) →
      (∀ sender message, .acquire sender (Packet.ofMessage message).toBytes ∈ steps →
        message.encode.length ≤ Header.contentLimit) →
      ∀ chunks : List Bytes, chunks.flatten = (Outbound.run {} steps).written →
        ∃ messages : List Message,
          finished (run {} steps).turns =
            messages.map (fun message => (Packet.ofMessage message).toBytes) ∧
          (Detector.detectAll {} chunks).1 =
            messages.map (fun message => Packet.ofContent message.encode) ∧
          (Detector.detectAll {} chunks).2.2.buffer = (run {} steps).unfinished) := by
  refine ⟨describes_run steps, ⟨?_, ?_⟩, ?_⟩
  · intro intact
    induction steps using List.reverseRecOn with
    | nil => exact List.forall_mem_nil _
    | append_singleton before last ih =>
      have uncut := ih (fun sender packet mem => framed sender packet (List.mem_append_left _ mem))
        fun earlier begins => intact earlier (begins.trans (List.prefix_append _ _))
      have now := intact _ (List.prefix_refl _)
      have describes := describes_run before
      rw [run_concat, Outbound.run_concat] at now
      rw [run_concat]
      cases last with
      | acquire sender packet =>
        simp only [step]
        split <;> exact uncut
      | write count => exact uncut
      | release =>
        intro turn mem
        rcases List.mem_append.mp mem with old | held
        · exact uncut turn old
        · refine describes.uncut (Option.mem_toList.mp held) ?_ uncut now
          intro other inside
          obtain ⟨sender, acquired⟩ := exists_acquire_of_mem inside
          exact framed sender _ (List.mem_append_left _ acquired)
  · intro uncut before begins
    obtain ⟨after, rfl⟩ := begins
    refine (describes_run before).intact fun turn mem => uncut turn ?_
    rw [show run {} (before ++ after) = (run {} before).run after from List.foldl_append]
    exact past_run_subset _ after mem
  · intro uncut accepted chunks arrived
    refine (describes_run steps).exists_detectAll uncut ?_ arrived
    intro turn mem
    obtain ⟨sender, acquired⟩ := exists_acquire_of_mem mem
    obtain ⟨message, same⟩ := framed sender _ acquired
    exact ⟨message, accepted sender message (same ▸ acquired), same⟩

/-- One send writes its packet in two pieces, between which another one asks for the lock. That one
is dropped before it has written anything, and a third is on the way. -/
theorem intact_of_early_drop :
    let request (id : Int64) : Message := .request ⟨.number id, "m", none⟩
    let packet (id : Int64) : Bytes := (Packet.ofMessage (request id)).toBytes
    let steps : List Step := [.acquire 0 (packet 1), .write 20, .acquire 1 (packet 2), .write 100,
      .release, .acquire 1 (packet 2), .release, .acquire 2 (packet 3), .write 30]
    (∀ sender packet, .acquire sender packet ∈ steps → Packet.Framed packet) ∧
      (∀ before, before <+: steps → (run {} before).Intact (Outbound.run {} before)) ∧
      (Outbound.run {} steps).written = packet 1 ++ (packet 3).take 30 := by
  intro request packet steps
  have framed : ∀ sender packet, .acquire sender packet ∈ steps → Packet.Framed packet := by
    intro sender bytes mem
    simp only [steps, List.mem_cons, Step.acquire.injEq, reduceCtorEq, List.not_mem_nil,
      or_false, false_or] at mem
    rcases mem with ⟨-, rfl⟩ | ⟨-, rfl⟩ | ⟨-, rfl⟩ | ⟨-, rfl⟩ <;> exact ⟨_, rfl⟩
  obtain ⟨-, intact, -⟩ := intact_iff_uncut steps framed
  exact ⟨framed, intact.mpr (by decide +kernel), by decide +kernel⟩

/-- A send is dropped when 32 bytes of its packet are written, and another one goes on. The receiver
takes the second packet for the rest of the first one, and finds no packet at all. -/
theorem broken_by_dropped_send :
    let request (id : Int64) : Message := .request ⟨.number id, "m", none⟩
    let packet (id : Int64) : Bytes := (Packet.ofMessage (request id)).toBytes
    let steps : List Step := [.acquire 0 (packet 1), .write 32, .release, .acquire 1 (packet 2),
      .write 59, .release]
    (∀ sender packet, .acquire sender packet ∈ steps → Packet.Framed packet) ∧
      (¬ ∀ before, before <+: steps → (run {} before).Intact (Outbound.run {} before)) ∧
      (Outbound.run {} steps).written = (packet 1).take 32 ++ packet 2 ∧
      (Detector.detect {} (Outbound.run {} steps).written).1 =
        [.error (.invalidContent (.invalidJson .controlCharacter))] ∧
      (Detector.detect {} (Outbound.run {} steps).written).2.buffer = (packet 2).drop 27 := by
  intro request packet steps
  have framed : ∀ sender packet, .acquire sender packet ∈ steps → Packet.Framed packet := by
    intro sender bytes mem
    simp only [steps, List.mem_cons, Step.acquire.injEq, reduceCtorEq, List.not_mem_nil,
      or_false, false_or] at mem
    rcases mem with ⟨-, rfl⟩ | ⟨-, rfl⟩ <;> exact ⟨_, rfl⟩
  refine ⟨framed, ?_, by decide +kernel, by decide +kernel, by decide +kernel⟩
  intro intact
  let begun : List Step := [.acquire 0 (packet 1), .write 32]
  have own : ∀ turn ∈ (run {} begun).turns, Packet.Framed turn.packet := by
    intro turn mem
    obtain ⟨sender, acquired⟩ := exists_acquire_of_mem mem
    exact framed sender _ (List.mem_append_left _ acquired)
  have broken := intact (begun ++ [.release]) ⟨_, rfl⟩
  rw [run_concat, Outbound.run_concat] at broken
  have cut : ¬ ((Turn.mk 0 [] (packet 1)).write 32).Cut :=
    (describes_run begun).uncut rfl own (List.forall_mem_nil _) broken
  exact cut (by decide +kernel)

end Ledger

end Outbound

end LanguageClient
