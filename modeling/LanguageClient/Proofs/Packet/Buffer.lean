import LanguageClient.Proofs.Packet.Segmentation

set_option autoImplicit false

/-!
Detection over a buffer, in words of the machine. The buffer is searched from its front turn by
turn, and what a turn has found is drained from it. Places and lengths are words of 64 bits, so
that a sum can wrap and a range can reach past the end of the buffer; both are faults here. In a
buffer that fits the machine there are none, and the turns find what the detector finds byte by
byte.
-/

namespace LanguageClient

namespace Buffer

inductive Fault where
  | wrapped
  | outside
deriving DecidableEq

/-- The most bytes that a buffer can hold. -/
def limit : Nat := 0x7FFFFFFFFFFFFFFF

def sum (a b : UInt64) : Except Fault UInt64 :=
  if a.toNat + b.toNat < UInt64.size then .ok (a + b) else .error .wrapped

def slice (data : Bytes) (start stop : UInt64) : Except Fault Bytes :=
  if start ≤ stop ∧ stop.toNat ≤ data.length then .ok ((data.take stop.toNat).drop start.toNat)
  else .error .outside

def drain (data : Bytes) (count : UInt64) : Except Fault Bytes :=
  if count.toNat ≤ data.length then .ok (data.drop count.toNat) else .error .outside

def separatorSize : UInt64 := .ofNat Header.separator.length

def size (data : Bytes) : UInt64 := .ofNat data.length

def separatorPlace? (data : Bytes) : Option UInt64 :=
  (Split.first? Header.separator data).map fun (header, _) => .ofNat header.length

/-- A frame at the front of a buffer, by the sizes of its header and its content. -/
structure Frame where
  header : UInt64
  content : UInt64
deriving DecidableEq

namespace Frame

def total (frame : Frame) : Except Fault UInt64 := do
  sum (← sum frame.header separatorSize) frame.content

def parts (frame : Frame) (data : Bytes) : Except Fault (Bytes × Bytes) := do
  let start ← sum frame.header separatorSize
  return (← slice data 0 frame.header, ← slice data start (← frame.total))

def extract (frame : Frame) (data : Bytes) : Except Fault Detected := do
  let (header, content) ← frame.parts data
  return Packet.checked ⟨header, content⟩

end Frame

/-- The frame at the front, `none` while it is incomplete, or why its header is unusable. -/
def locate (data : Bytes) : Except Fault (Except HeaderError (Option Frame)) := do
  match separatorPlace? data with
  | none => return .ok none
  | some place =>
    if place = 0 then return .error .empty
    else
      match Header.contentLength (← slice data 0 place) with
      | .error error => return .error error
      | .ok length =>
        let frame : Frame := ⟨place, .ofNat length⟩
        if size data < (← frame.total) then return .ok none else return .ok (some frame)

/-- How many bytes are dropped with an unusable header. -/
def skipped (data : Bytes) : Except Fault UInt64 :=
  match separatorPlace? data with
  | some place => sum place separatorSize
  | none => .ok (size data)

/-- What one turn comes to: the end of the search, or something found and what is left. -/
inductive Turn where
  | stop
  | next (found : Detected) (rest : Bytes)

def turn (data : Bytes) : Except Fault Turn := do
  if data = [] then return .stop
  else
    match ← locate data with
    | .ok none => return .stop
    | .ok (some frame) =>
      let found ← frame.extract data
      return .next found (← drain data (← frame.total))
    | .error error => return .next (.error (.header error)) (← drain data (← skipped data))

/-- Turns up to the end of the search, all without a fault. -/
inductive Run : Bytes → List Detected → Bytes → Prop where
  | stop {data : Bytes} (stops : turn data = .ok .stop) : Run data [] data
  | next {data rest last : Bytes} {found : Detected} {later : List Detected}
      (goes : turn data = .ok (.next found rest)) (further : Run rest later last) :
      Run data (found :: later) last

/-- The buffers at the beginning of the turns. -/
inductive Reaches (start : Bytes) : Bytes → Prop where
  | start : Reaches start start
  | next {data rest : Bytes} {found : Detected} (reached : Reaches start data)
      (goes : turn data = .ok (.next found rest)) : Reaches start rest

/-- What a turn relies on. -/
structure Safe (data : Bytes) : Prop where
  faultless : ∀ fault, turn data ≠ .error fault
  /-- The size of a frame is a word, also of one that is incomplete. -/
  total : ∀ header body length, Split.first? Header.separator data = some (header, body) →
    Segment.declared header = .ok length →
      header.length + Header.separator.length + length < UInt64.size ∧
        Frame.total ⟨.ofNat header.length, .ofNat length⟩ =
          .ok (.ofNat (header.length + Header.separator.length + length))
  progress : ∀ found rest, turn data = .ok (.next found rest) →
    ∃ gone, data = gone ++ rest ∧ 4 ≤ gone.length
  /-- A header is unusable only if a separator ends it. -/
  separated : ∀ error, locate data = .ok (.error error) → ∃ place, separatorPlace? data = some place
  bounded : turn data = .ok .stop → ∀ header body,
    Split.first? Header.separator data = some (header, body) →
      data.length < header.length + 4 + Header.contentLimit

/-! ### Words of small numbers -/

variable {data : Bytes}

theorem toNat_ofNat {value : Nat} (fits : value < UInt64.size) :
    (UInt64.ofNat value).toNat = value := by
  rw [UInt64.toNat_ofNat']
  exact Nat.mod_eq_of_lt fits

theorem toNat_ofNat_of_le {value : Nat} (short : value ≤ limit) :
    (UInt64.ofNat value).toNat = value := by
  have word : limit < UInt64.size := by decide
  exact toNat_ofNat (Nat.lt_of_le_of_lt short word)

theorem sum_ofNat {a b : Nat} (fits : a + b < UInt64.size) :
    sum (.ofNat a) (.ofNat b) = .ok (.ofNat (a + b)) := by
  have first : (UInt64.ofNat a).toNat = a := toNat_ofNat (by omega)
  have second : (UInt64.ofNat b).toNat = b := toNat_ofNat (by omega)
  rw [sum, first, second, if_pos fits, UInt64.ofNat_add]

theorem slice_ofNat {start stop : Nat} (ordered : start ≤ stop) (inside : stop ≤ data.length)
    (short : data.length ≤ limit) :
    slice data (.ofNat start) (.ofNat stop) = .ok ((data.take stop).drop start) := by
  have first : (UInt64.ofNat start).toNat = start := toNat_ofNat_of_le (by omega)
  have last : (UInt64.ofNat stop).toNat = stop := toNat_ofNat_of_le (by omega)
  have before : UInt64.ofNat start ≤ UInt64.ofNat stop := by
    rw [UInt64.le_iff_toNat_le, first, last]
    exact ordered
  rw [slice, if_pos ⟨before, last.symm ▸ inside⟩, first, last]

theorem drain_ofNat {count : Nat} (inside : count ≤ data.length) (short : data.length ≤ limit) :
    drain data (.ofNat count) = .ok (data.drop count) := by
  have same : (UInt64.ofNat count).toNat = count := toNat_ofNat_of_le (by omega)
  rw [drain, same, if_pos inside]

/-! ### Located frames -/

section Located

variable {header body : Bytes} {length : Nat} {error : HeaderError}

theorem length_of_found (found : Split.first? Header.separator data = some (header, body)) :
    data.length = header.length + 4 + body.length := by
  have whole := congrArg List.length (Split.eq_append_of_first? found)
  simp only [List.length_append] at whole
  exact whole

theorem declared_le (declares : Segment.declared header = .ok length) :
    length ≤ Header.contentLimit := by
  unfold Segment.declared at declares
  split at declares
  · cases declares
  · exact Segment.contentLength_le declares

/-- A header in a buffer and a length that is accepted make up a word. -/
theorem total_lt (found : Split.first? Header.separator data = some (header, body))
    (declares : Segment.declared header = .ok length) (short : data.length ≤ limit) :
    header.length + 4 + length < UInt64.size := by
  have whole := length_of_found found
  have accepted := declared_le declares
  have room : limit + Header.contentLimit < UInt64.size := by decide
  omega

theorem start_ofNat (header : Bytes) (short : header.length ≤ limit) :
    sum (.ofNat header.length) separatorSize = .ok (.ofNat (header.length + 4)) := by
  have word : limit + 4 < UInt64.size := by decide
  have four : separatorSize = .ofNat 4 := rfl
  rw [four, sum_ofNat (by omega)]

theorem total_ofNat (found : Split.first? Header.separator data = some (header, body))
    (declares : Segment.declared header = .ok length) (short : data.length ≤ limit) :
    Frame.total ⟨.ofNat header.length, .ofNat length⟩ =
      .ok (.ofNat (header.length + 4 + length)) := by
  have whole := length_of_found found
  have start := start_ofNat header (by omega)
  simp only [Frame.total, start]
  exact sum_ofNat (total_lt found declares short)

theorem slice_header (found : Split.first? Header.separator data = some (header, body))
    (short : data.length ≤ limit) : slice data 0 (.ofNat header.length) = .ok header := by
  have whole := length_of_found found
  have front : (data.take header.length).drop 0 = header := by
    rw [Split.eq_append_of_first? found, List.append_assoc, List.take_left, List.drop_zero]
  have cut := slice_ofNat (Nat.zero_le header.length) (by omega) short
  rwa [front] at cut

theorem place_eq_zero_iff (header : Bytes) (short : header.length ≤ limit) :
    UInt64.ofNat header.length = 0 ↔ header = [] := by
  rw [← UInt64.toNat_inj, toNat_ofNat_of_le short]
  exact List.length_eq_zero_iff

theorem locate_of_none (missing : Split.first? Header.separator data = none) :
    locate data = .ok (.ok none) := by
  simp only [locate, separatorPlace?, missing]
  rfl

theorem locate_of_error (found : Split.first? Header.separator data = some (header, body))
    (declares : Segment.declared header = .error error) (short : data.length ≤ limit) :
    locate data = .ok (.error error) := by
  have whole := length_of_found found
  have place := place_eq_zero_iff header (by omega)
  simp only [locate, separatorPlace?, found, Option.map_some, place]
  unfold Segment.declared at declares
  by_cases nothing : header = []
  · simp only [nothing, List.isEmpty_nil, if_true] at declares
    rw [if_pos nothing, ← Except.error.inj declares]
    rfl
  · simp only [List.isEmpty_iff, nothing, if_false] at declares
    rw [if_neg nothing, slice_header found short]
    simp only [bind, Except.bind, declares]
    rfl

/-- A frame is located as soon as all of its content is there. -/
theorem locate_of_ok (found : Split.first? Header.separator data = some (header, body))
    (declares : Segment.declared header = .ok length) (short : data.length ≤ limit) :
    locate data = .ok (.ok (if body.length < length then none
      else some ⟨.ofNat header.length, .ofNat length⟩)) := by
  have whole := length_of_found found
  have place := place_eq_zero_iff header (by omega)
  have total := total_ofNat found declares short
  have compared : size data < .ofNat (header.length + 4 + length) ↔ body.length < length := by
    have left : (size data).toNat = data.length := toNat_ofNat_of_le short
    have right : (UInt64.ofNat (header.length + 4 + length)).toNat =
        header.length + 4 + length := toNat_ofNat (total_lt found declares short)
    rw [UInt64.lt_iff_toNat_lt, left, right]
    omega
  simp only [locate, separatorPlace?, found, Option.map_some, place]
  unfold Segment.declared at declares
  by_cases nothing : header = []
  · simp [nothing] at declares
  · simp only [List.isEmpty_iff, nothing, if_false] at declares
    rw [if_neg nothing, slice_header found short]
    simp only [bind, Except.bind, declares, total, compared]
    by_cases incomplete : body.length < length
    · simp only [incomplete, if_true]
      rfl
    · simp only [incomplete, if_false]
      rfl

/-- The frame that is located has its parts inside the buffer. -/
theorem extract_ofNat (found : Split.first? Header.separator data = some (header, body))
    (declares : Segment.declared header = .ok length) (short : data.length ≤ limit)
    (complete : ¬ body.length < length) :
    Frame.extract ⟨.ofNat header.length, .ofNat length⟩ data =
      .ok (Packet.checked ⟨header, body.take length⟩) := by
  have whole := length_of_found found
  have start := start_ofNat header (by omega)
  have total := total_ofNat found declares short
  have content : (data.take (header.length + 4 + length)).drop (header.length + 4) =
      body.take length := by
    have front : (header ++ Header.separator).length = header.length + 4 := List.length_append
    rw [Split.eq_append_of_first? found, ← front, List.take_length_add_append, List.drop_left]
  have cut : slice data (.ofNat (header.length + 4)) (.ofNat (header.length + 4 + length)) =
      .ok (body.take length) := by
    rw [← content]
    exact slice_ofNat (by omega) (by omega) short
  simp only [Frame.extract, Frame.parts, start, total, slice_header found short, bind, Except.bind,
    pure, Except.pure, cut]

theorem skipped_ofNat (found : Split.first? Header.separator data = some (header, body))
    (short : data.length ≤ limit) : skipped data = .ok (.ofNat (header.length + 4)) := by
  have whole := length_of_found found
  simp only [skipped, separatorPlace?, found, Option.map_some]
  exact start_ofNat header (by omega)

end Located

/-! ### Turns -/

/-- A turn finds the segment at the front, and leaves what follows it. -/
theorem turn_eq (short : data.length ≤ limit) :
    turn data = .ok (match Segment.first? data with
      | none => .stop
      | some (segment, rest) => .next (Packet.ofSegment segment) rest) := by
  by_cases nothing : data = []
  · subst nothing
    rfl
  -- From here both sides branch alike: on the separator, on the header, on what is complete.
  rw [turn, if_neg nothing, Segment.first?]
  cases found : Split.first? Header.separator data with
  | none =>
    rw [locate_of_none found]
    rfl
  | some cut =>
    obtain ⟨header, body⟩ := cut
    have whole := length_of_found found
    have front : (header ++ Header.separator).length = header.length + 4 := List.length_append
    have rest (count : Nat) : data.drop (header.length + 4 + count) = body.drop count := by
      rw [Split.eq_append_of_first? found, ← front, List.drop_length_add_append]
    dsimp only
    cases declares : Segment.declared header with
    | error error =>
      have drained : drain data (.ofNat (header.length + 4)) = .ok body := by
        rw [drain_ofNat (by omega) short]
        exact congrArg Except.ok (rest 0)
      rw [locate_of_error found declares short, skipped_ofNat found short]
      simp only [bind, Except.bind, drained]
      rfl
    | ok length =>
      rw [locate_of_ok found declares short]
      by_cases incomplete : body.length < length
      · simp only [incomplete, if_true]
        rfl
      · have total := total_ofNat found declares short
        have drained : drain data (.ofNat (header.length + 4 + length)) =
            .ok (body.drop length) := by
          rw [drain_ofNat (by omega) short, rest]
        simp only [incomplete, if_false, bind, Except.bind,
          extract_ofNat found declares short incomplete, total, drained]
        rfl

theorem turn_eq_next_iff (short : data.length ≤ limit) {found : Detected} {rest : Bytes} :
    turn data = .ok (.next found rest) ↔
      ∃ segment, Segment.first? data = some (segment, rest) ∧ found = Packet.ofSegment segment := by
  rw [turn_eq short]
  cases cut : Segment.first? data with
  | none => simp
  | some parts =>
    obtain ⟨segment, left⟩ := parts
    simp only [Except.ok.injEq, Turn.next.injEq, Option.some.injEq, Prod.mk.injEq]
    constructor
    · rintro ⟨rfl, rfl⟩
      exact ⟨segment, ⟨rfl, rfl⟩, rfl⟩
    · rintro ⟨other, ⟨rfl, rfl⟩, rfl⟩
      exact ⟨rfl, rfl⟩

theorem turn_eq_stop_iff (short : data.length ≤ limit) :
    turn data = .ok .stop ↔ Segment.first? data = none := by
  rw [turn_eq short]
  cases cut : Segment.first? data with
  | none => simp
  | some parts => simp

theorem safe_of_short (short : data.length ≤ limit) : Safe data := by
  refine ⟨?_, ?_, ?_, ?_, ?_⟩
  · intro fault
    rw [turn_eq short]
    exact nofun
  · intro header body length found declares
    exact ⟨total_lt found declares short, total_ofNat found declares short⟩
  · intro found rest goes
    obtain ⟨segment, cut, -⟩ := (turn_eq_next_iff short).mp goes
    exact ⟨segment.bytes, Segment.eq_append_of_first? cut, segment.separator_length_le⟩
  · intro error located
    cases found : Split.first? Header.separator data with
    | none =>
      rw [locate_of_none found] at located
      cases located
    | some cut =>
      have place : separatorPlace? data = some (.ofNat cut.1.length) := by
        simp only [separatorPlace?, found, Option.map_some]
      exact ⟨_, place⟩
  · intro stops header body found
    have waits := (turn_eq_stop_iff short).mp stops
    have whole := length_of_found found
    rw [Segment.first?, found] at waits
    cases declares : Segment.declared header with
    | error error => simp [declares] at waits
    | ok length =>
      have accepted := declared_le declares
      have incomplete : body.length < length := by
        apply Decidable.byContradiction
        intro complete
        simp [declares, complete] at waits
      omega

theorem Reaches.length_le {start : Bytes} (reached : Reaches start data)
    (short : start.length ≤ limit) : data.length ≤ start.length := by
  induction reached with
  | start => exact Nat.le_refl _
  | next _ goes ih =>
    obtain ⟨gone, whole, -⟩ := (safe_of_short (Nat.le_trans ih short)).progress _ _ goes
    have lengths := congrArg List.length whole
    rw [List.length_append] at lengths
    omega

/-- The turns come to an end, and find the segments of the buffer. -/
theorem run_scan (short : data.length ≤ limit) :
    Run data ((Segment.scan data).1.map Packet.ofSegment) (Segment.scan data).2 := by
  induction data using Segment.scan.induct with
  | case1 data missing =>
    rw [Segment.scan_of_none missing]
    exact .stop ((turn_eq_stop_iff short).mpr missing)
  | case2 data segment rest found _ _ _ ih =>
    have less := Segment.length_lt_of_first? found
    have further := ih (by omega)
    rw [Segment.scan_of_some found]
    exact .next ((turn_eq_next_iff short).mpr ⟨segment, found, rfl⟩) further

/-- When a detector takes up bytes and all that it then holds fits the machine, every turn over its
buffer is safe, and the turns find what the detector finds and keep what it keeps. -/
theorem safe_throughout (detector : Detector) (chunk : Bytes)
    (short : (detector.buffer ++ chunk).length ≤ limit) :
    Run (detector.buffer ++ chunk) (detector.detect chunk).1 (detector.detect chunk).2.buffer ∧
      ∀ data, Reaches (detector.buffer ++ chunk) data → Safe data := by
  constructor
  · have run := run_scan short
    rw [Detector.scan_buffer_append] at run
    exact run
  · intro data reached
    exact safe_of_short (Nat.le_trans (reached.length_le short) short)

/-- The largest word as a length, an empty header, a frame without a message, and a header that
waits for the largest content. The first read ends inside the first header. -/
theorem safe_throughout_of_extreme_lengths :
    let waiting := Header.ofLength 104857600 ++ Header.separator ++ Utf8.bytes "\x7b"
    let stream := Header.ofLength 18446744073709551615 ++ Header.separator ++ Header.separator ++
      Segment.wrap (Utf8.bytes "null") ++ waiting
    let detector := (Detector.detect {} (stream.take 20)).2
    (detector.buffer ++ stream.drop 20).length ≤ limit ∧
      Run stream [.error (.header (.contentTooLarge 18446744073709551615 104857600)),
        .error (.header .empty), .error (.invalidContent .notAnObject)] waiting ∧
      Safe stream := by
  intro waiting stream detector
  have whole : detector.buffer ++ stream.drop 20 = stream := by decide +kernel
  have short : (detector.buffer ++ stream.drop 20).length ≤ limit := by decide +kernel
  obtain ⟨run, safe⟩ := safe_throughout detector (stream.drop 20) short
  have found : (detector.detect (stream.drop 20)).1 =
      [.error (.header (.contentTooLarge 18446744073709551615 104857600)),
        .error (.header .empty), .error (.invalidContent .notAnObject)] := by decide +kernel
  have left : (detector.detect (stream.drop 20)).2.buffer = waiting := by decide +kernel
  rw [whole, found, left] at run
  exact ⟨short, run, safe stream (whole ▸ .start)⟩

end Buffer

end LanguageClient
