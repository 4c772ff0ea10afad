import LanguageClient.Proofs.Packet.Delimiting
import LanguageClient.Proofs.Packet.Grammar

set_option autoImplicit false

namespace LanguageClient

namespace Header

/-- A header without a carriage return is a single line. -/
theorem counts_self {header : Bytes} (oneLine : 0x0D ∉ header) (keyed : keyBytes <+: header) :
    Counts header header := by
  have lines : byteLines header = [] ++ header :: [] := Split.pair_of_not_mem oneLine
  exact .first lines (List.forall_mem_nil _) keyed

theorem counts_ofLength (length : Nat) : Counts (ofLength length) (ofLength length) := by
  refine counts_self (not_mem_ofLength length) ?_
  rw [ofLength, Utf8.encode_append]
  exact List.prefix_append _ _

theorem valueOf_ofLength (length : Nat) :
    ValueOf (Utf8.decodeLossy (ofLength length)) (Decimal.digits length) := by
  have colon : ¬ [':', ' '] <:+: Decimal.digits length := fun inside =>
    absurd (Decimal.isDigit_of_mem_digits (inside.subset (List.mem_cons_self ..))) (by decide)
  rw [ofLength, Utf8.decodeLossy_encode]
  exact .behind colon

/-- The header that is written for too large a length says so, up to the largest word. -/
theorem announces_ofLength_of_large {length : Nat} (above : contentLimit < length)
    (word : length < wordLimit) :
    Announces (ofLength length) (.error (.contentTooLarge length contentLimit)) :=
  .tooLarge (counts_ofLength length) (valueOf_ofLength length) (Decimal.spells_digits length) above
    word

end Header

namespace Segment

theorem unwrap_of_unusable {data rest : Bytes} {header : Bytes} {error : HeaderError}
    (found : first? data = some (.unusable header error, rest)) : unwrap data = .error error := by
  rw [unwrap, found]

theorem unwrap_of_framed {data rest header content : Bytes}
    (found : first? data = some (.framed header content, rest)) :
    unwrap data = .ok (some (header, content)) := by
  rw [unwrap, found]

/-- The frame of a content that is too large is refused with its header. -/
theorem whole_unusable_ofLength {length : Nat} (above : Header.contentLimit < length)
    (word : length < Header.wordLimit) :
    (unusable (Header.ofLength length) (.contentTooLarge length Header.contentLimit)).Whole :=
  ⟨Header.unbroken_of_not_mem (Header.not_mem_ofLength length),
    (Header.announces_ofLength_of_large above word).declared_eq⟩

/-- A frame in front of any bytes is read as its header and its content, and no beginning of it is
read as anything. Of a content above the limit nothing is read: its frame, and each beginning of it,
is refused from where the separator is complete. -/
theorem unwrap_wrap (content more : Bytes) :
    (wrap content).length =
      (Header.ofLength content.length).length + 4 + content.length ∧
    (content.length ≤ Header.contentLimit →
      unwrap (wrap content ++ more) = .ok (some (Header.ofLength content.length, content)) ∧
        ∀ part, part <+: wrap content → part ≠ wrap content → unwrap part = .ok none) ∧
    (Header.contentLimit < content.length → content.length < Header.wordLimit →
      ∀ part, part <+: wrap content ++ more →
        unwrap part =
          if Header.ofLength content.length ++ Header.separator <+: part then
            .error (.contentTooLarge content.length Header.contentLimit)
          else .ok none) := by
  refine ⟨?_, fun accepted => ?_, fun above word part begins => ?_⟩
  · rw [wrap, List.length_append, List.length_append]
    rfl
  · have whole := whole_frame accepted
    refine ⟨unwrap_of_framed (first?_bytes whole more), fun part begins incomplete => ?_⟩
    exact unwrap_eq_none_iff.mpr (first?_of_incomplete whole begins incomplete)
  · have whole := whole_unusable_ofLength above word
    split
    · rename_i complete
      obtain ⟨rest, rfl⟩ := complete
      exact unwrap_of_unusable (first?_bytes whole rest)
    · rename_i incomplete
      have front : Header.ofLength content.length ++ Header.separator <+: wrap content ++ more :=
        (List.prefix_append _ _).trans (List.prefix_append _ _)
      obtain short | long := List.prefix_or_prefix_of_prefix begins front
      · refine unwrap_eq_none_iff.mpr (first?_of_incomplete whole short ?_)
        rintro rfl
        exact incomplete (List.prefix_refl _)
      · exact absurd long incomplete

/-- A content that begins with a line break and holds a frame itself, and one that has a byte too
many, by itself and with all that follows its separator cut off. -/
theorem unwrap_wrap_of_nested_and_large :
    let content := Utf8.bytes "\r\n\r\nContent-Length: 0\r\n\r\n"
    let more := Utf8.bytes "\r\n"
    let large : Bytes := List.replicate 104857601 0x0D
    let refusal : HeaderError := .contentTooLarge 104857601 Header.contentLimit
    unwrap (wrap content ++ more) = .ok (some (Utf8.bytes "Content-Length: 25", content)) ∧
      unwrap ((wrap content).take 24) = .ok none ∧
      unwrap (wrap large ++ more) = .error refusal ∧
      unwrap (Header.ofLength 104857601 ++ Header.separator) = .error refusal := by
  intro content more large refusal
  obtain ⟨-, accepted, -⟩ := unwrap_wrap content more
  obtain ⟨reads, waits⟩ := accepted (by decide +kernel)
  have header : Header.ofLength content.length = Utf8.bytes "Content-Length: 25" := by
    decide +kernel
  rw [header] at reads
  have length : large.length = 104857601 := List.length_replicate
  have front : Header.ofLength 104857601 ++ Header.separator <+: wrap large ++ more := by
    rw [wrap, length]
    exact (List.prefix_append _ _).trans (List.prefix_append _ _)
  obtain ⟨-, -, refuses⟩ := unwrap_wrap large more
  rw [length] at refuses
  have refused := refuses (by decide) (by decide)
  refine ⟨reads, waits _ (List.take_prefix _ _) (by decide +kernel), ?_, ?_⟩
  · rw [refused _ (List.prefix_refl _)]
    exact if_pos front
  · rw [refused _ front]
    exact if_pos (List.prefix_refl _)

end Segment

end LanguageClient
