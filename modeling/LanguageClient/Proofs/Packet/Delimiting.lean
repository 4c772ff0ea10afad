import LanguageClient.Packet.Basic
import LanguageClient.Proofs.Packet.Fragmentation
import LanguageClient.Proofs.Packet.Whole

set_option autoImplicit false

namespace LanguageClient

namespace Header

theorem ofLength_injective {length other : Nat} (same : ofLength length = ofLength other) :
    length = other := by
  have line (length : Nat) : lineValue (Utf8.decodeLossy (ofLength length)) =
      Decimal.digits length := by
    rw [ofLength, Utf8.decodeLossy_encode]
    exact lineValue_append_lengthLine [] length
  have digits : Decimal.digits length = Decimal.digits other := by
    rw [← line length, ← line other, same]
  rw [← Decimal.ofDigitChars_digits length, digits, Decimal.ofDigitChars_digits]

end Header

namespace Packet

def Framed (bytes : Bytes) : Prop := ∃ message : Message, bytes = (ofMessage message).toBytes

theorem first?_toBytes (message : Message) (rest : Bytes) :
    Split.first? Header.separator ((ofMessage message).toBytes ++ rest) =
      some (Header.ofLength message.encode.length, message.encode ++ rest) := by
  have unbroken := Header.unbroken_of_not_mem (Header.not_mem_ofLength message.encode.length)
  rw [← Segment.first?_separator unbroken, ← List.append_assoc]
  rfl

/-- No packet goes on where another one ends. -/
theorem Framed.eq_of_begins {first second : Bytes} (framed : Framed first)
    (also : Framed second) (begins : first <+: second) : first = second := by
  obtain ⟨message, rfl⟩ := framed
  obtain ⟨other, rfl⟩ := also
  obtain ⟨more, whole⟩ := begins
  have found := first?_toBytes other []
  rw [List.append_nil, ← whole, first?_toBytes, Option.some.injEq, Prod.mk.injEq] at found
  obtain ⟨header, content⟩ := found
  have lengths := congrArg List.length content
  rw [List.append_nil, List.length_append, ← Header.ofLength_injective header] at lengths
  have nothing : more = [] := List.eq_nil_of_length_eq_zero (by omega)
  rw [← whole, nothing, List.append_nil]

/-- A stream of packets that goes on with a part of one is not a stream of packets. -/
theorem eq_nil_of_flatten_eq {packets others : List Bytes} {packet part : Bytes}
    (framed : ∀ packet ∈ packets, Framed packet) (also : ∀ packet ∈ others, Framed packet)
    (cut : Framed packet) (begins : part <+: packet) (incomplete : part ≠ packet)
    (same : packets.flatten = others.flatten ++ part) : part = [] := by
  induction others generalizing packets with
  | nil =>
    cases packets with
    | nil => exact same.symm
    | cons first packets =>
      have whole : first <+: part := ⟨packets.flatten, same⟩
      have all := (framed first (List.mem_cons_self ..)).eq_of_begins cut (whole.trans begins)
      exact absurd (begins.eq_of_length_le (all ▸ whole.length_le)) incomplete
  | cons other others ih =>
    obtain ⟨this, those⟩ := List.forall_mem_cons.mp also
    cases packets with
    | nil => exact (List.append_eq_nil_iff.mp same.symm).2
    | cons first packets =>
      obtain ⟨one, rest⟩ := List.forall_mem_cons.mp framed
      rw [List.flatten_cons, List.flatten_cons, List.append_assoc] at same
      have front : first <+: other ++ (others.flatten ++ part) := ⟨_, same⟩
      have equal : first = other := by
        rcases List.prefix_or_prefix_of_prefix front (List.prefix_append _ _) with short | long
        · exact one.eq_of_begins this short
        · exact (this.eq_of_begins one long).symm
      rw [equal] at same
      exact ih rest those (List.append_cancel_left same)

end Packet

namespace Segment

theorem first?_of_incomplete {segment : Segment} (whole : segment.Whole) {part : Bytes}
    (begins : part <+: segment.bytes) (incomplete : part ≠ segment.bytes) : first? part = none := by
  obtain ⟨more, same⟩ := begins
  cases found : first? part with
  | none => rfl
  | some cut =>
    obtain ⟨front, rest⟩ := cut
    have all := first?_bytes whole []
    rw [List.append_nil, ← same, first?_append more found, Option.some.injEq,
      Prod.mk.injEq] at all
    rw [(List.append_eq_nil_iff.mp all.2).2, List.append_nil] at same
    exact absurd same incomplete

end Segment

end LanguageClient
