import LanguageClient.Document.Symbol
import LanguageClient.Proofs.Json.Record

set_option autoImplicit false

namespace LanguageClient

open Json

/-! ### Places -/

/-- The values that are read as a position. -/
inductive Position.Denotes : Json → Position → Prop where
  | fields {value : Json} {source : Source} {line character : UInt32}
      (record : Source.Of 2 value source)
      (hasLine : source.item? 0 "line" = some (.ofUInt32 line))
      (hasCharacter : source.item? 1 "character" = some (.ofUInt32 character)) :
      Denotes value ⟨line, character⟩

inductive Range.Denotes : Json → Range → Prop where
  | fields {value : Json} {source : Source} {first last : Position}
      (record : Source.Of 2 value source)
      (hasFirst : source.Has 0 "start" Position.Denotes first)
      (hasLast : source.Has 1 "end" Position.Denotes last) : Denotes value ⟨first, last⟩

inductive Location.Denotes : Json → Location → Prop where
  | fields {value : Json} {source : Source} {uri : String} {range : Range}
      (record : Source.Of 2 value source) (hasUri : source.item? 0 "uri" = some (.string uri))
      (hasRange : source.Has 1 "range" Range.Denotes range) : Denotes value ⟨uri, range⟩

theorem Position.ofJson_eq_ok_iff {value : Json} {position : Position} :
    ofJson value = .ok position ↔ Denotes value position := by
  refine (Decoder.pair_eq_ok_iff (fun source => source.slot 0 "line" .uint32)
    (fun source => source.slot 1 "character" .uint32) mk).trans ?_
  simp only [Source.value_slot_iff, Decoder.uint32_eq_ok_iff, Source.has_eq_iff]
  constructor
  · intro ⟨source, record, line, character, hasLine, hasCharacter, same⟩
    cases same
    exact .fields record hasLine hasCharacter
  · intro denotes
    cases denotes with
    | fields record hasLine hasCharacter =>
      exact ⟨_, record, _, _, hasLine, hasCharacter, rfl⟩

theorem Range.ofJson_eq_ok_iff {value : Json} {range : Range} :
    ofJson value = .ok range ↔ Denotes value range := by
  refine (Decoder.pair_eq_ok_iff (fun source => source.slot 0 "start" Position.ofJson)
    (fun source => source.slot 1 "end" Position.ofJson) mk).trans ?_
  simp only [Source.value_slot_iff, Position.ofJson_eq_ok_iff]
  constructor
  · intro ⟨source, record, first, last, hasFirst, hasLast, same⟩
    cases same
    exact .fields record hasFirst hasLast
  · intro denotes
    cases denotes with
    | fields record hasFirst hasLast => exact ⟨_, record, _, _, hasFirst, hasLast, rfl⟩

theorem Location.ofJson_eq_ok_iff {value : Json} {location : Location} :
    ofJson value = .ok location ↔ Denotes value location := by
  refine (Decoder.pair_eq_ok_iff (fun source => source.slot 0 "uri" .string)
    (fun source => source.slot 1 "range" Range.ofJson) mk).trans ?_
  simp only [Source.value_slot_iff, Decoder.string_eq_ok_iff, Source.has_eq_iff,
    Range.ofJson_eq_ok_iff]
  constructor
  · intro ⟨source, record, uri, range, hasUri, hasRange, same⟩
    cases same
    exact .fields record hasUri hasRange
  · intro denotes
    cases denotes with
    | fields record hasUri hasRange => exact ⟨_, record, _, _, hasUri, hasRange, rfl⟩

/-! ### Symbols -/

namespace Symbol

/-- What may stand for the detail of a symbol. -/
inductive DetailOf : Option Json → Option String → Prop where
  | absent : DetailOf none none
  | null : DetailOf (some .null) none
  | text (text : String) : DetailOf (some (.string text)) (some text)

structure Head (source : Source) (name : String) (detail : Option String) (kind : Int32)
    (range selection : Range) : Prop where
  name : source.item? 0 "name" = some (.string name)
  detail : DetailOf (source.item? 1 "detail") detail
  kind : source.item? 2 "kind" = some (.ofInt32 kind)
  range : source.Has 3 "range" Range.Denotes range
  selection : source.Has 4 "selectionRange" Range.Denotes selection

/-- A list that may be left out when it is empty. -/
inductive ChildrenOf (denotes : Json → Symbol → Prop) : Option Json → List Symbol → Prop where
  | absent : ChildrenOf denotes none []
  | list {elements : List Json} {children : List Symbol}
      (all : List.Forall₂ denotes elements children) :
      ChildrenOf denotes (some (.array elements)) children

/-- The values that are read as a symbol. -/
inductive Denotes : Json → Symbol → Prop where
  | fields {value : Json} {source : Source} {name : String} {detail : Option String} {kind : Int32}
      {range selection : Range} {children : List Symbol} (record : Source.Of 6 value source)
      (head : Head source name detail kind range selection)
      (inside : ChildrenOf Denotes (source.item? 5 "children") children) :
      Denotes value (mk name detail kind range selection children)

theorem value_detail_iff {source : Source} {detail : Option String} :
    (source.slotOr 1 "detail" (.option .string) none).value = .ok detail ↔
      DetailOf (source.item? 1 "detail") detail := by
  rw [Source.value_slotOr_iff]
  simp only [Source.Has, Decoder.option_eq_ok_iff, Decoder.string_eq_ok_iff]
  constructor
  · intro read
    rcases read with ⟨absent, same⟩ | ⟨held, present, ⟨null, same⟩ | ⟨-, text, isText, same⟩⟩
    · rw [absent, same]
      exact .absent
    · rw [present, null, same]
      exact .null
    · rw [present, isText, same]
      exact .text text
  · intro stands
    generalize source.item? 1 "detail" = held at stands ⊢
    cases stands with
    | absent => exact Or.inl ⟨rfl, rfl⟩
    | null => exact Or.inr ⟨.null, rfl, Or.inl ⟨rfl, rfl⟩⟩
    | text text => exact Or.inr ⟨_, rfl, Or.inr ⟨by simp, text, rfl, rfl⟩⟩

theorem head_iff {source : Source} {name : String} {detail : Option String} {kind : Int32}
    {range selection : Range} :
    Head source name detail kind range selection ↔
      (source.slot 0 "name" .string).value = .ok name ∧
        (source.slotOr 1 "detail" (.option .string) none).value = .ok detail ∧
        (source.slot 2 "kind" .int32).value = .ok kind ∧
        (source.slot 3 "range" Range.ofJson).value = .ok range ∧
        (source.slot 4 "selectionRange" Range.ofJson).value = .ok selection := by
  simp only [value_detail_iff, Source.value_slot_iff, Decoder.string_eq_ok_iff,
    Decoder.int32_eq_ok_iff, Range.ofJson_eq_ok_iff, Source.has_eq_iff]
  constructor
  · intro head
    exact ⟨head.name, head.detail, head.kind, head.range, head.selection⟩
  · intro ⟨name, detail, kind, range, selection⟩
    exact ⟨name, detail, kind, range, selection⟩

theorem value_children_iff {source : Source} {element : Decoder Symbol}
    {denotes : Json → Symbol → Prop} {children : List Symbol}
    (agree : ∀ elements, source.item? 5 "children" = some (.array elements) →
      ∀ value ∈ elements, ∀ symbol, element value = .ok symbol ↔ denotes value symbol) :
    (source.slotOr 5 "children" (.list element) []).value = .ok children ↔
      ChildrenOf denotes (source.item? 5 "children") children := by
  rw [Source.value_slotOr_iff]
  simp only [Source.Has, Decoder.list_eq_ok_iff]
  constructor
  · intro read
    rcases read with ⟨absent, same⟩ | ⟨held, present, elements, isList, all⟩
    · rw [absent, same]
      exact .absent
    · rw [isList] at present
      have both := (List.forall₂_and_left _ _).mpr ⟨agree elements present, all⟩
      rw [present]
      exact .list (both.imp fun value symbol found => (found.1 symbol).mp found.2)
  · intro stands
    generalize held : source.item? 5 "children" = item at stands ⊢
    cases stands with
    | absent => exact Or.inl ⟨rfl, rfl⟩
    | @list elements _ all =>
      have both := (List.forall₂_and_left _ _).mpr ⟨agree elements held, all⟩
      exact Or.inr ⟨.array elements, rfl, elements, rfl,
        both.imp fun value symbol found => (found.1 symbol).mpr found.2⟩

/-- Levels that are enough for a value are enough to read all that is in it. -/
theorem ofJsonAt_eq_ok_iff {levels : Nat} {value : Json} {symbol : Symbol}
    (enough : value.depth ≤ levels) :
    ofJsonAt levels value = .ok symbol ↔ Denotes value symbol := by
  induction levels generalizing value symbol with
  | zero =>
    constructor
    · intro read
      cases read
    · intro denotes
      cases denotes with
      | fields record head inside =>
        have deeper := record.depth_lt head.name
        omega
  | succ levels ih =>
    have agree {source : Source} (record : Source.Of 6 value source) {children : List Symbol} :
        (source.slotOr 5 "children" (.list (ofJsonAt levels)) []).value = .ok children ↔
          ChildrenOf Denotes (source.item? 5 "children") children := by
      refine value_children_iff fun elements present element mem symbol => ih ?_
      have outer := record.depth_lt present
      have inner := depth_le_of_mem_elements mem
      rw [depth] at outer
      omega
    rw [ofJsonAt]
    simp only [Decoder.bind_eq_ok_iff]
    constructor
    · intro ⟨source, found, _, checked, name, readName, detail, readDetail, kind, readKind, range,
        readRange, selection, readSelection, children, readChildren, same⟩
      have record := (Source.good_and_of_iff.mpr ⟨found, checked⟩).2
      have head := head_iff.mpr ⟨readName, readDetail, readKind, readRange, readSelection⟩
      cases same
      exact .fields record head ((agree record).mp readChildren)
    · intro denotes
      cases denotes with
      | @fields _ source name detail kind range selection children record head inside =>
        obtain ⟨readName, readDetail, readKind, readRange, readSelection⟩ := head_iff.mp head
        have readChildren := (agree record).mpr inside
        have good : ∀ field ∈ [(source.slot 0 "name" .string).status,
            (source.slotOr 1 "detail" (.option .string) none).status,
            (source.slot 2 "kind" .int32).status, (source.slot 3 "range" Range.ofJson).status,
            (source.slot 4 "selectionRange" Range.ofJson).status,
            (source.slotOr 5 "children" (.list (ofJsonAt levels)) []).status],
            field.2 = .good := by
          simp [Slot.good_of_value readName, Slot.good_of_value readDetail,
            Slot.good_of_value readKind, Slot.good_of_value readRange,
            Slot.good_of_value readSelection, Slot.good_of_value readChildren]
        obtain ⟨found, checked⟩ := Source.good_and_of_iff.mp ⟨good, record⟩
        exact ⟨source, found, (), checked, name, readName, detail, readDetail, kind, readKind,
          range, readRange, selection, readSelection, children, readChildren, rfl⟩

/-- A value is read as a symbol by its fields, whatever its depth. -/
theorem ofJson_eq_ok_iff {value : Json} {symbol : Symbol} :
    ofJson value = .ok symbol ↔ Denotes value symbol :=
  ofJsonAt_eq_ok_iff (Nat.le_refl _)

end Symbol

end LanguageClient
