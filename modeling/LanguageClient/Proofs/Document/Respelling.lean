import LanguageClient.Proofs.Document.Reading
import LanguageClient.Proofs.Json.Member
import LanguageClient.Proofs.Json.RoundTrip

set_option autoImplicit false

namespace LanguageClient

open Json

/-! ### Places -/

namespace Position

def fieldNames : List String := ["line", "character"]

/-- Values that write a position, each field once. -/
inductive Spelled : Json → Position → Prop where
  | members {members : List (String × Json)} {items : String → Option Json}
      {line character : UInt32} (holds : HoldsEach fieldNames items members)
      (hasLine : items "line" = some (.ofUInt32 line))
      (hasCharacter : items "character" = some (.ofUInt32 character)) :
      Spelled (.object members) ⟨line, character⟩

def Respelling : Json → Json → Prop := Rewording fieldNames

variable {json other : Json} {position : Position}

theorem spelled_toJson (position : Position) : Spelled position.toJson position :=
  .members (fun _ _ => holds_lookup (by simp)) rfl rfl

theorem Spelled.respelled (spelled : Spelled json position) (changed : Respelling json other) :
    Spelled other position := by
  cases spelled with
  | members holds hasLine hasCharacter =>
    obtain ⟨others, same, kept⟩ := changed.exists_members holds
    rw [same]
    exact .members kept hasLine hasCharacter

theorem Spelled.denotes (spelled : Spelled json position) : Denotes json position := by
  cases spelled with
  | members holds hasLine hasCharacter =>
    have found {name : String} (known : name ∈ fieldNames) := (holds name known).lookup
    exact .fields (.object _) ((found (by decide)).trans hasLine)
      ((found (by decide)).trans hasCharacter)

theorem Spelled.reread (spelled : Spelled json position) : Spelled json.reread position := by
  cases spelled with
  | members holds hasLine hasCharacter =>
    exact .members holds.reread (by rw [hasLine]; rfl) (by rw [hasCharacter]; rfl)

end Position

namespace Range

def fieldNames : List String := ["start", "end"]

inductive Spelled : Json → Range → Prop where
  | members {members : List (String × Json)} {items : String → Option Json} {start stop : Json}
      {first last : Position} (holds : HoldsEach fieldNames items members)
      (hasFirst : items "start" = some start) (isFirst : Position.Spelled start first)
      (hasLast : items "end" = some stop) (isLast : Position.Spelled stop last) :
      Spelled (.object members) ⟨first, last⟩

inductive Respelling : Json → Json → Prop where
  | outside {json other : Json} (changed : Rewording fieldNames json other) : Respelling json other
  | first {json other : Json} (changed : Inside "start" Position.Respelling json other) :
      Respelling json other
  | last {json other : Json} (changed : Inside "end" Position.Respelling json other) :
      Respelling json other

variable {json other : Json} {range : Range}

theorem spelled_toJson (range : Range) : Spelled range.toJson range :=
  .members (fun _ _ => holds_lookup (by simp)) rfl range.first.spelled_toJson rfl
    range.last.spelled_toJson

theorem Spelled.respelled (spelled : Spelled json range) (changed : Respelling json other) :
    Spelled other range := by
  cases spelled with
  | members holds hasFirst isFirst hasLast isLast =>
    cases changed with
    | outside changed =>
      obtain ⟨others, same, kept⟩ := changed.exists_members holds
      rw [same]
      exact .members kept hasFirst isFirst hasLast isLast
    | first changed =>
      obtain ⟨others, value, next, same, held, inner, differ⟩ :=
        changed.exists_members (holds "start" (by decide))
      cases hasFirst.symm.trans held
      rw [same]
      exact .members (differ.holdsEach holds) rfl (isFirst.respelled inner) hasLast isLast
    | last changed =>
      obtain ⟨others, value, next, same, held, inner, differ⟩ :=
        changed.exists_members (holds "end" (by decide))
      cases hasLast.symm.trans held
      rw [same]
      exact .members (differ.holdsEach holds) hasFirst isFirst rfl (isLast.respelled inner)

theorem Spelled.denotes (spelled : Spelled json range) : Denotes json range := by
  cases spelled with
  | members holds hasFirst isFirst hasLast isLast =>
    have found {name : String} (known : name ∈ fieldNames) := (holds name known).lookup
    exact .fields (.object _) ⟨_, (found (by decide)).trans hasFirst, isFirst.denotes⟩
      ⟨_, (found (by decide)).trans hasLast, isLast.denotes⟩

theorem Spelled.reread (spelled : Spelled json range) : Spelled json.reread range := by
  cases spelled with
  | members holds hasFirst isFirst hasLast isLast =>
    exact .members holds.reread (by rw [hasFirst]; rfl) isFirst.reread (by rw [hasLast]; rfl)
      isLast.reread

end Range

/-! ### Symbols -/

namespace Symbol

def fieldNames : List String := ["name", "detail", "kind", "range", "selectionRange", "children"]

/-- Values that write a symbol, each field once. -/
inductive Spelled : Json → Symbol → Prop where
  | members {members : List (String × Json)} {items : String → Option Json} {name : String}
      {detail : Option String} {kind : Int32} {range selection : Range} {children : List Symbol}
      {outer inner : Json} (holds : HoldsEach fieldNames items members)
      (hasName : items "name" = some (.string name)) (isDetail : DetailOf (items "detail") detail)
      (hasKind : items "kind" = some (.ofInt32 kind)) (hasRange : items "range" = some outer)
      (isRange : range.Spelled outer) (hasSelection : items "selectionRange" = some inner)
      (isSelection : Range.Spelled inner selection)
      (areChildren : ChildrenOf Spelled (items "children") children) :
      Spelled (.object members) (mk name detail kind range selection children)

/-- One change of a written symbol, or of one inside it. -/
inductive Respelling : Json → Json → Prop where
  | outside {json other : Json} (changed : Rewording fieldNames json other) : Respelling json other
  | range {json other : Json} (changed : Inside "range" Range.Respelling json other) :
      Respelling json other
  | selection {json other : Json} (changed : Inside "selectionRange" Range.Respelling json other) :
      Respelling json other
  | nullDetail {json other : Json} (added : Added "detail" .null json other) : Respelling json other
  | noChildren {json other : Json} (removed : Added "children" (.array []) other json) :
      Respelling json other
  | child {json other held next : Json} (changed : Respelling held next)
      (inside : Inside "children" (Replaced held next) json other) : Respelling json other

theorem forall₂_map_of_mem {first second : Json → Symbol → Prop} {change : Json → Json}
    {elements : List Json} {children : List Symbol} (all : List.Forall₂ first elements children)
    (each : ∀ child ∈ children, ∀ value, first value child → second (change value) child) :
    List.Forall₂ second (elements.map change) children := by
  induction all with
  | nil => exact .nil
  | cons head tail ih =>
    obtain ⟨now, later⟩ := List.forall_mem_cons.mp each
    exact .cons (now _ head) (ih later)

theorem forall₂_replace {related : Json → Symbol → Prop} {earlier later : List Json}
    {held next : Json} {children : List Symbol}
    (all : List.Forall₂ related (earlier ++ held :: later) children)
    (replaces : ∀ {child}, related held child → related next child) :
    List.Forall₂ related (earlier ++ next :: later) children := by
  induction earlier generalizing children with
  | nil =>
    cases all with
    | cons head tail => exact .cons (replaces head) tail
  | cons value earlier ih =>
    cases all with
    | cons head tail => exact .cons head (ih tail)

theorem toJsonAll_eq_map (symbols : List Symbol) : toJsonAll symbols = symbols.map toJson := by
  induction symbols with
  | nil => rfl
  | cons symbol rest ih => rw [toJsonAll, ih, List.map_cons]

theorem rereadElements_eq_map (elements : List Json) :
    rereadElements elements = elements.map Json.reread := by
  induction elements with
  | nil => rfl
  | cons value rest ih => rw [rereadElements, ih, List.map_cons]

theorem DetailOf.reread {item : Option Json} {detail : Option String}
    (isDetail : DetailOf item detail) : DetailOf (item.map Json.reread) detail := by
  cases isDetail with
  | absent => exact .absent
  | null => exact .null
  | text text => exact .text text

section

variable {first second : Json → Symbol → Prop} {item : Option Json} {children : List Symbol}

theorem ChildrenOf.imp (areChildren : ChildrenOf first item children)
    (each : ∀ child ∈ children, ∀ value, first value child → second value child) :
    ChildrenOf second item children := by
  cases areChildren with
  | absent => exact .absent
  | @list elements _ all =>
    have inside : List.Forall₂ second (elements.map id) children := forall₂_map_of_mem all each
    rw [List.map_id] at inside
    exact .list inside

theorem ChildrenOf.reread (areChildren : ChildrenOf first item children)
    (each : ∀ child ∈ children, ∀ value, first value child → second value.reread child) :
    ChildrenOf second (item.map Json.reread) children := by
  cases areChildren with
  | absent => exact .absent
  | list all =>
    have inside := forall₂_map_of_mem all each
    rw [← rereadElements_eq_map] at inside
    exact .list inside

end

variable {json other : Json} {symbol : Symbol}

theorem spelled_toJson (symbol : Symbol) : Spelled symbol.toJson symbol := by
  induction symbol with
  | mk name detail kind range selection children ih =>
    have inside : List.Forall₂ Spelled (toJsonAll children) children := by
      rw [toJsonAll_eq_map, List.forall₂_map_left_iff]
      exact List.forall₂_same.mpr ih
    cases detail with
    | none =>
      exact .members (fun _ _ => holds_lookup (by simp)) rfl .absent rfl rfl range.spelled_toJson
        rfl selection.spelled_toJson (.list inside)
    | some text =>
      exact .members (fun _ _ => holds_lookup (by simp)) rfl (.text text) rfl rfl
        range.spelled_toJson rfl selection.spelled_toJson (.list inside)

/-- One change keeps what is written, by the depth at which it is made. -/
theorem Spelled.respelled (spelled : Spelled json symbol) (changed : Respelling json other) :
    Spelled other symbol := by
  induction changed generalizing symbol with
  | outside changed =>
    cases spelled with
    | members holds hasName isDetail hasKind hasRange isRange hasSelection isSelection
        areChildren =>
      obtain ⟨others, same, kept⟩ := changed.exists_members holds
      rw [same]
      exact .members kept hasName isDetail hasKind hasRange isRange hasSelection isSelection
        areChildren
  | range changed =>
    cases spelled with
    | members holds hasName isDetail hasKind hasRange isRange hasSelection isSelection
        areChildren =>
      obtain ⟨others, value, next, same, held, inner, differ⟩ :=
        changed.exists_members (holds "range" (by decide))
      cases hasRange.symm.trans held
      rw [same]
      exact .members (differ.holdsEach holds) hasName isDetail hasKind rfl (isRange.respelled inner)
        hasSelection isSelection areChildren
  | selection changed =>
    cases spelled with
    | members holds hasName isDetail hasKind hasRange isRange hasSelection isSelection
        areChildren =>
      obtain ⟨others, value, next, same, held, inner, differ⟩ :=
        changed.exists_members (holds "selectionRange" (by decide))
      cases hasSelection.symm.trans held
      rw [same]
      exact .members (differ.holdsEach holds) hasName isDetail hasKind hasRange isRange rfl
        (isSelection.respelled inner) areChildren
  | nullDetail added =>
    cases spelled with
    | @members _ items _ _ _ _ _ _ _ _ holds hasName isDetail hasKind hasRange isRange hasSelection
        isSelection areChildren =>
      obtain ⟨_, others, same, following, differ⟩ := added.exists_members
      cases same
      have absent : items "detail" = none := (holds "detail" (by decide)).unique differ.old
      rw [absent] at isDetail
      cases isDetail
      rw [following]
      exact .members (differ.holdsEach holds) hasName .null hasKind hasRange isRange hasSelection
        isSelection areChildren
  | noChildren removed =>
    cases spelled with
    | @members _ items _ _ _ _ _ _ _ _ holds hasName isDetail hasKind hasRange isRange hasSelection
        isSelection areChildren =>
      obtain ⟨others, _, following, same, differ⟩ := removed.exists_members
      cases same
      have empty : items "children" = some (.array []) :=
        (holds "children" (by decide)).unique differ.new
      rw [empty] at areChildren
      cases areChildren with
      | list all =>
        cases all
        rw [following]
        exact .members (differ.symm.holdsEach holds) hasName isDetail hasKind hasRange isRange
          hasSelection isSelection .absent
  | child changed inside ih =>
    cases spelled with
    | @members _ items _ _ _ _ _ _ _ _ holds hasName isDetail hasKind hasRange isRange hasSelection
        isSelection areChildren =>
      obtain ⟨others, value, next, same, held, replaced, differ⟩ :=
        inside.exists_members (holds "children" (by decide))
      rw [held] at areChildren
      cases replaced with
      | element earlier later =>
        cases areChildren with
        | list all =>
          rw [same]
          exact .members (differ.holdsEach holds) hasName isDetail hasKind hasRange isRange
            hasSelection isSelection (.list (forall₂_replace all ih))

theorem Spelled.denotes (spelled : Spelled json symbol) : Denotes json symbol := by
  induction symbol generalizing json with
  | mk name detail kind range selection children ih =>
    cases spelled with
    | @members members items _ _ _ _ _ _ outer inner holds hasName isDetail hasKind hasRange isRange
        hasSelection isSelection areChildren =>
      have found {name : String} (known : name ∈ fieldNames) := (holds name known).lookup
      have head : Head (.members members) name detail kind range selection := by
        refine ⟨(found (by decide)).trans hasName, ?_, (found (by decide)).trans hasKind,
          ⟨outer, (found (by decide)).trans hasRange, isRange.denotes⟩,
          ⟨inner, (found (by decide)).trans hasSelection, isSelection.denotes⟩⟩
        rw [Source.item?_members, found (by decide)]
        exact isDetail
      refine .fields (.object members) head ?_
      rw [Source.item?_members, found (by decide)]
      exact areChildren.imp fun child mem value spelled => ih child mem spelled

theorem Spelled.reread (spelled : Spelled json symbol) : Spelled json.reread symbol := by
  induction symbol generalizing json with
  | mk name detail kind range selection children ih =>
    cases spelled with
    | members holds hasName isDetail hasKind hasRange isRange hasSelection isSelection
        areChildren =>
      exact .members holds.reread (by rw [hasName]; rfl) isDetail.reread (by rw [hasKind]; rfl)
        (by rw [hasRange]; rfl) isRange.reread (by rw [hasSelection]; rfl) isSelection.reread
        (areChildren.reread fun child mem value spelled => ih child mem spelled)

/-- However often a written symbol is changed, it is read as the symbol, as a value of any depth and
as a text of as many levels as a text may have. -/
theorem ofJson_of_respelled (changes : Relation.ReflTransGen Respelling symbol.toJson json) :
    ofJson symbol.toJson = .ok symbol ∧ ofJson json = .ok symbol ∧
      (json.depth ≤ Json.depthLimit →
        ∃ value, Json.parse json.encode = .ok value ∧ ofJson value = .ok symbol) := by
  have spelled : Spelled json symbol := by
    -- Each change is made to a value that spells the symbol already.
    induction changes with
    | refl => exact spelled_toJson symbol
    | tail _ changed ih => exact ih.respelled changed
  refine ⟨ofJson_eq_ok_iff.mpr (spelled_toJson symbol).denotes,
    ofJson_eq_ok_iff.mpr spelled.denotes, fun shallow => ?_⟩
  refine ⟨json.reread, ?_, ofJson_eq_ok_iff.mpr spelled.reread.denotes⟩
  rw [Json.parse_encode_eq, if_pos shallow]

/-- A symbol with null for its detail and a tagged name, around one without a list of children. -/
theorem ofJson_with_tag_and_null :
    ofJson (.object [("name", .string "Shape"), ("tags", .array []), ("detail", .null),
        ("kind", .ofInt32 23), ("range", Range.toJson ⟨⟨0, 0⟩, ⟨9, 1⟩⟩),
        ("selectionRange", Range.toJson ⟨⟨0, 7⟩, ⟨0, 12⟩⟩),
        ("children", .array [.object [("name", .string "area"), ("detail", .string "f64"),
          ("kind", .ofInt32 8), ("range", Range.toJson ⟨⟨1, 4⟩, ⟨1, 13⟩⟩),
          ("selectionRange", Range.toJson ⟨⟨1, 4⟩, ⟨1, 8⟩⟩)]])]) =
      .ok (mk "Shape" none 23 ⟨⟨0, 0⟩, ⟨9, 1⟩⟩ ⟨⟨0, 7⟩, ⟨0, 12⟩⟩
        [mk "area" (some "f64") 8 ⟨⟨1, 4⟩, ⟨1, 13⟩⟩ ⟨⟨1, 4⟩, ⟨1, 8⟩⟩ []]) := by
  have area : Respelling (toJson (mk "area" (some "f64") 8 ⟨⟨1, 4⟩, ⟨1, 13⟩⟩ ⟨⟨1, 4⟩, ⟨1, 8⟩⟩ []))
      (.object [("name", .string "area"), ("detail", .string "f64"), ("kind", .ofInt32 8),
        ("range", Range.toJson ⟨⟨1, 4⟩, ⟨1, 13⟩⟩),
        ("selectionRange", Range.toJson ⟨⟨1, 4⟩, ⟨1, 8⟩⟩)]) :=
    .noChildren (@Added.member "children" (.array []) [_, _, _, _, _] [] (by decide))
  refine (@ofJson_of_respelled _ (mk "Shape" none 23 ⟨⟨0, 0⟩, ⟨9, 1⟩⟩ ⟨⟨0, 7⟩, ⟨0, 12⟩⟩
    [mk "area" (some "f64") 8 ⟨⟨1, 4⟩, ⟨1, 13⟩⟩ ⟨⟨1, 4⟩, ⟨1, 8⟩⟩ []]) (.tail (.tail (.tail .refl
      (.child area (@Inside.member "children" _ [_, _, _, _] [] _ _ (.element [] []))))
      (.nullDetail (@Added.member "detail" .null [_] [_, _, _, _] ?_)))
      (.outside (@Rewording.more fieldNames [_] [_, _, _, _, _] "tags" (.array []) ?_)))).2.1
  · decide
  · decide

end Symbol

end LanguageClient
