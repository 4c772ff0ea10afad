import LanguageClient.Number.Binary64

set_option autoImplicit false

/-!
JSON values. An object is the list of its members in ascending key order, one for each key; keys
are ordered by code point, which is the order of their bytes.
-/

namespace LanguageClient

/-- A whole number as JSON keeps it exactly: the range of signed and unsigned 64-bit words. -/
structure Json.Integer where
  value : Int
  lower : -0x8000000000000000 ≤ value
  upper : value < 0x10000000000000000
deriving DecidableEq

inductive Json.Number where
  | integer (value : Json.Integer)
  | double (value : Binary64)
deriving DecidableEq

inductive Json where
  | null
  | bool (value : Bool)
  | number (value : Json.Number)
  | string (value : String)
  | array (elements : List Json)
  | object (members : List (String × Json))

namespace Json

def Integer.ofInt64 (value : Int64) : Integer :=
  ⟨value.toInt, by have := value.le_toInt; omega, by have := value.toInt_lt; omega⟩

def Integer.ofUInt32 (value : UInt32) : Integer :=
  ⟨value.toNat, by omega, by have := value.toNat_lt; omega⟩

def Integer.ofInt32 (value : Int32) : Integer :=
  ⟨value.toInt, by have := value.le_toInt; omega, by have := value.toInt_lt; omega⟩

def Integer.toInt64? (number : Integer) : Option Int64 :=
  if number.value < 0x8000000000000000 then some (Int64.ofInt number.value) else none

/-- The signed 64-bit word that a value holds; a number written as a fraction holds none. -/
def toInt64? : Json → Option Int64
  | .number (.integer value) => value.toInt64?
  | _ => none

def ofInt64 (value : Int64) : Json := .number (.integer (.ofInt64 value))

def ofUInt32 (value : UInt32) : Json := .number (.integer (.ofUInt32 value))

def ofInt32 (value : Int32) : Json := .number (.integer (.ofInt32 value))

def member? (name : String) : Json → Option Json
  | .object members => members.lookup name
  | _ => none

/-- Puts a member in its place, instead of one with the same key. -/
def insert (key : String) (value : Json) : List (String × Json) → List (String × Json)
  | [] => [(key, value)]
  | (name, held) :: rest =>
    if key < name then (key, value) :: (name, held) :: rest
    else if key = name then (key, value) :: rest
    else (name, held) :: insert key value rest

/-- The object with the given members, of which the last one with a key counts. -/
def ofMembers (members : List (String × Json)) : Json :=
  .object (members.foldl (fun held (key, value) => insert key value held) [])

mutual

/-- How many arrays and objects are open at the innermost place. -/
def depth : Json → Nat
  | .null | .bool _ | .number _ | .string _ => 0
  | .array elements => depthOfElements elements + 1
  | .object members => depthOfMembers members + 1

def depthOfElements : List Json → Nat
  | [] => 0
  | value :: rest => max value.depth (depthOfElements rest)

def depthOfMembers : List (String × Json) → Nat
  | [] => 0
  | (_, value) :: rest => max value.depth (depthOfMembers rest)

end

mutual

/-- Every object lists its members in strictly ascending key order. -/
def Canonical : Json → Prop
  | .null | .bool _ | .number _ | .string _ => True
  | .array elements => CanonicalElements elements
  | .object members => members.Pairwise (·.1 < ·.1) ∧ CanonicalMembers members

def CanonicalElements : List Json → Prop
  | [] => True
  | value :: rest => value.Canonical ∧ CanonicalElements rest

def CanonicalMembers : List (String × Json) → Prop
  | [] => True
  | (_, value) :: rest => value.Canonical ∧ CanonicalMembers rest

end

mutual

def decEq : (a b : Json) → Decidable (a = b)
  | .null, .null => isTrue rfl
  | .bool a, .bool b => decidable_of_iff (a = b) (by simp)
  | .number a, .number b => decidable_of_iff (a = b) (by simp)
  | .string a, .string b => decidable_of_iff (a = b) (by simp)
  | .array a, .array b => @decidable_of_iff _ (a = b) (by simp) (decEqElements a b)
  | .object a, .object b => @decidable_of_iff _ (a = b) (by simp) (decEqMembers a b)
  | .null, .bool _ | .null, .number _ | .null, .string _ | .null, .array _ | .null, .object _
  | .bool _, .null | .bool _, .number _ | .bool _, .string _ | .bool _, .array _
  | .bool _, .object _ | .number _, .null | .number _, .bool _ | .number _, .string _
  | .number _, .array _ | .number _, .object _ | .string _, .null | .string _, .bool _
  | .string _, .number _ | .string _, .array _ | .string _, .object _ | .array _, .null
  | .array _, .bool _ | .array _, .number _ | .array _, .string _ | .array _, .object _
  | .object _, .null | .object _, .bool _ | .object _, .number _ | .object _, .string _
  | .object _, .array _ => isFalse (by simp)

def decEqElements : (a b : List Json) → Decidable (a = b)
  | [], [] => isTrue rfl
  | [], _ :: _ | _ :: _, [] => isFalse (by simp)
  | a :: as, b :: bs =>
    match decEq a b with
    | isFalse different => isFalse (by simp [different])
    | isTrue same =>
      match decEqElements as bs with
      | isFalse different => isFalse (by simp [different])
      | isTrue rest => isTrue (by rw [same, rest])

def decEqMembers : (a b : List (String × Json)) → Decidable (a = b)
  | [], [] => isTrue rfl
  | [], _ :: _ | _ :: _, [] => isFalse (by simp)
  | (k, a) :: as, (l, b) :: bs =>
    match decEq a b with
    | isFalse different => isFalse (by simp [different])
    | isTrue same =>
      match decEqMembers as bs with
      | isFalse different => isFalse (by simp [different])
      | isTrue rest =>
        if name : k = l then isTrue (by rw [same, rest, name]) else isFalse (by simp [name])

end

instance : DecidableEq Json := decEq

end Json

end LanguageClient
