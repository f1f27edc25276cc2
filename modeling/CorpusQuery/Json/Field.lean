/-
  CorpusQuery.Json.Field

  Reading and writing single members of objects: texts, optional texts, lists
  that may be left out, and 32-bit counts.
-/
import CorpusQuery.Json.Basic

namespace CorpusQuery.Json

/-! ## Reading -/

/-- The text of a member that has to be there. -/
def text? (value : Json) (name : String) : Option String :=
  match value.get? name with
  | some (.str text) => some text
  | _ => none

/-- The text of a member that may be left out or null. -/
def optionalText? (value : Json) (name : String) : Option (Option String) :=
  match value with
  | .obj members =>
    match lookup name members with
    | none => some none
    | some .null => some none
    | some (.str text) => some (some text)
    | some _ => none
  | _ => none

/-- The items of a member that may be left out, which stands for no items; null does not. -/
def list? (value : Json) (name : String) : Option (List Json) :=
  match value with
  | .obj members =>
    match lookup name members with
    | none => some []
    | some (.arr items) => some items
    | some _ => none
  | _ => none

/-- A number that is an unsigned integer of 32 bits, written as an integer. -/
def count? : Json → Option UInt32
  | .number (.int (.ofNat n)) => if n < UInt32.size then some (UInt32.ofNat n) else none
  | _ => none

/-- The count of a member that may be left out, which stands for one; null does not. -/
def countOrOne? (value : Json) (name : String) : Option UInt32 :=
  match value with
  | .obj members =>
    match lookup name members with
    | none => some 1
    | some part => part.count?
  | _ => none

/-! ## Writing -/

/-- The JSON form of a count. -/
def ofCount (n : UInt32) : Json :=
  .number (.int n.toNat)

/-- The member for an optional text: none if it is absent. -/
def optionalMember (name : String) : Option String → List (String × Json)
  | some text => [(name, .str text)]
  | none => []

/-- The member for a list: none if it is empty. -/
def listMember (name : String) : List Json → List (String × Json)
  | [] => []
  | items => [(name, .arr items)]

/-! ## Reading what was written -/

@[simp] theorem lookup_optionalMember (name key : String) (text : Option String) :
    lookup name (optionalMember key text) = if key = name then text.map .str else none := by
  cases text with
  | none => simp [optionalMember]
  | some text => simp [optionalMember]

@[simp] theorem lookup_listMember (name key : String) (items : List Json) :
    lookup name (listMember key items) =
      if key = name ∧ items ≠ [] then some (.arr items) else none := by
  cases items with
  | nil => simp [listMember]
  | cons item rest => simp [listMember]

@[simp] theorem count?_ofCount (n : UInt32) : (ofCount n).count? = some n := by
  have hlt : n.toNat < UInt32.size := n.toNat_lt_size
  simp [ofCount, count?, hlt]

variable {members : List (String × Json)} {name : String}

theorem text?_of_lookup {text : String} (h : lookup name members = some (.str text)) :
    text? (.obj members) name = some text := by
  rw [text?, get?, h]

theorem optionalText?_of_lookup {text : Option String}
    (h : lookup name members = text.map .str) : optionalText? (.obj members) name = some text := by
  cases text with
  | none => simp [optionalText?, h]
  | some text => simp [optionalText?, h]

theorem list?_of_lookup {items : List Json}
    (h : lookup name members = if items ≠ [] then some (.arr items) else none) :
    list? (.obj members) name = some items := by
  cases items with
  | nil => simp [list?, h]
  | cons item rest => simp [list?, h]

theorem countOrOne?_of_lookup {n : UInt32} (h : lookup name members = some (ofCount n)) :
    countOrOne? (.obj members) name = some n := by
  simp [countOrOne?, h]

end CorpusQuery.Json
