/-
  CorpusQuery.Json.Basic

  JSON values. An object is the list of its members in the order written; of
  members with one name the last counts. The canonical form of a value keeps
  only the members that count and orders them by name.
-/

namespace CorpusQuery

/-- A JSON number: an integer literal by its value, any other literal by its text. A zero with a
sign is no integer literal. -/
inductive Json.Number where
  | int (value : Int)
  | real (literal : String)
  deriving DecidableEq, Repr

/-- A JSON value. -/
inductive Json where
  | null
  | bool (value : Bool)
  | number (value : Json.Number)
  | str (value : String)
  | arr (items : List Json)
  | obj (members : List (String × Json))
  deriving Repr, BEq, Inhabited

namespace Json

/-! ## Members -/

/-- The value of the last member called `name`. -/
def lookup (name : String) : List (String × Json) → Option Json
  | [] => none
  | (key, value) :: rest =>
    match lookup name rest with
    | some later => some later
    | none => if key = name then some value else none

@[simp] theorem lookup_nil (name : String) : lookup name [] = none := rfl

@[simp] theorem lookup_cons (name key : String) (value : Json) (rest : List (String × Json)) :
    lookup name ((key, value) :: rest) =
      (lookup name rest).or (if key = name then some value else none) := by
  rw [lookup]
  cases lookup name rest <;> rfl

@[simp] theorem lookup_append (name : String) (front rest : List (String × Json)) :
    lookup name (front ++ rest) = (lookup name rest).or (lookup name front) := by
  induction front with
  | nil => rw [List.nil_append, lookup_nil, Option.or_none]
  | cons member front ih =>
      obtain ⟨key, value⟩ := member
      rw [List.cons_append, lookup_cons, lookup_cons, ih, Option.or_assoc]

/-- The value of the member called `name`, if the value is an object that has one. -/
def get? (value : Json) (name : String) : Option Json :=
  match value with
  | .obj members => lookup name members
  | _ => none

/-- The value is an object with a member called `name`. -/
def has (value : Json) (name : String) : Bool :=
  (value.get? name).isSome

/-! ## Parts are smaller -/

theorem sizeOf_lookup_lt {name : String} {members : List (String × Json)} {part : Json}
    (h : lookup name members = some part) : sizeOf part < sizeOf members := by
  induction members with
  | nil => simp [lookup] at h
  | cons member rest ih =>
    obtain ⟨key, value⟩ := member
    rw [lookup] at h
    split at h
    · rename_i later hlater
      have hlt := ih (hlater.trans h)
      simp only [List.cons.sizeOf_spec]
      omega
    · split at h
      · cases h
        simp only [List.cons.sizeOf_spec, Prod.mk.sizeOf_spec]
        omega
      · cases h

theorem sizeOf_get?_lt {value : Json} {name : String} {part : Json}
    (h : value.get? name = some part) : sizeOf part < sizeOf value := by
  cases value with
  | obj members =>
    have hlt : sizeOf part < sizeOf members := sizeOf_lookup_lt h
    simp only [obj.sizeOf_spec]
    omega
  | _ => simp [get?] at h

/-- A member of an object, with the proof that it is smaller than the object. -/
def part? (value : Json) (name : String) : Option { part : Json // sizeOf part < sizeOf value } :=
  match h : value.get? name with
  | some part => some ⟨part, sizeOf_get?_lt h⟩
  | none => none

theorem part?_of_get? {value : Json} {name : String} {part : Json}
    (h : value.get? name = some part) : value.part? name = some ⟨part, sizeOf_get?_lt h⟩ := by
  unfold part?
  split
  · rename_i found hfound
    have heq : found = part := Option.some.inj (hfound.symm.trans h)
    subst heq
    rfl
  · rename_i hnone
    cases hnone.symm.trans h

/-- The items of an array, each with the proof that it is smaller than the array. -/
def items? (value : Json) : Option (List { item : Json // sizeOf item < sizeOf value }) :=
  match value with
  | .arr items => some (items.attach.map fun item =>
      ⟨item.1, Nat.lt_of_lt_of_le (List.sizeOf_lt_of_mem item.2)
        (by simp only [arr.sizeOf_spec]; omega)⟩)
  | _ => none

/-! ## Canonical form -/

/-- Adds a member to members ordered by name, unless the name is there already. -/
def addMember (key : String) (value : Json) : List (String × Json) → List (String × Json)
  | [] => [(key, value)]
  | (k, v) :: rest =>
    if key < k then (key, value) :: (k, v) :: rest
    else if key = k then (k, v) :: rest
    else (k, v) :: addMember key value rest

mutual

/-- The value with the members of every object ordered by the code points of their names, and of
members with one name only the last. -/
def canonical : Json → Json
  | .arr items => .arr (canonicalItems items)
  | .obj members => .obj (canonicalMembers members)
  | value => value

/-- The canonical forms of the items of an array. -/
def canonicalItems : List Json → List Json
  | [] => []
  | item :: rest => canonical item :: canonicalItems rest

/-- The canonical members of an object. -/
def canonicalMembers : List (String × Json) → List (String × Json)
  | [] => []
  | (key, value) :: rest => addMember key (canonical value) (canonicalMembers rest)

end

/-! ## Depth -/

mutual

/-- The number of arrays and objects around the innermost value, itself included. -/
def depth : Json → Nat
  | .arr items => depthItems items + 1
  | .obj members => depthMembers members + 1
  | _ => 0

/-- The greatest depth of the items of an array. -/
def depthItems : List Json → Nat
  | [] => 0
  | item :: rest => max (depth item) (depthItems rest)

/-- The greatest depth of the members of an object. -/
def depthMembers : List (String × Json) → Nat
  | [] => 0
  | (_, value) :: rest => max (depth value) (depthMembers rest)

end

end Json

end CorpusQuery
