/-
  CorpusQuery.Proofs.Json.Members

  What the members of an object may be, said without the functions that read
  them: a text, a text that may be missing, a list that may be left out, a
  count that stands for one where it is left out. Each reader finds exactly
  what its member spells.
-/
import CorpusQuery.Json.Field
import CorpusQuery.Proofs.Json.Numbers
import Mathlib.Data.List.Forall2

namespace CorpusQuery

/-! ## Lists read item by item -/

/-- Reading a list item by item gives the results, one for each item, in order. -/
theorem mapM_eq_some_iff {α β : Type} {read : α → Option β} {items : List α} {results : List β} :
    items.mapM read = some results ↔
      List.Forall₂ (fun item result => read item = some result) items results := by
  induction items generalizing results with
  | nil =>
      rw [List.mapM_nil, List.forall₂_nil_left_iff]
      constructor
      · intro h
        exact (Option.some.inj h).symm
      · intro h
        rw [h]
        rfl
  | cons item rest ih =>
      rw [List.mapM_cons, List.forall₂_cons_left_iff]
      constructor
      · intro h
        obtain ⟨result, hresult, h⟩ := Option.bind_eq_some_iff.mp h
        obtain ⟨later, hlater, h⟩ := Option.bind_eq_some_iff.mp h
        exact ⟨result, later, hresult, ih.mp hlater, (Option.some.inj h).symm⟩
      · rintro ⟨result, later, hresult, hlater, rfl⟩
        rw [hresult, ih.mpr hlater]
        rfl

/-- Two relations that agree on the items of a list agree on the list. -/
theorem forall₂_congr_of_mem {α β : Type} {first second : α → β → Prop} {items : List α}
    {results : List β} (h : ∀ item ∈ items, ∀ result, first item result ↔ second item result) :
    List.Forall₂ first items results ↔ List.Forall₂ second items results := by
  induction items generalizing results with
  | nil => rw [List.forall₂_nil_left_iff, List.forall₂_nil_left_iff]
  | cons item rest ih =>
      obtain ⟨hitem, hrest⟩ := List.forall_mem_cons.mp h
      rw [List.forall₂_cons_left_iff, List.forall₂_cons_left_iff]
      simp only [hitem, ih hrest]

/-- Every item of a list is related to some item of the list it is related to. -/
theorem exists_of_forall₂_of_mem {α β : Type} {related : α → β → Prop} {items : List α}
    {results : List β} (h : List.Forall₂ related items results) {item : α} (hmem : item ∈ items) :
    ∃ result ∈ results, related item result := by
  induction h with
  | nil => cases hmem
  | cons hfirst hrest ih =>
      rcases List.mem_cons.mp hmem with rfl | hmem
      · exact ⟨_, List.mem_cons_self, hfirst⟩
      · obtain ⟨result, hresult, hrelated⟩ := ih hmem
        exact ⟨result, List.mem_cons_of_mem _ hresult, hrelated⟩

/-- A word names the one thing that is written with it, if every thing is found by its word. -/
theorem find?_word_eq_some_iff {α β : Type} [DecidableEq β] {all : List α} {word : α → β}
    (h : ∀ x, all.find? (fun y => word y = word x) = some x) {text : β} {x : α} :
    all.find? (fun y => word y = text) = some x ↔ text = word x := by
  constructor
  · intro hfound
    have hword := List.find?_some hfound
    exact (of_decide_eq_true hword).symm
  · intro heq
    rw [heq]
    exact h x

namespace Json

/-! ## What members spell -/

/-- The member is a text that may be missing: left out and null both stand for none. -/
inductive OptionalText (value : Json) (name : String) : Option String → Prop
  | absent (h : value.get? name = none) : OptionalText value name none
  | null (h : value.get? name = some .null) : OptionalText value name none
  | text {text : String} (h : value.get? name = some (.str text)) :
      OptionalText value name (some text)

/-- The member is a list that may be left out, which stands for the empty list. -/
inductive OptionalList (value : Json) (name : String) : List Json → Prop
  | absent (h : value.get? name = none) : OptionalList value name []
  | items {items : List Json} (h : value.get? name = some (.arr items)) :
      OptionalList value name items

/-- The member is a count, an integer literal of just its value, or is left out, which stands for
one. -/
inductive OptionalCount (value : Json) (name : String) : UInt32 → Prop
  | absent (h : value.get? name = none) : OptionalCount value name 1
  | integer {n : UInt32} (h : value.get? name = some (.number (.int n.toNat))) :
      OptionalCount value name n

/-- A list that may be left out is the list where it is there. -/
theorem OptionalList.eq_of_get? {value : Json} {name : String} {items found : List Json}
    (h : OptionalList value name items) (hget : value.get? name = some (.arr found)) :
    found = items := by
  cases h with
  | absent habsent => cases habsent.symm.trans hget
  | items hitems => exact Json.arr.inj (Option.some.inj (hget.symm.trans hitems))

/-- A count that may be left out is a count where it is there. -/
theorem OptionalCount.eq_of_get? {value : Json} {name : String} {n : UInt32} {part : Json}
    (h : OptionalCount value name n) (hget : value.get? name = some part) :
    part = .number (.int n.toNat) := by
  cases h with
  | absent habsent => cases habsent.symm.trans hget
  | integer hinteger => exact Option.some.inj (hget.symm.trans hinteger)

/-- There is one count that a member stands for. -/
theorem OptionalCount.unique {value : Json} {name : String} {n m : UInt32}
    (hn : OptionalCount value name n) (hm : OptionalCount value name m) : n = m := by
  cases hn with
  | absent habsent =>
      cases hm with
      | absent => rfl
      | integer hinteger => cases habsent.symm.trans hinteger
  | integer hinteger =>
      have hliteral := hm.eq_of_get? hinteger
      rw [number.injEq, Number.int.injEq, Int.natCast_inj] at hliteral
      exact UInt32.toNat_inj.mp hliteral

/-! ## Readers of members -/

variable {value : Json} {name : String}

theorem get?_obj (members : List (String × Json)) (name : String) :
    (Json.obj members).get? name = lookup name members := rfl

/-- Only objects have members. -/
theorem exists_obj_of_get? {part : Json} (h : value.get? name = some part) :
    ∃ members, value = .obj members := by
  cases value with
  | obj members => exact ⟨members, rfl⟩
  | _ => cases h

theorem text?_eq_some_iff {text : String} :
    text? value name = some text ↔ value.get? name = some (.str text) := by
  unfold text?
  constructor
  · intro h
    split at h
    · rename_i found hfound
      rw [hfound, Option.some.inj h]
    · cases h
  · intro h
    rw [h]

theorem optionalText?_eq_some_iff {members : List (String × Json)} {text : Option String} :
    optionalText? (.obj members) name = some text ↔ OptionalText (.obj members) name text := by
  constructor
  · intro h
    unfold optionalText? at h
    dsimp only at h
    split at h
    · rename_i habsent
      cases h
      exact .absent habsent
    · rename_i hnull
      cases h
      exact .null hnull
    · rename_i found hfound
      cases h
      exact .text hfound
    · cases h
  · intro h
    cases h with
    | absent h => simp only [optionalText?, ← get?_obj, h]
    | null h => simp only [optionalText?, ← get?_obj, h]
    | text h => simp only [optionalText?, ← get?_obj, h]

theorem list?_eq_some_iff {members : List (String × Json)} {items : List Json} :
    list? (.obj members) name = some items ↔ OptionalList (.obj members) name items := by
  constructor
  · intro h
    unfold list? at h
    dsimp only at h
    split at h
    · rename_i habsent
      cases h
      exact .absent habsent
    · rename_i found hfound
      cases h
      exact .items hfound
    · cases h
  · intro h
    cases h with
    | absent h => simp only [list?, ← get?_obj, h]
    | items h => simp only [list?, ← get?_obj, h]

/-- A count is read from the integer of its value and from nothing else: it never wraps. -/
theorem count?_eq_some_iff {n : UInt32} :
    value.count? = some n ↔ value = .number (.int n.toNat) := by
  constructor
  · intro h
    unfold count? at h
    split at h
    · rename_i k
      split at h
      · rename_i hlt
        cases h
        rw [UInt32.toNat_ofNat_of_lt' hlt]
        rfl
      · cases h
    · cases h
  · intro h
    rw [h]
    exact count?_ofCount n

/-- A literal is a count exactly if it is made of the decimal digits of the count. -/
theorem count?_literal_iff {text : List Char} {n : UInt32} :
    ((Number.ofChars? text).bind fun number => (Json.number number).count?) = some n ↔
      text = Nat.toDigits 10 n.toNat := by
  constructor
  · intro h
    obtain ⟨number, hnumber, hcount⟩ := Option.bind_eq_some_iff.mp h
    cases count?_eq_some_iff.mp hcount
    exact Number.eq_toDigits_of_ofChars? hnumber
  · rintro rfl
    have hsmall : n.toNat < Nat.pow 2 53 := Nat.lt_trans n.toNat_lt_size (by decide)
    have hread : Number.ofChars? (Nat.toDigits 10 n.toNat) = some (.int n.toNat) :=
      Number.readsBack_ofNat hsmall
    rw [hread]
    exact count?_ofCount n

theorem countOrOne?_eq_some_iff {members : List (String × Json)} {n : UInt32} :
    countOrOne? (.obj members) name = some n ↔ OptionalCount (.obj members) name n := by
  constructor
  · intro h
    unfold countOrOne? at h
    dsimp only at h
    split at h
    · rename_i habsent
      cases h
      exact .absent habsent
    · rename_i part hpart
      rw [count?_eq_some_iff.mp h] at hpart
      exact .integer hpart
  · intro h
    cases h with
    | absent h => simp only [countOrOne?, ← get?_obj, h]
    | integer h =>
        simp only [countOrOne?, ← get?_obj, h]
        exact count?_ofCount n

/-! ## Parts -/

/-- The proof that a part is smaller plays no part in how it is read. -/
theorem bind_part? {α : Type} (value : Json) (name : String) (read : Json → Option α) :
    ((value.part? name).bind fun part => read part.1) = (value.get? name).bind read := by
  cases hget : value.get? name with
  | none =>
      have hpart : value.part? name = none := by
        unfold part?
        split
        · rename_i found hfound
          cases hget.symm.trans hfound
        · rfl
      rw [hpart]
      rfl
  | some part =>
      rw [part?_of_get? hget]
      rfl

/-- Reads an array item by item. -/
def readItems? {α : Type} (read : Json → Option α) : Json → Option (List α)
  | .arr items => items.mapM read
  | _ => none

/-- Nor do the proofs that the items of an array are smaller. -/
theorem bind_items? {α : Type} (value : Json) (read : Json → Option α) :
    (value.items?.bind fun parts => parts.mapM fun part => read part.1) =
      readItems? read value := by
  cases value with
  | arr items =>
      show (items.attach.map _).mapM _ = items.mapM read
      have hitems : (items.attach.map Subtype.val).mapM read = items.mapM read := by
        rw [List.attach_map_subtype_val]
      rw [← hitems, List.mapM_map, List.mapM_map]
      rfl
  | _ => rfl

/-- A member that is a list is read as an array, and the results are wrapped. -/
theorem bind_list? {α β : Type} (value : Json) (name : String) (read : Json → Option α)
    (wrap : List α → β) :
    ((value.part? name).bind fun list => list.1.items?.bind fun parts =>
      (parts.mapM fun part => read part.1).bind fun results => some (wrap results)) =
      (value.get? name).bind fun list => (readItems? read list).map wrap := by
  rw [← bind_part?]
  refine congrArg (Option.bind _) (funext fun list => ?_)
  rw [← bind_items?, Option.map_eq_bind, Option.bind_assoc]
  rfl

theorem readItems?_eq_some_iff {α : Type} {read : Json → Option α} {results : List α} :
    readItems? read value = some results ↔
      ∃ items, value = .arr items ∧
        List.Forall₂ (fun item result => read item = some result) items results := by
  constructor
  · intro h
    cases value with
    | arr items => exact ⟨items, rfl, mapM_eq_some_iff.mp h⟩
    | _ => cases h
  · rintro ⟨items, rfl, h⟩
    exact mapM_eq_some_iff.mpr h

/-- The items of an array that is a member are smaller than the object. -/
theorem sizeOf_item_lt {items : List Json} {item : Json}
    (h : value.get? name = some (.arr items)) (hmem : item ∈ items) :
    sizeOf item < sizeOf value := by
  have harray := sizeOf_get?_lt h
  have hitem := List.sizeOf_lt_of_mem hmem
  simp only [arr.sizeOf_spec] at harray
  omega

/-- A list that is read from a member is spelled item by item, if this is so for smaller values. -/
theorem bind_readItems?_iff {α β : Type} {read : Json → Option α} {wrap : List α → β}
    {Spells : Json → α → Prop} {result : β}
    (h : ∀ item, sizeOf item < sizeOf value → ∀ x, read item = some x ↔ Spells item x) :
    ((value.get? name).bind fun list => (readItems? read list).map wrap) = some result ↔
      ∃ items results, value.get? name = some (.arr items) ∧ List.Forall₂ Spells items results ∧
        wrap results = result := by
  have hitems : ∀ {items : List Json} {results : List α}, value.get? name = some (.arr items) →
      (List.Forall₂ (fun item x => read item = some x) items results ↔
        List.Forall₂ Spells items results) := by
    intro items results hget
    exact forall₂_congr_of_mem fun item hmem => h item (sizeOf_item_lt hget hmem)
  constructor
  · intro hread
    obtain ⟨list, hget, hread⟩ := Option.bind_eq_some_iff.mp hread
    obtain ⟨results, hresults, hwrap⟩ := Option.map_eq_some_iff.mp hread
    obtain ⟨items, rfl, hspelled⟩ := readItems?_eq_some_iff.mp hresults
    exact ⟨items, results, hget, (hitems hget).mp hspelled, hwrap⟩
  · rintro ⟨items, results, hget, hspelled, rfl⟩
    have hread := readItems?_eq_some_iff.mpr ⟨items, rfl, (hitems hget).mpr hspelled⟩
    rw [hget, Option.bind_some, hread]
    rfl

end Json

end CorpusQuery
