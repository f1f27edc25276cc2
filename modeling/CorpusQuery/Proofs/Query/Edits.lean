/-
  CorpusQuery.Proofs.Query.Edits

  Edits of the JSON form of a query that leave its meaning alone, at any depth:
  members in another order, members that are no fields, defaults written out or
  left out, and flags named in another order or more often. Each edit leaves
  every field as it is read, so any number of them leaves what is read.
-/
import CorpusQuery.Proofs.Query.Kinds
import Mathlib.Data.Set.List
import Mathlib.Logic.Relation

namespace CorpusQuery

namespace Json

/-! ## Looking up a member among others -/

theorem lookup_insert_self (name : String) (front rest : List (String × Json)) (value : Json) :
    lookup name (front ++ (name, value) :: rest) = (lookup name rest).or (some value) := by
  rw [lookup_append, lookup_cons, if_pos rfl]
  cases lookup name rest <;> rfl

theorem lookup_insert_of_ne {name key : String} (hne : name ≠ key)
    (front rest : List (String × Json)) (value : Json) :
    lookup name (front ++ (key, value) :: rest) = lookup name (front ++ rest) := by
  rw [lookup_append, lookup_cons, if_neg (Ne.symm hne), Option.or_none, lookup_append]

theorem lookup_insert_of_absent {name : String} {front rest : List (String × Json)}
    (h : lookup name (front ++ rest) = none) (value : Json) :
    lookup name (front ++ (name, value) :: rest) = some value := by
  rw [lookup_append, Option.or_eq_none_iff] at h
  rw [lookup_insert_self, h.1, Option.none_or]

/-- Where no name is given twice the order of the members makes no difference. -/
theorem lookup_perm {members other : List (String × Json)} (hperm : members.Perm other)
    (hnodup : (members.map Prod.fst).Nodup) (name : String) :
    lookup name other = lookup name members := by
  induction hperm with
  | nil => rfl
  | cons member hperm ih =>
      obtain ⟨key, value⟩ := member
      obtain ⟨-, hrest⟩ := List.nodup_cons.mp hnodup
      rw [lookup_cons, lookup_cons, ih hrest]
  | swap first second rest =>
      obtain ⟨key, value⟩ := first
      obtain ⟨other, later⟩ := second
      obtain ⟨hfirst, -⟩ := List.nodup_cons.mp hnodup
      have hne : key ≠ other := fun heq => hfirst (heq ▸ List.mem_cons_self)
      simp only [lookup_cons, Option.or_assoc]
      by_cases hname : key = name
      · have hother : other ≠ name := fun heq => hne (hname.trans heq.symm)
        rw [if_pos hname, if_neg hother, Option.or_none, Option.none_or]
      · rw [if_neg hname, Option.or_none, Option.none_or]
  | trans hfirst hsecond ihFirst ihSecond =>
      have hmiddle := (hfirst.map Prod.fst).nodup_iff.mp hnodup
      rw [ihSecond hmiddle, ihFirst hnodup]

end Json

namespace Query

open Json (lookup lookup_insert_self lookup_insert_of_ne
  lookup_insert_of_absent optionalText? list? countOrOne? readItems?)
open Relation (ReflTransGen)

/-! ## Edits -/

/-- What may be written for a field that is missing. -/
def Form.default? : Form → Option Json
  | .optionalText => some .null
  | .count => some (.number (.int 1))
  | .flags => some (.arr [])
  | .optionalItems _ => some (.arr [])
  | _ => none

/-- One edit of an object of a kind, or of an object at some depth below it. -/
inductive Edit : Kind → Json → Json → Prop
  /-- the members in another order, where of members with one name the same one counts -/
  | reorder {kind : Kind} {members other : List (String × Json)} (hperm : members.Perm other)
      (hcounts : ∀ name, lookup name other = lookup name members) :
      Edit kind (.obj members) (.obj other)
  /-- one more member that is no field -/
  | add {kind : Kind} {front rest : List (String × Json)} {key : String} {value : Json}
      (hkey : kind.field? (.obj (front ++ rest)) key = none) :
      Edit kind (.obj (front ++ rest)) (.obj (front ++ (key, value) :: rest))
  /-- another value for a member that is no field -/
  | replace {kind : Kind} {front rest : List (String × Json)} {key : String} {value other : Json}
      (hkey : kind.field? (.obj (front ++ (key, value) :: rest)) key = none) :
      Edit kind (.obj (front ++ (key, value) :: rest)) (.obj (front ++ (key, other) :: rest))
  /-- a default that is written out -/
  | writeOut {kind : Kind} {front rest : List (String × Json)} {name : String} {form : Form}
      {value : Json} (hfield : kind.field? (.obj (front ++ rest)) name = some form)
      (hdefault : form.default? = some value) (habsent : lookup name (front ++ rest) = none) :
      Edit kind (.obj (front ++ rest)) (.obj (front ++ (name, value) :: rest))
  /-- a default that is left out -/
  | leaveOut {kind : Kind} {front rest : List (String × Json)} {name : String} {form : Form}
      {value : Json} (hfield : kind.field? (.obj (front ++ (name, value) :: rest)) name = some form)
      (hdefault : form.default? = some value) (habsent : lookup name (front ++ rest) = none) :
      Edit kind (.obj (front ++ (name, value) :: rest)) (.obj (front ++ rest))
  /-- the same flags in another order, or some of them more often or less often -/
  | flags {kind : Kind} {front rest : List (String × Json)} {name : String}
      {items other : List Json}
      (hfield : kind.field? (.obj (front ++ (name, .arr items) :: rest)) name = some .flags)
      (hsame : ∀ item, item ∈ other ↔ item ∈ items) :
      Edit kind (.obj (front ++ (name, .arr items) :: rest))
        (.obj (front ++ (name, .arr other) :: rest))
  /-- an edit of an object below -/
  | part {kind inner : Kind} {front rest : List (String × Json)} {name : String}
      {value other : Json}
      (hfield : kind.field? (.obj (front ++ (name, value) :: rest)) name = some (.part inner))
      (hedit : Edit inner value other) :
      Edit kind (.obj (front ++ (name, value) :: rest)) (.obj (front ++ (name, other) :: rest))
  /-- an edit of an object in a list -/
  | item {kind inner : Kind} {front rest : List (String × Json)} {name : String} {form : Form}
      {before after : List Json} {value other : Json}
      (hform : form = .items inner ∨ form = .optionalItems inner)
      (hfield : kind.field? (.obj (front ++ (name, .arr (before ++ value :: after)) :: rest)) name =
        some form)
      (hedit : Edit inner value other) :
      Edit kind (.obj (front ++ (name, .arr (before ++ value :: after)) :: rest))
        (.obj (front ++ (name, .arr (before ++ other :: after)) :: rest))

/-! ## Fields after an edit -/

/-- A field with the same value is read alike. -/
theorem Form.alike_of_lookup {members other : List (String × Json)} {name : String}
    (h : lookup name other = lookup name members) (form : Form) :
    form.Alike name (.obj members) (.obj other) := by
  have hget : (Json.obj other).get? name = (Json.obj members).get? name := h
  have hlist : list? (.obj other) name = list? (.obj members) name := by simp only [list?, h]
  cases form with
  | exact => exact hget
  | optionalText => simp only [Form.Alike, optionalText?, h]
  | count => simp only [Form.Alike, countOrOne?, h]
  | flags => exact congrArg (Option.bind · _) hlist
  | part kind => exact congrArg (Option.bind · _) hget
  | items kind => exact congrArg (Option.bind · _) hget
  | optionalItems kind => exact congrArg (Option.bind · _) hlist

theorem Form.Alike.symm {form : Form} {name : String} {value other : Json}
    (h : form.Alike name value other) : form.Alike name other value := by
  cases form <;> exact Eq.symm h

/-- The default of a field is read as the field that is missing. -/
theorem Form.alike_default {form : Form} {value : Json} (h : form.default? = some value)
    {members other : List (String × Json)} {name : String} (habsent : lookup name members = none)
    (hwritten : lookup name other = some value) :
    form.Alike name (.obj members) (.obj other) := by
  cases form with
  | optionalText => cases h; simp only [Form.Alike, optionalText?, habsent, hwritten]
  | count => cases h; simp only [Form.Alike, countOrOne?, habsent, hwritten]; rfl
  | flags => cases h; simp only [Form.Alike, list?, habsent, hwritten]
  | optionalItems kind => cases h; simp only [Form.Alike, list?, habsent, hwritten]
  | _ => cases h

/-- Two values differ in one member, which is read alike if it is a field. -/
theorem Kind.alike_of_member {kind : Kind} {members other : List (String × Json)} (name : String)
    (hothers : ∀ key, key ≠ name → lookup key other = lookup key members)
    (hmember : ∀ form, kind.field? (.obj members) name = some form →
      form.Alike name (.obj members) (.obj other)) :
    kind.Alike (.obj members) (.obj other) := by
  intro key form hform
  by_cases hkey : key = name
  · subst hkey
    exact hmember form hform
  · exact form.alike_of_lookup (hothers key hkey)

/-- Another value for a member is read alike if its form is, and also if a later member with that
name counts. -/
theorem Kind.alike_of_value {kind : Kind} {front rest : List (String × Json)} {name : String}
    {value other : Json} {form : Form}
    (hfield : kind.field? (.obj (front ++ (name, value) :: rest)) name = some form)
    (halike : ∀ members after : List (String × Json), lookup name members = some value →
      lookup name after = some other → form.Alike name (.obj members) (.obj after)) :
    kind.Alike (.obj (front ++ (name, value) :: rest)) (.obj (front ++ (name, other) :: rest)) := by
  refine Kind.alike_of_member name ?_ ?_
  · intro key hkey
    rw [lookup_insert_of_ne hkey, lookup_insert_of_ne hkey]
  · intro found hfound
    cases hfound.symm.trans hfield
    have hbefore := lookup_insert_self name front rest value
    have hafter := lookup_insert_self name front rest other
    cases hlater : lookup name rest with
    | none =>
        rw [hlater] at hbefore hafter
        exact halike _ _ hbefore hafter
    | some later =>
        rw [hlater] at hbefore hafter
        exact form.alike_of_lookup (hafter.trans hbefore.symm)

/-! ### Lists -/

/-- A list is read alike if the item that differs is. -/
theorem mapM_replace {α β : Type} {read : α → Option β} {x y : α} (h : read y = read x)
    (before after : List α) :
    (before ++ y :: after).mapM read = (before ++ x :: after).mapM read := by
  simp only [List.mapM_append, List.mapM_cons, h]

/-- Only which flags a list names counts. -/
theorem spells_of_same {items other : List Json} {flags : Fcs.FlagSet}
    (hsame : ∀ item, item ∈ other ↔ item ∈ items) (h : Fcs.FlagSet.Spells items flags) :
    Fcs.FlagSet.Spells other flags := by
  obtain ⟨named, rfl, hnamed⟩ := h
  have hinjective : Function.Injective fun flag : Fcs.RegexFlag => Json.str flag.word := by
    intro first second heq
    have hword := congrArg Fcs.RegexFlag.ofWord? (Json.str.inj heq)
    rw [Fcs.RegexFlag.ofWord?_word, Fcs.RegexFlag.ofWord?_word] at hword
    exact Option.some.inj hword
  obtain ⟨others, hothers⟩ : other ∈ Set.range (List.map fun flag : Fcs.RegexFlag =>
      Json.str flag.word) := by
    rw [Set.range_list_map]
    intro item hitem
    obtain ⟨flag, -, hflag⟩ := List.mem_map.mp ((hsame item).mp hitem)
    exact ⟨flag, hflag⟩
  refine ⟨others, hothers.symm, fun flag => (hnamed flag).trans ?_⟩
  rw [← List.mem_map_of_injective hinjective, ← hsame, ← hothers,
    List.mem_map_of_injective hinjective]

theorem readFlags?_of_same {items other : List Json} (hsame : ∀ item, item ∈ other ↔ item ∈ items) :
    readFlags? other = readFlags? items := by
  have hread : ∀ items flags, readFlags? items = some flags ↔ Fcs.FlagSet.Spells items flags := by
    intro items flags
    rw [readFlags?, Option.map_eq_some_iff, Fcs.FlagSet.spells_iff]
  refine Option.ext fun flags => ?_
  rw [hread, hread]
  exact ⟨spells_of_same fun item => (hsame item).symm, spells_of_same hsame⟩

/-! ## Reading after edits -/

/-- An edit leaves what is read. -/
theorem Edit.read_eq {kind : Kind} {value other : Json} (h : Edit kind value other) :
    kind.read other = kind.read value := by
  -- All edits but a reordering are of one member; those of a part go by induction.
  induction h with
  | reorder hperm hcounts =>
      exact Kind.Alike.read fun name form _ => form.alike_of_lookup (hcounts name)
  | @add kind front rest key value hkey =>
      refine (Kind.alike_of_member key (fun other hne => ?_) fun form hform => ?_).read
      · exact lookup_insert_of_ne hne front rest value
      · cases hkey.symm.trans hform
  | @replace kind front rest key value other hkey =>
      refine (Kind.alike_of_member key (fun other hne => ?_) fun form hform => ?_).read
      · rw [lookup_insert_of_ne hne, lookup_insert_of_ne hne]
      · cases hkey.symm.trans hform
  | @writeOut kind front rest name form value hfield hdefault habsent =>
      refine (Kind.alike_of_member name (fun other hne => ?_) fun found hfound => ?_).read
      · exact lookup_insert_of_ne hne front rest value
      · cases hfield.symm.trans hfound
        exact Form.alike_default hdefault habsent (lookup_insert_of_absent habsent value)
  | @leaveOut kind front rest name form value hfield hdefault habsent =>
      refine (Kind.alike_of_member name (fun other hne => ?_) fun found hfound => ?_).read
      · exact (lookup_insert_of_ne hne front rest value).symm
      · cases hfield.symm.trans hfound
        exact (Form.alike_default hdefault habsent (lookup_insert_of_absent habsent value)).symm
  | flags hfield hsame =>
      refine (Kind.alike_of_value hfield fun members after hmembers hafter => ?_).read
      simp only [Form.Alike, list?, hmembers, hafter, Option.bind_some]
      exact readFlags?_of_same hsame
  | part hfield hedit ih =>
      refine (Kind.alike_of_value hfield fun members after hmembers hafter => ?_).read
      simp only [Form.Alike, Json.get?, hmembers, hafter, Option.bind_some]
      exact ih
  | item hform hfield hedit ih =>
      refine (Kind.alike_of_value hfield fun members after hmembers hafter => ?_).read
      rcases hform with rfl | rfl
      · simp only [Form.Alike, Json.get?, hmembers, hafter, Option.bind_some, readItems?]
        exact mapM_replace ih _ _
      · simp only [Form.Alike, list?, hmembers, hafter, Option.bind_some]
        exact mapM_replace ih _ _

/-- So do any number of them. -/
theorem read_eq_of_edits {kind : Kind} {value other : Json}
    (h : ReflTransGen (Edit kind) value other) : kind.read other = kind.read value := by
  -- The invariant is that the value reached so far is read as the first one.
  induction h with
  | refl => rfl
  | tail _ hedit ih => exact hedit.read_eq.trans ih

end Query

end CorpusQuery
