/-
  CorpusQuery.Proofs.Outcome

  How steps that may fail end: a step after another, and a traversal of a list.
  Each way to end is characterised by what the steps do, so that later proofs
  never unfold the error monad.
-/
import Mathlib.Data.List.Forall2

namespace CorpusQuery.Outcome

variable {ε α β : Type}

/-! ## One step after another -/

theorem bind_ok_iff {first : Except ε α} {next : α → Except ε β} {result : β} :
    (first >>= next) = .ok result ↔ ∃ value, first = .ok value ∧ next value = .ok result := by
  constructor
  · intro h
    cases hfirst : first with
    | error error => rw [hfirst] at h; cases h
    | ok value => rw [hfirst] at h; exact ⟨value, rfl, h⟩
  · rintro ⟨value, hfirst, hnext⟩
    rw [hfirst]
    exact hnext

theorem bind_error_iff {first : Except ε α} {next : α → Except ε β} {error : ε} :
    (first >>= next) = .error error ↔
      first = .error error ∨ ∃ value, first = .ok value ∧ next value = .error error := by
  constructor
  · intro h
    cases hfirst : first with
    | error other => rw [hfirst] at h; exact Or.inl (congrArg Except.error (Except.error.inj h))
    | ok value => rw [hfirst] at h; exact Or.inr ⟨value, rfl, h⟩
  · rintro (hfirst | ⟨value, hfirst, hnext⟩)
    · rw [hfirst]; rfl
    · rw [hfirst]; exact hnext

theorem map_ok_iff {first : Except ε α} {f : α → β} {result : β} :
    first.map f = .ok result ↔ ∃ value, first = .ok value ∧ f value = result := by
  constructor
  · intro h
    cases hfirst : first with
    | error error => rw [hfirst] at h; cases h
    | ok value => rw [hfirst] at h; exact ⟨value, rfl, Except.ok.inj h⟩
  · rintro ⟨value, hfirst, hf⟩
    rw [hfirst, ← hf]
    rfl

theorem exists_map_ok_iff {first : Except ε α} {f : α → β} :
    (∃ result, first.map f = .ok result) ↔ ∃ value, first = .ok value := by
  constructor
  · rintro ⟨result, h⟩
    obtain ⟨value, hvalue, -⟩ := map_ok_iff.mp h
    exact ⟨value, hvalue⟩
  · rintro ⟨value, hvalue⟩
    exact ⟨f value, map_ok_iff.mpr ⟨value, hvalue, rfl⟩⟩

theorem map_error_iff {first : Except ε α} {f : α → β} {error : ε} :
    first.map f = .error error ↔ first = .error error := by
  constructor
  · intro h
    cases hfirst : first with
    | error other => rw [hfirst] at h; exact congrArg Except.error (Except.error.inj h)
    | ok value => rw [hfirst] at h; cases h
  · intro h
    rw [h]
    rfl

/-! ## The first fault -/

/-- The error is that of the first fault there is: none of the faults before it is there. -/
inductive First : List (ε → Prop) → ε → Prop
  | here {fault : ε → Prop} {later : List (ε → Prop)} {error : ε} (h : fault error) :
      First (fault :: later) error
  | later {fault : ε → Prop} {later : List (ε → Prop)} {error : ε} (hnone : ∀ other, ¬ fault other)
      (h : First later error) : First (fault :: later) error

/-- A step and what comes after it fail with the fault of the step, or with the first one after it
if the step has none. -/
theorem bind_error_iff_first {first : Except ε α} {next : α → Except ε β} {fault : ε → Prop}
    {later : List (ε → Prop)} (hfirst : ∀ error, first = .error error ↔ fault error)
    (hnext : ∀ value, first = .ok value → ∀ error, next value = .error error ↔ First later error)
    (error : ε) : (first >>= next) = .error error ↔ First (fault :: later) error := by
  rw [bind_error_iff]
  constructor
  · rintro (h | ⟨value, hvalue, h⟩)
    · exact .here ((hfirst error).mp h)
    · refine .later (fun other hother => ?_) ((hnext value hvalue error).mp h)
      cases hvalue.symm.trans ((hfirst other).mpr hother)
  · rintro (h | ⟨hnone, h⟩)
    · exact .inl ((hfirst error).mpr h)
    · cases hstep : first with
      | ok value => exact .inr ⟨value, rfl, (hnext value hstep error).mpr h⟩
      | error other => exact absurd ((hfirst other).mp hstep) (hnone other)

/-! ## Traversals -/

/-- A traversal succeeds exactly if every step does, and gives the results in order. -/
theorem mapM_cons_ok_iff {f : α → Except ε β} {x : α} {rest : List α} {results : List β} :
    (x :: rest).mapM f = .ok results ↔
      ∃ y ys, f x = .ok y ∧ rest.mapM f = .ok ys ∧ results = y :: ys := by
  rw [List.mapM_cons, bind_ok_iff]
  constructor
  · rintro ⟨y, hy, h⟩
    obtain ⟨ys, hys, h⟩ := bind_ok_iff.mp h
    exact ⟨y, ys, hy, hys, (Except.ok.inj h).symm⟩
  · rintro ⟨y, ys, hy, hys, rfl⟩
    exact ⟨y, hy, bind_ok_iff.mpr ⟨ys, hys, rfl⟩⟩

theorem mapM_ok_iff {f : α → Except ε β} {xs : List α} {results : List β} :
    xs.mapM f = .ok results ↔ List.Forall₂ (fun x y => f x = .ok y) xs results := by
  induction xs generalizing results with
  | nil =>
      rw [List.forall₂_nil_left_iff]
      exact ⟨fun h => (Except.ok.inj h).symm, fun h => by rw [h]; rfl⟩
  | cons x rest ih =>
      rw [mapM_cons_ok_iff, List.forall₂_cons_left_iff]
      simp only [ih]

theorem exists_mapM_ok_iff {f : α → Except ε β} {xs : List α} :
    (∃ results, xs.mapM f = .ok results) ↔ ∀ x ∈ xs, ∃ y, f x = .ok y := by
  induction xs with
  | nil => exact ⟨fun _ x hx => absurd hx List.not_mem_nil, fun _ => ⟨[], rfl⟩⟩
  | cons x rest ih =>
      rw [List.forall_mem_cons, ← ih]
      constructor
      · rintro ⟨results, h⟩
        obtain ⟨y, ys, hy, hys, -⟩ := mapM_cons_ok_iff.mp h
        exact ⟨⟨y, hy⟩, ⟨ys, hys⟩⟩
      · rintro ⟨⟨y, hy⟩, ⟨ys, hys⟩⟩
        exact ⟨y :: ys, mapM_cons_ok_iff.mpr ⟨y, ys, hy, hys, rfl⟩⟩

/-- A traversal fails with the error of the first step that fails. -/
theorem mapM_error_iff {f : α → Except ε β} {xs : List α} {error : ε} :
    xs.mapM f = .error error ↔ ∃ before x after, xs = before ++ x :: after ∧
      (∀ b ∈ before, ∃ y, f b = .ok y) ∧ f x = .error error := by
  induction xs with
  | nil =>
      constructor
      · intro h
        cases h
      · rintro ⟨before, x, after, hsplit, -⟩
        simp at hsplit
  | cons x rest ih =>
      rw [List.mapM_cons, bind_error_iff]
      constructor
      · rintro (hx | ⟨y, hy, h⟩)
        · exact ⟨[], x, rest, rfl, fun b hb => absurd hb List.not_mem_nil, hx⟩
        -- The first step succeeds, so that the failing one is further on.
        · rcases bind_error_iff.mp h with hrest | ⟨ys, -, h⟩
          · obtain ⟨before, z, after, hsplit, hbefore, hz⟩ := ih.mp hrest
            refine ⟨x :: before, z, after, by rw [hsplit, List.cons_append], ?_, hz⟩
            exact List.forall_mem_cons.mpr ⟨⟨y, hy⟩, hbefore⟩
          · cases h
      · rintro ⟨before, z, after, hsplit, hbefore, hz⟩
        cases before with
        | nil =>
            obtain ⟨rfl, rfl⟩ := List.cons.inj hsplit
            exact Or.inl hz
        | cons b before =>
            obtain ⟨rfl, hrest⟩ := List.cons.inj hsplit
            obtain ⟨⟨y, hy⟩, hbefore⟩ := List.forall_mem_cons.mp hbefore
            have hfails := ih.mpr ⟨before, z, after, hrest, hbefore, hz⟩
            exact Or.inr ⟨y, hy, bind_error_iff.mpr (Or.inl hfails)⟩

end CorpusQuery.Outcome
