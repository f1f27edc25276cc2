/-
  CorpusQuery.Proofs.Text.Stops

  Texts that end at a stop, a character that they do not hold. Where such a
  text ends does not depend on what comes after the stop.
-/

namespace CorpusQuery.Text

variable {stop : Char} {front : List Char}

theorem ne_of_mem_front (h : stop ∉ front) : ∀ c ∈ front, decide (c ≠ stop) = true := by
  intro c hc
  rw [decide_eq_true_eq]
  rintro rfl
  exact h hc

theorem takeWhile_append_stop (h : stop ∉ front) (rest : List Char) :
    (front ++ stop :: rest).takeWhile (· ≠ stop) = front := by
  rw [List.takeWhile_append_of_pos (ne_of_mem_front h), List.takeWhile_cons_of_neg (by simp),
    List.append_nil]

theorem dropWhile_append_stop (h : stop ∉ front) (rest : List Char) :
    (front ++ stop :: rest).dropWhile (· ≠ stop) = stop :: rest := by
  rw [List.dropWhile_append_of_pos (ne_of_mem_front h), List.dropWhile_cons_of_neg (by simp)]

/-- Reads up to the next stop, and passes over it. -/
def readUpTo? (stop : Char) (text : List Char) : Option (List Char × List Char) :=
  match text.dropWhile (· ≠ stop) with
  | _ :: rest => some (text.takeWhile (· ≠ stop), rest)
  | [] => none

theorem readUpTo?_append (h : stop ∉ front) (rest : List Char) :
    readUpTo? stop (front ++ stop :: rest) = some (front, rest) := by
  rw [readUpTo?, dropWhile_append_stop h, takeWhile_append_stop h]

end CorpusQuery.Text
