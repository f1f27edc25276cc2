/-
  CorpusQuery.Proofs.FileSystem.Overwriting

  A path that leads to a file can be written to again. The directories on the
  way are there, so that creating them changes nothing
  (`LeadsInto.createParents`), and the names of the way are a beginning of the
  path, so that they keep to the limits it keeps to. Only a place that cannot be
  written stands against it.
-/
import CorpusQuery.Proofs.FileSystem.Places

namespace CorpusQuery

/-! ## Names put together again -/

namespace Path

variable {path name : String} {front : List String}

theorem split_eq_splitOn (text : List Char) : split text = text.splitOn '/' := by
  induction text with
  | nil => rfl
  | cons c rest ih =>
      rw [split, List.splitOn_cons_eq_if_modifyHead, ih]
      by_cases hc : c = '/'
      · rw [if_pos hc, if_pos (beq_iff_eq.mpr hc)]
      · rw [if_neg hc, if_neg (by simpa using hc)]
        cases hsplit : rest.splitOn '/' with
        | nil => exact absurd hsplit (List.splitOn_ne_nil _ _)
        | cons first later => rfl

/-- A path is its names with slashes between them. -/
theorem intercalate_names (path : String) : String.intercalate "/" (names path) = path := by
  apply String.toList_injective
  rw [String.toList_intercalate, names, List.map_map, split_eq_splitOn]
  have hchars : String.toList ∘ String.ofList = id := funext fun _ => String.toList_ofList
  rw [hchars, List.map_id]
  exact List.intercalate_splitOn '/'

/-- What stands at the beginning of a usable path is usable. -/
theorem isUsable_of_append {rest : String} (h : isUsable (path ++ rest) = true) :
    isUsable path = true := by
  simp only [isUsable, Bool.and_eq_true, decide_eq_true_eq, Bool.not_eq_true',
    List.contains_eq_mem, decide_eq_false_iff_not, String.utf8ByteSize_append,
    String.toList_append, List.mem_append, not_or] at h ⊢
  exact ⟨by omega, h.2.1⟩

theorem isUsable_intercalate_of_isPrefix (hfront : front <+: names path)
    (h : isUsable path = true) : isUsable (String.intercalate "/" front) = true := by
  obtain ⟨later, hnames⟩ := hfront
  rw [← intercalate_names path, ← hnames] at h
  cases front with
  | nil => decide
  | cons first front =>
      cases later with
      | nil => rwa [List.append_nil] at h
      | cons next later =>
          rw [String.intercalate_append_of_ne_nil (List.cons_ne_nil _ _)
            (List.cons_ne_nil _ _)] at h
          exact isUsable_of_append (isUsable_of_append h)

/-- A name appended to a path is its last name. -/
theorem exists_names_join_eq (path : String) (h : '/' ∉ name.toList) :
    ∃ front, names (join path name) = front ++ [name] := by
  have hlast : ∀ start : List Char,
      (split (start ++ '/' :: name.toList)).map String.ofList =
        (split start).map String.ofList ++ [name] := by
    intro start
    rw [split_eq_splitOn, List.splitOn_append_cons_self, List.splitOn_eq_singleton h,
      List.map_append, split_eq_splitOn, List.map_singleton, String.ofList_toList]
  unfold join names
  split
  · rename_i hslash
    obtain ⟨start, hstart⟩ := List.getLast?_eq_some_iff.mp hslash
    rw [String.toList_append, hstart, List.append_assoc]
    exact ⟨_, hlast start⟩
  · rw [String.toList_append, String.toList_append, List.append_assoc]
    exact ⟨_, hlast path.toList⟩

/-- The names of the way to the last one, but for those at its end that lead nowhere. -/
theorem exists_parentNames_append (hnames : names path = front ++ [name])
    (hstay : isStay name = false) : ∃ stays, parentNames path ++ stays = front := by
  have hparent : parentNames path = (front.reverse.dropWhile isStay).reverse := by
    rw [parentNames, hnames, List.reverse_append, List.reverse_singleton, List.singleton_append,
      List.dropWhile_cons_of_neg (by rw [hstay]; exact Bool.false_ne_true), List.drop_one,
      List.tail_cons]
  refine ⟨(front.reverse.takeWhile isStay).reverse, ?_⟩
  rw [hparent, ← List.reverse_append, List.takeWhile_append_dropWhile, List.reverse_reverse]

end Path

namespace FileSystem

variable {files after : FileSystem} {path name directory place text : String} {names : List String}

/-! ## Directories that are there -/

/-- Names that lead to a directory start from one. -/
theorem isDirectory_of_follow (h : files.follow place names = some directory)
    (hdirectory : files.isDirectory directory = true) : files.isDirectory place = true := by
  cases names with
  | nil =>
      cases h
      exact hdirectory
  | cons name rest =>
      rw [follow] at h
      split at h
      · assumption
      · cases h

/-- Where names lead to a directory, all directories on the way are there. -/
theorem createDirectories_of_follow (h : files.follow place names = some directory)
    (hdirectory : files.isDirectory directory = true) :
    files.createDirectories place names = (files, true) := by
  induction names generalizing place with
  | nil =>
      cases h
      rw [createDirectories, hdirectory]
  | cons name rest ih =>
      have hplace := isDirectory_of_follow h hdirectory
      rw [follow, if_pos hplace] at h
      -- What the name leads to is a directory too, since the names after it are followed from it.
      have hnext := isDirectory_iff.mp (isDirectory_of_follow h hdirectory)
      rw [createDirectories, if_pos hplace]
      simp only [hnext]
      exact ih h

/-- Nothing has to be made on the way to a path that leads into a directory. -/
theorem LeadsInto.createParents (h : files.LeadsInto path names name directory) :
    files.createParents path = (files, true) := by
  obtain ⟨stays, hparents⟩ := Path.exists_parentNames_append h.names_eq h.stay
  have hbeginning : Path.parentNames path <+: Path.names path := by
    rw [h.names_eq, ← hparents, List.append_assoc]
    exact List.prefix_append _ _
  have hfollow := h.follow
  rw [← hparents, follow_append, Option.bind_eq_some_iff] at hfollow
  -- The names left off at the end start from a directory, for they lead to one.
  obtain ⟨middle, hmiddle, hlater⟩ := hfollow
  rw [FileSystem.createParents,
    if_pos (Path.isUsable_intercalate_of_isPrefix hbeginning h.usable)]
  exact createDirectories_of_follow hmiddle (isDirectory_of_follow hlater h.isDirectory)

/-! ## Files that are there -/

theorem lookup_of_readText? (h : files.readText? path = some text) :
    files.lookup path = some (.file (some text)) := by
  rw [readText?] at h
  split at h
  · rename_i content hlookup
    rw [hlookup, h]
  · cases h

theorem exists?_of_readText? (h : files.readText? path = some text) :
    files.exists? path = true := by
  rw [exists?, lookup_of_readText? h]
  rfl

/-- A path that can be looked up leads into a directory, if its last name is one for an entry. -/
theorem exists_leadsInto_of_lookup {entry : Entry} (hnames : Path.names path = names ++ [name])
    (hstay : Path.isStay name = false) (hup : name ≠ "..") (hfits : Path.fits name = true)
    (h : files.lookup path = some entry) :
    ∃ directory, files.LeadsInto path names name directory := by
  unfold lookup at h
  split at h
  · cases h
  · rename_i husable
    simp only [Bool.or_eq_true, Bool.not_eq_true', not_or, Bool.not_eq_false] at husable
    obtain ⟨place, hplace, -⟩ := Option.bind_eq_some_iff.mp h
    rw [hnames, follow_concat_eq_some_iff] at hplace
    obtain ⟨directory, hfollow, hdirectory, -⟩ := hplace
    exact ⟨directory, hnames, hstay, hup, hfits, husable.2, hfollow, hdirectory⟩

/-- A file that is there with a text can be written again, unless its place cannot be written. -/
theorem LeadsInto.exists_write? (h : files.LeadsInto path names name directory)
    (hread : files.readText? path = some text)
    (hwritable : ∀ place, files.placeOf? path = some place → place ∉ files.refused)
    (content : String) : ∃ after, files.write? path content = some after := by
  have htarget : files.target? path = some (inside directory name) :=
    target?_eq_some_iff.mpr ⟨names, name, directory, h, rfl⟩
  have hplace := placeOf?_of_target? htarget
  refine ⟨_, write?_eq_some_iff.mpr ⟨_, htarget, ?_, hwritable _ hplace, rfl⟩⟩
  by_contra hdirectory
  rw [Bool.not_eq_false, isDirectory_iff] at hdirectory
  rw [readText?, lookup_of_target? htarget, hplace, Option.bind_some, hdirectory] at hread
  cases hread

end FileSystem

end CorpusQuery
