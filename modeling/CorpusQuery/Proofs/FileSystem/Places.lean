/-
  CorpusQuery.Proofs.FileSystem.Places

  What changes to files leave alone. Creating directories adds nothing but
  directories (`createParents_extends`), and writing a file changes what one
  place holds: the place that the path leads to afterwards. Whether the path
  led there before is another question. It did, if every entry lies in a
  directory and no name of the path leads upwards (`follow_of_extends`).
-/
import CorpusQuery.FileSystem
import CorpusQuery.Proofs.Text.Stops
import Mathlib.Data.List.Induction

namespace CorpusQuery

/-! ## Names of paths -/

namespace Path

theorem slash_not_mem_of_mem_split {text name : List Char} (h : name ∈ split text) :
    '/' ∉ name := by
  induction text generalizing name with
  | nil =>
      rw [List.mem_singleton.mp h]
      exact List.not_mem_nil
  | cons c rest ih =>
      unfold split at h
      split at h
      · rcases List.mem_cons.mp h with rfl | hrest
        · exact List.not_mem_nil
        · exact ih hrest
      · rename_i hc
        -- The character goes in front of the first name of the rest.
        split at h
        · rw [List.mem_singleton.mp h, List.mem_singleton]
          exact fun heq => hc heq.symm
        · rename_i first later hsplit
          rw [hsplit] at ih
          rcases List.mem_cons.mp h with rfl | hlater
          · rw [List.mem_cons, not_or]
            exact ⟨fun heq => hc heq.symm, ih List.mem_cons_self⟩
          · exact ih (List.mem_cons_of_mem _ hlater)

theorem slash_not_mem_of_mem_names {path name : String} (h : name ∈ names path) :
    '/' ∉ name.toList := by
  obtain ⟨chars, hchars, rfl⟩ := List.mem_map.mp h
  rw [String.toList_ofList]
  exact slash_not_mem_of_mem_split hchars

theorem mem_names_of_mem_parentNames {path name : String} (h : name ∈ parentNames path) :
    name ∈ names path := by
  have hinner := (List.dropWhile_sublist isStay).mem (List.mem_reverse.mp h)
  have houter := (List.dropWhile_sublist isStay).mem (List.mem_of_mem_drop hinner)
  exact List.mem_reverse.mp houter

end Path

namespace FileSystem

variable {files before after last : FileSystem} {path place target : String} {names : List String}

/-! ## Contents -/

/-- The content of the file at a place, if there is a file. -/
def content? (files : FileSystem) (place : String) : Option (Option String) :=
  match files.get? place with
  | some (.file content) => some content
  | _ => none

theorem isDirectory_iff : files.isDirectory place = true ↔ files.get? place = some .directory :=
  decide_eq_true_iff

theorem content?_congr (h : after.get? place = before.get? place) :
    after.content? place = before.content? place := by
  rw [content?, h]
  rfl

/-- Directories remain where a directory is added, or where what was no directory is replaced. -/
theorem isDirectory_set {entry : Entry} {other : String} (hroot : place ≠ "")
    (hkept : entry = .directory ∨ files.isDirectory place = false)
    (hother : files.isDirectory other = true) :
    (files.set place entry).isDirectory other = true := by
  rw [isDirectory_iff]
  by_cases heq : other = place
  · subst heq
    rcases hkept with rfl | hfile
    · exact get?_set_self files other .directory hroot
    · rw [hfile] at hother
      cases hother
  · rw [get?_set_ne files entry heq]
    exact isDirectory_iff.mp hother

/-! ## Directories added -/

/-- Nothing is different but that there are more directories. -/
structure Extends (before after : FileSystem) : Prop where
  workingDirectory : after.workingDirectory = before.workingDirectory
  kept_or_added : ∀ place, after.get? place = before.get? place ∨
    (before.get? place = none ∧ after.get? place = some .directory)

theorem Extends.refl (files : FileSystem) : files.Extends files :=
  ⟨rfl, fun _ => .inl rfl⟩

theorem Extends.trans (hfirst : before.Extends after) (hsecond : after.Extends last) :
    before.Extends last := by
  refine ⟨hsecond.workingDirectory.trans hfirst.workingDirectory, fun place => ?_⟩
  rcases hsecond.kept_or_added place with hkept | ⟨hnone, hadded⟩
  · rw [hkept]
    exact hfirst.kept_or_added place
  · rcases hfirst.kept_or_added place with hbefore | ⟨-, hdirectory⟩
    · exact .inr ⟨hbefore.symm.trans hnone, hadded⟩
    · cases hdirectory.symm.trans hnone

theorem extends_set_directory (h : files.get? place = none) :
    files.Extends (files.set place .directory) := by
  have hroot : place ≠ "" := by
    rintro rfl
    cases h
  refine ⟨rfl, fun other => ?_⟩
  by_cases heq : other = place
  · subst heq
    exact .inr ⟨h, get?_set_self files other .directory hroot⟩
  · exact .inl (get?_set_ne files .directory heq)

theorem Extends.content? (h : before.Extends after) (place : String) :
    after.content? place = before.content? place := by
  rcases h.kept_or_added place with hkept | ⟨hnone, hadded⟩
  · exact content?_congr hkept
  · rw [FileSystem.content?, FileSystem.content?, hnone, hadded]

/-- What is there and a directory afterwards was a directory all the time. -/
theorem Extends.isDirectory_of_after (h : before.Extends after)
    (hafter : after.isDirectory place = true) (hsome : before.get? place ≠ none) :
    before.isDirectory place = true := by
  rw [isDirectory_iff] at hafter ⊢
  rcases h.kept_or_added place with hkept | ⟨hnone, -⟩
  · exact hkept.symm.trans hafter
  · exact absurd hnone hsome

/-- What holds of the files and is kept whenever a missing directory is made in a directory holds
after directories are created. -/
theorem createDirectories_induction {motive : FileSystem → Prop} (hfiles : motive files)
    (hmake : ∀ made place name, motive made → name ∈ names → made.isDirectory place = true →
      made.get? (enter place name) = none → motive (made.set (enter place name) .directory))
    (place : String) : motive (files.createDirectories place names).1 := by
  induction names generalizing files place with
  | nil => exact hfiles
  | cons name rest ih =>
      have hrest : ∀ made place name, motive made → name ∈ rest → made.isDirectory place = true →
          made.get? (enter place name) = none →
          motive (made.set (enter place name) .directory) := by
        intro made place name hmade hname
        exact hmake made place name hmade (List.mem_cons_of_mem _ hname)
      unfold createDirectories
      split
      · rename_i hplace
        dsimp only
        split
        · exact ih hfiles hrest _
        · rename_i hnone
          -- A directory that cannot be made ends the work with what is there so far.
          split
          · exact hfiles
          · exact ih (hmake files place name hfiles List.mem_cons_self hplace hnone) hrest _
      · exact hfiles

/-- The directories on the way to a path have names of the path. -/
theorem createParents_induction {motive : FileSystem → Prop} (hfiles : motive files)
    (hmake : ∀ made place name, motive made → name ∈ Path.names path →
      made.isDirectory place = true → made.get? (enter place name) = none →
      motive (made.set (enter place name) .directory)) :
    motive (files.createParents path).1 := by
  unfold createParents
  dsimp only
  split
  · apply createDirectories_induction hfiles
    intro made place name hmade hname
    exact hmake made place name hmade (Path.mem_names_of_mem_parentNames hname)
  · exact hfiles

theorem createParents_extends (files : FileSystem) (path : String) :
    files.Extends (files.createParents path).1 := by
  apply createParents_induction (.refl files)
  intro made place name hmade _ _ hnone
  exact hmade.trans (extends_set_directory hnone)

/-! ## Following names -/

/-- The place that a path leads to. -/
def placeOf? (files : FileSystem) (path : String) : Option String :=
  files.follow (files.start path) (Path.names path)

theorem follow_append (files : FileSystem) (place : String) (first later : List String) :
    files.follow place (first ++ later) =
      (files.follow place first).bind fun middle => files.follow middle later := by
  induction first generalizing place with
  | nil => rfl
  | cons name rest ih =>
      rw [List.cons_append, follow, follow]
      split
      · exact ih _
      · rfl

/-- A name by itself is followed from a directory only. -/
theorem follow_concat_eq_some_iff {name start : String} :
    files.follow start (names ++ [name]) = some place ↔
      ∃ middle, files.follow start names = some middle ∧ files.isDirectory middle = true ∧
        enter middle name = place := by
  rw [follow_append, Option.bind_eq_some_iff]
  refine exists_congr fun middle => and_congr_right fun _ => ?_
  rw [follow]
  by_cases hmiddle : files.isDirectory middle = true
  · rw [if_pos hmiddle, follow, Option.some.injEq]
    exact (and_iff_right hmiddle).symm
  · rw [if_neg hmiddle]
    exact ⟨nofun, fun h => absurd h.1 hmiddle⟩

/-- Names lead to the same place as long as all directories remain. -/
theorem follow_mono
    (hdirectories : ∀ place, before.isDirectory place = true → after.isDirectory place = true)
    {start : String} (h : before.follow start names = some place) :
    after.follow start names = some place := by
  induction names generalizing start with
  | nil => exact h
  | cons name rest ih =>
      rw [follow] at h ⊢
      split at h
      · rename_i hstart
        rw [if_pos (hdirectories _ hstart)]
        exact ih h
      · cases h

theorem start_congr (h : after.workingDirectory = before.workingDirectory) (path : String) :
    after.start path = before.start path := by
  rw [start, h]
  rfl

theorem enter_of_name {name : String} (hstay : Path.isStay name = false) (hup : name ≠ "..") :
    enter place name = inside place name := by
  rw [enter, hstay, if_neg Bool.false_ne_true, if_neg hup]

/-! ## Writing a file -/

/-- The path can be written to: its last name is one that an entry of a directory can have, and the
names before it lead to a directory. -/
structure LeadsInto (files : FileSystem) (path : String) (names : List String)
    (name directory : String) : Prop where
  names_eq : Path.names path = names ++ [name]
  stay : Path.isStay name = false
  up : name ≠ ".."
  fits : Path.fits name = true
  usable : Path.isUsable path = true
  follow : files.follow (files.start path) names = some directory
  isDirectory : files.isDirectory directory = true

theorem target?_eq_some_iff :
    files.target? path = some target ↔
      ∃ names name directory, files.LeadsInto path names name directory ∧
        inside directory name = target := by
  unfold target?
  constructor
  · intro h
    split at h
    · cases h
    · rename_i name rest hreverse
      split at h
      · cases h
      · rename_i hname
        simp only [Bool.or_eq_true, Bool.not_eq_true', decide_eq_true_eq, not_or,
          Bool.not_eq_false, Bool.not_eq_true] at hname
        obtain ⟨⟨⟨hstay, hup⟩, hfits⟩, husable⟩ := hname
        split at h
        · rename_i directory hfollow
          split at h
          · rename_i hdirectory
            have hnames := List.reverse_eq_cons_iff.mp hreverse
            exact ⟨rest.reverse, name, directory,
              ⟨hnames, hstay, hup, hfits, husable, hfollow, hdirectory⟩, Option.some.inj h⟩
          · cases h
        · cases h
  · rintro ⟨names, name, directory, hinto, rfl⟩
    rw [hinto.names_eq, List.reverse_append, List.reverse_singleton, List.singleton_append]
    simp [hinto.stay, hinto.up, hinto.fits, hinto.usable, hinto.follow, hinto.isDirectory]

theorem target?_ne_root (h : files.target? path = some target) : target ≠ "" := by
  obtain ⟨names, name, directory, -, rfl⟩ := target?_eq_some_iff.mp h
  intro hempty
  have hchars := congrArg String.toList hempty
  simp [inside] at hchars

/-- A path leads to the place that is written under it. -/
theorem placeOf?_of_target? (h : files.target? path = some target) :
    files.placeOf? path = some target := by
  obtain ⟨names, name, directory, hinto, rfl⟩ := target?_eq_some_iff.mp h
  rw [placeOf?, hinto.names_eq, follow_concat_eq_some_iff]
  exact ⟨directory, hinto.follow, hinto.isDirectory, enter_of_name hinto.stay hinto.up⟩

/-- A path that can be written to can be looked up. -/
theorem lookup_of_target? (h : files.target? path = some target) (other : FileSystem) :
    other.lookup path = (other.placeOf? path).bind other.get? := by
  obtain ⟨names, name, directory, hinto, -⟩ := target?_eq_some_iff.mp h
  have hpath : path ≠ "" := by
    rintro rfl
    -- The only name of the empty path is empty and leads nowhere.
    have hsingle : [""] = names ++ [name] := hinto.names_eq
    have hmem : name ∈ [""] := by
      rw [hsingle]
      exact List.mem_append_right _ List.mem_cons_self
    have hstay := hinto.stay
    rw [List.mem_singleton.mp hmem] at hstay
    cases hstay
  rw [lookup, if_neg (by simp [hpath, hinto.usable])]
  rfl

theorem write?_eq_some_iff {content : String} :
    files.write? path content = some after ↔
      ∃ target, files.target? path = some target ∧ files.isDirectory target = false ∧
        target ∉ files.refused ∧ after = files.set target (.file (some content)) := by
  unfold write?
  cases htarget : files.target? path with
  | none => exact ⟨nofun, nofun⟩
  | some place =>
      dsimp only
      split
      · rename_i hrefused
        refine ⟨nofun, ?_⟩
        rintro ⟨target, htarget', hdirectory, hrefused', -⟩
        cases htarget'
        simp [hdirectory, hrefused'] at hrefused
      · rename_i hwritable
        simp only [Bool.or_eq_true, decide_eq_true_eq, not_or, Bool.not_eq_true] at hwritable
        constructor
        · intro h
          exact ⟨place, rfl, hwritable.1, hwritable.2, (Option.some.inj h).symm⟩
        · rintro ⟨target, htarget', -, -, rfl⟩
          cases htarget'
          rfl

/-- What writing a file comes to: one place has other content, and the path leads to it. -/
structure Written (before after : FileSystem) (path content target : String) : Prop where
  placeOf? : after.placeOf? path = some target
  readText? : after.readText? path = some content
  content? : after.content? target = some (some content)
  others : ∀ place, place ≠ target → after.content? place = before.content? place

theorem written_of_write? {content : String} (h : files.write? path content = some after) :
    ∃ target, files.target? path = some target ∧ Written files after path content target := by
  obtain ⟨target, htarget, hfile, -, rfl⟩ := write?_eq_some_iff.mp h
  have hset := get?_set_self files target (.file (some content)) (target?_ne_root htarget)
  -- The place written is no directory, so that all directories on the way remain.
  have hplace : (files.set target (.file (some content))).placeOf? path = some target :=
    follow_mono (fun _ => isDirectory_set (target?_ne_root htarget) (.inr hfile))
      (placeOf?_of_target? htarget)
  refine ⟨target, htarget, hplace, ?_, ?_, fun place hne => ?_⟩
  · rw [FileSystem.readText?, lookup_of_target? htarget, hplace, Option.bind_some, hset]
  · rw [FileSystem.content?, hset]
  · exact content?_congr (get?_set_ne files _ hne)

/-! ## Entries in directories -/

/-- Every entry lies in a directory, as it does wherever entries are made one by one. -/
def Connected (files : FileSystem) : Prop :=
  ∀ place, files.get? place ≠ none → files.isDirectory (around place) = true

theorem around_inside {name : String} (h : '/' ∉ name.toList) (place : String) :
    around (inside place name) = place := by
  have hname : '/' ∉ name.toList.reverse := fun hmem => h (List.mem_reverse.mp hmem)
  have hchars : (inside place name).toList.reverse =
      name.toList.reverse ++ '/' :: place.toList.reverse := by
    simp [inside]
  rw [around, hchars, Text.dropWhile_append_stop hname]
  simp

/-- An entry in a directory leaves the files connected, if it replaces no directory. -/
theorem Connected.set (h : files.Connected) {entry : Entry} (hroot : place ≠ "")
    (haround : files.isDirectory (around place) = true)
    (hkept : entry = .directory ∨ files.isDirectory place = false) :
    (files.set place entry).Connected := by
  intro other hother
  apply isDirectory_set hroot hkept
  by_cases heq : other = place
  · rw [heq]
    exact haround
  · rw [get?_set_ne files entry heq] at hother
    exact h other hother

theorem Connected.isDirectory_around_enter (h : files.Connected) {name : String}
    (hslash : '/' ∉ name.toList) (hplace : files.isDirectory place = true)
    (hnone : files.get? (enter place name) = none) :
    files.isDirectory (around (enter place name)) = true := by
  have hsome : files.get? place ≠ none := by
    rw [isDirectory_iff.mp hplace]
    exact nofun
  unfold enter at hnone ⊢
  split
  · exact h place hsome
  · rename_i hstay
    split
    · rename_i hup
      -- What lies around a directory is there.
      rw [if_neg hstay, if_pos hup, isDirectory_iff.mp (h place hsome)] at hnone
      cases hnone
    · rw [around_inside hslash]
      exact hplace

theorem Connected.createParents (h : files.Connected) (path : String) :
    (files.createParents path).1.Connected := by
  apply createParents_induction h
  intro made place name hmade hname hplace hnone
  have hroot : enter place name ≠ "" := by
    intro hempty
    rw [hempty] at hnone
    cases hnone
  have hslash := Path.slash_not_mem_of_mem_names hname
  exact hmade.set hroot (hmade.isDirectory_around_enter hslash hplace hnone) (.inl rfl)

theorem Connected.write? {content : String} (h : files.Connected)
    (hwrite : files.write? path content = some after) : after.Connected := by
  obtain ⟨target, htarget, hfile, -, rfl⟩ := write?_eq_some_iff.mp hwrite
  refine h.set (target?_ne_root htarget) ?_ (.inr hfile)
  obtain ⟨names, name, directory, hinto, rfl⟩ := target?_eq_some_iff.mp htarget
  have hmem : name ∈ Path.names path := by
    rw [hinto.names_eq]
    exact List.mem_append_right _ List.mem_cons_self
  rw [around_inside (Path.slash_not_mem_of_mem_names hmem)]
  exact hinto.isDirectory

/-- Where no name leads upwards, names lead to what is there already without the directories that
are added. -/
theorem Connected.follow_of_extends (h : before.Connected) (hextends : before.Extends after)
    {start : String} (hslash : ∀ name ∈ names, '/' ∉ name.toList) (hup : ".." ∉ names)
    (hfollow : after.follow start names = some place) (hplace : before.get? place ≠ none) :
    before.follow start names = some place := by
  -- From the last name back to the first: what is around a place that is there is there.
  induction names using List.reverseRecOn generalizing place with
  | nil => exact hfollow
  | append_singleton rest name ih =>
      rw [List.forall_mem_append] at hslash
      rw [List.mem_append, not_or, List.mem_singleton] at hup
      obtain ⟨middle, hmiddle, hdirectory, rfl⟩ := follow_concat_eq_some_iff.mp hfollow
      have hthere : before.get? middle ≠ none := by
        unfold enter at hplace
        split at hplace
        · exact hplace
        · rw [if_neg fun heq => hup.2 heq.symm] at hplace
          have haround := h _ hplace
          rw [around_inside (hslash.2 name List.mem_cons_self), isDirectory_iff] at haround
          rw [haround]
          exact nofun
      exact follow_concat_eq_some_iff.mpr ⟨middle, ih hslash.1 hup.1 hmiddle hthere,
        hextends.isDirectory_of_after hdirectory hthere, rfl⟩

/-- So does a path. -/
theorem Connected.placeOf?_of_extends (h : before.Connected) (hextends : before.Extends after)
    (hup : ".." ∉ Path.names path) (hafter : after.placeOf? path = some place)
    (hplace : before.get? place ≠ none) : before.placeOf? path = some place := by
  rw [FileSystem.placeOf?, start_congr hextends.workingDirectory] at hafter
  have hslash : ∀ name ∈ Path.names path, '/' ∉ name.toList := by
    intro name hname
    exact Path.slash_not_mem_of_mem_names hname
  exact h.follow_of_extends hextends hslash hup hafter hplace

end FileSystem

end CorpusQuery
