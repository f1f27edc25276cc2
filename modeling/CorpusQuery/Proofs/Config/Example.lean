/-
  CorpusQuery.Proofs.Config.Example

  Writing the example file. A failure leaves nothing but directories behind; a
  success changes the content of one place, from which the settings of the
  example are read again. Without the word to overwrite the path must lead to
  nothing, which is looked at before the directories on the way are made.
-/
import CorpusQuery.Config.Load
import CorpusQuery.Proofs.FileSystem.Places

namespace CorpusQuery.Config

/-! ## Reading the example -/

/-- The settings of the example file. -/
def exampleConfig : Config where
  logLevel := some .warn
  format := .text
  pretty := false
  defaultType := .fcs

theorem toList_exampleText :
    exampleText.toList = exampleLines.flatMap fun line => line.toList ++ ['\n'] := by
  simp [exampleText, List.flatMap_map]

theorem ofText?_exampleText :
    Layer.ofText? exampleText = some ⟨some .warn, some .text, some false, some .fcs⟩ := by
  -- The joined text is slow to take apart again, so it is read line by line.
  rw [Layer.ofText?, Toml.parse, toList_exampleText]
  decide +kernel

theorem Layer.ofFile_of_ofText? {files : FileSystem} {path text : String} {layer : Layer}
    (hread : files.readText? path = some text) (htext : Layer.ofText? text = some layer) :
    Layer.ofFile files path = .ok layer := by
  rw [Layer.ofFile, hread]
  simp only [htext]

theorem ofFile_of_readText? {files : FileSystem} {path : String}
    (h : files.readText? path = some exampleText) : ofFile files path = .ok exampleConfig := by
  rw [ofFile, Layer.ofFile_of_ofText? h ofText?_exampleText]
  rfl

/-! ## Writing the example -/

/-- What it comes to that the example file is written to a path. -/
structure ExampleWritten (before after : FileSystem) (path : String) (force : Bool)
    (target : String) : Prop where
  /-- the path leads to the place that is written -/
  leads : after.placeOf? path = some target
  content : after.content? target = some (some exampleText)
  /-- and is read as the settings of the example -/
  loads : ofFile after path = .ok exampleConfig
  others : ∀ place, place ≠ target → after.content? place = before.content? place
  /-- without force the path led to nothing -/
  absent : force = false → before.exists? path = false
  /-- so that nothing was at the place, if the path led there -/
  free : force = false → before.placeOf? path = some target → before.get? target = none
  /-- as it does where entries lie in directories and no name leads upwards -/
  free_of_connected : force = false → before.Connected → ".." ∉ Path.names path →
    before.get? target = none

variable {files : FileSystem} {path : String} {force : Bool}

/-- Writing the example fails before or after directories are made, or writes the file. -/
theorem writeExample_cases (files : FileSystem) (path : String) (force : Bool) :
    (∃ error, writeExample files path force = (files, .error error)) ∨
    (∃ error, writeExample files path force = ((files.createParents path).1, .error error)) ∨
    ((force = false → files.exists? path = false) ∧
      ∃ after, (files.createParents path).1.write? path exampleText = some after ∧
        writeExample files path force = (after, .ok ())) := by
  unfold writeExample
  split
  · exact .inl ⟨_, rfl⟩
  · rename_i hallowed
    have habsent : force = false → files.exists? path = false := by
      rintro rfl
      simpa using hallowed
    cases hparents : files.createParents path with
    | mk made complete =>
        cases complete with
        | false => exact .inr (.inl ⟨_, rfl⟩)
        | true =>
            dsimp only
            split
            · rename_i after hwrite
              exact .inr (.inr ⟨habsent, after, hwrite, rfl⟩)
            · exact .inr (.inl ⟨_, rfl⟩)

theorem writeExample_of_error {error : InitError}
    (h : (writeExample files path force).2 = .error error) :
    files.Extends (writeExample files path force).1 := by
  rcases writeExample_cases files path force with ⟨_, hnothing⟩ | ⟨_, hmade⟩ | ⟨-, _, -, hok⟩
  · rw [hnothing]
    exact .refl files
  · rw [hmade]
    dsimp only
    exact files.createParents_extends path
  · rw [hok] at h
    cases h

theorem writeExample_of_ok (h : (writeExample files path force).2 = .ok ()) :
    ∃ target, ExampleWritten files (writeExample files path force).1 path force target := by
  rcases writeExample_cases files path force with
    ⟨_, hnothing⟩ | ⟨_, hmade⟩ | ⟨habsent, after, hwrite, hok⟩
  · rw [hnothing] at h
    cases h
  · rw [hmade] at h
    cases h
  · rw [hok]
    have hextends := files.createParents_extends path
    obtain ⟨target, htarget, hwritten⟩ := FileSystem.written_of_write? hwrite
    -- Nothing is found under the path, so that nothing is where it leads.
    have hfree : force = false → files.placeOf? path = some target →
        files.get? target = none := by
      intro hforce hplace
      have hexists := habsent hforce
      rw [FileSystem.exists?, FileSystem.lookup_of_target? htarget, hplace, Option.bind_some,
        Option.isSome_eq_false_iff] at hexists
      exact Option.isNone_iff_eq_none.mp hexists
    have hfreeConnected : force = false → files.Connected → ".." ∉ Path.names path →
        files.get? target = none := by
      intro hforce hconnected hup
      by_contra hsome
      have hmade := FileSystem.placeOf?_of_target? htarget
      have hplace := hconnected.placeOf?_of_extends hextends hup hmade hsome
      exact hsome (hfree hforce hplace)
    refine ⟨target, ?_⟩
    exact {
      leads := hwritten.placeOf?
      content := hwritten.content?
      loads := ofFile_of_readText? hwritten.readText?
      others := fun place hne => (hwritten.others place hne).trans (hextends.content? place)
      absent := habsent
      free := hfree
      free_of_connected := hfreeConnected }

theorem writeExample_connected (h : files.Connected) (path : String) (force : Bool) :
    (writeExample files path force).1.Connected := by
  rcases writeExample_cases files path force with ⟨_, hnothing⟩ | ⟨_, hmade⟩ | ⟨-, _, hwrite, hok⟩
  · rw [hnothing]
    exact h
  · rw [hmade]
    dsimp only
    exact h.createParents path
  · rw [hok]
    exact (h.createParents path).write? hwrite

end CorpusQuery.Config
