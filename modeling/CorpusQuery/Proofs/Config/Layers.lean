/-
  CorpusQuery.Proofs.Config.Layers

  What the sources of a configuration say, described apart from the functions
  that read them: the settings that the file in use gives, each under its own
  name, and what a variable of the environment names. Beside it stands what may
  be wrong with each source. The functions give and refuse exactly that.
-/
import CorpusQuery.Config.Load
import CorpusQuery.Proofs.Json.Members
import CorpusQuery.Proofs.Outcome
import CorpusQuery.Proofs.QueryType

namespace CorpusQuery.Config

open Toml (Value)

/-! ## What a file gives -/

/-- The value says the word for something. -/
def SaysWord {α : Type} (word : α → String) (value : Value) (x : α) : Prop :=
  wordOf? value = some (word x)

/-- The value says whether something holds. -/
def SaysTruth (value : Value) (truth : Bool) : Prop :=
  value = .bool truth

/-- What entries give under a name: nothing where the name is missing, else what the value means. -/
inductive Gives {α : Type} (means : Value → α → Prop) (entries : List (String × Value))
    (name : String) : Option α → Prop
  | absent (h : entries.lookup name = none) : Gives means entries name none
  | present {value : Value} {x : α} (h : entries.lookup name = some value)
      (hmeant : means value x) :
      Gives means entries name (some x)

/-- The entries of a section: none where it is missing. -/
inductive HasSection (entries : List (String × Value)) (name : String) (names : List String) :
    List (String × Value) → Prop
  | absent (h : entries.lookup name = none) : HasSection entries name names []
  | present {value : Value} {inner : List (String × Value)} (h : entries.lookup name = some value)
      (hinner : sectionOf? names value = some inner) : HasSection entries name names inner

/-- The entries give the settings of the layer, each under its own name. -/
structure Layer.IsGivenBy (layer : Layer) (entries : List (String × Value)) : Prop where
  logLevel : Gives (SaysWord Log.Level.word) entries "log_level" layer.logLevel
  output : ∃ output, HasSection entries "output" ["format", "pretty"] output ∧
    Gives (SaysWord OutputFormat.word) output "format" layer.format ∧
    Gives SaysTruth output "pretty" layer.pretty
  query : ∃ query, HasSection entries "query" ["default_type"] query ∧
    Gives (SaysWord QueryType.word) query "default_type" layer.defaultType

section Entries

variable {entries : List (String × Value)} {name : String}

theorem setting?_eq_some_iff {α : Type} {read : Value → Option α} {means : Value → α → Prop}
    (hread : ∀ value x, read value = some x ↔ means value x) {given : Option α} :
    setting? read entries name = some given ↔ Gives means entries name given := by
  unfold setting?
  cases hlookup : entries.lookup name with
  | none =>
      constructor
      · intro h
        cases h
        exact .absent hlookup
      · rintro (_ | ⟨h, -⟩)
        · rfl
        · cases hlookup.symm.trans h
  | some value =>
      dsimp only
      rw [Option.map_eq_some_iff]
      constructor
      · rintro ⟨x, hx, rfl⟩
        exact .present hlookup ((hread value x).mp hx)
      · rintro (h | ⟨h, hmeant⟩)
        · cases hlookup.symm.trans h
        · cases hlookup.symm.trans h
          exact ⟨_, (hread _ _).mpr hmeant, rfl⟩

theorem section?_eq_some_iff {names : List String} {inner : List (String × Value)} :
    Config.section? entries name names = some inner ↔ HasSection entries name names inner := by
  unfold section?
  cases hlookup : entries.lookup name with
  | none =>
      constructor
      · intro h
        cases h
        exact .absent hlookup
      · rintro (_ | ⟨h, -⟩)
        · rfl
        · cases hlookup.symm.trans h
  | some value =>
      constructor
      · intro h
        exact .present hlookup h
      · rintro (h | ⟨h, hinner⟩)
        · cases hlookup.symm.trans h
        · cases hlookup.symm.trans h
          exact hinner

theorem bind_wordOf?_eq_some_iff {α : Type} {ofWord? : String → Option α} {word : α → String}
    (h : ∀ text x, ofWord? text = some x ↔ text = word x) (value : Value) (x : α) :
    (wordOf? value).bind ofWord? = some x ↔ SaysWord word value x := by
  rw [Option.bind_eq_some_iff, SaysWord]
  constructor
  · rintro ⟨text, htext, hx⟩
    rw [htext, (h text x).mp hx]
  · intro hword
    exact ⟨word x, hword, (h _ x).mpr rfl⟩

theorem truthOf?_eq_some_iff (value : Value) (truth : Bool) :
    truthOf? value = some truth ↔ SaysTruth value truth := by
  unfold SaysTruth
  cases value <;> simp [truthOf?]

theorem Layer.ofToml?_eq_some_iff {layer : Layer} :
    Layer.ofToml? entries = some layer ↔ layer.IsGivenBy entries := by
  have hlevel : ∀ text x, Log.Level.ofWord? text = some x ↔ text = x.word :=
    fun _ _ => find?_word_eq_some_iff Log.Level.ofWord?_word
  have hformat : ∀ text x, OutputFormat.ofWord? text = some x ↔ text = x.word :=
    fun _ _ => find?_word_eq_some_iff OutputFormat.ofWord?_word
  have htype : ∀ text x, QueryType.ofWord? text = some x ↔ text = x.word :=
    fun _ _ => QueryType.ofWord?_eq_some_iff
  simp only [Layer.ofToml?, Option.bind_eq_bind, Option.bind_eq_some_iff, section?_eq_some_iff,
    setting?_eq_some_iff (bind_wordOf?_eq_some_iff hlevel),
    setting?_eq_some_iff (bind_wordOf?_eq_some_iff hformat),
    setting?_eq_some_iff (bind_wordOf?_eq_some_iff htype),
    setting?_eq_some_iff truthOf?_eq_some_iff]
  constructor
  · rintro ⟨_, hlogLevel, output, houtput, _, hformat, _, hpretty, query, hquery, _, htype, h⟩
    cases h
    exact ⟨hlogLevel, ⟨output, houtput, hformat, hpretty⟩, ⟨query, hquery, htype⟩⟩
  · rintro ⟨hlogLevel, ⟨output, houtput, hformat, hpretty⟩, ⟨query, hquery, htype⟩⟩
    exact ⟨_, hlogLevel, output, houtput, _, hformat, _, hpretty, query, hquery, _, htype, rfl⟩

end Entries

/-! ## The file in use -/

section Files

variable {files : FileSystem} {environment : Environment} {given use : Option String}
  {layer : Layer} {error : LoadError}

/-- The file in use is the one given, if it is there, also where the default file is passed over;
else the default file, if it is there and not passed over; else none. -/
inductive InUse (files : FileSystem) (environment : Environment) :
    Option String → Option String → Prop
  | given {path : String} (h : files.exists? path = true) :
      InUse files environment (some path) (some path)
  | default {path : String} (hmode : environment.testMode = false)
      (hpath : environment.configPath? = some path) (h : files.exists? path = true) :
      InUse files environment none (some path)
  | passedOver (hmode : environment.testMode = true) : InUse files environment none none
  | missing (h : ∀ path, environment.configPath? = some path → files.exists? path = false) :
      InUse files environment none none

theorem fileInUse_eq_ok_iff :
    fileInUse files environment given = .ok use ↔ InUse files environment given use := by
  unfold fileInUse
  cases given with
  | some path =>
      dsimp only
      constructor
      · intro h
        split at h
        · rename_i hexists
          cases h
          exact .given hexists
        · cases h
      · rintro ⟨h⟩
        rw [if_pos h]
  | none =>
      dsimp only
      constructor
      · intro h
        split at h
        · rename_i hmode
          cases h
          exact .passedOver hmode
        · rename_i hmode
          cases h
          cases hdefault : environment.configPath?.filter files.exists? with
          | some path =>
              obtain ⟨hpath, h⟩ := Option.filter_eq_some_iff.mp hdefault
              exact .default (Bool.eq_false_iff.mpr hmode) hpath h
          | none =>
              refine .missing fun path hpath => ?_
              rw [Option.filter_eq_none_iff] at hdefault
              exact Bool.eq_false_iff.mpr (hdefault path hpath)
      · rintro (_ | ⟨hmode, hpath, h⟩ | hmode | h)
        · rw [hmode, if_neg Bool.false_ne_true, hpath, Option.filter_some, if_pos h]
        · rw [if_pos hmode]
        · split
          · rfl
          · refine congrArg Except.ok (Option.filter_eq_none_iff.mpr fun path hpath => ?_)
            exact Bool.eq_false_iff.mp (h path hpath)

theorem fileInUse_eq_error_iff :
    fileInUse files environment given = .error error ↔
      ∃ path, given = some path ∧ files.exists? path = false ∧ error = .notFound path := by
  unfold fileInUse
  cases given with
  | some path =>
      dsimp only
      constructor
      · intro h
        split at h
        · cases h
        · rename_i hexists
          cases h
          exact ⟨path, rfl, Bool.eq_false_iff.mpr hexists, rfl⟩
      · rintro ⟨_, hpath, hexists, rfl⟩
        cases hpath
        rw [hexists]
        rfl
  | none =>
      refine ⟨fun h => ?_, nofun⟩
      dsimp only at h
      split at h <;> cases h

/-- The text is that of a file that gives the settings of the layer. -/
def Layer.IsReadFrom (layer : Layer) (text : String) : Prop :=
  ∃ entries, Toml.parse text = some entries ∧ layer.IsGivenBy entries

theorem Layer.ofText?_eq_some_iff {text : String} :
    Layer.ofText? text = some layer ↔ layer.IsReadFrom text := by
  rw [Layer.ofText?, Option.bind_eq_some_iff]
  exact exists_congr fun entries => and_congr_right fun _ => Layer.ofToml?_eq_some_iff

/-- The settings that the file in use gives; without a file in use there are none. -/
inductive FileGives (files : FileSystem) (environment : Environment) (given : Option String) :
    Layer → Prop
  | file {path text : String} {layer : Layer} (huse : InUse files environment given (some path))
      (htext : files.readText? path = some text) (hlayer : layer.IsReadFrom text) :
      FileGives files environment given layer
  | none (huse : InUse files environment given none) :
      FileGives files environment given .empty

/-- What may be wrong with the file: it is given and not there, it has no text, or its text is no
configuration. -/
inductive FileFault (files : FileSystem) (environment : Environment) :
    Option String → LoadError → Prop
  | notFound {path : String} (h : files.exists? path = false) :
      FileFault files environment (some path) (.notFound path)
  | unreadable {given : Option String} {path : String}
      (huse : InUse files environment given (some path)) (h : files.readText? path = none) :
      FileFault files environment given (.unreadable path)
  | malformed {given : Option String} {path text : String}
      (huse : InUse files environment given (some path)) (htext : files.readText? path = some text)
      (h : ∀ layer : Layer, ¬ layer.IsReadFrom text) :
      FileFault files environment given (.malformed path)

theorem Layer.ofFile_eq_ok_iff {path : String} :
    Layer.ofFile files path = .ok layer ↔
      ∃ text, files.readText? path = some text ∧ layer.IsReadFrom text := by
  unfold Layer.ofFile
  cases htext : files.readText? path with
  | none => exact ⟨nofun, nofun⟩
  | some text =>
      dsimp only
      simp only [Option.some.injEq, exists_eq_left', ← Layer.ofText?_eq_some_iff]
      cases Layer.ofText? text with
      | none => exact ⟨nofun, nofun⟩
      | some found => rw [Except.ok.injEq, Option.some.injEq]

theorem Layer.ofFile_eq_error_iff {path : String} :
    Layer.ofFile files path = .error error ↔
      (files.readText? path = none ∧ error = .unreadable path) ∨
      ∃ text, files.readText? path = some text ∧ (∀ layer : Layer, ¬ layer.IsReadFrom text) ∧
        error = .malformed path := by
  unfold Layer.ofFile
  cases htext : files.readText? path with
  | none =>
      dsimp only
      rw [Except.error.injEq]
      exact ⟨fun h => .inl ⟨rfl, h.symm⟩, by rintro (⟨-, rfl⟩ | ⟨_, h, -⟩) <;> trivial⟩
  | some text =>
      dsimp only
      simp only [Option.some.injEq, exists_eq_left', ← Layer.ofText?_eq_some_iff]
      cases Layer.ofText? text with
      | none =>
          rw [Except.error.injEq]
          exact ⟨fun h => .inr ⟨fun _ => nofun, h.symm⟩, by rintro (⟨h, -⟩ | ⟨-, rfl⟩) <;> trivial⟩
      | some layer =>
          refine ⟨nofun, ?_⟩
          rintro (⟨h, -⟩ | ⟨h, -⟩)
          · cases h
          · exact absurd rfl (h layer)

theorem fileLayer_eq_ok_iff :
    fileLayer files environment given = .ok layer ↔ FileGives files environment given layer := by
  rw [fileLayer, Outcome.bind_ok_iff]
  constructor
  · rintro ⟨_ | path, huse, h⟩
    · cases h
      exact .none (fileInUse_eq_ok_iff.mp huse)
    · obtain ⟨text, htext, hlayer⟩ := Layer.ofFile_eq_ok_iff.mp h
      exact .file (fileInUse_eq_ok_iff.mp huse) htext hlayer
  · rintro (⟨huse, htext, hlayer⟩ | huse)
    · exact ⟨_, fileInUse_eq_ok_iff.mpr huse, Layer.ofFile_eq_ok_iff.mpr ⟨_, htext, hlayer⟩⟩
    · exact ⟨_, fileInUse_eq_ok_iff.mpr huse, rfl⟩

theorem fileLayer_eq_error_iff :
    fileLayer files environment given = .error error ↔ FileFault files environment given error := by
  rw [fileLayer, Outcome.bind_error_iff]
  constructor
  · rintro (h | ⟨_ | path, huse, h⟩)
    · obtain ⟨path, rfl, hmissing, rfl⟩ := fileInUse_eq_error_iff.mp h
      exact .notFound hmissing
    · cases h
    · have huse := fileInUse_eq_ok_iff.mp huse
      rcases Layer.ofFile_eq_error_iff.mp h with ⟨htext, rfl⟩ | ⟨text, htext, hnone, rfl⟩
      · exact .unreadable huse htext
      · exact .malformed huse htext hnone
  · rintro (hmissing | ⟨huse, htext⟩ | ⟨huse, htext, hnone⟩)
    · exact .inl (fileInUse_eq_error_iff.mpr ⟨_, rfl, hmissing, rfl⟩)
    · have h := Layer.ofFile_eq_error_iff.mpr (.inl ⟨htext, rfl⟩)
      exact .inr ⟨_, fileInUse_eq_ok_iff.mpr huse, h⟩
    · have h := Layer.ofFile_eq_error_iff.mpr (.inr ⟨_, htext, hnone, rfl⟩)
      exact .inr ⟨_, fileInUse_eq_ok_iff.mpr huse, h⟩

end Files

/-! ## The variables -/

section Variables

variable {α : Type} {names : String → α → Prop} {blame : String → LoadError}
  {stage : Except LoadError (Option α)} {value : Option String}

/-- What a variable gives: nothing where it is not set, else what its text names. -/
inductive VariableGives (names : String → α → Prop) : Option String → Option α → Prop
  | unset : VariableGives names none none
  | set {text : String} {x : α} (h : names text x) : VariableGives names (some text) (some x)

/-- What may be wrong with a variable: its text names nothing, for which it is blamed. -/
inductive VariableFault (names : String → α → Prop) (blame : String → LoadError) :
    Option String → LoadError → Prop
  | namesNothing {text : String} (h : ∀ x, ¬ names text x) :
      VariableFault names blame (some text) (blame text)

theorem VariableFault.exists_text {error : LoadError} (h : VariableFault names blame value error) :
    ∃ text, value = some text ∧ error = blame text := by
  obtain ⟨-⟩ := h
  exact ⟨_, rfl, rfl⟩

/-- The step reads a variable: it gives what the variable gives, and fails where it is faulty. -/
structure ReadsVariable (names : String → α → Prop) (blame : String → LoadError)
    (value : Option String) (stage : Except LoadError (Option α)) : Prop where
  ok_iff : ∀ found, stage = .ok found ↔ VariableGives names value found
  error_iff : ∀ error, stage = .error error ↔ VariableFault names blame value error

/-- A step reads a variable if it goes by a search that finds exactly what a text names. -/
theorem readsVariable_of_search {search : String → Option α}
    (hsearch : ∀ text x, search text = some x ↔ names text x)
    (hunset : value = none → stage = .ok none)
    (hfound : ∀ text x, value = some text → search text = some x → stage = .ok (some x))
    (hmissing : ∀ text, value = some text → search text = none → stage = .error (blame text)) :
    ReadsVariable names blame value stage := by
  cases value with
  | none =>
      rw [hunset rfl]
      constructor
      · intro found
        rw [Except.ok.injEq]
        exact ⟨fun h => h ▸ .unset, by rintro ⟨⟩; rfl⟩
      · exact fun _ => ⟨nofun, nofun⟩
  | some text =>
      cases hresult : search text with
      | some x =>
          have hx := (hsearch text x).mp hresult
          rw [hfound text x rfl hresult]
          constructor
          · intro found
            rw [Except.ok.injEq]
            constructor
            · rintro rfl
              exact .set hx
            · intro h
              cases h with
              | set hy => exact hresult.symm.trans ((hsearch text _).mpr hy)
          · exact fun _ => ⟨nofun, by rintro ⟨hnone⟩; exact absurd hx (hnone x)⟩
      | none =>
          have hnone : ∀ x, ¬ names text x := by
            intro x hx
            cases hresult.symm.trans ((hsearch text x).mpr hx)
          rw [hmissing text rfl hresult]
          constructor
          · refine fun _ => ⟨nofun, fun h => ?_⟩
            cases h with
            | set hx => exact absurd hx (hnone _)
          · intro error
            rw [Except.error.injEq]
            exact ⟨fun h => h ▸ .namesNothing hnone, by rintro ⟨-⟩; rfl⟩

end Variables

/-- The text is the word for something up to the case of its ASCII letters, with nothing around. -/
def NamesUpToCase {α : Type} (word : α → String) (text : String) (x : α) : Prop :=
  text.toList.map Char.toLower = (word x).toList

/-- The words are all in lower case, so that a search up to case finds the one that is named. -/
theorem find?_foldAscii_eq_some_iff {α : Type} {all : List α} {word : α → String}
    (hall : ∀ x, all.find? (fun y => foldAscii (word y) = foldAscii (word x)) = some x)
    (hword : ∀ x, foldAscii (word x) = (word x).toList) {text : String} {x : α} :
    all.find? (fun y => foldAscii (word y) = foldAscii text) = some x ↔
      NamesUpToCase word text x := by
  rw [find?_word_eq_some_iff hall, hword]
  exact Iff.rfl

theorem levelIgnoringCase?_eq_some_iff {text : String} {level : Log.Level} :
    levelIgnoringCase? text = some level ↔ NamesUpToCase Log.Level.word text level :=
  find?_foldAscii_eq_some_iff (fun x => by cases x <;> rfl) fun x => by cases x <;> rfl

theorem formatIgnoringCase?_eq_some_iff {text : String} {format : OutputFormat} :
    formatIgnoringCase? text = some format ↔ NamesUpToCase OutputFormat.word text format :=
  find?_foldAscii_eq_some_iff (fun x => by cases x <;> rfl) fun x => by cases x <;> rfl

theorem environmentLevel_reads (environment : Environment) :
    ReadsVariable (NamesUpToCase Log.Level.word) .invalidLevel environment.logLevel
      (environmentLevel environment) := by
  unfold environmentLevel
  refine readsVariable_of_search (fun _ _ => levelIgnoringCase?_eq_some_iff) ?_ ?_ ?_
  · intro hvalue
    rw [hvalue]
  · intro text level hvalue hread
    simp only [hvalue, hread]
  · intro text hvalue hread
    simp only [hvalue, hread]

theorem environmentType_reads (environment : Environment) :
    ReadsVariable (fun text type => QueryType.IsNamedBy type text)
      (fun text => .invalidType text (.unsupportedQueryType text)) environment.queryType
      (environmentType environment) := by
  unfold environmentType
  refine readsVariable_of_search (fun _ _ => QueryType.ofText?_eq_some_iff) ?_ ?_ ?_
  · intro hvalue
    rw [hvalue]
  · intro text type hvalue hread
    simp only [hvalue, QueryType.ofText_eq_ok_iff_ofText?.mpr hread]
  · intro text hvalue hread
    simp only [hvalue, QueryType.ofText_of_none hread]

theorem environmentFormat_reads (environment : Environment) :
    ReadsVariable (NamesUpToCase OutputFormat.word) .invalidFormat environment.outputFormat
      (environmentFormat environment) := by
  unfold environmentFormat
  refine readsVariable_of_search (fun _ _ => formatIgnoringCase?_eq_some_iff) ?_ ?_ ?_
  · intro hvalue
    rw [hvalue]
  · intro text format hvalue hread
    simp only [hvalue, hread]
  · intro text hvalue hread
    simp only [hvalue, hread]

end CorpusQuery.Config
