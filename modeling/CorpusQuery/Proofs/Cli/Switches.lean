/-
  CorpusQuery.Proofs.Cli.Switches

  Arguments that give no format may be told one in front of the others. They are
  then read as the same command with that format: each step of the reading goes
  the same way next to a format as without it.
-/
import CorpusQuery.Cli.Run
import CorpusQuery.Proofs.Outcome

namespace CorpusQuery.Cli

/-! ## Settings -/

namespace Settings

/-- The settings with a format. -/
def withFormat (settings : Settings) (format : OutputFormat) : Settings :=
  { settings with format := some format }

/-- Where the step comes to settings without a format, it has begun at such, and it goes the same
way next to any format. -/
def Passes (step : Settings → Except Stop Settings) : Prop :=
  ∀ settings next, step settings = .ok next → next.format = none →
    settings.format = none ∧
      ∀ format, step (settings.withFormat format) = .ok (next.withFormat format)

theorem has_withFormat {switch : Switch} (hswitch : switch ≠ .format) (settings : Settings)
    (format : OutputFormat) : (settings.withFormat format).has switch = settings.has switch := by
  cases switch with
  | format => exact absurd rfl hswitch
  | _ => rfl

theorem passes_flag {switch : Switch} (hswitch : switch ≠ .format) :
    Passes fun settings => settings.flag switch := by
  intro settings next h hnone
  simp only [flag, has_withFormat hswitch] at h ⊢
  split at h
  · cases h
  · rename_i hmet
    simp only [if_neg hmet]
    cases switch <;> cases h <;> exact ⟨hnone, fun _ => rfl⟩

theorem passes_value (switch : Switch) (text : String) :
    Passes fun settings => settings.value switch text := by
  intro settings next h hnone
  -- The value of the format would have been taken over.
  have hswitch : switch ≠ .format := by
    rintro rfl
    simp only [value] at h
    split at h
    · cases h
    · split at h
      · cases h
        cases hnone
      · cases h
  simp only [value, has_withFormat hswitch] at h ⊢
  split at h
  · cases h
  · rename_i hmet
    simp only [if_neg hmet]
    cases switch with
    | format => exact absurd rfl hswitch
    | logLevel =>
        cases hword : Log.Level.ofWord? text with
        | none => simp only [hword] at h; cases h
        | some level => simp only [hword] at h; cases h; exact ⟨hnone, fun _ => rfl⟩
    | config =>
        simp only at h ⊢
        split at h
        · cases h
        · cases h
          exact ⟨hnone, fun _ => if_neg ‹_›⟩
    | _ => cases h; exact ⟨hnone, fun _ => rfl⟩

/-- What the commands above add to settings without a format goes the same way. -/
theorem under_withFormat {outer inner : Settings} (h : (outer.under inner).format = none) :
    outer.format = none ∧ ∀ format,
      (outer.withFormat format).under inner = (outer.under inner).withFormat format := by
  obtain ⟨hinner, houter⟩ : inner.format = none ∧ outer.format = none := by
    simpa [under] using h
  refine ⟨houter, fun format => ?_⟩
  simp [under, withFormat, hinner]

end Settings

/-! ## One argument -/

namespace Reading

/-- The reading with a format. -/
def withFormat (reading : Reading) (format : OutputFormat) : Reading :=
  { reading with settings := reading.settings.withFormat format }

@[simp] theorem context_withFormat (reading : Reading) (format : OutputFormat) :
    (reading.withFormat format).context = reading.context := rfl

@[simp] theorem pending_withFormat (reading : Reading) (format : OutputFormat) :
    (reading.withFormat format).pending = reading.pending := rfl

@[simp] theorem operandsOnly_withFormat (reading : Reading) (format : OutputFormat) :
    (reading.withFormat format).operandsOnly = reading.operandsOnly := rfl

@[simp] theorem operand_withFormat (reading : Reading) (format : OutputFormat) :
    (reading.withFormat format).settings.operand = reading.settings.operand := rfl

/-- Where the step comes to a reading without a format, it has begun at such, and it goes the same
way next to any format. -/
def Passes (step : Reading → Except Stop Reading) : Prop :=
  ∀ reading next, step reading = .ok next → next.settings.format = none →
    reading.settings.format = none ∧
      ∀ format, step (reading.withFormat format) = .ok (next.withFormat format)

theorem Passes.bind {first second : Reading → Except Stop Reading} (hfirst : Passes first)
    (hsecond : Passes second) : Passes fun reading => first reading >>= second := by
  intro reading last h hnone
  obtain ⟨next, hnext, hlast⟩ := Outcome.bind_ok_iff.mp h
  obtain ⟨hmiddle, hsecondWith⟩ := hsecond next last hlast hnone
  obtain ⟨hbegin, hfirstWith⟩ := hfirst reading next hnext hmiddle
  exact ⟨hbegin, fun format => Outcome.bind_ok_iff.mpr ⟨_, hfirstWith format, hsecondWith format⟩⟩

theorem passes_error (stop : Stop) : Passes fun _ => .error stop := by
  intro reading next h
  cases h

/-- A step that leaves the settings alone. -/
theorem passes_pending (pending : Option Pending) :
    Passes fun reading => .ok { reading with pending := pending } := by
  intro reading next h hnone
  cases h
  exact ⟨hnone, fun _ => rfl⟩

/-- A step that takes over settings. -/
theorem passes_settings {step : Settings → Except Stop Settings} (hstep : Settings.Passes step) :
    Passes fun reading => do
      let settings ← step reading.settings
      return { reading with settings := settings } := by
  intro reading next h hnone
  obtain ⟨settings, hsettings, h⟩ := Outcome.bind_ok_iff.mp h
  cases h
  obtain ⟨hbegin, hwith⟩ := hstep _ _ hsettings hnone
  exact ⟨hbegin, fun format => Outcome.bind_ok_iff.mpr ⟨_, hwith format, rfl⟩⟩

theorem passes_settle : Passes settle := by
  rintro ⟨context, settings, pending, operandsOnly⟩ next h hnone
  -- Pending may be nothing, a switch that lacks its value, a switch with a value, or an operand.
  rcases pending with _ | switch | ⟨switch, value⟩ | value
  · cases h
    exact ⟨hnone, fun _ => rfl⟩
  · cases h
  · obtain ⟨taken, hvalue, rfl⟩ := Outcome.map_ok_iff.mp h
    obtain ⟨hbegin, hwith⟩ := Settings.passes_value switch value _ _ hvalue hnone
    exact ⟨hbegin, fun format => Outcome.map_ok_iff.mpr ⟨_, hwith format, rfl⟩⟩
  · simp only [settle] at h
    split at h
    · cases h
    · cases h
      exact ⟨hnone, fun format => if_neg ‹_›⟩

theorem passes_flag {switch : Switch} (hswitch : switch ≠ .format) :
    Passes fun reading => reading.flag switch := by
  refine passes_settle.bind ?_
  have htake := passes_settings (Settings.passes_flag hswitch)
  cases switch with
  | help => exact fun _ _ h => nomatch h
  | version => exact passes_error _
  | _ => exact htake

theorem passes_attached (switch : Switch) (value : String) :
    Passes fun reading => reading.attached switch value :=
  passes_settle.bind (passes_settings (Settings.passes_value switch value))

theorem passes_await (switch : Switch) : Passes fun reading => reading.await switch :=
  passes_settle.bind (passes_pending (some (.awaiting switch)))

theorem ne_format_of_takesNone {switch : Switch} (h : ¬ switch.takesValue = true) :
    switch ≠ .format := by
  rintro rfl
  exact h rfl

theorem passes_long (text : List Char) : Passes fun reading => reading.long text := by
  intro reading next h
  -- The switch and its value do not depend on the format.
  simp only [long, context_withFormat] at h ⊢
  generalize Switch.ofLong? reading.context _ = found at h ⊢
  generalize text.dropWhile _ = value at h ⊢
  rcases found with _ | switch
  · cases h
  · rcases value with _ | ⟨sign, value⟩
    · by_cases htakes : switch.takesValue
      · simp only [if_pos htakes] at h ⊢
        exact passes_await switch reading next h
      · simp only [if_neg htakes] at h ⊢
        exact passes_flag (ne_format_of_takesNone htakes) reading next h
    · by_cases htakes : switch.takesValue
      · simp only [if_pos htakes] at h ⊢
        exact passes_attached switch _ reading next h
      · simp only [if_neg htakes] at h
        cases h

theorem passes_letters (text : List Char) : Passes fun reading => reading.letters text := by
  induction text with
  | nil =>
      intro reading next h hnone
      cases h
      exact ⟨hnone, fun _ => rfl⟩
  | cons letter rest ih =>
      intro reading next h
      simp only [letters, context_withFormat] at h ⊢
      generalize Switch.ofLetter? reading.context letter = found at h ⊢
      rcases found with _ | switch
      · cases h
      · by_cases htakes : switch.takesValue
        · -- The rest of the argument is the value.
          simp only [if_pos htakes] at h ⊢
          split at h
          · exact passes_await switch reading next h
          · exact passes_attached switch _ reading next h
          · exact passes_attached switch _ reading next h
        · simp only [if_neg htakes] at h ⊢
          exact ((passes_flag (ne_format_of_takesNone htakes)).bind ih) reading next h

theorem passes_operand (argument : String) : Passes fun reading => reading.operand argument := by
  intro reading next h
  have htake := passes_settle.bind (passes_pending (some (.operand argument)))
  simp only [operand, context_withFormat, pending_withFormat, operand_withFormat] at h ⊢
  by_cases htakes : reading.context.takesOperand = true
  · simp only [htakes, ↓reduceIte] at h ⊢
    split at h
    · cases h
    · cases h
    · exact htake reading next h
  · simp only [htakes, Bool.false_eq_true, ↓reduceIte] at h
    cases h

theorem passes_argument (argument : String) :
    Passes fun reading => reading.argument argument := by
  intro reading next h
  simp only [Reading.argument, operandsOnly_withFormat, pending_withFormat] at h ⊢
  by_cases honly : reading.operandsOnly = true
  · simp only [honly, ↓reduceIte] at h ⊢
    exact passes_operand argument reading next h
  · simp only [honly, Bool.false_eq_true, ↓reduceIte] at h ⊢
    -- two dashes alone, a long switch, letters, or a value
    split at h
    · intro hnone
      cases h
      exact ⟨hnone, fun _ => rfl⟩
    · exact passes_long _ reading next h
    · exact passes_letters _ reading next h
    · split at h
      · intro hnone
        cases h
        exact ⟨hnone, fun _ => rfl⟩
      · exact passes_operand argument reading next h

end Reading

/-! ## All arguments -/

/-- The argument may name a command. -/
def Reading.mayCall (reading : Reading) : Bool :=
  !reading.operandsOnly && !reading.isAwaiting

/-- The command that the argument calls. -/
def Reading.call? (reading : Reading) (argument : String) : Option Context :=
  if reading.mayCall then reading.context.command? argument else none

/-- The argument asks for help on a command. -/
def Reading.asksForHelp (reading : Reading) (argument : String) : Bool :=
  reading.mayCall && reading.context.isGroup && argument = "help"

/-- What an argument comes to: it calls a command, or is one of the command at hand. -/
theorem readArguments_cons_ok_iff {outer : List Reading} {reading : Reading} {argument : String}
    {rest : List String} {invocation : Invocation} :
    readArguments outer reading (argument :: rest) = .ok invocation ↔
      reading.asksForHelp argument = false ∧
        ((∃ command, reading.call? argument = some command ∧
            readArguments (reading :: outer) (.start command) rest = .ok invocation) ∨
          (reading.call? argument = none ∧ ∃ next, reading.argument argument = .ok next ∧
            readArguments outer next rest = .ok invocation)) := by
  constructor
  · intro h
    rw [readArguments] at h
    split at h
    · -- help
      split at h <;> cases h
    · rename_i hhelp
      refine ⟨Bool.eq_false_iff.mpr hhelp, ?_⟩
      split at h
      · rename_i command hcall
        exact .inl ⟨command, hcall, h⟩
      · rename_i hcall
        exact .inr ⟨hcall, Outcome.bind_ok_iff.mp h⟩
  · rintro ⟨hhelp, h⟩
    rw [readArguments]
    split
    · rename_i hasks
      exact absurd hasks (Bool.eq_false_iff.mp hhelp)
    · split
      · rename_i command hcall
        rcases h with ⟨other, hother, h⟩ | ⟨hnone, -⟩
        · cases hcall.symm.trans hother
          exact h
        · cases hcall.symm.trans hnone
      · rename_i hcall
        rcases h with ⟨command, hcommand, -⟩ | ⟨-, h⟩
        · cases hcall.symm.trans hcommand
        · exact Outcome.bind_ok_iff.mpr h

/-- The invocation with a format. -/
def Invocation.withFormat (invocation : Invocation) (format : OutputFormat) : Invocation :=
  { invocation with format := some format }

theorem commandOf_withFormat (context : Context) (settings : Settings) (format : OutputFormat) :
    commandOf context (settings.withFormat format) = commandOf context settings := by
  cases context <;> rfl

/-- What the commands above have set, down to the outermost one. -/
theorem settleAll_withFormat {root : Reading} {settings : Settings} (before : List Reading) :
    ∀ inner, settleAll inner (before ++ [root]) = .ok settings → settings.format = none →
      root.settings.format = none ∧ ∀ format,
        settleAll inner (before ++ [root.withFormat format]) =
          .ok (settings.withFormat format) := by
  induction before with
  | nil =>
      intro inner h hnone
      obtain ⟨settled, hsettled, h⟩ := Outcome.bind_ok_iff.mp h
      cases h
      obtain ⟨houter, hunder⟩ := Settings.under_withFormat hnone
      obtain ⟨hroot, hwith⟩ := Reading.passes_settle root settled hsettled houter
      refine ⟨hroot, fun format => Outcome.bind_ok_iff.mpr ⟨_, hwith format, ?_⟩⟩
      exact congrArg Except.ok (hunder format)
  | cons outer before ih =>
      intro inner h hnone
      obtain ⟨settled, hsettled, h⟩ := Outcome.bind_ok_iff.mp h
      obtain ⟨hroot, hwith⟩ := ih _ h hnone
      exact ⟨hroot, fun format => Outcome.bind_ok_iff.mpr ⟨settled, hsettled, hwith format⟩⟩

variable {invocation : Invocation}

/-- The reading ends below the outermost command. -/
theorem finish_withFormat {root reading : Reading} (before : List Reading)
    (h : finish (before ++ [root]) reading = .ok invocation) (hnone : invocation.format = none) :
    root.settings.format = none ∧ ∀ format,
      finish (before ++ [root.withFormat format]) reading =
        .ok (invocation.withFormat format) := by
  obtain ⟨settled, hsettled, h⟩ := Outcome.bind_ok_iff.mp h
  obtain ⟨command, hcommand, h⟩ := Outcome.bind_ok_iff.mp h
  obtain ⟨settings, hsettings, h⟩ := Outcome.bind_ok_iff.mp h
  cases h
  obtain ⟨hroot, hwith⟩ := settleAll_withFormat before settled.settings hsettings hnone
  exact ⟨hroot, fun format => Outcome.bind_ok_iff.mpr ⟨settled, hsettled,
    Outcome.bind_ok_iff.mpr ⟨command, hcommand,
      Outcome.bind_ok_iff.mpr ⟨_, hwith format, rfl⟩⟩⟩⟩

/-- The reading ends at the outermost command. -/
theorem finish_root_withFormat {root : Reading} (h : finish [] root = .ok invocation)
    (hnone : invocation.format = none) :
    root.settings.format = none ∧ ∀ format,
      finish [] (root.withFormat format) = .ok (invocation.withFormat format) := by
  obtain ⟨settled, hsettled, h⟩ := Outcome.bind_ok_iff.mp h
  obtain ⟨command, hcommand, h⟩ := Outcome.bind_ok_iff.mp h
  cases h
  obtain ⟨hroot, hwith⟩ := Reading.passes_settle root settled hsettled hnone
  refine ⟨hroot, fun format => Outcome.bind_ok_iff.mpr ⟨_, hwith format, ?_⟩⟩
  refine Outcome.bind_ok_iff.mpr ⟨command, ?_, rfl⟩
  exact (commandOf_withFormat settled.context settled.settings format).trans hcommand

/-- Below the outermost command its format plays no part until the end. -/
theorem readArguments_withFormat {root : Reading} (arguments : List String) :
    ∀ before reading, readArguments (before ++ [root]) reading arguments = .ok invocation →
      invocation.format = none →
      root.settings.format = none ∧ ∀ format,
        readArguments (before ++ [root.withFormat format]) reading arguments =
          .ok (invocation.withFormat format) := by
  induction arguments with
  | nil => exact fun before _ h hnone => finish_withFormat before h hnone
  | cons argument rest ih =>
      intro before reading h hnone
      simp only [readArguments_cons_ok_iff] at h ⊢
      -- Either way the outermost command stays where it is.
      obtain ⟨hhelp, ⟨command, hcall, h⟩ | ⟨hcall, next, hnext, h⟩⟩ := h
      · obtain ⟨hroot, hwith⟩ := ih (reading :: before) (.start command) h hnone
        exact ⟨hroot, fun format => ⟨hhelp, .inl ⟨command, hcall, hwith format⟩⟩⟩
      · obtain ⟨hroot, hwith⟩ := ih before next h hnone
        exact ⟨hroot, fun format => ⟨hhelp, .inr ⟨hcall, next, hnext, hwith format⟩⟩⟩

/-- The arguments of the outermost command, and of the commands that follow it. -/
theorem readArguments_root_withFormat (arguments : List String) :
    ∀ root, readArguments [] root arguments = .ok invocation → invocation.format = none →
      root.settings.format = none ∧ ∀ format,
        readArguments [] (root.withFormat format) arguments =
          .ok (invocation.withFormat format) := by
  induction arguments with
  | nil => exact fun root h hnone => finish_root_withFormat h hnone
  | cons argument rest ih =>
      intro root h hnone
      have hhelp_with : ∀ format,
          (root.withFormat format).asksForHelp argument = root.asksForHelp argument := fun _ => rfl
      have hcall_with : ∀ format,
          (root.withFormat format).call? argument = root.call? argument := fun _ => rfl
      simp only [readArguments_cons_ok_iff, hhelp_with, hcall_with] at h ⊢
      obtain ⟨hhelp, ⟨command, hcall, h⟩ | ⟨hcall, next, hnext, h⟩⟩ := h
      -- A command is called, so that the outermost one is further up from here on.
      · obtain ⟨hroot, hwith⟩ := readArguments_withFormat rest [] (.start command) h hnone
        exact ⟨hroot, fun format => ⟨hhelp, .inl ⟨command, hcall, hwith format⟩⟩⟩
      · obtain ⟨hmiddle, hrest⟩ := ih next h hnone
        obtain ⟨hroot, hwith⟩ := Reading.passes_argument argument root next hnext hmiddle
        exact ⟨hroot, fun format => ⟨hhelp, .inr ⟨hcall, _, hwith format, hrest format⟩⟩⟩

/-- Arguments that give no format are read with the one that stands in front of them. -/
theorem readAll_withFormat {arguments : List String} (h : readAll arguments = .ok invocation)
    (hnone : invocation.format = none) (format : OutputFormat) :
    readAll (("--format=" ++ format.word) :: arguments) =
      .ok (invocation.withFormat format) := by
  obtain ⟨-, hwith⟩ := readArguments_root_withFormat arguments _ h hnone
  have hhelp : (Reading.start .root).asksForHelp ("--format=" ++ format.word) = false := by
    cases format <;> decide +kernel
  have hcall : (Reading.start .root).call? ("--format=" ++ format.word) = none := by
    cases format <;> decide +kernel
  have htaken : (Reading.start .root).argument ("--format=" ++ format.word) =
      .ok ((Reading.start .root).withFormat format) := by
    cases format <;> decide +kernel
  exact readArguments_cons_ok_iff.mpr ⟨hhelp, .inr ⟨hcall, _, htaken, hwith format⟩⟩

end CorpusQuery.Cli
