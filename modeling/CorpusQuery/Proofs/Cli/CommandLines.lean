/-
  CorpusQuery.Proofs.Cli.CommandLines

  The argument lists that ask for a translation: a file or standard input, with
  or without a switch that names the query language, in either order and every
  spelling. All of them are read as the same command.
-/
import CorpusQuery.Cli.Run
import CorpusQuery.Proofs.Outcome

namespace CorpusQuery.Cli

/-! ## Ways to pass a query -/

/-- Where the text of a query comes from. -/
inductive Channel where
  /-- a file named by its path -/
  | file (path : String)
  /-- standard input, as no file is named -/
  | input
  /-- standard input, named by a dash -/
  | dash
  deriving DecidableEq, Repr

/-- The operand for a channel. -/
def Channel.operand? : Channel → Option String
  | .file path => some path
  | .input => none
  | .dash => some "-"

/-- How the switch for the query language is written: its value may stand in an argument of its own
or after an equals sign, and the switch has a letter. -/
def switchSpellings : Option String → List (List String)
  | none => [[]]
  | some declared =>
    [["--query-type", declared], ["--query-type=" ++ declared], ["-t", declared]]

/-- The argument lists that ask for a translation: the switch stands before the operand or after
it. -/
def commandLines (declared : Option String) (channel : Channel) : List (List String) :=
  (switchSpellings declared).flatMap fun switches =>
    ["translate" :: (switches ++ channel.operand?.toList),
     "translate" :: (channel.operand?.toList ++ switches)]

/-! ## Arguments that are no switches -/

/-- The argument is taken for a value or an operand. -/
def IsPlain (argument : String) : Prop :=
  argument.toList.head? ≠ some '-' ∨ argument = "-"

/-- The value of a switch leaves the operand alone. -/
theorem Settings.operand_of_value {settings next : Settings} {switch : Switch} {value : String}
    (h : settings.value switch value = .ok next) : next.operand = settings.operand := by
  unfold Settings.value at h
  split at h
  · cases h
  split at h
  · split at h
    · cases h
      rfl
    · cases h
  · split at h
    · cases h
      rfl
    · cases h
  · split at h
    · cases h
    · cases h
      rfl
  · cases h
    rfl
  · cases h
    rfl

namespace Reading

/-- The reading of a translation that has taken over a query language and an operand. -/
def translation (declared operand : Option String) : Reading :=
  ⟨.translate, { Settings.empty with queryType := declared, operand := operand }, none, false⟩

/-- Whatever is pending, the reading comes to the given query language and operand. -/
structure ComesTo (reading : Reading) (declared operand : Option String) : Prop where
  context : reading.context = .translate
  operandsOnly : reading.operandsOnly = false
  settle : reading.settle = .ok (translation declared operand)

theorem ComesTo.of_translation (declared operand : Option String) :
    (translation declared operand).ComesTo declared operand :=
  ⟨rfl, rfl, rfl⟩

/-- A plain argument is the value of a switch that awaits one, or else an operand. -/
theorem argument_plain {reading : Reading} {argument : String} (h : IsPlain argument)
    (honly : reading.operandsOnly = false) :
    reading.argument argument =
      match reading.pending with
      | some (.awaiting switch) => .ok { reading with pending := some (.switch switch argument) }
      | _ => reading.operand argument := by
  rw [Reading.argument, honly]
  rcases h with hhead | rfl
  · cases htext : argument.toList with
    | nil => rfl
    | cons c rest =>
        have hdash : c ≠ '-' := by
          rintro rfl
          exact hhead (by rw [htext]; rfl)
        rw [if_neg Bool.false_ne_true]
        split
        · rename_i heq
          exact absurd (List.cons.inj heq).1 hdash
        · rename_i heq
          exact absurd (List.cons.inj heq).1 hdash
        · rename_i heq
          exact absurd (List.cons.inj heq).1 hdash
        · rfl
  · rfl

/-! ## What one argument does -/

variable {reading : Reading} {declared operand : Option String}

/-- A switch for the query language takes over what is pending and then awaits its value. -/
theorem ComesTo.await (h : reading.ComesTo declared operand) :
    reading.await .queryType =
      .ok { translation declared operand with pending := some (.awaiting .queryType) } := by
  rw [Reading.await, h.settle]
  rfl

theorem ComesTo.argument_long (h : reading.ComesTo declared operand) :
    reading.argument "--query-type" =
      .ok { translation declared operand with pending := some (.awaiting .queryType) } := by
  have hswitch : reading.argument "--query-type" = reading.await .queryType := by
    rw [Reading.argument, h.operandsOnly]
    show reading.long "query-type".toList = reading.await .queryType
    rw [Reading.long, h.context]
    rfl
  rw [hswitch, h.await]

theorem ComesTo.argument_letter (h : reading.ComesTo declared operand) :
    reading.argument "-t" =
      .ok { translation declared operand with pending := some (.awaiting .queryType) } := by
  have hswitch : reading.argument "-t" = reading.await .queryType := by
    rw [Reading.argument, h.operandsOnly]
    show reading.letters ['t'] = reading.await .queryType
    rw [Reading.letters, h.context]
    rfl
  rw [hswitch, h.await]

/-- The switch with its value in the same argument. -/
theorem ComesTo.argument_attached (h : reading.ComesTo none operand) (value : String) :
    reading.argument ("--query-type=" ++ value) = .ok (translation (some value) operand) := by
  have hswitch : reading.argument ("--query-type=" ++ value)
      = reading.attached .queryType value := by
    rw [Reading.argument, h.operandsOnly, String.toList_append]
    show reading.long ("query-type=".toList ++ value.toList) = reading.attached .queryType value
    have hname : ("query-type=".toList ++ value.toList).takeWhile (· ≠ '=') = "query-type".toList :=
      rfl
    have hvalue : ("query-type=".toList ++ value.toList).dropWhile (· ≠ '=')
        = '=' :: value.toList := rfl
    rw [Reading.long, hname, hvalue, h.context]
    show reading.attached .queryType (String.ofList value.toList) = _
    rw [String.ofList_toList]
  rw [hswitch, Reading.attached, h.settle]
  rfl

/-- A value for the switch that awaits one. -/
theorem ComesTo.of_value (operand : Option String) (value : String) :
    ComesTo { translation none operand with pending := some (.switch .queryType value) }
      (some value) operand :=
  ⟨rfl, rfl, rfl⟩

/-- Where no operand was taken over, none is pending and none is set. -/
theorem ComesTo.operand_eq_none (h : reading.ComesTo declared none) :
    reading.settings.operand = none ∧ ∀ value, reading.pending ≠ some (.operand value) := by
  have hsettle := h.settle
  rw [Reading.settle] at hsettle
  cases hpending : reading.pending with
  | none =>
      rw [hpending] at hsettle
      have hreading : reading = translation declared none := Except.ok.inj hsettle
      exact ⟨by rw [hreading]; rfl, nofun⟩
  | some pending =>
      rw [hpending] at hsettle
      cases pending with
      | awaiting switch => cases hsettle
      | switch switch value =>
          -- Whichever switch it is, its value does not become the operand.
          obtain ⟨settings, hvalue, hreading⟩ := Outcome.map_ok_iff.mp hsettle
          have hsettings : settings = (translation declared none).settings :=
            congrArg Reading.settings hreading
          have hnone : settings.operand = none := by
            rw [hsettings]
            rfl
          exact ⟨(Settings.operand_of_value hvalue).symm.trans hnone, nofun⟩
      | operand value =>
          dsimp only at hsettle
          split at hsettle
          · cases hsettle
          · have hsome : some value = (translation declared none).settings.operand :=
              congrArg (fun next => next.settings.operand) (Except.ok.inj hsettle)
            cases hsome

theorem ComesTo.pending_ne_awaiting (h : reading.ComesTo declared operand) (switch : Switch) :
    reading.pending ≠ some (.awaiting switch) := by
  intro hpending
  have hsettle := h.settle
  rw [Reading.settle, hpending] at hsettle
  cases hsettle

/-- An operand is pending until the next argument. -/
theorem ComesTo.argument_operand (h : reading.ComesTo declared none) {path : String}
    (hplain : IsPlain path) :
    reading.argument path =
      .ok { translation declared none with pending := some (.operand path) } := by
  obtain ⟨hset, hpending⟩ := h.operand_eq_none
  have hoperand : reading.argument path = reading.operand path := by
    rw [argument_plain hplain h.operandsOnly]
    split
    · rename_i switch hawaiting
      exact absurd hawaiting (h.pending_ne_awaiting switch)
    · rfl
  rw [hoperand, Reading.operand, h.context, hset]
  split
  · split
    · rename_i hvalue
      exact absurd hvalue (hpending _)
    · rename_i hsome _
      cases hsome
    · rw [h.settle]
      rfl
  · rename_i htakes
    exact absurd rfl htakes

/-- A path that is pending is taken over unless it is empty. -/
theorem ComesTo.of_operand (declared : Option String) {path : String} (hpath : path ≠ "") :
    ComesTo { translation declared none with pending := some (.operand path) }
      declared (some path) := by
  refine ⟨rfl, rfl, ?_⟩
  show (if true && path = "" then _ else _) = _
  simp [hpath, translation]

/-! ## Reading to the end -/

/-- Below `translate` every argument is read by itself. -/
theorem readArguments_cons {next : Reading} {argument : String} (outer : List Reading)
    (rest : List String) (hcontext : reading.context = .translate)
    (h : reading.argument argument = .ok next) :
    readArguments outer reading (argument :: rest) = readArguments outer next rest := by
  have hcommand : reading.context.command? argument = none := by
    rw [hcontext]
    rfl
  rw [readArguments, hcommand, hcontext]
  simp only [Context.isGroup, Bool.and_false, Bool.false_and, ite_self, h]
  rfl

/-- The arguments are read as the command that the reading comes to. -/
theorem ComesTo.finish (h : reading.ComesTo declared operand) :
    readArguments [.start .root] reading [] =
      .ok ⟨none, false, none, none, .translate declared operand⟩ := by
  rw [readArguments, Cli.finish, h.settle]
  rfl

/-- However the switch is written, its value is taken over. -/
theorem ComesTo.read_switches {switches : List String} (h : reading.ComesTo none operand)
    (hswitches : switches ∈ switchSpellings declared)
    (hplain : ∀ value, declared = some value → IsPlain value) (outer : List Reading)
    (rest : List String) :
    ∃ next, next.ComesTo declared operand ∧
      readArguments outer reading (switches ++ rest) = readArguments outer next rest := by
  cases declared with
  | none =>
      rw [switchSpellings, List.mem_singleton] at hswitches
      rw [hswitches]
      exact ⟨reading, h, rfl⟩
  | some value =>
      have hvalue : IsPlain value := hplain value rfl
      have hawaited : Reading.argument { translation none operand with
            pending := some (.awaiting .queryType) } value
          = .ok { translation none operand with pending := some (.switch .queryType value) } :=
        argument_plain hvalue rfl
      simp only [switchSpellings, List.mem_cons, List.not_mem_nil, or_false] at hswitches
      rcases hswitches with rfl | rfl | rfl
      · -- the value in an argument of its own
        refine ⟨_, ComesTo.of_value operand value, ?_⟩
        rw [List.cons_append, readArguments_cons outer _ h.context h.argument_long,
          List.cons_append, readArguments_cons outer _ rfl hawaited, List.nil_append]
      · -- the value after an equals sign
        refine ⟨_, ComesTo.of_translation (some value) operand, ?_⟩
        rw [List.singleton_append,
          readArguments_cons outer _ h.context (h.argument_attached value)]
      · -- the letter, with the value in an argument of its own
        refine ⟨_, ComesTo.of_value operand value, ?_⟩
        rw [List.cons_append, readArguments_cons outer _ h.context h.argument_letter,
          List.cons_append, readArguments_cons outer _ rfl hawaited, List.nil_append]

/-- The operand for a channel is taken over. -/
theorem ComesTo.read_operand (h : reading.ComesTo declared none) (channel : Channel)
    (hplain : ∀ path, channel.operand? = some path → IsPlain path ∧ path ≠ "")
    (outer : List Reading) (rest : List String) :
    ∃ next, next.ComesTo declared channel.operand? ∧
      readArguments outer reading (channel.operand?.toList ++ rest)
        = readArguments outer next rest := by
  cases hoperand : channel.operand? with
  | none => exact ⟨reading, h, rfl⟩
  | some path =>
      obtain ⟨hpath, hne⟩ := hplain path hoperand
      refine ⟨_, ComesTo.of_operand declared hne, ?_⟩
      rw [Option.toList_some, List.singleton_append,
        readArguments_cons outer _ h.context (h.argument_operand hpath)]

end Reading

/-- Every way to write the arguments is read as the same command. -/
theorem readAll_commandLines {declared : Option String} {channel : Channel}
    {arguments : List String} (h : arguments ∈ commandLines declared channel)
    (hdeclared : ∀ value, declared = some value → IsPlain value)
    (hoperand : ∀ path, channel.operand? = some path → IsPlain path ∧ path ≠ "") :
    readAll arguments = .ok ⟨none, false, none, none, .translate declared channel.operand?⟩ := by
  have hstart : (Reading.start .translate).ComesTo none none :=
    Reading.ComesTo.of_translation none none
  have hcommand : ∀ rest, readAll ("translate" :: rest)
      = readArguments [.start .root] (.start .translate) rest := fun _ => rfl
  obtain ⟨switches, hswitches, h⟩ := List.mem_flatMap.mp h
  simp only [List.mem_cons, List.not_mem_nil, or_false] at h
  rcases h with rfl | rfl
  · -- the switch first
    obtain ⟨middle, hmiddle, hfirst⟩ := hstart.read_switches hswitches hdeclared
      [.start .root] channel.operand?.toList
    obtain ⟨last, hlast, hsecond⟩ := hmiddle.read_operand channel hoperand [.start .root] []
    rw [List.append_nil] at hsecond
    rw [hcommand, hfirst, hsecond, hlast.finish]
  · -- the operand first
    obtain ⟨middle, hmiddle, hfirst⟩ := hstart.read_operand channel hoperand
      [.start .root] switches
    obtain ⟨last, hlast, hsecond⟩ := hmiddle.read_switches hswitches hdeclared [.start .root] []
    rw [List.append_nil] at hsecond
    rw [hcommand, hfirst, hsecond, hlast.finish]

end CorpusQuery.Cli
