/-
  CorpusQuery.Proofs.Cli.Diagnostics

  In which format the diagnostic of a refusal is reported. Once the
  configuration is loaded it is the format in force. Where loading fails, only
  the format that the arguments give counts, so that a format which the
  environment or the file asks for is passed over.
-/
import CorpusQuery.Proofs.Cli.Reports
import CorpusQuery.Proofs.Json.Printed
import CorpusQuery.Proofs.Outcome

namespace CorpusQuery

/-! ## Diagnostics as they are written -/

namespace Refusal

/-- The diagnostic is what stands on the error stream: as one JSON object in a line of its own, or
as a line of text. -/
def IsReported (refusal : Refusal) (errors : String) : OutputFormat → Prop
  | .json => errors = refusal.diagnostic.toJson.compact ++ "\n" ∧
      Json.parse errors = some (.obj [("uri", .str refusal.uri),
        ("details", refusal.details.elim .null .str), ("message", .str refusal.message)])
  | .text => errors =
      "error[" ++ refusal.kind ++ "]: " ++ refusal.message ++ " (" ++ refusal.uri ++ ")\n"

/-- The line for a refusal is its diagnostic in the format of the line. -/
theorem isReported_errorLine (refusal : Refusal) (format : OutputFormat) :
    refusal.IsReported (Cli.line (Cli.errorLine format refusal)) format := by
  cases format with
  | text =>
      show _ ++ ")" ++ "\n" = _ ++ ")\n"
      rw [String.append_assoc]
      rfl
  | json =>
      have hdepth : refusal.diagnostic.toJson.depth ≤ Json.depthLimit := by
        cases refusal <;> exact Nat.le_of_ble_eq_true rfl
      have hnumbers : refusal.diagnostic.toJson.NumbersReadBack := by
        cases refusal <;> exact ⟨trivial, trivial, trivial, trivial⟩
      exact ⟨rfl, Json.parse_compact_line hdepth hnumbers⟩

/-- A diagnostic as text is none as JSON: it does not begin with a brace. -/
theorem not_isReported_json_errorLine_text (refusal : Refusal) :
    ¬ refusal.IsReported (Cli.line (Cli.errorLine .text refusal)) .json := by
  rintro ⟨hline, -⟩
  have hhead := congrArg (fun text => text.toList.head?) hline
  have htext : (Cli.line (Cli.errorLine .text refusal)).toList.head? = some 'e' := by
    simp [Cli.line, Cli.errorLine, String.toList_append]
  have hjson : (refusal.diagnostic.toJson.compact ++ "\n").toList.head? = some '\x7b' := by
    rw [Json.compact, String.toList_append, String.toList_ofList]
    rfl
  rw [htext, hjson] at hhead
  cases hhead

end Refusal

namespace Cli

/-! ## The format in force -/

/-- The format in force: that of the arguments; else that of the environment; else that of the
configuration file in use; else text. There is none if what decides it is faulty. -/
def Invocation.formatInForce (world : World) (invocation : Invocation) :
    Except Config.LoadError OutputFormat :=
  match invocation.format with
  | some format => .ok format
  | none => do
    match ← Config.environmentFormat world.environment with
    | some format => return format
    | none => do
      let layer ← Config.fileLayer world.files world.environment invocation.config
      return layer.format.getD .text

/-- A configuration is loaded from the layer of the file and the layer of the environment. -/
theorem exists_layers_of_loaded {world : World} {invocation : Invocation} {config : Config}
    (h : invocation.load world = .ok config) :
    ∃ file format, Config.fileLayer world.files world.environment invocation.config = .ok file ∧
      Config.environmentFormat world.environment = .ok format ∧
      config.format = format.getD (file.format.getD .text) := by
  obtain ⟨file, hfile, h⟩ := Outcome.bind_ok_iff.mp h
  obtain ⟨layer, hlayer, h⟩ := Outcome.bind_ok_iff.mp h
  obtain ⟨level, -, hlayer⟩ := Outcome.bind_ok_iff.mp hlayer
  obtain ⟨type, -, hlayer⟩ := Outcome.bind_ok_iff.mp hlayer
  obtain ⟨format, hformat, hlayer⟩ := Outcome.bind_ok_iff.mp hlayer
  cases hlayer
  cases h
  exact ⟨file, format, hfile, hformat, rfl⟩

/-- Under a configuration that is loaded the format in force is that of the command. -/
theorem formatInForce_of_loaded {world : World} {invocation : Invocation} {config : Config}
    (h : invocation.load world = .ok config) :
    invocation.formatInForce world = .ok (invocation.format.getD config.format) := by
  cases hgiven : invocation.format with
  | some format =>
      rw [Invocation.formatInForce, hgiven]
      rfl
  | none =>
      obtain ⟨file, format, hfile, hformat, hconfig⟩ := exists_layers_of_loaded h
      rw [Invocation.formatInForce, hgiven, Option.getD_none, hconfig]
      show (Config.environmentFormat world.environment >>= _) = _
      rw [hformat]
      cases format with
      | some format => rfl
      | none =>
          show (Config.fileLayer world.files world.environment invocation.config >>= _) = _
          rw [hfile]
          rfl

/-! ## Runs that are refused -/

theorem line_of_refusal {failure : Failure} {refusal : Refusal}
    (h : failure.refusal? = some refusal) (format : OutputFormat) :
    failure.line format = errorLine format refusal := by
  rw [Failure.line, h]

/-- What a run that is refused leaves: the line for the refusal, in a format that depends on whether
the configuration was loaded. -/
theorem runInvocation_of_refusal {world : World} {invocation : Invocation} {failure : Failure}
    {refusal : Refusal} (hending : invocation.ending world = .error failure)
    (hrefusal : failure.refusal? = some refusal) :
    (runInvocation world invocation).code = 1 ∧ (runInvocation world invocation).output = "" ∧
      (∀ config, invocation.load world = .ok config →
        (runInvocation world invocation).errors =
          line (errorLine (invocation.format.getD config.format) refusal)) ∧
      (∀ error, invocation.load world = .error error →
        (runInvocation world invocation).errors =
          line (errorLine (invocation.format.getD .text) refusal)) := by
  cases hload : invocation.load world with
  | ok config =>
      rw [Invocation.ending_of_loaded hload] at hending
      rw [runInvocation_of_error hload hending, line_of_refusal hrefusal]
      refine ⟨rfl, rfl, fun other hother => ?_, nofun⟩
      cases hother
      rfl
  | error error =>
      rw [Invocation.ending_of_not_loaded hload] at hending
      cases hending
      rw [runInvocation_of_not_loaded hload, line_of_refusal hrefusal]
      exact ⟨rfl, rfl, nofun, fun _ _ => rfl⟩

/-- The diagnostic of a refusal follows the format in force if the configuration was loaded, if the
arguments give the format, or if the format is text. In no other case does it: it is then reported
as text although JSON is in force. -/
theorem diagnostic_follows_format (arguments : List String) (world : World)
    (invocation : Invocation) (format : OutputFormat) (failure : Failure) (refusal : Refusal)
    (hread : readAll arguments = .ok invocation)
    (hformat : invocation.formatInForce world = .ok format)
    (hending : invocation.ending world = .error failure)
    (hrefusal : failure.refusal? = some refusal) :
    ∃ report, run arguments world = .ran report ∧ report.code = 1 ∧ report.output = "" ∧
      ((∃ config, invocation.load world = .ok config) ∨ invocation.format.isSome ∨ format = .text →
        refusal.IsReported report.errors format) ∧
      (∀ error, invocation.load world = .error error → invocation.format = none →
        format = .json → refusal.IsReported report.errors .text ∧
          ¬ refusal.IsReported report.errors .json) := by
  obtain ⟨hcode, houtput, hloaded, hfailed⟩ := runInvocation_of_refusal hending hrefusal
  refine ⟨runInvocation world invocation, run_of_read hread, hcode, houtput, ?_, ?_⟩
  · intro hcondition
    cases hload : invocation.load world with
    | ok config =>
        rw [formatInForce_of_loaded hload] at hformat
        cases hformat
        rw [hloaded config hload]
        exact refusal.isReported_errorLine _
    | error error =>
        -- Only the arguments count, and they give the format or it is the one that stands in.
        have hsame : format = invocation.format.getD .text := by
          rcases hcondition with ⟨config, hconfig⟩ | hgiven | htext
          · cases hload.symm.trans hconfig
          · obtain ⟨given, hgiven⟩ := Option.isSome_iff_exists.mp hgiven
            rw [Invocation.formatInForce, hgiven] at hformat
            rw [hgiven, Option.getD_some]
            exact (Except.ok.inj hformat).symm
          · cases hgiven : invocation.format with
            | none => exact htext
            | some given =>
                rw [Invocation.formatInForce, hgiven] at hformat
                exact (Except.ok.inj hformat).symm
        rw [hsame, hfailed error hload]
        exact refusal.isReported_errorLine _
  · intro error hload hgiven _
    have herrors := hfailed error hload
    rw [hgiven, Option.getD_none] at herrors
    rw [herrors]
    exact ⟨refusal.isReported_errorLine .text, refusal.not_isReported_json_errorLine_text⟩

/-- An environment that asks for JSON and names a query type. -/
def jsonWorld (queryType : String) : World :=
  ⟨⟨none, some queryType, some "Json", true, none, none⟩, ⟨[], "", []⟩, some ""⟩

/-- An unknown tag is reported as JSON, as the environment asks. -/
theorem diagnostic_follows_format_unknownTag :
    ∃ report, run ["tag", "to-ud", "XX.SIN"] (jsonWorld " CQL") = .ran report ∧
      report.code = 1 ∧ report.output = "" ∧
      (Refusal.unknownSucTag "XX").IsReported report.errors .json := by
  have hload : Invocation.load (jsonWorld " CQL") ⟨none, false, none, none, .tagToUd "XX.SIN"⟩ =
      .ok ⟨none, .json, false, .cql⟩ := by decide +kernel
  obtain ⟨report, hrun, hcode, houtput, hreported, -⟩ := diagnostic_follows_format
    ["tag", "to-ud", "XX.SIN"] (jsonWorld " CQL") ⟨none, false, none, none, .tagToUd "XX.SIN"⟩ .json
    (.refused (.unknownSucTag "XX")) (.unknownSucTag "XX") (by decide +kernel) (by decide +kernel)
    (by decide +kernel) rfl
  exact ⟨report, hrun, hcode, houtput, hreported (.inl ⟨_, hload⟩)⟩

/-- A query type of the environment that is none is reported as text, although the environment asks
for JSON: refusals do not always follow the format in force. -/
theorem diagnostic_of_loading_ignores_format :
    ¬ ∀ (arguments : List String) (world : World) (invocation : Invocation)
      (format : OutputFormat) (failure : Failure) (refusal : Refusal) (report : Report),
      readAll arguments = .ok invocation → invocation.formatInForce world = .ok format →
      invocation.ending world = .error failure → failure.refusal? = some refusal →
      run arguments world = .ran report → refusal.IsReported report.errors format := by
  intro hclaim
  have hload : Invocation.load (jsonWorld "lucene") ⟨none, false, none, none, .tagToSuc "NOUN"⟩ =
      .error (.invalidType "lucene" (.unsupportedQueryType "lucene")) := by decide +kernel
  have hread : readAll ["tag", "to-suc", "NOUN"] =
      .ok ⟨none, false, none, none, .tagToSuc "NOUN"⟩ := by decide +kernel
  have hjson := hclaim ["tag", "to-suc", "NOUN"] (jsonWorld "lucene")
    ⟨none, false, none, none, .tagToSuc "NOUN"⟩ .json
    (.load (.invalidType "lucene" (.unsupportedQueryType "lucene")))
    (.unsupportedQueryType "lucene") _ hread (by decide +kernel)
    (Invocation.ending_of_not_loaded hload) rfl (run_of_read hread)
  rw [runInvocation_of_not_loaded hload, line_of_refusal rfl] at hjson
  exact Refusal.not_isReported_json_errorLine_text _ hjson

end Cli

end CorpusQuery
