/-
  CorpusQuery.Proofs.Cli.Events

  Where the events of a command come from. A property of all events that a
  computation reports is kept by every way to put computations together; in
  this way no command reports an event of the tool itself.
-/
import CorpusQuery.Cli.Run

namespace CorpusQuery

/-! ## All events of a computation -/

namespace Logged

variable {ε α β : Type} {P : Log.Event → Prop}

/-- Every event that the computation reports has the property. -/
def Reports (P : Log.Event → Prop) (computation : Logged ε α) : Prop :=
  ∀ event ∈ computation.events, P event

theorem reports_of_silent {computation : Logged ε α} (h : computation.events = []) :
    computation.Reports P := by
  intro event hmem
  rw [h] at hmem
  exact absurd hmem List.not_mem_nil

theorem reports_pure (result : α) : (pure result : Logged ε α).Reports P :=
  reports_of_silent rfl

theorem reports_fail (error : ε) : (fail error : Logged ε α).Reports P :=
  reports_of_silent rfl

theorem reports_ofExcept (outcome : Except ε α) : (ofExcept outcome).Reports P :=
  reports_of_silent rfl

theorem reports_report {event : Log.Event} (h : P event) :
    (report event : Logged ε Unit).Reports P := by
  intro other hmem
  rw [List.mem_singleton.mp hmem]
  exact h

/-- What comes after a step reports in addition to the step. -/
theorem reports_bind {first : Logged ε α} {next : α → Logged ε β} (hfirst : first.Reports P)
    (hnext : ∀ result, (next result).Reports P) : (first >>= next).Reports P := by
  show (first.andThen next).Reports P
  unfold andThen
  cases first.outcome with
  | error error => exact hfirst
  | ok result =>
      intro event hmem
      rcases List.mem_append.mp hmem with hown | hlater
      · exact hfirst event hown
      · exact hnext result event hlater

theorem reports_mapError {ε' : Type} {computation : Logged ε α} (h : computation.Reports P)
    (f : ε → ε') : (computation.mapError f).Reports P := h

end Logged

open Logged

/-! ## Translations -/

/-- The event is one of the libraries, not of the tool itself. -/
def Log.Event.IsInner (event : Log.Event) : Prop :=
  event.target ≠ .tool

theorem Cql.Node.reports_toCqp (node : Cql.Node) : node.toCqp.Reports Log.Event.IsInner := by
  have htokens : node.tokens.Reports Log.Event.IsInner := by
    cases node with
    | triple operator left right => exact reports_fail _
    | searchClause index relation term =>
        simp only [Cql.Node.tokens]
        split
        · exact reports_bind (reports_report nofun) fun _ => reports_pure _
        · exact reports_pure _
  exact reports_bind (reports_report nofun) fun _ => reports_bind htokens fun _ =>
    reports_bind (reports_report nofun) fun _ => reports_pure _

namespace Fcs

theorem Segment.reports_tokenReported (segment : Segment) :
    segment.tokenReported.Reports Log.Event.IsInner :=
  reports_bind (reports_ofExcept _) fun _ => reports_bind (reports_report nofun) fun _ =>
    reports_pure _

theorem reports_childTokens (children : List Node) :
    (childTokens children).Reports Log.Event.IsInner := by
  fun_induction childTokens children with
  | case1 => exact reports_pure _
  | case2 segment rest ih =>
      exact reports_bind segment.reports_tokenReported fun _ => reports_bind ih fun _ =>
        reports_pure _
  | case3 child rest hother ih => exact reports_bind (reports_report nofun) fun _ => ih

theorem Node.reports_toCqp (node : Node) : node.toCqp.Reports Log.Event.IsInner := by
  have htokens : node.tokens.Reports Log.Event.IsInner := by
    cases node with
    | sequence children => exact reports_childTokens children
    | segment body => exact reports_bind body.reports_tokenReported fun _ => reports_pure _
    | disjunction children => exact reports_fail _
    | group query minOccurs maxOccurs => exact reports_fail _
    | withWithin query scope => exact reports_fail _
  exact reports_bind (reports_report nofun) fun _ => reports_bind htokens fun _ =>
    reports_bind (reports_report nofun) fun _ => reports_pure _

end Fcs

theorem Query.reports_toCqp (query : Query) (declared : String) :
    (query.toCqp declared).Reports Log.Event.IsInner := by
  refine reports_bind (reports_ofExcept _) fun type => ?_
  split
  · cases query with
    | cql tree => exact tree.reports_toCqp
    | fcs tree => exact tree.reports_toCqp
  · exact reports_bind (reports_report nofun) fun _ => reports_fail _

/-! ## Commands -/

namespace Cli

theorem reports_translate (world : World) (config : Config) (given path : Option String) :
    (translate world config given path).Reports Log.Event.IsInner := by
  refine reports_bind (reports_ofExcept _) fun text => ?_
  refine reports_bind (reports_ofExcept _) fun found => ?_
  refine reports_bind (reports_report nofun) fun _ => ?_
  refine reports_bind (reports_mapError (found.2.reports_toCqp found.1) _) fun cqp => ?_
  exact reports_bind (reports_report nofun) fun _ => reports_pure _

theorem reports_lookUpTag (tag : String) (candidates : Except Refusal (List String)) :
    (lookUpTag tag candidates).Reports Log.Event.IsInner :=
  reports_bind (reports_mapError (reports_ofExcept _) _) fun _ =>
    reports_bind (reports_report nofun) fun _ => reports_pure _

/-- No command reports an event of the tool itself. -/
theorem reports_perform (world : World) (config : Config) (command : Command) :
    (perform world config command).2.Reports Log.Event.IsInner := by
  cases command with
  | translate given path =>
      exact reports_bind (reports_translate world config given path) fun _ => reports_pure _
  | tagToSuc tag => exact reports_bind (reports_lookUpTag tag _) fun _ => reports_pure _
  | tagToUd tag => exact reports_bind (reports_lookUpTag tag _) fun _ => reports_pure _
  | configShow json => exact reports_pure _
  | configInit path force => exact reports_ofExcept _

end Cli

end CorpusQuery
