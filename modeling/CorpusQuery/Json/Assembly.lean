/-
  CorpusQuery.Json.Assembly

  JSON values assembled token by token. The state of an assembly is the stack
  of arrays and objects that are still open and what may come next; the height
  of the stack is the nesting depth, which a limit bounds.
-/
import CorpusQuery.Json.Basic

namespace CorpusQuery.Json

/-- The tokens of JSON text. An atom is a value without parts that is no string. -/
inductive Token where
  | openArray
  | closeArray
  | openObject
  | closeObject
  | colon
  | comma
  | atom (value : Json)
  | text (value : String)
  deriving Repr, BEq

/-- An array or object that is still open, with what was read of it, the latest first. -/
inductive Frame where
  | items (read : List Json)
  | members (read : List (String × Json))
  | member (read : List (String × Json)) (key : String)
  deriving Repr

/-- The state of an assembly, named for what may come next. -/
inductive Assembly where
  /-- a value -/
  | awaitValue (stack : List Frame)
  /-- a value, or the end of the array just opened -/
  | awaitItem (stack : List Frame)
  /-- a key, or the end of the object just opened -/
  | awaitFirstKey (stack : List Frame)
  /-- a key -/
  | awaitKey (stack : List Frame)
  /-- the colon after a key -/
  | awaitColon (stack : List Frame)
  /-- a comma, or the end of the innermost array or object -/
  | awaitSeparator (stack : List Frame)
  /-- nothing: the value is whole -/
  | complete (value : Json)
  deriving Repr

namespace Assembly

/-- An assembly that has read nothing. -/
def start : Assembly :=
  .awaitValue []

/-- Puts a finished value into the innermost open array or object. -/
def place (value : Json) : List Frame → Option Assembly
  | [] => some (.complete value)
  | .items read :: outer => some (.awaitSeparator (.items (value :: read) :: outer))
  | .member read key :: outer => some (.awaitSeparator (.members ((key, value) :: read) :: outer))
  | .members _ :: _ => none

/-- Reads the first token of a value; an array or object may open only below the depth limit. -/
def begin (limit : Nat) (stack : List Frame) : Token → Option Assembly
  | .atom value => place value stack
  | .text value => place (.str value) stack
  | .openArray => if stack.length < limit then some (.awaitItem (.items [] :: stack)) else none
  | .openObject =>
    if stack.length < limit then some (.awaitFirstKey (.members [] :: stack)) else none
  | _ => none

/-- Ends the innermost array. -/
def endArray : List Frame → Option Assembly
  | .items read :: outer => place (.arr read.reverse) outer
  | _ => none

/-- Ends the innermost object. -/
def endObject : List Frame → Option Assembly
  | .members read :: outer => place (.obj read.reverse) outer
  | _ => none

/-- Reads a key of the innermost object. -/
def takeKey (key : String) : List Frame → Option Assembly
  | .members read :: outer => some (.awaitColon (.member read key :: outer))
  | _ => none

/-- Reads the comma after an item or a member. -/
def takeComma : List Frame → Option Assembly
  | .items read :: outer => some (.awaitValue (.items read :: outer))
  | .members read :: outer => some (.awaitKey (.members read :: outer))
  | _ => none

/-- Reads one token; `none` where it may not stand. -/
def add (limit : Nat) : Assembly → Token → Option Assembly
  | .awaitValue stack, token => begin limit stack token
  | .awaitItem stack, .closeArray => endArray stack
  | .awaitItem stack, token => begin limit stack token
  | .awaitFirstKey stack, .closeObject => endObject stack
  | .awaitFirstKey stack, .text key => takeKey key stack
  | .awaitKey stack, .text key => takeKey key stack
  | .awaitColon stack, .colon => some (.awaitValue stack)
  | .awaitSeparator stack, .comma => takeComma stack
  | .awaitSeparator stack, .closeArray => endArray stack
  | .awaitSeparator stack, .closeObject => endObject stack
  | _, _ => none

/-- The assembled value, if it is whole. -/
def result? : Assembly → Option Json
  | .complete value => some value
  | _ => none

end Assembly

end CorpusQuery.Json
