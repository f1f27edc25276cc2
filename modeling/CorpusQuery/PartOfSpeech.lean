/-
  CorpusQuery.PartOfSpeech

  Part-of-speech tags: the universal tags that queries use, the SUC tags that
  the corpus is annotated with, and the tables between them. A tag may have
  several candidates, and neither table is the inverse of the other.
-/
import CorpusQuery.Diagnostic

namespace CorpusQuery

/-! ## Tags -/

/-- The universal part-of-speech tags, UD version 1.7. -/
inductive UdTag where
  | noun | propn | adj | verb | aux | num | pron | det
  | part | adv | adp | cconj | sconj | intj | punct | x
  deriving DecidableEq, Repr

/-- The part-of-speech tags of the Stockholm-Umeå corpus. -/
inductive SucTag where
  | nn | pm | vb | ie | pc | pl | pn | ps | hp | hs | dt | hd | jj
  | ab | ha | kn | sn | pp | rg | ro | inTag | uo | mad | mid | pad
  deriving DecidableEq, Repr

namespace UdTag

/-- The tag as it is written. -/
def name : UdTag → String
  | noun => "NOUN" | propn => "PROPN" | adj => "ADJ" | verb => "VERB" | aux => "AUX"
  | num => "NUM" | pron => "PRON" | det => "DET" | part => "PART" | adv => "ADV" | adp => "ADP"
  | cconj => "CCONJ" | sconj => "SCONJ" | intj => "INTJ" | punct => "PUNCT" | x => "X"

/-- All universal tags, in the order of the table. -/
def all : List UdTag :=
  [noun, propn, adj, verb, aux, num, pron, det, part, adv, adp, cconj, sconj, intj, punct, x]

/-- The tag written `name`. -/
def ofName? (name : String) : Option UdTag :=
  all.find? fun tag => tag.name = name

theorem ofName?_name (tag : UdTag) : ofName? tag.name = some tag := by
  cases tag <;> rfl

theorem name_of_ofName? {name : String} {tag : UdTag} (h : ofName? name = some tag) :
    tag.name = name := by
  have hfound := List.find?_some h
  exact of_decide_eq_true hfound

/-- The SUC tags that a universal tag may stand for, the likeliest first. -/
def candidates : UdTag → List SucTag
  | noun => [.nn]
  | propn => [.pm]
  | adj => [.jj, .pc, .ro]
  | verb => [.vb, .pc]
  | aux => [.vb]
  | num => [.rg, .ro]
  | pron => [.pn, .ps, .hp, .hs]
  | det => [.dt, .hd, .hs, .ps]
  | part => [.ie]
  | adv => [.ab, .ha, .pl]
  | adp => [.pl, .pp]
  | cconj => [.kn]
  | sconj => [.sn]
  | intj => [.inTag]
  | punct => [.mad, .mid, .pad]
  | x => [.uo]

end UdTag

namespace SucTag

/-- The tag as it is written. -/
def name : SucTag → String
  | nn => "NN" | pm => "PM" | vb => "VB" | ie => "IE" | pc => "PC" | pl => "PL" | pn => "PN"
  | ps => "PS" | hp => "HP" | hs => "HS" | dt => "DT" | hd => "HD" | jj => "JJ" | ab => "AB"
  | ha => "HA" | kn => "KN" | sn => "SN" | pp => "PP" | rg => "RG" | ro => "RO" | inTag => "IN"
  | uo => "UO" | mad => "MAD" | mid => "MID" | pad => "PAD"

/-- All SUC tags, in the order of the table. -/
def all : List SucTag :=
  [nn, pm, vb, ie, pc, pl, pn, ps, hp, hs, dt, hd, jj, ab, ha, kn, sn, pp, rg, ro, inTag, uo,
   mad, mid, pad]

/-- The tag written `name`. -/
def ofName? (name : String) : Option SucTag :=
  all.find? fun tag => tag.name = name

theorem ofName?_name (tag : SucTag) : ofName? tag.name = some tag := by
  cases tag <;> rfl

/-- The universal tags that a SUC tag may stand for, the likeliest first. -/
def candidates : SucTag → List UdTag
  | nn => [.noun]
  | pm => [.propn]
  | vb => [.verb, .aux]
  | ie => [.part]
  | pc => [.verb]
  | pl => [.part]
  | pn => [.pron]
  | ps => [.det]
  | hp => [.pron]
  | hs => [.det]
  | dt => [.det]
  | hd => [.det]
  | jj => [.adj]
  | ab => [.adv]
  | ha => [.adv]
  | kn => [.cconj]
  | sn => [.sconj]
  | pp => [.adp]
  | rg => [.num]
  | ro => [.adj]
  | inTag => [.intj]
  | uo => [.x]
  | mad => [.punct]
  | mid => [.punct]
  | pad => [.punct]

end SucTag

/-! ## Look-up -/

namespace PartOfSpeech

/-- The universal tag that a text names, in any case. -/
def udOfText? (text : String) : Option UdTag :=
  UdTag.ofName? (String.ofList (Text.upper text.toList))

/-- The SUC tag that a text names, in any case. -/
def sucOfText? (text : String) : Option SucTag :=
  SucTag.ofName? (String.ofList (Text.upper text.toList))

/-- A SUC tag without its morphological attributes: the part before the first full stop. -/
def withoutAttributes (tag : String) : String :=
  String.ofList (tag.toList.takeWhile (· ≠ '.'))

/-- The SUC candidates of a universal tag, in the order of the table. -/
def sucCandidates (tag : String) : Except Refusal (List SucTag) :=
  match udOfText? tag with
  | some ud => .ok ud.candidates
  | none => .error (.unknownUdTag tag)

/-- The universal candidates of a SUC tag, whose attributes do not count. -/
def udCandidates (tag : String) : Except Refusal (List UdTag) :=
  match sucOfText? (withoutAttributes tag) with
  | some suc => .ok suc.candidates
  | none => .error (.unknownSucTag (withoutAttributes tag))

/-- The universal tag to show for a token of the corpus: the first candidate, or nothing for an
unknown tag, so that the layer can be left empty. That an unknown tag is also logged is left out, as
no command asks. -/
def shownTag? (tag : String) : Option UdTag :=
  match udCandidates tag with
  | .ok candidates => candidates.head?
  | .error _ => none

/-- The tags that a query may use, in the order of the table. -/
def queryTags : List String :=
  UdTag.all.map UdTag.name

end PartOfSpeech

end CorpusQuery
