/-
  CorpusQuery.Proofs.Fcs.Bounds

  Where the occurrence bounds of segments come from, and where they go. A
  segment has the bounds that were handed in for it, by a caller or by the JSON
  form of a query, and the quantifier of its token pattern has them too. Their
  order is not looked at on the way, so that bounds that are handed in out of
  order reach the corpus query.
-/
import CorpusQuery.Proofs.Cqp.Quantifiers
import CorpusQuery.Proofs.Fcs.Segments
import CorpusQuery.Proofs.Query.Decoding

namespace CorpusQuery.Fcs

open Json (OptionalCount)
open Query (Part)
open Relation (ReflTransGen)

/-! ## Nodes in nodes -/

/-- The nodes right below a node. -/
inductive Node.Holds : Node → Node → Prop
  | sequence {children : List Node} {child : Node} (hmem : child ∈ children) :
      Holds (.sequence children) child
  | disjunction {children : List Node} {child : Node} (hmem : child ∈ children) :
      Holds (.disjunction children) child
  | group {query : Node} {minOccurs maxOccurs : UInt32} :
      Holds (.group query minOccurs maxOccurs) query
  | withWithin {query : Node} {scope : WithinScope} : Holds (.withWithin query scope) query

/-- The segment stands in the query, at whatever depth. -/
def Node.Has (node : Node) (segment : Segment) : Prop :=
  ReflTransGen Node.Holds node (.segment segment)

theorem Node.has_iff {node : Node} {segment : Segment} :
    node.Has segment ↔ node = .segment segment ∨ ∃ child, node.Holds child ∧ child.Has segment :=
  Relation.ReflTransGen.cases_head_iff

section Has

variable {children : List Node} {query : Node} {segment : Segment}

@[simp] theorem Node.has_segment_iff {body : Segment} :
    (Node.segment body).Has segment ↔ segment = body := by
  rw [Node.has_iff]
  constructor
  · rintro (hbody | ⟨child, hholds, -⟩)
    · exact (Node.segment.inj hbody).symm
    · cases hholds
  · intro heq
    exact .inl (congrArg Node.segment heq.symm)

@[simp] theorem Node.has_sequence_iff :
    (Node.sequence children).Has segment ↔ ∃ child ∈ children, child.Has segment := by
  rw [Node.has_iff]
  constructor
  · rintro (hsequence | ⟨child, ⟨hmem⟩, hhas⟩)
    · cases hsequence
    · exact ⟨child, hmem, hhas⟩
  · rintro ⟨child, hmem, hhas⟩
    exact .inr ⟨child, .sequence hmem, hhas⟩

@[simp] theorem Node.has_group_iff {minOccurs maxOccurs : UInt32} :
    (Node.group query minOccurs maxOccurs).Has segment ↔ query.Has segment := by
  rw [Node.has_iff]
  constructor
  · rintro (hgroup | ⟨child, ⟨⟩, hhas⟩)
    · cases hgroup
    · exact hhas
  · intro hhas
    exact .inr ⟨query, .group, hhas⟩

theorem Node.has_of_mem_segments {node : Node} (hmem : segment ∈ node.segments) :
    node.Has segment := by
  cases node with
  | segment body => exact Node.has_segment_iff.mpr (List.mem_singleton.mp hmem)
  | sequence children =>
      obtain ⟨child, hchild, hsegment⟩ := List.mem_filterMap.mp hmem
      rw [Node.eq_segment_of_segment? hsegment] at hchild
      exact Node.has_sequence_iff.mpr ⟨_, hchild, .refl⟩
  | _ => cases hmem

end Has

/-! ### In the JSON form

The places of a JSON form that stand for nodes hold each other just as the nodes do that they
spell. -/

/-- Only a node holds a node. -/
theorem exists_node_of_holds {whole : Part} {json : Json}
    (h : whole.Holds ⟨.fcsNode, json⟩) : ∃ outer, whole = ⟨.fcsNode, outer⟩ := by
  cases h with
  | child _ _ _ _ => exact ⟨_, rfl⟩
  | query _ _ _ => exact ⟨_, rfl⟩

theorem Node.Spells.exists_part_of_holds {json : Json} {node child : Node}
    (hspelled : Node.Spells json node) (hholds : node.Holds child) :
    ∃ part, Part.Holds ⟨.fcsNode, json⟩ ⟨.fcsNode, part⟩ ∧ Node.Spells part child := by
  cases hholds with
  | sequence hmem =>
      cases hspelled with
      | sequence htype hget spelled =>
          obtain ⟨item, hitem, hchild⟩ := exists_of_forall₂_of_mem spelled.flip hmem
          exact ⟨item, .child (.inl rfl) htype hget hitem, hchild⟩
  | disjunction hmem =>
      cases hspelled with
      | disjunction htype hget spelled =>
          obtain ⟨item, hitem, hchild⟩ := exists_of_forall₂_of_mem spelled.flip hmem
          exact ⟨item, .child (.inr rfl) htype hget hitem, hchild⟩
  | group =>
      cases hspelled with
      | group htype hget _ _ spelled => exact ⟨_, .query (.inl rfl) htype hget, spelled⟩
  | withWithin =>
      cases hspelled with
      | withWithin htype hget _ spelled => exact ⟨_, .query (.inr rfl) htype hget, spelled⟩

theorem Node.Spells.exists_child_of_holds {json part : Json} {node : Node}
    (hspelled : Node.Spells json node) (hholds : Part.Holds ⟨.fcsNode, json⟩ ⟨.fcsNode, part⟩) :
    ∃ child, node.Holds child ∧ Node.Spells part child := by
  cases hholds with
  | child hword htype hget hmem =>
      cases hspelled with
      | sequence _ hchildren spelled =>
          cases hchildren.symm.trans hget
          obtain ⟨child, hchild, hpart⟩ := exists_of_forall₂_of_mem spelled hmem
          exact ⟨child, .sequence hchild, hpart⟩
      | disjunction _ hchildren spelled =>
          cases hchildren.symm.trans hget
          obtain ⟨child, hchild, hpart⟩ := exists_of_forall₂_of_mem spelled hmem
          exact ⟨child, .disjunction hchild, hpart⟩
      | _ hother => rcases hword with rfl | rfl <;> simp [hother] at htype
  | query hword htype hget =>
      cases hspelled with
      | group _ hquery _ _ spelled =>
          cases hquery.symm.trans hget
          exact ⟨_, .group, spelled⟩
      | withWithin _ hquery _ spelled =>
          cases hquery.symm.trans hget
          exact ⟨_, .withWithin, spelled⟩
      | _ hother => rcases hword with rfl | rfl <;> simp [hother] at htype

/-- Every node at any depth is spelled by a place of the JSON form. -/
theorem Node.Spells.exists_part_of_reaches {json : Json} {node inner : Node}
    (hspelled : Node.Spells json node) (hreach : ReflTransGen Node.Holds node inner) :
    ∃ part, ReflTransGen Part.Holds ⟨.fcsNode, json⟩ ⟨.fcsNode, part⟩ ∧
      Node.Spells part inner := by
  induction hreach with
  | refl => exact ⟨json, .refl, hspelled⟩
  | tail _ hholds ih =>
      obtain ⟨outer, houter, hspells⟩ := ih
      obtain ⟨part, hpart, hinner⟩ := hspells.exists_part_of_holds hholds
      exact ⟨part, houter.tail hpart, hinner⟩

/-- And every place of the JSON form that stands for a node spells a node at some depth. -/
theorem Node.Spells.exists_node_of_reaches {json part : Json} {node : Node}
    (hspelled : Node.Spells json node)
    (hreach : ReflTransGen Part.Holds ⟨.fcsNode, json⟩ ⟨.fcsNode, part⟩) :
    ∃ inner, ReflTransGen Node.Holds node inner ∧ Node.Spells part inner := by
  -- A chain that ends at a node runs through nodes only, so the induction is on its end.
  generalize hplace : (⟨.fcsNode, part⟩ : Part) = place at hreach
  induction hreach generalizing part with
  | refl =>
      cases hplace
      exact ⟨node, .refl, hspelled⟩
  | tail _ hholds ih =>
      subst hplace
      -- The place before the last is a node as well, so that the hypothesis is about it.
      obtain ⟨outer, rfl⟩ := exists_node_of_holds hholds
      obtain ⟨middle, hmiddle, hspells⟩ := ih rfl
      obtain ⟨inner, hinner, hpart⟩ := hspells.exists_child_of_holds hholds
      exact ⟨inner, hmiddle.tail hinner, hpart⟩

/-! ## Bounds that are given -/

/-- The part of the JSON form is that of a segment, at whatever depth. -/
def SegmentWithin (json part : Json) : Prop :=
  ReflTransGen Part.Holds ⟨.fcsNode, json⟩ ⟨.fcsNode, part⟩ ∧
    part.get? "type" = some (.str "segment")

/-- The bounds in the JSON form of a segment obey a rule; one that is left out stands for one. -/
def BoundsObey (rule : UInt32 → UInt32 → Prop) (part : Json) : Prop :=
  ∀ n m, OptionalCount part "min_occurs" n → OptionalCount part "max_occurs" m → rule n m

/-- The lower bound is no greater than the upper bound. -/
def Segment.IsOrdered (segment : Segment) : Prop :=
  segment.minOccurs ≤ segment.maxOccurs

instance (segment : Segment) : Decidable segment.IsOrdered :=
  inferInstanceAs (Decidable (_ ≤ _))

section Reading

variable {rule : UInt32 → UInt32 → Prop} {json part : Json} {node : Node} {segment : Segment}

theorem Segment.Spells.boundsObey_iff (h : Segment.Spells part segment) :
    BoundsObey rule part ↔ rule segment.minOccurs segment.maxOccurs := by
  constructor
  · intro hobey
    exact hobey _ _ h.minOccurs h.maxOccurs
  · intro hrule n m hn hm
    rw [hn.unique h.minOccurs, hm.unique h.maxOccurs]
    exact hrule

/-- The segments of a query are those that its JSON form spells. -/
theorem Node.Spells.exists_part_of_has (hspelled : Node.Spells json node)
    (hhas : node.Has segment) : ∃ part, SegmentWithin json part ∧ Segment.Spells part segment := by
  obtain ⟨part, hreach, hpart⟩ := hspelled.exists_part_of_reaches hhas
  cases hpart with
  | segment htype hsegment => exact ⟨part, ⟨hreach, htype⟩, hsegment⟩

theorem Node.Spells.exists_segment_of_within (hspelled : Node.Spells json node)
    (hwithin : SegmentWithin json part) :
    ∃ segment, node.Has segment ∧ Segment.Spells part segment := by
  obtain ⟨hreach, htype⟩ := hwithin
  obtain ⟨inner, hinner, hpart⟩ := hspelled.exists_node_of_reaches hreach
  cases hpart with
  | segment _ hsegment => exact ⟨_, hinner, hsegment⟩
  | _ hother => simp [hother] at htype

/-- All segments of a query that is read obey a rule exactly if all bounds in its JSON form do. -/
theorem forall_has_iff (hread : Node.ofJson? json = some node) :
    (∀ segment, node.Has segment → rule segment.minOccurs segment.maxOccurs) ↔
      ∀ part, SegmentWithin json part → BoundsObey rule part := by
  have hspelled := Node.ofJson?_eq_some_iff.mp hread
  constructor
  · intro hall part hwithin
    obtain ⟨segment, hhas, hsegment⟩ := hspelled.exists_segment_of_within hwithin
    exact hsegment.boundsObey_iff.mpr (hall segment hhas)
  · intro hall segment hhas
    obtain ⟨part, hwithin, hsegment⟩ := hspelled.exists_part_of_has hhas
    exact hsegment.boundsObey_iff.mp (hall part hwithin)

end Reading

/-! ## Ways to a segment -/

/-- The segments that can be made where all pairs of bounds that are handed in obey a rule. -/
inductive Segment.Made (rule : UInt32 → UInt32 → Prop) : Segment → Prop
  | once (expression : Expression) : Made rule (.once expression)
  | withOccurs {segment : Segment} (hmade : Made rule segment) {minOccurs maxOccurs : UInt32}
      (hrule : rule minOccurs maxOccurs) : Made rule (segment.withOccurs minOccurs maxOccurs)
  | read {json : Json} {node : Node} {segment : Segment}
      (hread : Node.ofJson? json = some node)
      (hrule : ∀ part, SegmentWithin json part → BoundsObey rule part)
      (hhas : node.Has segment) : Made rule segment
  | readAlone {json : Json} {segment : Segment} (hread : Segment.ofJson? json = some segment)
      (hrule : BoundsObey rule json) : Made rule segment

/-- The bounds of segments are those handed in, or once. -/
theorem Segment.made_iff {rule : UInt32 → UInt32 → Prop} (hone : rule 1 1) {segment : Segment} :
    Segment.Made rule segment ↔ rule segment.minOccurs segment.maxOccurs := by
  constructor
  · intro hmade
    -- Each way either takes a pair over or starts from one.
    cases hmade with
    | once expression => exact hone
    | withOccurs _ hrule => exact hrule
    | read hread hrule hhas => exact (forall_has_iff hread).mpr hrule segment hhas
    | readAlone hread hrule =>
        exact (Segment.ofJson?_eq_some_iff.mp hread).boundsObey_iff.mp hrule
  · intro hrule
    exact .withOccurs (.once segment.expression) hrule

/-! ## Quantifiers -/

/-- The pattern of the segment says how often it may occur. -/
def Segment.IsRepeated (segment : Segment) : Prop :=
  match segment.expression with
  | .simple _ => True
  | .wildcard => True
  | _ => False

theorem Segment.times?_of_ok {segment : Segment} {token : Cqp.Token}
    (h : segment.token = .ok token) :
    (segment.IsRepeated ∧ token.times? = some segment.times) ∨
      (¬ segment.IsRepeated ∧ token.times? = none) := by
  obtain ⟨body, minOccurs, maxOccurs⟩ := segment
  cases body with
  | simple expression =>
      obtain ⟨constraint, -, rfl⟩ := Outcome.map_ok_iff.mp h
      exact .inl ⟨trivial, rfl⟩
  | and operands =>
      obtain ⟨pair, -, rfl⟩ := Outcome.map_ok_iff.mp h
      exact .inr ⟨id, rfl⟩
  | or operands =>
      obtain ⟨pair, -, rfl⟩ := Outcome.map_ok_iff.mp h
      exact .inr ⟨id, rfl⟩
  | not operand => cases h
  | group expression => cases h
  | wildcard =>
      cases h
      exact .inl ⟨trivial, rfl⟩

/-- A quantifier is the wrong way round exactly if the bounds of its segment are. -/
theorem Segment.isReversed_quantifier_iff {segment : Segment} {token : Cqp.Token}
    (h : segment.token = .ok token) :
    Cqp.IsReversed token.quantifier ↔ segment.IsRepeated ∧ ¬ segment.IsOrdered := by
  rcases Segment.times?_of_ok h with ⟨hrepeated, htimes⟩ | ⟨hsingle, htimes⟩
  · rw [Cqp.Token.quantifier, htimes, Option.elim_some, Cqp.Repetition.isReversed_chars_iff,
      Segment.IsOrdered, UInt32.not_le]
    exact (and_iff_right hrepeated).symm
  · rw [Cqp.Token.quantifier, htimes, Option.elim_none]
    refine ⟨fun hreversed => ?_, fun hboth => absurd hboth.1 hsingle⟩
    obtain ⟨least, most, -, htext⟩ := hreversed
    cases htext

/-- The text of an accepted query is made of one token pattern for each segment. -/
theorem Node.exists_tokens_of_ok {node : Node} {text : String}
    (h : node.toCqp.outcome = .ok text) :
    ∃ tokens, node.tokens.outcome = .ok tokens ∧ text = Cqp.render tokens ∧
      List.Forall₂ (fun segment token => Segment.token segment = .ok token)
        node.segments tokens := by
  rw [Node.outcome_toCqp] at h
  split at h
  · rename_i hroot
    obtain ⟨tokens, htokens, hrender⟩ := Outcome.map_ok_iff.mp h
    refine ⟨tokens, ?_, hrender.symm, Outcome.mapM_ok_iff.mp htokens⟩
    rw [outcome_tokens, if_pos hroot, htokens]
  · cases h

/-! ## The order of bounds -/

/-- The order of bounds is the one that they are handed in with. What a segment can have is what is
handed in for one; the segments of a query are in order exactly if the JSON form says so at every
depth; and the quantifiers in a corpus query are the wrong way round exactly at the segments that
are out of order, so at none if the JSON form has all its bounds in order. -/
theorem bounds_as_given {json : Json} {node : Node} (hread : Node.ofJson? json = some node) :
    (∀ rule : UInt32 → UInt32 → Prop, rule 1 1 → ∀ segment,
      Segment.Made rule segment ↔ rule segment.minOccurs segment.maxOccurs) ∧
    ((∀ segment, node.Has segment → segment.IsOrdered) ↔
      ∀ part, SegmentWithin json part → BoundsObey (· ≤ ·) part) ∧
    ∀ text, node.toCqp.outcome = .ok text → ∃ tokens, node.tokens.outcome = .ok tokens ∧
      text.toList = tokens.flatMap (fun token => token.bracketed ++ token.quantifier) ∧
      List.Forall₂ (fun segment token =>
        Cqp.IsReversed token.quantifier ↔ segment.IsRepeated ∧ ¬ segment.IsOrdered)
        node.segments tokens ∧
      ((∀ part, SegmentWithin json part → BoundsObey (· ≤ ·) part) →
        ∀ token ∈ tokens, ¬ Cqp.IsReversed token.quantifier) := by
  refine ⟨fun rule hone segment => Segment.made_iff hone, forall_has_iff hread, ?_⟩
  intro text htext
  obtain ⟨tokens, htokens, rfl, hpatterns⟩ := Node.exists_tokens_of_ok htext
  have hquantifiers := hpatterns.imp fun _ _ htoken => Segment.isReversed_quantifier_iff htoken
  refine ⟨tokens, htokens, Cqp.toList_render tokens, hquantifiers, ?_⟩
  intro hobey token htoken hreversed
  -- The segment of a pattern stands in the query, where all bounds are in order.
  obtain ⟨segment, hsegment, hiff⟩ := exists_of_forall₂_of_mem hquantifiers.flip htoken
  have hordered := (forall_has_iff hread).mpr hobey segment (Node.has_of_mem_segments hsegment)
  exact (hiff.mp hreversed).2 hordered

/-- The JSON form of a wildcard with other members. -/
def wildcardJson (bounds : List (String × Json)) : Json :=
  .obj (("type", .str "segment") :: ("expression", .obj [("type", .str "wildcard")]) :: bounds)

/-- Bounds in order at two depths, one of them beside a bound that is left out. -/
def orderedJson : Json :=
  .obj [("type", .str "sequence"), ("children", .arr [
    wildcardJson [("min_occurs", .number (.int 0)), ("max_occurs", .number (.int 2))],
    .obj [("type", .str "group"), ("query", wildcardJson [("min_occurs", .number (.int 0))])]])]

theorem bounds_as_given_nested :
    let node : Node := .sequence
      [.segment ⟨.wildcard, 0, 2⟩, .group (.segment ⟨.wildcard, 0, 1⟩) 1 1]
    Node.ofJson? orderedJson = some node ∧ node.toCqp.outcome = .ok " []{0,2} " ∧
      (∀ part, SegmentWithin orderedJson part → BoundsObey (· ≤ ·) part) ∧
      ∃ tokens, node.tokens.outcome = .ok tokens ∧
        ∀ token ∈ tokens, ¬ Cqp.IsReversed token.quantifier := by
  intro node
  have hread : Node.ofJson? orderedJson = some node :=
    Node.ofJson?_eq_some_iff.mpr (.sequence rfl rfl
      (.cons (.segment rfl ⟨⟨_, rfl, .wildcard rfl⟩, .integer rfl, .integer rfl⟩)
        (.cons (.group rfl rfl (.absent rfl) (.absent rfl)
          (.segment rfl ⟨⟨_, rfl, .wildcard rfl⟩, .integer rfl, .absent rfl⟩)) .nil)))
  have htext : node.toCqp.outcome = .ok " []{0,2} " := by decide +kernel
  have hordered : ∀ segment, node.Has segment → segment.IsOrdered := by
    simp [node, Segment.IsOrdered]
  obtain ⟨-, hiff, hquantifiers⟩ := bounds_as_given hread
  have hobey := hiff.mp hordered
  obtain ⟨tokens, htokens, -, -, hnone⟩ := hquantifiers _ htext
  exact ⟨hread, htext, hobey, tokens, htokens, hnone hobey⟩

/-- Bounds out of order are neither refused nor put in order: by hand, as a pair in the JSON form,
and where an upper bound is left out beside a lower bound of two. -/
theorem bounds_out_of_order :
    ¬ (∀ segment, Segment.Made (fun _ _ => True) segment → segment.IsOrdered) ∧
    (∃ segment, Node.ofJson? (wildcardJson
        [("min_occurs", .number (.int 3)), ("max_occurs", .number (.int 1))])
          = some (.segment segment) ∧
      ¬ segment.IsOrdered ∧ (Node.segment segment).toCqp.outcome = .ok " []{3,1} ") ∧
    (∃ segment, Node.ofJson? (wildcardJson [("min_occurs", .number (.int 2))])
          = some (.segment segment) ∧
      ¬ segment.IsOrdered ∧ (Node.segment segment).toCqp.outcome = .ok " []{2,1} ") ∧
    Cqp.IsReversed "{3,1} ".toList ∧ Cqp.IsReversed "{2,1} ".toList := by
  refine ⟨fun hall => ?_, ⟨⟨.wildcard, 3, 1⟩, ?_, by decide, by decide +kernel⟩,
    ⟨⟨.wildcard, 2, 1⟩, ?_, by decide, by decide +kernel⟩, ⟨3, 1, by decide, by decide⟩,
    ⟨2, 1, by decide, by decide⟩⟩
  · have hmade : Segment.Made (fun _ _ => True) ((Segment.once .wildcard).withOccurs 3 1) :=
      .withOccurs (.once .wildcard) trivial
    exact absurd (hall _ hmade) (by decide)
  · exact Node.ofJson?_eq_some_iff.mpr
      (.segment rfl ⟨⟨_, rfl, .wildcard rfl⟩, .integer rfl, .integer rfl⟩)
  · exact Node.ofJson?_eq_some_iff.mpr
      (.segment rfl ⟨⟨_, rfl, .wildcard rfl⟩, .integer rfl, .absent rfl⟩)

end CorpusQuery.Fcs
