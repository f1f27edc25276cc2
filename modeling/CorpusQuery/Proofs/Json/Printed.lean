/-
  CorpusQuery.Proofs.Json.Printed

  The strict reader on text that was printed, compact or indented. Strings are
  read back whatever characters they hold, and so is every value whose numbers
  are and that does not nest deeper than the limit.
-/
import CorpusQuery.Json.Printer
import CorpusQuery.Proofs.Json.Numbers

namespace CorpusQuery.Json

/-! ## Running the reader -/

namespace Reader

/-- The reader after some text. -/
def run (limit : Nat) (reader : Reader) (text : List Char) : Option Reader :=
  text.foldlM (step limit) reader

theorem run_cons {limit : Nat} {reader : Reader} {c : Char} (next : Reader) (text : List Char)
    (h : step limit reader c = some next) : run limit reader (c :: text) = run limit next text := by
  rw [run, List.foldlM_cons, h]
  rfl

theorem run_append {limit : Nat} {reader next : Reader} {text : List Char} (more : List Char)
    (h : run limit reader text = some next) :
    run limit reader (text ++ more) = run limit next more := by
  rw [run, List.foldlM_append]
  change (run limit reader text).bind _ = _
  rw [h]
  rfl

/-! ## Strings -/

/-- A control character is told by the two hexadecimal digits of its escape. -/
theorem hexValue?_hexDigit : ∀ n < 16, Text.hexValue? (Text.hexDigit n) = some n := by decide

/-- Inside a string, the reader takes each character back from the way it is written. -/
theorem run_escapeChar (limit : Nat) (built : Assembly) (read : List Char) (c : Char) :
    run limit ⟨.text read, built⟩ (escapeChar c) = some ⟨.text (c :: read), built⟩ := by
  by_cases hletter : c = '"' ∨ c = '\\' ∨ c = '\x08' ∨ c = '\x0c' ∨ c = '\n' ∨ c = '\r' ∨ c = '\t'
  · -- an escape of one letter
    rcases hletter with rfl | rfl | rfl | rfl | rfl | rfl | rfl <;> rfl
  simp only [not_or] at hletter
  obtain ⟨hquote, hbackslash, hbackspace, hfeed, hline, hreturn, htab⟩ := hletter
  rw [escapeChar, if_neg hquote, if_neg hbackslash, if_neg hbackspace, if_neg hfeed, if_neg hline,
    if_neg hreturn, if_neg htab]
  by_cases hcontrol : c.toNat < 0x20
  · have hhigh : Text.hexValue? (Text.hexDigit (c.toNat / 16)) = some (c.toNat / 16) :=
      hexValue?_hexDigit (c.toNat / 16) (by omega)
    have hlow : Text.hexValue? (Text.hexDigit (c.toNat % 16)) = some (c.toNat % 16) :=
      hexValue?_hexDigit (c.toNat % 16) (by omega)
    have hunit : 16 * (c.toNat / 16) + c.toNat % 16 = c.toNat := Nat.div_add_mod c.toNat 16
    have hchar : afterCode read none c.toNat = some (.text (c :: read)) := by
      have hlead : ¬ 0xD800 ≤ c.toNat := by omega
      have htrail : ¬ 0xDC00 ≤ c.toNat := by omega
      simp [afterCode, hlead, htrail]
    rw [if_pos hcontrol]
    -- The first two digits are zeros, so that the last two say which character it is.
    show run limit ⟨.code read none 2 0, built⟩ _ = _
    rw [run_cons ⟨.code read none 1 (c.toNat / 16), built⟩ _ (by simp [step, hhigh]),
      run_cons ⟨.text (c :: read), built⟩ _ (by simp [step, hlow, hunit, hchar])]
    rfl
  · -- a character that stands for itself
    have hplain : step limit ⟨.text read, built⟩ c = some ⟨.text (c :: read), built⟩ := by
      simp [step, hquote, hbackslash, hcontrol]
    rw [if_neg hcontrol, run_cons _ [] hplain]
    rfl

theorem run_escaped (limit : Nat) (built : Assembly) (text read : List Char) :
    run limit ⟨.text read, built⟩ (text.flatMap escapeChar)
      = some ⟨.text (text.reverse ++ read), built⟩ := by
  induction text generalizing read with
  | nil => rfl
  | cons c rest ih =>
      rw [List.flatMap_cons, run_append _ (run_escapeChar limit built read c), ih,
        List.reverse_cons, List.append_assoc]
      rfl

/-- A quoted string is one token, with the text it was made from. -/
theorem run_quote {limit : Nat} {built after : Assembly} (text : String)
    (h : built.add limit (.text text) = some after) :
    run limit ⟨.between, built⟩ (quote text) = some ⟨.between, after⟩ := by
  have hescaped := run_escaped limit built text.toList []
  have hclose : step limit ⟨.text (text.toList.reverse ++ []), built⟩ '"'
      = some ⟨.between, after⟩ := by
    simp [step, h]
  rw [quote, List.cons_append, run_cons ⟨.text [], built⟩ _ rfl,
    run_append _ hescaped, run_cons _ _ hclose]
  rfl

/-! ## Words and numbers -/

/-- The reader stands after a whole token. A number or a word is taken for whole as soon as a
character follows that is not part of it; `after` is the assembly with it. -/
inductive Settled (limit : Nat) : Reader → Assembly → Prop
  | between (after : Assembly) : Settled limit ⟨.between, after⟩ after
  | bare {built after : Assembly} {read : List Char} (h : endBare limit built read = some after) :
      Settled limit ⟨.bare read, built⟩ after

/-- A character that ends words and numbers is read as between tokens. -/
theorem Settled.step {limit : Nat} {reader : Reader} {after : Assembly}
    (h : Settled limit reader after) {c : Char} (hc : isBare c = false) :
    reader.step limit c = stepBetween limit after c := by
  cases h with
  | between => rfl
  | bare h => simp [Reader.step, hc, h]

theorem Settled.finish {limit : Nat} {reader : Reader} {after : Assembly}
    (h : Settled limit reader after) : reader.finish limit = after.result? := by
  cases h with
  | between => rfl
  | bare h => simp [Reader.finish, h]

/-- Inside a word or a number the reader only collects characters. -/
theorem run_bare_more (limit : Nat) (built : Assembly) {text : List Char} (read : List Char)
    (htext : ∀ c ∈ text, isBare c = true) :
    run limit ⟨.bare read, built⟩ text = some ⟨.bare (text.reverse ++ read), built⟩ := by
  induction text generalizing read with
  | nil => rfl
  | cons c rest ih =>
      have hc := htext c List.mem_cons_self
      have hrest := fun d hd => htext d (List.mem_cons_of_mem c hd)
      rw [run_cons ⟨.bare (c :: read), built⟩ _ (by simp [Reader.step, hc]),
        ih (c :: read) hrest, List.reverse_cons, List.append_assoc]
      rfl

/-- A word or a number is one token, with the value it stands for. -/
theorem run_bare {limit : Nat} {built after : Assembly} {text : List Char} {value : Json}
    (htext : ∀ c ∈ text, isBare c = true) (hatom : atomOf? text = some value)
    (h : built.add limit (.atom value) = some after) :
    ∃ reader, run limit ⟨.between, built⟩ text = some reader ∧ reader.Settled limit after := by
  cases text with
  | nil =>
      have hempty : atomOf? [] = none := by decide
      rw [hempty] at hatom
      cases hatom
  | cons c rest =>
      have hc := htext c List.mem_cons_self
      have hrest := fun d hd => htext d (List.mem_cons_of_mem c hd)
      have hspace : isSpace c = false := by
        rw [Bool.eq_false_iff]
        intro h
        simp only [isSpace, Bool.or_eq_true, decide_eq_true_eq] at h
        rcases h with ((rfl | rfl) | rfl) | rfl <;> exact absurd hc (by decide)
      have hquote : c ≠ '"' := by
        rintro rfl
        exact absurd hc (by decide)
      have hfirst : Reader.step limit ⟨.between, built⟩ c = some ⟨.bare [c], built⟩ := by
        simp [Reader.step, stepBetween, hspace, hquote, hc]
      -- Characters are kept latest first, and turned round once the token ends.
      refine ⟨⟨.bare (rest.reverse ++ [c]), built⟩, ?_, .bare ?_⟩
      · rw [run_cons _ rest hfirst, run_bare_more limit built [c] hrest]
      · rw [endBare, List.reverse_append, List.reverse_reverse, List.reverse_singleton,
          List.singleton_append, hatom]
        exact h

/-! ## Spaces -/

theorem run_spaces (limit : Nat) (built : Assembly) {text : List Char}
    (htext : ∀ c ∈ text, isSpace c = true) :
    run limit ⟨.between, built⟩ text = some ⟨.between, built⟩ := by
  induction text with
  | nil => rfl
  | cons c rest ih =>
      obtain ⟨hc, hrest⟩ := List.forall_mem_cons.mp htext
      have hstep : step limit ⟨.between, built⟩ c = some ⟨.between, built⟩ := by
        simp [step, stepBetween, hc]
      rw [run_cons _ rest hstep]
      exact ih hrest

/-- No space is part of a number or a word. -/
theorem isBare_of_isSpace {c : Char} (h : isSpace c = true) : isBare c = false := by
  simp only [isSpace, Bool.or_eq_true, decide_eq_true_eq] at h
  rcases h with ((rfl | rfl) | rfl) | rfl <;> decide

/-- Spaces after a token end it, and change nothing else. -/
theorem Settled.run_spaces {limit : Nat} {reader : Reader} {after : Assembly}
    (h : Settled limit reader after) {text : List Char} (htext : ∀ c ∈ text, isSpace c = true) :
    ∃ next, run limit reader text = some next ∧ next.Settled limit after := by
  cases text with
  | nil => exact ⟨reader, rfl, h⟩
  | cons c rest =>
      obtain ⟨hc, hrest⟩ := List.forall_mem_cons.mp htext
      have hstep : reader.step limit c = some ⟨.between, after⟩ := by
        rw [h.step (isBare_of_isSpace hc), stepBetween, if_pos hc]
      refine ⟨⟨.between, after⟩, ?_, .between after⟩
      rw [run_cons _ rest hstep]
      exact Reader.run_spaces limit after hrest

end Reader

/-! ## Layouts

The two written forms differ in what stands between the tokens, and in nothing else. -/

/-- What stands between the tokens of a printed value: around the parts of an array or an object at
a level of indentation, and after a colon. -/
structure Layout where
  gap : Nat → List Char
  afterColon : List Char

namespace Layout

/-- Nothing stands between the tokens. -/
def dense : Layout :=
  ⟨fun _ => [], []⟩

/-- Every part stands on a line of its own. -/
def indented : Layout :=
  ⟨newline, [' ']⟩

/-- Only spaces stand between the tokens. -/
structure IsSpaced (layout : Layout) : Prop where
  gap : ∀ level, ∀ c ∈ layout.gap level, isSpace c = true
  afterColon : ∀ c ∈ layout.afterColon, isSpace c = true

theorem isSpaced_dense : dense.IsSpaced :=
  ⟨fun _ _ hc => absurd hc List.not_mem_nil, fun _ hc => absurd hc List.not_mem_nil⟩

theorem isSpaced_indented : indented.IsSpaced := by
  refine ⟨fun level c hc => ?_, fun c hc => ?_⟩
  · rcases List.mem_cons.mp hc with rfl | hc
    · rfl
    · rw [List.eq_of_mem_replicate hc]
      rfl
  · rw [List.mem_singleton.mp hc]
    rfl

mutual

/-- A value in the layout, where its first line stands at `level`. -/
def chars (layout : Layout) (level : Nat) : Json → List Char
  | .arr [] => ['[', ']']
  | .arr (item :: rest) =>
    '[' :: layout.gap (level + 1) ++ itemChars layout (level + 1) (item :: rest)
      ++ layout.gap level ++ [']']
  | .obj [] => ['\x7b', '\x7d']
  | .obj (member :: rest) =>
    '\x7b' :: layout.gap (level + 1) ++ memberChars layout (level + 1) (member :: rest)
      ++ layout.gap level ++ ['\x7d']
  | .null => "null".toList
  | .bool true => "true".toList
  | .bool false => "false".toList
  | .number n => n.toChars
  | .str text => quote text

/-- Items in the layout. -/
def itemChars (layout : Layout) (level : Nat) : List Json → List Char
  | [] => []
  | [item] => chars layout level item
  | item :: next :: rest =>
    chars layout level item ++ ',' :: layout.gap level ++ itemChars layout level (next :: rest)

/-- Members in the layout. -/
def memberChars (layout : Layout) (level : Nat) : List (String × Json) → List Char
  | [] => []
  | [(key, value)] => quote key ++ ':' :: layout.afterColon ++ chars layout level value
  | (key, value) :: next :: rest =>
    quote key ++ ':' :: layout.afterColon ++ chars layout level value ++ ',' :: layout.gap level
      ++ memberChars layout level (next :: rest)

end

mutual

theorem chars_dense (level : Nat) (value : Json) :
    dense.chars level value = compactChars value := by
  cases value with
  | arr items =>
      cases items with
      | nil => rfl
      | cons item rest =>
          have hitems := itemChars_dense (level + 1) (item :: rest)
          rw [chars, hitems, compactChars_arr]
          simp [dense]
  | obj members =>
      cases members with
      | nil => rfl
      | cons member rest =>
          have hmembers := memberChars_dense (level + 1) (member :: rest)
          rw [chars, hmembers, compactChars_obj]
          simp [dense]
  | bool truth => cases truth <;> rfl
  | _ => rfl
termination_by structural value

theorem itemChars_dense (level : Nat) (items : List Json) :
    dense.itemChars level items = compactItems items := by
  cases items with
  | nil => rfl
  | cons item rest =>
      have hitem := chars_dense level item
      cases rest with
      | nil => exact hitem
      | cons next rest =>
          have hrest := itemChars_dense level (next :: rest)
          rw [itemChars, hitem, hrest, compactItems_cons_cons]
          simp [dense]
termination_by structural items

theorem memberChars_dense (level : Nat) (members : List (String × Json)) :
    dense.memberChars level members = compactMembers members := by
  cases members with
  | nil => rfl
  | cons member rest =>
  cases member with
  | mk key value =>
      have hvalue := chars_dense level value
      cases rest with
      | nil =>
          rw [memberChars, hvalue, compactMembers_singleton]
          simp [dense]
      | cons next rest =>
          have hrest := memberChars_dense level (next :: rest)
          rw [memberChars, hvalue, hrest, compactMembers_cons_cons]
          simp [dense]
termination_by structural members

end

mutual

theorem chars_indented (level : Nat) (value : Json) :
    indented.chars level value = prettyChars level value := by
  cases value with
  | arr items =>
      cases items with
      | nil => rfl
      | cons item rest =>
          have hitems := itemChars_indented (level + 1) (item :: rest)
          rw [chars, hitems]
          rfl
  | obj members =>
      cases members with
      | nil => rfl
      | cons member rest =>
          have hmembers := memberChars_indented (level + 1) (member :: rest)
          rw [chars, hmembers]
          rfl
  | bool truth => cases truth <;> rfl
  | _ => rfl
termination_by structural value

theorem itemChars_indented (level : Nat) (items : List Json) :
    indented.itemChars level items = prettyItems level items := by
  cases items with
  | nil => rfl
  | cons item rest =>
      have hitem := chars_indented level item
      cases rest with
      | nil => exact hitem
      | cons next rest =>
          have hrest := itemChars_indented level (next :: rest)
          rw [itemChars, hitem, hrest]
          rfl
termination_by structural items

theorem memberChars_indented (level : Nat) (members : List (String × Json)) :
    indented.memberChars level members = prettyMembers level members := by
  cases members with
  | nil => rfl
  | cons member rest =>
  cases member with
  | mk key value =>
      have hvalue := chars_indented level value
      cases rest with
      | nil =>
          rw [memberChars, hvalue, prettyMembers]
          simp [indented]
      | cons next rest =>
          have hrest := memberChars_indented level (next :: rest)
          rw [memberChars, hvalue, hrest, prettyMembers]
          simp [indented]
termination_by structural members

end

end Layout

/-! ## Values -/

mutual

/-- Every number in the value is read back from its own text. -/
def NumbersReadBack : Json → Prop
  | .number n => n.ReadsBack
  | .arr items => ItemNumbersReadBack items
  | .obj members => MemberNumbersReadBack members
  | _ => True

/-- Every number in the items is read back. -/
def ItemNumbersReadBack : List Json → Prop
  | [] => True
  | item :: rest => NumbersReadBack item ∧ ItemNumbersReadBack rest

/-- Every number in the members is read back. -/
def MemberNumbersReadBack : List (String × Json) → Prop
  | [] => True
  | (_, value) :: rest => NumbersReadBack value ∧ MemberNumbersReadBack rest

end

/-- A value may come next, on top of the given open arrays and objects. -/
inductive Assembly.Awaits (stack : List Frame) : Assembly → Prop
  | value : Awaits stack (.awaitValue stack)
  | item : Awaits stack (.awaitItem stack)

namespace Assembly.Awaits

variable {stack : List Frame} {built : Assembly}

theorem add_atom (h : Awaits stack built) (limit : Nat) (value : Json) :
    built.add limit (.atom value) = place value stack := by
  cases h <;> rfl

theorem add_text (h : Awaits stack built) (limit : Nat) (text : String) :
    built.add limit (.text text) = place (.str text) stack := by
  cases h <;> rfl

theorem add_openArray (h : Awaits stack built) {limit : Nat} (hlimit : stack.length < limit) :
    built.add limit .openArray = some (.awaitItem (.items [] :: stack)) := by
  cases h <;> exact if_pos hlimit

theorem add_openObject (h : Awaits stack built) {limit : Nat} (hlimit : stack.length < limit) :
    built.add limit .openObject = some (.awaitFirstKey (.members [] :: stack)) := by
  cases h <;> exact if_pos hlimit

end Assembly.Awaits

/-- A key may come next in the innermost object. -/
inductive Assembly.AwaitsKey (read : List (String × Json)) (outer : List Frame) : Assembly → Prop
  | first : AwaitsKey read outer (.awaitFirstKey (.members read :: outer))
  | next : AwaitsKey read outer (.awaitKey (.members read :: outer))

theorem Assembly.AwaitsKey.add_text {read : List (String × Json)} {outer : List Frame}
    {built : Assembly} (h : AwaitsKey read outer built) (limit : Nat) (key : String) :
    built.add limit (.text key) = some (.awaitColon (.member read key :: outer)) := by
  cases h <;> rfl

namespace Reader

/-- Punctuation is read at once. -/
theorem step_punctuation {limit : Nat} {built after : Assembly} {c : Char} {token : Token}
    (hc : (isSpace c || c = '"' || isBare c) = false) (hpunct : punctuation? c = some token)
    (hadd : built.add limit token = some after) :
    step limit ⟨.between, built⟩ c = some ⟨.between, after⟩ := by
  simp only [Bool.or_eq_false_iff, decide_eq_false_iff_not] at hc
  obtain ⟨⟨hspace, hquote⟩, hbare⟩ := hc
  show stepBetween limit built c = some ⟨.between, after⟩
  rw [stepBetween, if_neg (by simp [hspace]), if_neg hquote, if_neg (by simp [hbare]), hpunct]
  show (built.add limit token).map _ = _
  rw [hadd]
  rfl

theorem Settled.step_punctuation {limit : Nat} {reader : Reader} {built after : Assembly}
    (h : Settled limit reader built) {c : Char} {token : Token}
    (hc : (isSpace c || c = '"' || isBare c) = false) (hpunct : punctuation? c = some token)
    (hadd : built.add limit token = some after) :
    reader.step limit c = some ⟨.between, after⟩ := by
  have hbare : isBare c = false := (Bool.or_eq_false_iff.mp hc).2
  rw [h.step hbare]
  exact Reader.step_punctuation hc hpunct hadd

section Layouts

variable {layout : Layout}

-- The three statements are proved together, as values, items and members are built from each
-- other. What carries the induction is that the stack leaves room for the depth still to come.
mutual

/-- The reader puts a printed value in its place, wherever a value may come next. -/
theorem run_chars (hspaced : layout.IsSpaced) (limit level : Nat) (stack : List Frame)
    {built after : Assembly} (hbuilt : built.Awaits stack) (value : Json)
    (hdepth : stack.length + value.depth ≤ limit) (hnumbers : value.NumbersReadBack)
    (hplace : Assembly.place value stack = some after) :
    ∃ reader, run limit ⟨.between, built⟩ (layout.chars level value) = some reader ∧
      reader.Settled limit after := by
  have hatom : built.add limit (.atom value) = some after :=
    (hbuilt.add_atom limit value).trans hplace
  cases value with
  | null =>
      have hword : atomOf? "null".toList = some .null := rfl
      exact run_bare (List.all_eq_true.mp rfl) hword hatom
  | bool truth =>
      cases truth with
      | true =>
          have hword : atomOf? "true".toList = some (.bool true) := rfl
          exact run_bare (List.all_eq_true.mp rfl) hword hatom
      | false =>
          have hword : atomOf? "false".toList = some (.bool false) := rfl
          exact run_bare (List.all_eq_true.mp rfl) hword hatom
  | number n =>
      have hn : n.ReadsBack := hnumbers
      exact run_bare hn.isBare hn.atomOf? hatom
  | str text =>
      have hadd : built.add limit (.text text) = some after :=
        (hbuilt.add_text limit text).trans hplace
      exact ⟨⟨.between, after⟩, run_quote text hadd, .between after⟩
  | arr items =>
      rw [depth] at hdepth
      have hopen : step limit ⟨.between, built⟩ '['
          = some ⟨.between, .awaitItem (.items [] :: stack)⟩ :=
        step_punctuation (by decide) rfl (hbuilt.add_openArray (by omega))
      -- The bracket opens a frame, which the items fill and the other bracket closes.
      cases items with
      | nil =>
          have hclose : step limit ⟨.between, .awaitItem (.items [] :: stack)⟩ ']'
              = some ⟨.between, after⟩ := step_punctuation (by decide) rfl hplace
          rw [Layout.chars, run_cons _ _ hopen]
          exact ⟨⟨.between, after⟩, run_cons _ [] hclose, .between after⟩
      | cons item rest =>
          have hbefore := run_spaces limit (.awaitItem (.items [] :: stack))
            (hspaced.gap (level + 1))
          obtain ⟨reader, hrun, hsettled⟩ := run_itemChars hspaced limit (level + 1) [] stack .item
            (item :: rest) (List.cons_ne_nil item rest) (by omega) hnumbers
          obtain ⟨last, hlast, hlastSettled⟩ := hsettled.run_spaces (hspaced.gap level)
          have hend : Assembly.endArray (.items ((item :: rest).reverse ++ []) :: stack)
              = some after := by
            rw [Assembly.endArray, List.append_nil, List.reverse_reverse]
            exact hplace
          have hclose : last.step limit ']' = some ⟨.between, after⟩ :=
            hlastSettled.step_punctuation (by decide) rfl hend
          refine ⟨⟨.between, after⟩, ?_, .between after⟩
          rw [Layout.chars, List.cons_append, List.cons_append, List.cons_append,
            run_cons _ _ hopen, List.append_assoc, List.append_assoc, run_append _ hbefore,
            run_append _ hrun, run_append _ hlast]
          exact run_cons _ [] hclose
  | obj members =>
      rw [depth] at hdepth
      have hopen : step limit ⟨.between, built⟩ '\x7b'
          = some ⟨.between, .awaitFirstKey (.members [] :: stack)⟩ :=
        step_punctuation (by decide) rfl (hbuilt.add_openObject (by omega))
      cases members with
      | nil =>
          have hclose : step limit ⟨.between, .awaitFirstKey (.members [] :: stack)⟩ '\x7d'
              = some ⟨.between, after⟩ := step_punctuation (by decide) rfl hplace
          rw [Layout.chars, run_cons _ _ hopen]
          exact ⟨⟨.between, after⟩, run_cons _ [] hclose, .between after⟩
      | cons member rest =>
          have hbefore := run_spaces limit (.awaitFirstKey (.members [] :: stack))
            (hspaced.gap (level + 1))
          obtain ⟨reader, hrun, hsettled⟩ := run_memberChars hspaced limit (level + 1) [] stack
            .first (member :: rest) (List.cons_ne_nil member rest) (by omega) hnumbers
          obtain ⟨last, hlast, hlastSettled⟩ := hsettled.run_spaces (hspaced.gap level)
          have hend : Assembly.endObject (.members ((member :: rest).reverse ++ []) :: stack)
              = some after := by
            rw [Assembly.endObject, List.append_nil, List.reverse_reverse]
            exact hplace
          have hclose : last.step limit '\x7d' = some ⟨.between, after⟩ :=
            hlastSettled.step_punctuation (by decide) rfl hend
          refine ⟨⟨.between, after⟩, ?_, .between after⟩
          rw [Layout.chars, List.cons_append, List.cons_append, List.cons_append,
            run_cons _ _ hopen, List.append_assoc, List.append_assoc, run_append _ hbefore,
            run_append _ hrun, run_append _ hlast]
          exact run_cons _ [] hclose
termination_by sizeOf value

/-- The reader puts printed items into an open array. -/
theorem run_itemChars (hspaced : layout.IsSpaced) (limit level : Nat) (read : List Json)
    (outer : List Frame) {built : Assembly} (hbuilt : built.Awaits (.items read :: outer))
    (items : List Json) (hitems : items ≠ [])
    (hdepth : outer.length + (depthItems items + 1) ≤ limit)
    (hnumbers : ItemNumbersReadBack items) :
    ∃ reader, run limit ⟨.between, built⟩ (layout.itemChars level items) = some reader ∧
      reader.Settled limit (.awaitSeparator (.items (items.reverse ++ read) :: outer)) := by
  cases items with
  | nil => exact absurd rfl hitems
  | cons item rest =>
      rw [depthItems] at hdepth
      obtain ⟨hitem, hrest⟩ := hnumbers
      obtain ⟨reader, hrun, hsettled⟩ := run_chars hspaced limit level (.items read :: outer) hbuilt
        item (by rw [List.length_cons]; omega) hitem rfl
      cases rest with
      | nil => exact ⟨reader, hrun, hsettled⟩
      | cons next rest =>
          -- The comma also ends the item where that is a number or a word.
          have hcomma : reader.step limit ','
              = some ⟨.between, .awaitValue (.items (item :: read) :: outer)⟩ :=
            hsettled.step_punctuation (by decide) rfl rfl
          have hgap := run_spaces limit (.awaitValue (.items (item :: read) :: outer))
            (hspaced.gap level)
          obtain ⟨last, hlast, hlastSettled⟩ := run_itemChars hspaced limit level (item :: read)
            outer .value (next :: rest) (List.cons_ne_nil next rest) (by omega) hrest
          refine ⟨last, ?_, ?_⟩
          · rw [Layout.itemChars, List.append_assoc, run_append _ hrun, List.cons_append,
              run_cons _ _ hcomma, run_append _ hgap]
            exact hlast
          · rw [List.reverse_cons, List.append_assoc]
            exact hlastSettled
termination_by sizeOf items

/-- The reader puts printed members into an open object. -/
theorem run_memberChars (hspaced : layout.IsSpaced) (limit level : Nat)
    (read : List (String × Json)) (outer : List Frame) {built : Assembly}
    (hbuilt : built.AwaitsKey read outer) (members : List (String × Json))
    (hmembers : members ≠ []) (hdepth : outer.length + (depthMembers members + 1) ≤ limit)
    (hnumbers : MemberNumbersReadBack members) :
    ∃ reader, run limit ⟨.between, built⟩ (layout.memberChars level members) = some reader ∧
      reader.Settled limit (.awaitSeparator (.members (members.reverse ++ read) :: outer)) := by
  cases members with
  | nil => exact absurd rfl hmembers
  | cons member rest =>
  cases member with
  | mk key value =>
      rw [depthMembers] at hdepth
      obtain ⟨hvalue, hrest⟩ := hnumbers
      have hkey : run limit ⟨.between, built⟩ (quote key)
          = some ⟨.between, .awaitColon (.member read key :: outer)⟩ :=
        run_quote key (hbuilt.add_text limit key)
      have hcolon : step limit ⟨.between, .awaitColon (.member read key :: outer)⟩ ':'
          = some ⟨.between, .awaitValue (.member read key :: outer)⟩ :=
        step_punctuation (by decide) rfl rfl
      have hgap := run_spaces limit (.awaitValue (.member read key :: outer)) hspaced.afterColon
      obtain ⟨reader, hrun, hsettled⟩ := run_chars hspaced limit level (.member read key :: outer)
        .value value (by rw [List.length_cons]; omega) hvalue rfl
      cases rest with
      | nil =>
          refine ⟨reader, ?_, hsettled⟩
          rw [Layout.memberChars, List.append_assoc, run_append _ hkey, List.cons_append,
            run_cons _ _ hcolon, run_append _ hgap]
          exact hrun
      | cons next rest =>
          have hcomma : reader.step limit ','
              = some ⟨.between, .awaitKey (.members ((key, value) :: read) :: outer)⟩ :=
            hsettled.step_punctuation (by decide) rfl rfl
          have hbefore := run_spaces limit (.awaitKey (.members ((key, value) :: read) :: outer))
            (hspaced.gap level)
          obtain ⟨last, hlast, hlastSettled⟩ := run_memberChars hspaced limit level
            ((key, value) :: read) outer .next (next :: rest) (List.cons_ne_nil next rest)
            (by omega) hrest
          refine ⟨last, ?_, ?_⟩
          · rw [Layout.memberChars]
            simp only [List.append_assoc, List.cons_append]
            rw [run_append _ hkey, run_cons _ _ hcolon, run_append _ hgap, run_append _ hrun,
              run_cons _ _ hcomma, run_append _ hbefore]
            exact hlast
          · rw [List.reverse_cons, List.append_assoc]
            exact hlastSettled
termination_by sizeOf members

end

end Layouts

end Reader

/-! ## Whole texts -/

/-- A printed value, with or without spaces after it, is read as that value if it nests no deeper
than the limit. -/
theorem parseWithin_chars {layout : Layout} (hspaced : layout.IsSpaced) {limit : Nat} {value : Json}
    (hdepth : value.depth ≤ limit) (hnumbers : value.NumbersReadBack) {spaces : List Char}
    (hspaces : ∀ c ∈ spaces, isSpace c = true) :
    parseWithin limit (layout.chars 0 value ++ spaces) = some value := by
  obtain ⟨reader, hrun, hsettled⟩ := Reader.run_chars hspaced limit 0 [] .value value
    (by rw [List.length_nil]; omega) hnumbers rfl
  obtain ⟨last, hlast, hlastSettled⟩ := hsettled.run_spaces hspaces
  show (Reader.run limit Reader.start (layout.chars 0 value ++ spaces)).bind (Reader.finish limit)
    = some value
  rw [Reader.start, Assembly.start, Reader.run_append _ hrun, hlast]
  exact hlastSettled.finish

theorem parse_compact {value : Json} (hdepth : value.depth ≤ depthLimit)
    (hnumbers : value.NumbersReadBack) : parse value.compact = some value := by
  have hspaces : ∀ c ∈ ([] : List Char), isSpace c = true := fun _ hc => absurd hc List.not_mem_nil
  have hread := parseWithin_chars Layout.isSpaced_dense hdepth hnumbers hspaces
  rw [List.append_nil, Layout.chars_dense] at hread
  rw [parse, compact, String.toList_ofList]
  exact hread

theorem isSpace_of_mem_lineEnd : ∀ c ∈ ['\n'], isSpace c = true := by
  intro c hc
  rw [List.mem_singleton.mp hc]
  rfl

/-- A line that holds a compact value. -/
theorem parse_compact_line {value : Json} (hdepth : value.depth ≤ depthLimit)
    (hnumbers : value.NumbersReadBack) : parse (value.compact ++ "\n") = some value := by
  have hread := parseWithin_chars Layout.isSpaced_dense hdepth hnumbers isSpace_of_mem_lineEnd
  rw [Layout.chars_dense] at hread
  rw [parse, compact, String.toList_append, String.toList_ofList]
  exact hread

/-- The lines of an indented value. -/
theorem parse_pretty_line {value : Json} (hdepth : value.depth ≤ depthLimit)
    (hnumbers : value.NumbersReadBack) : parse (value.pretty ++ "\n") = some value := by
  have hread := parseWithin_chars Layout.isSpaced_indented hdepth hnumbers isSpace_of_mem_lineEnd
  rw [Layout.chars_indented] at hread
  rw [parse, pretty, String.toList_append, String.toList_ofList]
  exact hread

end CorpusQuery.Json
