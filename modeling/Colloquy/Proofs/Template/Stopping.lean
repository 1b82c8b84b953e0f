import Colloquy.Proofs.Template.Reading
import Mathlib.Control.Monad.Basic

/-!
# Where Reading Stops

The place of an error is the end of what makes sense. Whatever stands before it can be continued to
a template that is read within the same limit, so nothing before it has to be changed, and the first
thing that has to be is right behind it.

A reader that fails has gone through a number of whole lexemes, one step for each, and has then come
to one that it cannot take. `Reads` is the way up to there. It does not depend on what follows, and
so the same way is gone if the text behind it is replaced. `Stops` lists how a reader can fail at
the start of a text. Only a tag without an end fails further on, and a tag that breaks off where the
grammar has come to the end of its head still lacks no more than its end. So the continuation is
always the same: the end of a tag, if one is missing, and a closing tag for each open element.

How many elements are open is a matter of the text alone. `unclosed?` keeps the names of the open
elements through the lexemes of a text, and the stack of the reader agrees with it.

## Main definitions

* `Lexeme.unclosed?`, `unclosed?`: The names of the elements that a lexeme and a text leave open.
* `Reader.Step`, `Reader.Reads`: What the reader does with one lexeme, and with a text.
* `Reader.Stops`: How the reader fails where it cannot take another step.
* `Reader.closings`: The closing tags of open elements.

## Theorems

* `Reads.build_eq`: A text is read in the same way whatever follows.
* `exists_reads_of_error`: A reader that fails has read up to where it stops.
* `Stops.exists_continuation`: What stands before the place of an error can be continued.
* `offset_of_error`: The place of an error, what can be read up to there, and what is too deep.
-/

namespace Colloquy

open Grammar

/-- The names of the elements that are open behind a lexeme, given those that are open before it,
    innermost first. Nothing is open behind an error. -/
def Lexeme.unclosed? : Lexeme → List String → Option (List String)
  | .comment _, names => some names
  | .text _, names => some names
  | .leaf _, names => some names
  | .opening tag, names => some (tag.name :: names)
  | .closing _, [] => none
  | .closing name, innermost :: names => if name = innermost then some names else none
  | .broken _ _, _ => none
  | .stray, _ => none

/-- The names of the elements that are open behind a text, innermost first, if it closes only what
    it has opened or what was open before it. -/
def unclosed? (names : List String) (cs : List Char) : Option (List String) :=
  (Token.list cs).foldlM (fun names token => token.lexeme.unclosed? names) names

/-- Of four elements the second is a leaf and the third is closed. -/
example : unclosed? [] ['<', 'a', '>', '<', 'b', '/', '>', '<', 'c', '>', '-', '<', '/', 'c', '>',
    '<', 'd', '>'] = some ["d", "a"] := by decide +kernel

namespace Reader

/-- What the reader does with one lexeme: from the open elements and the siblings before it to those
    behind it. -/
inductive Step (limit : Nat) :
    Lexeme → List Frame → List Node → List Frame → List Node → Prop where
  | comment {body : List Char} {stack : List Frame} {siblings : List Node} :
      Step limit (.comment body) stack siblings stack siblings
  | text {run : List Char} {stack : List Frame} {siblings : List Node} :
      Step limit (.text run) stack siblings stack
        (.text (String.ofList (Reference.expand run)) :: siblings)
  | leaf {tag : Tag} {stack : List Frame} {siblings : List Node} (hroom : stack.length < limit) :
      Step limit (.leaf tag) stack siblings stack (.leaf tag :: siblings)
  | opening {tag : Tag} {stack : List Frame} {siblings : List Node}
      (hroom : stack.length < limit) :
      Step limit (.opening tag) stack siblings (⟨tag, siblings⟩ :: stack) []
  | closing {frame : Frame} {outer : List Frame} {siblings : List Node} :
      Step limit (.closing frame.tag.name) (frame :: outer) siblings outer
        (.container frame.tag siblings.reverse :: frame.before)

/-- What the reader does with a text that consists of whole lexemes. -/
inductive Reads (limit : Nat) :
    List Char → List Frame → List Node → List Frame → List Node → Prop where
  | nil {stack : List Frame} {siblings : List Node} : Reads limit [] stack siblings stack siblings
  | cons {lexeme : Lexeme} {piece rest : List Char} {stack between stack' : List Frame}
      {siblings next siblings' : List Node} (hpiece : Piece lexeme piece)
      (hrest : lexeme.Precedes rest) (hstep : Step limit lexeme stack siblings between next)
      (hreads : Reads limit rest between next stack' siblings') :
      Reads limit (piece ++ rest) stack siblings stack' siblings'

/-- How the reader fails at the start of a text. Places are given as the text from there on. -/
inductive Stops (limit : Nat) (stack : List Frame) : List Char → Failure → Prop where
  /-- Nothing that could stand here starts here. -/
  | here {cs : List Char} {fault : ParseFault} (h : ∀ tag max, fault ≠ .tooDeep tag max) :
      Stops limit stack cs ⟨cs, fault⟩
  /-- A tag starts here and has no end. -/
  | unfinished {head rest : List Char} {tag : Tag} (hhead : Head head tag)
      (hroom : stack.length < limit) :
      Stops limit stack ('<' :: (head ++ rest)) ⟨rest, .expected .tagEnd⟩
  /-- A tag starts here that would lie too deep. -/
  | tooDeep {head rest : List Char} {tag : Tag} (hhead : Head head tag)
      (hfull : limit ≤ stack.length) :
      Stops limit stack ('<' :: (head ++ rest))
        ⟨'<' :: (head ++ rest), .tooDeep tag.name limit⟩

/-- The names of the open elements, innermost first. -/
def names (stack : List Frame) : List String := stack.map (·.tag.name)

/-- What is known of open elements within a limit: there are no more than it allows, and they have
    names that can be written. -/
structure IsSound (limit : Nat) (stack : List Frame) : Prop where
  length_le : stack.length ≤ limit
  isName : ∀ frame ∈ stack, IsName frame.tag.name.toList

section Step

variable {limit : Nat} {lexeme : Lexeme} {stack stack' : List Frame}
  {siblings siblings' : List Node}

theorem Step.build_eq (h : Step limit lexeme stack siblings stack' siblings') (source : List Char)
    (tokens : List Token) :
    build limit (⟨source, lexeme⟩ :: tokens) stack siblings
      = build limit tokens stack' siblings' := by
  cases h with
  | comment => rfl
  | text => rfl
  | leaf hroom => rw [build, if_pos hroom]
  | opening hroom => rw [build, if_pos hroom]
  | closing =>
      rw [build]
      exact if_pos rfl

theorem Step.unclosed?_eq (h : Step limit lexeme stack siblings stack' siblings') :
    lexeme.unclosed? (names stack) = some (names stack') := by
  cases h with
  | comment => rfl
  | text => rfl
  | leaf _ => rfl
  | opening _ => rfl
  | closing => exact if_pos rfl

theorem Step.isWritten (h : Step limit lexeme stack siblings stack' siblings') :
    lexeme.IsWritten := by
  cases h <;> exact trivial

theorem name_of_head {head : List Char} {tag : Tag} (h : Head head tag) :
    IsName tag.name.toList ∧ ∃ more, head = tag.name.toList ++ more := by
  cases h with
  | intro hname _ _ hnamed _ =>
      rw [hnamed, String.toList_ofList]
      exact ⟨hname, _, rfl⟩

theorem Step.isSound (h : Step limit lexeme stack siblings stack' siblings') {piece : List Char}
    (hpiece : Piece lexeme piece) (hsound : IsSound limit stack) : IsSound limit stack' := by
  cases h with
  | comment => exact hsound
  | text => exact hsound
  | leaf _ => exact hsound
  | opening hroom =>
      -- The name of an element that opens is the one written in its tag.
      cases hpiece with
      | opening hhead =>
          exact ⟨hroom, List.forall_mem_cons.mpr ⟨(name_of_head hhead).1, hsound.isName⟩⟩
  | closing =>
      exact ⟨Nat.le_of_succ_le hsound.length_le, (List.forall_mem_cons.mp hsound.isName).2⟩

end Step

section Reads

variable {limit : Nat} {cs : List Char} {stack stack' : List Frame} {siblings siblings' : List Node}

/-- A text is read in the same way whatever follows, as long as its last run of text ends there. -/
theorem Reads.build_eq (h : Reads limit cs stack siblings stack' siblings') {more : List Char}
    (hmore : IsStop more) :
    build limit (Token.list (cs ++ more)) stack siblings
      = build limit (Token.list more) stack' siblings' := by
  induction h with
  | nil => rfl
  | @cons lexeme piece rest _ _ _ _ _ _ hpiece hrest hstep _ ih =>
      -- Only a run of text minds what comes behind it, and markup comes behind.
      have hprecedes : lexeme.Precedes (rest ++ more) := by
        cases lexeme with
        | text run => exact hrest.append hmore
        | _ => exact trivial
      rw [List.append_assoc, list_piece hpiece _ hprecedes, hstep.build_eq, ih]

/-- The stack of the reader agrees with the elements that the text leaves open. -/
theorem Reads.unclosed?_eq (h : Reads limit cs stack siblings stack' siblings') :
    unclosed? (names stack) cs = some (names stack') := by
  induction h with
  | nil =>
      rw [unclosed?, Token.list]
      rfl
  | cons hpiece hrest hstep _ ih =>
      rw [unclosed?, list_piece hpiece _ hrest, List.foldlM_cons]
      dsimp only
      rw [hstep.unclosed?_eq]
      exact ih

theorem Reads.isSound (h : Reads limit cs stack siblings stack' siblings')
    (hsound : IsSound limit stack) : IsSound limit stack' := by
  induction h with
  | nil => exact hsound
  | cons hpiece _ hstep _ ih => exact ih (hstep.isSound hpiece hsound)

end Reads

/-- At every lexeme the reader takes a step or stops. -/
theorem step_or_stops (limit : Nat) {c : Char} {tail after : List Char} {lexeme : Lexeme}
    (hscan : Lexeme.scan c tail = (lexeme, after)) (stack : List Frame) (siblings : List Node) :
    (∃ stack' siblings', Step limit lexeme stack siblings stack' siblings') ∨
      ∃ failure, Stops limit stack (c :: tail) failure ∧
        ∀ tokens, build limit (⟨c :: tail, lexeme⟩ :: tokens) stack siblings = .error failure := by
  cases lexeme with
  | comment body => exact .inl ⟨_, _, .comment⟩
  | text run => exact .inl ⟨_, _, .text⟩
  | leaf tag =>
      by_cases hroom : stack.length < limit
      · exact .inl ⟨_, _, .leaf hroom⟩
      · rcases Lexeme.exists_piece hscan trivial with ⟨piece, hpiece, hcs, _⟩
        -- There is no room, and the tag starts right here.
        cases hpiece with
        | leaf hhead =>
            rw [hcs, List.cons_append, List.append_assoc]
            exact .inr ⟨_, .tooDeep hhead (Nat.not_lt.mp hroom), fun _ => by
              rw [build, if_neg hroom]⟩
  | opening tag =>
      by_cases hroom : stack.length < limit
      · exact .inl ⟨_, _, .opening hroom⟩
      · rcases Lexeme.exists_piece hscan trivial with ⟨piece, hpiece, hcs, _⟩
        cases hpiece with
        | opening hhead =>
            rw [hcs, List.cons_append, List.append_assoc]
            exact .inr ⟨_, .tooDeep hhead (Nat.not_lt.mp hroom), fun _ => by
              rw [build, if_neg hroom]⟩
  | closing name =>
      cases stack with
      | nil => exact .inr ⟨_, .here fun _ _ => ParseFault.noConfusion, fun _ => rfl⟩
      | cons frame outer =>
          by_cases hname : name = frame.tag.name
          · subst hname
            exact .inl ⟨_, _, .closing⟩
          · exact .inr ⟨_, .here fun _ _ => ParseFault.noConfusion, fun _ => by
              rw [build]
              exact if_neg hname⟩
  | broken name place =>
      -- Room is asked for before the end of the tag is missed.
      rcases Lexeme.exists_head hscan with ⟨head, tag, hhead, rfl, hcs⟩
      rw [hcs]
      by_cases hroom : stack.length < limit
      · exact .inr ⟨_, .unfinished hhead hroom, fun _ => by rw [build, if_pos hroom]⟩
      · exact .inr ⟨_, .tooDeep hhead (Nat.not_lt.mp hroom), fun _ => by rw [build, if_neg hroom]⟩
  | stray =>
      refine .inr ⟨_, .here fun tag max => ?_, fun _ => rfl⟩
      unfold dangling
      split <;> exact ParseFault.noConfusion

/-- A reader that fails has read up to where it stops. -/
theorem exists_reads_of_error {limit : Nat} {cs : List Char} {stack : List Frame}
    {siblings : List Node} {failure : Failure}
    (h : build limit (Token.list cs) stack siblings = .error failure) :
    ∃ before here stack' siblings', cs = before ++ here ∧
      Reads limit before stack siblings stack' siblings' ∧ Stops limit stack' here failure := by
  -- Induction on the length of the text, of which every lexeme takes up some.
  induction hlength : cs.length using Nat.strongRecOn generalizing cs stack siblings with
  | ind length ih =>
    subst hlength
    cases cs with
    | nil =>
        rw [Token.list] at h
        cases stack with
        | nil => cases h
        | cons frame outer =>
            -- The text ends inside an element.
            cases h
            exact ⟨[], [], _, _, rfl, .nil, .here fun _ _ => ParseFault.noConfusion⟩
    | cons c tail =>
        have hshorter := Lexeme.scan_length c tail
        rw [Token.list] at h
        rcases hscan : Lexeme.scan c tail with ⟨lexeme, after⟩
        rw [hscan] at h hshorter
        rcases step_or_stops limit hscan stack siblings with
          ⟨between, next, hstep⟩ | ⟨other, hstops, herror⟩
        · rw [hstep.build_eq] at h
          rcases ih after.length hshorter h rfl with
            ⟨before, here, stack', siblings', rfl, hreads, hstops⟩
          rcases Lexeme.exists_piece hscan hstep.isWritten with ⟨piece, hpiece, hcs, hprecedes⟩
          have hrest : lexeme.Precedes before := by
            cases lexeme with
            | text run => exact IsStop.of_append hprecedes
            | _ => exact trivial
          refine ⟨piece ++ before, here, stack', siblings', ?_, .cons hpiece hrest hstep hreads,
            hstops⟩
          rw [hcs, List.append_assoc]
        · rw [herror] at h
          cases h
          exact ⟨[], _, _, _, rfl, .nil, hstops⟩

/-- The closing tags of open elements. -/
def closings (stack : List Frame) : List Char :=
  stack.flatMap fun frame => '<' :: '/' :: (frame.tag.name.toList ++ ['>'])

theorem isStop_closings (stack : List Frame) : IsStop (closings stack) := by
  cases stack with
  | nil => exact nofun
  | cons frame outer =>
      intro c hc
      cases hc
      rfl

/-- Closing what is open makes a text whole. -/
theorem build_closings (limit : Nat) {stack : List Frame}
    (h : ∀ frame ∈ stack, IsName frame.tag.name.toList) (siblings : List Node) :
    ∃ nodes, build limit (Token.list (closings stack)) stack siblings = .ok nodes := by
  induction stack generalizing siblings with
  | nil => exact ⟨siblings.reverse, by rw [closings, List.flatMap_nil, Token.list, build]⟩
  | cons frame outer ih =>
      rw [List.forall_mem_cons] at h
      have hpiece := Piece.closing h.1 (fun _ hc => absurd hc List.not_mem_nil : IsGap [])
      rw [String.ofList_toList, List.nil_append] at hpiece
      -- Closing the innermost element makes it a part of the next one out.
      rcases ih h.2 (.container frame.tag siblings.reverse :: frame.before) with ⟨nodes, hnodes⟩
      refine ⟨nodes, ?_⟩
      rw [closings, List.flatMap_cons, list_piece hpiece _ trivial, Step.closing.build_eq]
      exact hnodes

/-- What stands before the place of an error can be continued to a text that is read. Only a tag
    without an end fails behind where it starts, and then its end is missing, too. -/
theorem Stops.exists_continuation {limit : Nat} {stack : List Frame} {cs : List Char}
    {failure : Failure} (h : Stops limit stack cs failure) (hsound : IsSound limit stack)
    (siblings : List Node) :
    ∃ before continuation nodes, cs = before ++ failure.rest ∧ IsStop (before ++ continuation) ∧
      build limit (Token.list (before ++ continuation)) stack siblings = .ok nodes := by
  have hstop := isStop_closings stack
  cases h with
  | here _ =>
      rcases build_closings limit hsound.isName siblings with ⟨nodes, hnodes⟩
      exact ⟨[], closings stack, nodes, rfl, hstop, hnodes⟩
  | @unfinished head rest tag hhead hroom =>
      -- The tag is ended as that of a leaf, for which there is room.
      rcases build_closings limit hsound.isName (.leaf tag :: siblings) with ⟨nodes, hnodes⟩
      refine ⟨'<' :: head, ['/', '>'] ++ closings stack, nodes, rfl, fun c hc => ?_, ?_⟩
      · cases hc
        rfl
      · rw [← List.append_assoc, List.cons_append, list_piece (.leaf hhead) _ trivial,
          (Step.leaf hroom).build_eq]
        exact hnodes
  | tooDeep _ _ =>
      rcases build_closings limit hsound.isName siblings with ⟨nodes, hnodes⟩
      exact ⟨[], closings stack, nodes, rfl, hstop, hnodes⟩

/-- An element that is too deep is reported where its tag starts. -/
theorem Stops.of_tooDeep {limit : Nat} {stack : List Frame} {cs : List Char} {failure : Failure}
    (h : Stops limit stack cs failure) {tag : String} {max : Nat}
    (hfault : failure.fault = .tooDeep tag max) :
    failure.rest = cs ∧ limit ≤ stack.length ∧ IsName tag.toList ∧
      ∃ more, cs = '<' :: (tag.toList ++ more) := by
  cases h with
  | here hother => exact absurd hfault (hother tag max)
  | unfinished _ _ => cases hfault
  | tooDeep hhead hfull =>
      cases hfault
      rcases name_of_head hhead with ⟨hname, more, rfl⟩
      exact ⟨rfl, hfull, hname, _, by rw [List.append_assoc]⟩

theorem byteLength_eq (cs : List Char) : byteLength cs = (String.ofList cs).utf8ByteSize := by
  induction cs with
  | nil => rfl
  | cons c cs ih =>
      rw [String.ofList_cons, String.utf8ByteSize_append, String.utf8ByteSize_singleton, ← ih]
      rfl

end Reader

theorem parseTemplate_eq_error {source : String} {limit : Nat} {error : ParseError} :
    parseTemplate source limit = .error error ↔
      ∃ failure, Reader.build (min limit nestingCeiling) (Token.list source.toList) [] []
        = .error failure ∧ error = failure.located source.toList := by
  unfold parseTemplate
  constructor
  · intro h
    split at h
    · cases h
    · rename_i failure hbuild
      cases h
      exact ⟨failure, hbuild, rfl⟩
  · rintro ⟨failure, hbuild, rfl⟩
    rw [hbuild]

open Reader in
/-- An error is placed at a character of the source, or at its end. What stands before that place
    can be continued to a template that is read within the same limit. If the error is that an
    element lies too deep, then its tag starts at that place, and what stands before leaves as many
    elements open as the lesser of the limit and the ceiling. -/
theorem offset_of_error {source : String} {limit : Nat} {error : ParseError}
    (h : parseTemplate source limit = .error error) :
    error.offset ≤ source.utf8ByteSize ∧ String.Pos.Raw.IsValid source ⟨error.offset⟩ ∧
    ∃ before after : String, source = before ++ after ∧ before.utf8ByteSize = error.offset ∧
      (∃ continuation nodes, parseTemplate (before ++ continuation) limit = .ok nodes) ∧
      ∀ tag max, error.fault = .tooDeep tag max →
        (IsName tag.toList ∧ ∃ more, after = "<" ++ tag ++ more) ∧
        ∃ names, unclosed? [] before.toList = some names ∧
          names.length = min limit nestingCeiling := by
  rcases parseTemplate_eq_error.mp h with ⟨failure, hbuild, rfl⟩
  rcases exists_reads_of_error hbuild with ⟨whole, here, stack, siblings, hsource, hreads, hstops⟩
  have hsound := hreads.isSound ⟨Nat.zero_le _, nofun⟩
  rcases hstops.exists_continuation hsound siblings with
    ⟨started, continuation, nodes, hhere, hstop, hnodes⟩
  -- What stands before the place is whole lexemes and perhaps a tag that has been started.
  have hsplit : source = String.ofList (whole ++ started) ++ String.ofList failure.rest := by
    rw [← String.ofList_append, List.append_assoc, ← hhere, ← hsource, String.ofList_toList]
  have hsize := (congrArg String.utf8ByteSize hsplit).trans String.utf8ByteSize_append
  have hoffset : (String.ofList (whole ++ started)).utf8ByteSize
      = (failure.located source.toList).offset := by
    rw [Failure.located, byteLength_eq, byteLength_eq, String.ofList_toList, hsize]
    exact (Nat.add_sub_cancel _ _).symm
  refine ⟨?_, ?_, _, _, hsplit, hoffset, ?_, ?_⟩
  · rw [← hoffset, hsize]
    exact Nat.le_add_right _ _
  · rw [String.Pos.Raw.isValid_iff_exists_append]
    exact ⟨_, _, hsplit, String.Pos.Raw.ext hoffset.symm⟩
  · refine ⟨String.ofList continuation, nodes, ?_⟩
    rw [parseTemplate_eq_ok, ← String.ofList_append, String.toList_ofList, List.append_assoc,
      hreads.build_eq hstop]
    exact hnodes
  · intro tag max hfault
    rcases hstops.of_tooDeep hfault with ⟨hrest, hfull, hname, more, hmore⟩
    rw [hrest] at hhere
    -- No tag has been started, since the one that is too deep is reported where it starts.
    have hstarted : started = [] := List.self_eq_append_left.mp hhere
    refine ⟨⟨hname, String.ofList more, ?_⟩, names stack, ?_, ?_⟩
    · rw [hrest, hmore, String.ofList_cons, String.ofList_append, String.ofList_toList,
        ← String.append_assoc]
      rfl
    · rw [hstarted, List.append_nil, String.toList_ofList]
      exact hreads.unclosed?_eq
    · rw [names, List.length_map]
      exact Nat.le_antisymm hsound.length_le hfull

/-- A character of two bytes before an element that is too deep inside another one, and that has no
    end besides. -/
theorem offset_of_error_tooDeep :
    let source := "é<a>b<c d"
    parseTemplate source 1 = .error ⟨6, .tooDeep "c" 1⟩ ∧
    6 ≤ source.utf8ByteSize ∧ String.Pos.Raw.IsValid source ⟨6⟩ ∧
    ∃ before after : String, source = before ++ after ∧ before.utf8ByteSize = 6 ∧
      (∃ continuation nodes, parseTemplate (before ++ continuation) 1 = .ok nodes) ∧
      (∃ more, after = "<" ++ "c" ++ more) ∧
      ∃ names, unclosed? [] before.toList = some names ∧ names.length = 1 := by
  intro source
  have herror : parseTemplate source 1 = .error ⟨6, .tooDeep "c" 1⟩ :=
    parseTemplate_eq_error_of_map (by decide +kernel)
  rcases offset_of_error herror with
    ⟨hle, hvalid, before, after, hsource, hsize, hcontinuation, hdeep⟩
  rcases hdeep "c" 1 rfl with ⟨⟨_, hafter⟩, hopen⟩
  exact ⟨herror, hle, hvalid, before, after, hsource, hsize, hcontinuation, hafter, hopen⟩

end Colloquy
