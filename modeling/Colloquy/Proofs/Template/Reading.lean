import Colloquy.Proofs.Template.Scanning
import Colloquy.Template.Reader

/-!
# Reading Is the Grammar

The reader accepts exactly what the grammar derives, and gives the tree that is derived, as far as
elements do not nest too deep. Both directions look at content in the middle of a source, where some
elements are still open. That a derived text is read means that the reader comes out behind it with
the derived nodes as further siblings, whatever is open and whatever follows. That a text which is
read is derived means that it starts with content and then closes what is open, one element after
the other, which is what the induction on the length of the source needs to know.

## Main definitions

* `Reader.Closes`: What follows the content of the innermost open element.
* `Reader.Starts`: Content, and what follows it.

## Theorems

* `Grammar.Content.append`, `Grammar.Content.inside`: Content that is put together.
* `build_content`: Content is read wherever it stands.
* `starts_of_build`: What is read starts with content.
* `build_eq_ok_iff`: A whole source is read if it is content that is not too deep.
* `parseTemplate_eq_ok_iff`: Reading accepts exactly the grammar within the limit.
* `parseTemplate_append`, `parseTemplate_inside`: Sources that are put together.
-/

namespace Colloquy

open Grammar

namespace Grammar

theorem IsStop.append {cs rest : List Char} (hcs : IsStop cs) (hrest : IsStop rest) :
    IsStop (cs ++ rest) := by
  cases cs with
  | nil => exact hrest
  | cons c cs => exact hcs

theorem IsStop.of_append {cs rest : List Char} (h : IsStop (cs ++ rest)) : IsStop cs := by
  cases cs with
  | nil => exact nofun
  | cons c cs => exact h

/-- Content may be followed by more content, if a run of text at its end is not carried on. -/
theorem Content.append {cs rest : List Char} {nodes more : List Node} (h : Content cs nodes)
    (hrest : Content rest more) (hstop : IsStop rest) : Content (cs ++ rest) (nodes ++ more) := by
  -- Induction on the derivation, where only a run of text asks what follows it.
  induction h with
  | nil => exact hrest
  | comment hpiece _ ih =>
      rw [List.append_assoc]
      exact .comment hpiece ih
  | text hpiece hfollows _ ih =>
      rw [List.append_assoc]
      exact .text hpiece (hfollows.append hstop) ih
  | leaf hpiece _ ih =>
      rw [List.append_assoc]
      exact .leaf hpiece ih
  | container hstart hinner hclose _ _ ih =>
      rw [List.append_assoc, List.append_assoc, List.append_assoc]
      exact .container hstart hinner hclose ih

/-- Content may stand inside an element, whatever the element is called. -/
theorem Content.inside {name cs : List Char} {nodes : List Node} (hname : IsName name)
    (h : Content cs nodes) :
    Content ('<' :: (name ++ ['>']) ++ (cs ++ '<' :: '/' :: (name ++ ['>'])))
      [.container ⟨String.ofList name, ∅⟩ nodes] := by
  have hclose : Piece (.closing (String.ofList name)) ('<' :: '/' :: (name ++ ([] ++ ['>']))) :=
    .closing hname nofun
  have hcontent := Content.container (.opening (head_name hname)) h hclose .nil
  rwa [List.append_nil] at hcontent

theorem isStop_closing {name : String} {piece : List Char} (h : Piece (.closing name) piece)
    (rest : List Char) : IsStop (piece ++ rest) := by
  cases h
  intro c hc
  cases hc
  rfl

end Grammar

namespace Reader

theorem list_piece {lexeme : Lexeme} {piece : List Char} (h : Piece lexeme piece)
    (rest : List Char) (hrest : lexeme.Precedes rest) :
    Token.list (piece ++ rest) = ⟨piece ++ rest, lexeme⟩ :: Token.list rest := by
  rcases Lexeme.scan_piece h rest hrest with ⟨c, cs, rfl, hscan⟩
  rw [List.cons_append, Token.list, hscan]

/-- Content is read wherever it stands: its nodes are further siblings of what is open. -/
theorem build_content {cs : List Char} {nodes : List Node} (h : Content cs nodes) {limit : Nat}
    {stack : List Frame} (hroom : ∀ place ∈ outline stack.length nodes, place.around < limit)
    (siblings : List Node) {rest : List Char} (hrest : IsStop rest) :
    build limit (Token.list (cs ++ rest)) stack siblings
      = build limit (Token.list rest) stack (nodes.reverse ++ siblings) := by
  -- Induction on the derivation. The stack has to vary: children are read inside their element.
  induction h generalizing stack siblings rest with
  | nil => rfl
  | comment hpiece _ ih =>
      rw [List.append_assoc, list_piece hpiece _ trivial, build]
      exact ih hroom siblings hrest
  | text hpiece hstop _ ih =>
      rw [List.append_assoc, list_piece hpiece _ (hstop.append hrest), build]
      rw [ih hroom _ hrest, List.reverse_cons, List.append_assoc]
      rfl
  | leaf hpiece _ ih =>
      rw [outline, List.forall_mem_append] at hroom
      have hhere := hroom.1 _ List.mem_cons_self
      rw [List.append_assoc, list_piece hpiece _ trivial, build,
        if_pos hhere, ih hroom.2 _ hrest, List.reverse_cons, List.append_assoc]
      rfl
  | @container tag start inner stop more children nodes hstart _ hstop _ ihInner ihRest =>
      -- The tag, the children, the closing tag, and the rest; each has its share of the room.
      rw [outline, Node.outline, List.forall_mem_append, List.forall_mem_cons] at hroom
      rcases hroom with ⟨⟨hhere, hinside⟩, hbehind⟩
      rw [List.append_assoc, List.append_assoc, List.append_assoc, list_piece hstart _ trivial,
        build, if_pos hhere, @ihInner (_ :: stack) hinside [] _ (isStop_closing hstop _),
        list_piece hstop _ trivial, build]
      dsimp only
      rw [if_pos rfl, ihRest hbehind _ hrest]
      simp only [List.append_nil, List.reverse_reverse, List.reverse_cons, List.append_assoc,
        List.singleton_append]

/-- What follows the content of the innermost open element, if reading then goes on to give `nodes`:
    the end of the source if nothing is open, and else the closing tag and a rest to read. -/
def Closes (limit : Nat) (nodes : List Node) : List Frame → List Node → List Char → Prop
  | [], siblings, rest => rest = [] ∧ nodes = siblings.reverse
  | frame :: outer, siblings, rest =>
    ∃ stop after, Piece (.closing frame.tag.name) stop ∧ rest = stop ++ after ∧
      build limit (Token.list after) outer (.container frame.tag siblings.reverse :: frame.before)
        = .ok nodes

/-- A text starts with content that may stand inside the open elements, and then closes them. -/
def Starts (limit : Nat) (nodes : List Node) (stack : List Frame) (siblings : List Node)
    (cs : List Char) : Prop :=
  ∃ inner children rest, Content inner children ∧ cs = inner ++ rest ∧
    (∀ place ∈ outline stack.length children, place.around < limit) ∧
    Closes limit nodes stack (children.reverse ++ siblings) rest

section Starts

variable {limit : Nat} {nodes : List Node} {stack : List Frame} {siblings : List Node}

/-- Content may be empty. -/
theorem starts_nil {cs : List Char} (h : Closes limit nodes stack siblings cs) :
    Starts limit nodes stack siblings cs :=
  ⟨[], [], cs, .nil, rfl, nofun, h⟩

theorem Starts.comment {body piece after : List Char} (hpiece : Piece (.comment body) piece)
    (h : Starts limit nodes stack siblings after) :
    Starts limit nodes stack siblings (piece ++ after) := by
  rcases h with ⟨inner, children, rest, hinner, rfl, hroom, hcloses⟩
  refine ⟨piece ++ inner, children, rest, .comment hpiece hinner, ?_, hroom, hcloses⟩
  rw [List.append_assoc]

theorem Starts.text {run piece after : List Char} (hpiece : Piece (.text run) piece)
    (hstop : IsStop after)
    (h : Starts limit nodes stack (.text (String.ofList (Reference.expand run)) :: siblings)
      after) :
    Starts limit nodes stack siblings (piece ++ after) := by
  rcases h with ⟨inner, children, rest, hinner, rfl, hroom, hcloses⟩
  have hrun : piece = run := by
    cases hpiece
    rfl
  -- A piece of text is the run itself.
  subst hrun
  refine ⟨piece ++ inner, .text _ :: children, rest, .text hpiece hstop.of_append hinner, ?_, hroom,
    ?_⟩
  · rw [List.append_assoc]
  · rw [List.reverse_cons, List.append_assoc]
    exact hcloses

theorem Starts.leaf {tag : Tag} {piece after : List Char} (hpiece : Piece (.leaf tag) piece)
    (hhere : stack.length < limit) (h : Starts limit nodes stack (.leaf tag :: siblings) after) :
    Starts limit nodes stack siblings (piece ++ after) := by
  rcases h with ⟨inner, children, rest, hinner, rfl, hroom, hcloses⟩
  refine ⟨piece ++ inner, .leaf tag :: children, rest, .leaf hpiece hinner, ?_, ?_, ?_⟩
  · rw [List.append_assoc]
  · rw [outline, List.forall_mem_append]
    exact ⟨List.forall_mem_singleton.mpr hhere, hroom⟩
  · rw [List.reverse_cons, List.append_assoc]
    exact hcloses

theorem Starts.container {tag : Tag} {start inner stop after : List Char} {children : List Node}
    (hstart : Piece (.opening tag) start) (hhere : stack.length < limit)
    (hinner : Content inner children)
    (hinside : ∀ place ∈ outline (stack.length + 1) children, place.around < limit)
    (hstop : Piece (.closing tag.name) stop)
    (h : Starts limit nodes stack (.container tag children :: siblings) after) :
    Starts limit nodes stack siblings (start ++ (inner ++ (stop ++ after))) := by
  rcases h with ⟨more, later, rest, hmore, rfl, hbehind, hcloses⟩
  refine ⟨start ++ (inner ++ (stop ++ more)), .container tag children :: later, rest,
    .container hstart hinner hstop hmore, ?_, ?_, ?_⟩
  · simp only [List.append_assoc]
  · -- The element is at this depth, its content is one level further in, and the rest is beside it.
    rw [outline, Node.outline, List.forall_mem_append, List.forall_mem_cons]
    exact ⟨⟨hhere, hinside⟩, hbehind⟩
  · rw [List.reverse_cons, List.append_assoc]
    exact hcloses

end Starts

/-- What is read starts with content. An opening tag is followed by two parts that are read in turn:
    the content of its element, and what stands behind the closing tag. -/
theorem starts_of_build {limit : Nat} {cs : List Char} {stack : List Frame}
    {siblings nodes : List Node} (h : build limit (Token.list cs) stack siblings = .ok nodes) :
    Starts limit nodes stack siblings cs := by
  -- The content of an element and what is behind it are both shorter than the text, but the second
  -- is not what the first call of the reader goes on with, so the induction is a strong one.
  induction hlength : cs.length using Nat.strongRecOn generalizing cs stack siblings with
  | ind length ih =>
    cases cs with
    | nil =>
        rw [Token.list] at h
        cases stack with
        | nil => exact starts_nil ⟨rfl, (Except.ok.inj h).symm⟩
        | cons frame outer =>
            -- The source must not end inside an element.
            cases h
    | cons c tail =>
        have hshorter := Lexeme.scan_length c tail
        rw [Token.list] at h
        rcases hscan : Lexeme.scan c tail with ⟨lexeme, after⟩
        rw [hscan, hlength] at hshorter
        rw [hscan] at h
        dsimp only at h hshorter
        cases lexeme with
        | comment body =>
            rcases Lexeme.exists_piece hscan trivial with ⟨piece, hpiece, hcs, _⟩
            rw [build] at h
            rw [hcs]
            exact (ih _ hshorter h rfl).comment hpiece
        | text run =>
            rcases Lexeme.exists_piece hscan trivial with ⟨piece, hpiece, hcs, hstop⟩
            rw [build] at h
            rw [hcs]
            exact (ih _ hshorter h rfl).text hpiece hstop
        | leaf tag =>
            rcases Lexeme.exists_piece hscan trivial with ⟨piece, hpiece, hcs, _⟩
            rw [build] at h
            split at h
            · rename_i hhere
              rw [hcs]
              exact (ih _ hshorter h rfl).leaf hpiece hhere
            · cases h
        | opening tag =>
            rcases Lexeme.exists_piece hscan trivial with ⟨start, hstart, hcs, _⟩
            rw [build] at h
            split at h
            · rename_i hhere
              -- The children come first, and they end at the closing tag of this element.
              rcases ih _ hshorter h rfl with
                ⟨inner, children, _, hinner, rfl, hinside, stop, behind, hstop, rfl, hnext⟩
              rw [List.append_nil, List.reverse_reverse] at hnext
              have hlater : behind.length < length := by
                simp only [List.length_append] at hshorter
                omega
              rw [hcs]
              exact (ih _ hlater hnext rfl).container hstart hhere hinner hinside hstop
            · cases h
        | closing name =>
            rcases Lexeme.exists_piece hscan trivial with ⟨piece, hpiece, hcs, _⟩
            cases stack with
            | nil =>
                rw [build] at h
                cases h
            | cons frame outer =>
                rw [build] at h
                split at h
                · -- The innermost element closes here, so what starts here is no content of it.
                  rename_i hname
                  exact starts_nil ⟨piece, after, hname ▸ hpiece, hcs, h⟩
                · cases h
        | broken name place =>
            rw [build] at h
            split at h
            · cases h
            · cases h
        | stray =>
            rw [build] at h
            cases h

/-- A whole source is read if it is content in which no element lies too deep. -/
theorem build_eq_ok_iff {limit : Nat} {cs : List Char} {nodes : List Node} :
    build limit (Token.list cs) [] [] = .ok nodes ↔
      Content cs nodes ∧ ∀ place ∈ outline 0 nodes, place.around < limit := by
  constructor
  · intro h
    rcases starts_of_build h with ⟨inner, children, rest, hinner, rfl, hroom, rfl, rfl⟩
    rw [List.append_nil, List.append_nil, List.reverse_reverse]
    exact ⟨hinner, hroom⟩
  · -- With the whole text read nothing is open, so what was read is all there is.
    rintro ⟨hcontent, hroom⟩
    have hread := @build_content _ _ hcontent _ [] hroom [] [] nofun
    rw [List.append_nil] at hread
    rw [hread, Token.list, build, List.append_nil, List.reverse_reverse]

end Reader

/-- Reading does nothing but build, up to the lesser of the limit and the ceiling. -/
theorem parseTemplate_eq_ok {source : String} {limit : Nat} {nodes : List Node} :
    parseTemplate source limit = .ok nodes ↔
      Reader.build (min limit nestingCeiling) (Token.list source.toList) [] [] = .ok nodes := by
  unfold parseTemplate
  constructor
  · intro h
    split at h
    · rename_i hbuild
      cases h
      exact hbuild
    · cases h
  · intro h
    rw [h]

/-- Whether a source is refused, and why, can be seen without comparing trees. -/
theorem parseTemplate_eq_error_of_map {source : String} {limit : Nat} {error : ParseError}
    (h : (parseTemplate source limit).map (fun _ => ()) = .error error) :
    parseTemplate source limit = .error error := by
  cases hread : parseTemplate source limit with
  | ok nodes =>
      rw [hread] at h
      cases h
  | error other =>
      rw [hread] at h
      cases h
      rfl

/-- Reading accepts exactly the texts that the grammar derives and in which no element is nested
    inside as many others as the limit and the ceiling are, or more, and gives the nodes that are
    derived. -/
theorem parseTemplate_eq_ok_iff (source : String) (limit : Nat) (nodes : List Node) :
    parseTemplate source limit = .ok nodes ↔
      Content source.toList nodes ∧
        ∀ place ∈ outline 0 nodes, place.around < min limit nestingCeiling := by
  rw [parseTemplate_eq_ok, Reader.build_eq_ok_iff]

/-- Of two sources the second one may follow the first, if it starts with markup or is empty. -/
theorem parseTemplate_append {first second : String} {limit : Nat} {nodes more : List Node}
    (hfirst : parseTemplate first limit = .ok nodes)
    (hsecond : parseTemplate second limit = .ok more) (hstop : IsStop second.toList) :
    parseTemplate (first ++ second) limit = .ok (nodes ++ more) := by
  rw [parseTemplate_eq_ok, Reader.build_eq_ok_iff] at hfirst hsecond ⊢
  rw [String.toList_append, outline_append, List.forall_mem_append]
  exact ⟨hfirst.1.append hsecond.1 hstop, hfirst.2, hsecond.2⟩

/-- A source may be put into an element, if there is one level more for everything in it. -/
theorem parseTemplate_inside {name source : String} {limit : Nat} {nodes : List Node}
    (hname : IsName name.toList) (hlimit : limit < nestingCeiling)
    (h : parseTemplate source limit = .ok nodes) :
    parseTemplate ("<" ++ name ++ ">" ++ source ++ ("</" ++ name ++ ">")) (limit + 1)
      = .ok [.container ⟨name, ∅⟩ nodes] := by
  rw [parseTemplate_eq_ok, Reader.build_eq_ok_iff] at h ⊢
  rcases h with ⟨hcontent, hroom⟩
  rw [Nat.min_eq_left (Nat.le_of_lt hlimit)] at hroom
  rw [Nat.min_eq_left hlimit, outline, outline, List.append_nil, Node.outline, List.forall_mem_cons,
    outline_succ, List.forall_mem_map]
  -- The element takes one level, and everything in it is one level further in.
  refine ⟨?_, Nat.succ_pos limit, fun place hplace => Nat.succ_lt_succ (hroom place hplace)⟩
  have hinside := hcontent.inside hname
  rw [String.ofList_toList] at hinside
  have hwritten : ("<" ++ name ++ ">" ++ source ++ ("</" ++ name ++ ">")).toList
      = '<' :: (name.toList ++ ['>']) ++
          (source.toList ++ '<' :: '/' :: (name.toList ++ ['>'])) := by
    simp only [String.toList_append, List.append_assoc, List.cons_append]
    rfl
  rwa [hwritten]

end Colloquy
