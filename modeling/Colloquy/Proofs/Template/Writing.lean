import Colloquy.Proofs.Dictionary
import Colloquy.Proofs.Template.Reading
import Colloquy.Proofs.Template.Reference

/-!
# Writing Templates

Every tree that can be read can also be written down. Writing has to say things that reading takes
for granted. A character that would start markup or a reference, or end a value, is written as a
reference; two texts side by side would be read as one, so a comment that says nothing keeps them
apart; and a leaf is written with the short form of a tag and an empty container with both of its
tags, because they are different trees.

What is written is content of the grammar, and that it is read again then follows from what reading
accepts. In the other direction the grammar itself says what a tree looks like that was read. A run
of text is never empty, and neither is what it stands for, since a reference stands for a character;
so there are no empty texts, and otherwise only names are bound to a form.

## Main definitions

* `Reference.escape`: A text with references for the characters that must not stand in it.
* `Tag.IsNamed`: The name of a tag and those of its attributes are names.
* `Node.IsWellFormed`: A node that can be written down.
* `written`: Nodes as they are written.

## Theorems

* `expand_escape`: Expanding undoes escaping.
* `content_written`: What is written is content.
* `isWellFormed_of_content`: What the grammar derives is well-formed.
* `parseTemplate_written`: What is written is read again, within the limit.
* `exists_parseTemplate_eq_ok_iff`: The trees that can be read.
-/

namespace Colloquy

open Grammar

namespace Reference

/-- A character as it may stand in a text and between double quotes. -/
def escapeChar (c : Char) : List Char :=
  if c = '&' then ['&', 'a', 'm', 'p', ';']
  else if c = '<' then ['&', 'l', 't', ';']
  else if c = '"' then ['&', 'q', 'u', 'o', 't', ';']
  else [c]

/-- A text as it may stand among markup and between double quotes. -/
def escape (cs : List Char) : List Char := cs.flatMap escapeChar

/-- A reference that names a character is replaced by it. -/
theorem expand_entity {name : List Char} {c : Char} (hname : ';' ∉ name)
    (hc : ofEntity? name = some c) (rest : List Char) :
    expand ('&' :: (name ++ ';' :: rest)) = c :: expand rest := by
  have hread : read? (name ++ ';' :: rest) = some (c, rest) := by
    rw [read?_append hname, hc]
    rfl
  exact expand_reference hread

theorem expand_escapeChar (c : Char) (rest : List Char) :
    expand (escapeChar c ++ rest) = c :: expand rest := by
  unfold escapeChar
  by_cases hamp : c = '&'
  · rw [if_pos hamp, hamp]
    exact @expand_entity ['a', 'm', 'p'] _ (by decide) rfl rest
  · rw [if_neg hamp]
    by_cases hlt : c = '<'
    · rw [if_pos hlt, hlt]
      exact @expand_entity ['l', 't'] _ (by decide) rfl rest
    · rw [if_neg hlt]
      by_cases hquot : c = '"'
      · rw [if_pos hquot, hquot]
        exact @expand_entity ['q', 'u', 'o', 't'] _ (by decide) rfl rest
      · rw [if_neg hquot, List.singleton_append, expand, if_neg hamp]

/-- Expanding undoes escaping. -/
theorem expand_escape (cs : List Char) : expand (escape cs) = cs := by
  induction cs with
  | nil => rw [escape, List.flatMap_nil, expand]
  | cons c cs ih =>
      rw [escape] at ih
      rw [escape, List.flatMap_cons, expand_escapeChar, ih]

/-- Every character stands for at least one, be it itself or with others behind it. -/
theorem expand_ne_nil {cs : List Char} (h : cs ≠ []) : expand cs ≠ [] := by
  cases cs with
  | nil => exact absurd rfl h
  | cons c rest =>
      rw [expand]
      split
      · split
        · exact List.cons_ne_nil _ _
        · exact List.cons_ne_nil _ _
      · exact List.cons_ne_nil _ _

theorem escape_ne_nil {cs : List Char} (h : cs ≠ []) : escape cs ≠ [] := by
  intro hnil
  -- What is escaped to nothing would have been nothing.
  have hexpand := expand_escape cs
  rw [hnil, expand] at hexpand
  exact h hexpand.symm

theorem not_mem_escape (cs : List Char) : '<' ∉ escape cs ∧ '"' ∉ escape cs := by
  have hchar : ∀ c, '<' ∉ escapeChar c ∧ '"' ∉ escapeChar c := by
    intro c
    unfold escapeChar
    split
    · decide
    · split
      · decide
      · split
        · decide
        · -- Only what is none of the marks is left as it is.
          rename_i hlt hquot
          simp only [List.mem_singleton]
          exact ⟨fun heq => hlt heq.symm, fun heq => hquot heq.symm⟩
  simp only [escape, List.mem_flatMap, not_exists, not_and]
  exact ⟨fun c _ => (hchar c).1, fun c _ => (hchar c).2⟩

end Reference

/-- The name of a tag and those of its attributes consist of the characters of names. What the
    attributes say is free. -/
structure Tag.IsNamed (tag : Tag) : Prop where
  name : IsName tag.name.toList
  attributes : ∀ entry ∈ tag.attributes.entries, IsName entry.1.toList

/-- A node that can be written down: texts are not empty, and tags and attributes have names. That
    a leaf has no children is part of what a leaf is. -/
inductive Node.IsWellFormed : Node → Prop where
  | text {content : String} (h : content ≠ "") : IsWellFormed (.text content)
  | leaf {tag : Tag} (h : tag.IsNamed) : IsWellFormed (.leaf tag)
  | container {tag : Tag} {children : List Node} (h : tag.IsNamed)
      (hchildren : ∀ child ∈ children, child.IsWellFormed) : IsWellFormed (.container tag children)

/-- An attribute as it is written, with the space before it. -/
def writtenAttribute (entry : String × String) : List Char :=
  ' ' :: (entry.1.toList ++ '=' :: '"' :: (Reference.escape entry.2.toList ++ ['"']))

/-- The name and the attributes of a tag as they are written. -/
def Tag.written (tag : Tag) : List Char :=
  tag.name.toList ++ tag.attributes.entries.flatMap writtenAttribute

/-- What has to stand between a node and those behind it: a comment between two texts. -/
def separator : Node → List Node → List Char
  | .text _, .text _ :: _ => ['<', '!', '-', '-', '-', '-', '>']
  | _, _ => []

mutual

/-- A node as it is written. -/
def Node.written : Node → List Char
  | .text content => Reference.escape content.toList
  | .leaf tag => '<' :: (tag.written ++ ['/', '>'])
  | .container tag children =>
    '<' :: (tag.written ++ ['>']) ++ (written children ++ '<' :: '/' :: (tag.name.toList ++ ['>']))

/-- Nodes as they are written. -/
def written : List Node → List Char
  | [] => []
  | node :: rest => node.written ++ (separator node rest ++ written rest)

end

/-- A text between two others of its kind, and a value that holds both quotes. -/
example : String.ofList (written [.text "a&b", .text "<",
    .leaf ⟨"get", .ofList [("name", "\"it's\"")]⟩, .container ⟨"x", ∅⟩ []])
    = "a&amp;b<!---->&lt;<get name=\"&quot;it's&quot;\"/><x></x>" := by decide

theorem attribute_written {entry : String × String} (h : IsName entry.1.toList) :
    Attribute (writtenAttribute entry) entry := by
  have hquoted : Quoted ('"' :: Reference.escape entry.2.toList ++ ['"']) entry.2 := by
    have hvalue := Quoted.intro (.inl rfl) (Reference.not_mem_escape entry.2.toList).2
    rwa [Reference.expand_escape, String.ofList_toList] at hvalue
  have hspace : IsGap [' '] := by
    intro c hc
    rw [List.mem_singleton.mp hc]
    rfl
  -- Around the equals sign there are no spaces.
  have hnone : IsGap [] := nofun
  have hattribute := Attribute.intro (List.cons_ne_nil _ _) hspace h hnone hnone hquoted
  rwa [String.ofList_toList] at hattribute

theorem attributes_written {entries : List (String × String)}
    (h : ∀ entry ∈ entries, IsName entry.1.toList) :
    Attributes (entries.flatMap writtenAttribute) entries := by
  induction entries with
  | nil => exact .nil
  | cons entry entries ih =>
      rw [List.forall_mem_cons] at h
      rw [List.flatMap_cons]
      exact .cons (attribute_written h.1) (ih h.2)

/-- The attributes of a tag are written in order of their names. No name is written twice, so that
    the later one counts makes no difference. -/
theorem head_written {tag : Tag} (h : tag.IsNamed) : Head tag.written tag := by
  have hattribute : ∀ key, tag.attribute? key = tag.attributes.entries.reverse.lookup key := by
    intro key
    rw [← Dictionary.get?_ofList, Dictionary.ofList_entries, Tag.attribute?]
  have hgap : IsGap [] := nofun
  have hhead := Head.intro h.name (attributes_written h.attributes) hgap
    String.ofList_toList.symm hattribute
  rwa [List.append_nil] at hhead

theorem isStop_markup (cs : List Char) : IsStop ('<' :: cs) := by
  intro c hc
  cases hc
  rfl

/-- A text that has been written does not go on behind it. -/
theorem isStop_separator (content : String) (rest : List Node) :
    IsStop (separator (.text content) rest ++ written rest) := by
  cases rest with
  | nil => exact nofun
  | cons next rest =>
      cases next with
      | text other => exact isStop_markup _
      | leaf tag => exact isStop_markup _
      | container tag children => exact isStop_markup _

/-- What separates two nodes means nothing. -/
theorem content_separator {cs : List Char} {nodes : List Node} (node : Node) (rest : List Node)
    (h : Content cs nodes) : Content (separator node rest ++ cs) nodes := by
  unfold separator
  split
  · have hpiece : Piece (.comment []) ['<', '!', '-', '-', '-', '-', '>'] :=
      .comment (by decide)
    exact .comment hpiece h
  · exact h

/-- A node is read where it is written, if it does not run into what follows. -/
theorem content_node {node : Node} (h : node.IsWellFormed) {rest : List Char} {nodes : List Node}
    (hstop : ∀ content, node = .text content → IsStop rest) (hrest : Content rest nodes)
    (hchildren : ∀ tag children, node = .container tag children →
      Content (written children) children) :
    Content (node.written ++ rest) (node :: nodes) := by
  cases h with
  | @text content hne =>
      have hescape := Reference.not_mem_escape content.toList
      have hrun : content.toList ≠ [] := fun hnil => hne (String.toList_eq_nil_iff.mp hnil)
      have hpiece := Piece.text (Reference.escape_ne_nil hrun) hescape.1
      have hcontent := Content.text hpiece (hstop content rfl) hrest
      rwa [Reference.expand_escape, String.ofList_toList] at hcontent
  | leaf htag => exact .leaf (.leaf (head_written htag)) hrest
  | @container tag children htag _ =>
      -- The end tag is written without blanks in it.
      have hgap : IsGap [] := nofun
      have hclosing := Piece.closing htag.name hgap
      rw [String.ofList_toList] at hclosing
      have hcontent := Content.container (.opening (head_written htag))
        (hchildren tag children rfl) hclosing hrest
      rw [Node.written, List.append_assoc, List.append_assoc]
      exact hcontent

/-- What is written is content. -/
theorem content_written : ∀ nodes : List Node, (∀ node ∈ nodes, node.IsWellFormed) →
    Content (written nodes) nodes
  | [], _ => .nil
  | .text content :: rest, h => by
    rw [List.forall_mem_cons] at h
    refine content_node h.1 (fun _ heq => ?_) (content_separator _ rest (content_written rest h.2))
      nofun
    -- What separates two texts is markup, so the first one ends there.
    exact isStop_separator content rest
  | .leaf tag :: rest, h => by
    rw [List.forall_mem_cons] at h
    exact content_node h.1 nofun (content_separator _ rest (content_written rest h.2)) nofun
  | .container tag children :: rest, h => by
    rw [List.forall_mem_cons] at h
    refine content_node h.1 nofun (content_separator _ rest (content_written rest h.2)) ?_
    intro other inner heq
    cases heq
    cases h.1 with
    | container _ hchildren => exact content_written children hchildren

theorem isName_of_mem {written : List Char} {pairs : List (String × String)}
    (h : Attributes written pairs) : ∀ pair ∈ pairs, IsName pair.1.toList := by
  induction h with
  | nil => exact nofun
  | cons hfirst _ ih =>
      rw [List.forall_mem_cons]
      refine ⟨?_, ih⟩
      cases hfirst with
      | intro _ _ hname _ _ _ =>
          rw [String.toList_ofList]
          exact hname

theorem isNamed_of_head {head : List Char} {tag : Tag} (h : Head head tag) : tag.IsNamed := by
  cases h with
  | intro hname hwritten _ hnamed hattribute =>
      refine ⟨?_, ?_⟩
      · rw [hnamed, String.toList_ofList]
        exact hname
      · -- An attribute that the tag has is one of those that were written.
        intro entry hentry
        have hvalue := Dictionary.mem_entries_iff.mp hentry
        have hlookup := hattribute entry.1
        rw [Tag.attribute?, hvalue] at hlookup
        have hmem := Dictionary.mem_of_lookup_eq_some hlookup.symm
        exact isName_of_mem hwritten _ (List.mem_reverse.mp hmem)

/-- What the grammar derives is well-formed. -/
theorem isWellFormed_of_content {cs : List Char} {nodes : List Node} (h : Content cs nodes) :
    ∀ node ∈ nodes, node.IsWellFormed := by
  induction h with
  | nil => exact nofun
  | comment _ _ ih => exact ih
  | @text run _ _ hpiece _ _ ih =>
      rw [List.forall_mem_cons]
      refine ⟨.text ?_, ih⟩
      -- A run has characters, and what it stands for has some too.
      intro hempty
      cases hpiece with
      | text hne _ =>
          have hnil := congrArg String.toList hempty
          rw [String.toList_ofList] at hnil
          exact Reference.expand_ne_nil hne hnil
  | leaf hpiece _ ih =>
      rw [List.forall_mem_cons]
      cases hpiece with
      | leaf hhead => exact ⟨.leaf (isNamed_of_head hhead), ih⟩
  | container hstart _ _ _ ihInner ihRest =>
      rw [List.forall_mem_cons]
      cases hstart with
      | opening hhead => exact ⟨.container (isNamed_of_head hhead) ihInner, ihRest⟩

/-- What is written is read again, if no element lies too deep. -/
theorem parseTemplate_written {limit : Nat} {nodes : List Node}
    (hnodes : ∀ node ∈ nodes, node.IsWellFormed)
    (hroom : ∀ place ∈ outline 0 nodes, place.around < min limit nestingCeiling) :
    parseTemplate (String.ofList (written nodes)) limit = .ok nodes := by
  rw [parseTemplate_eq_ok, Reader.build_eq_ok_iff, String.toList_ofList]
  exact ⟨content_written nodes hnodes, hroom⟩

/-- The trees that can be read are those that are well-formed and in which no element is nested
    inside as many others as the limit and the ceiling are, or more. -/
theorem exists_parseTemplate_eq_ok_iff (limit : Nat) (nodes : List Node) :
    (∃ source, parseTemplate source limit = .ok nodes) ↔
      (∀ node ∈ nodes, node.IsWellFormed) ∧
        ∀ place ∈ outline 0 nodes, place.around < min limit nestingCeiling := by
  constructor
  · rintro ⟨source, hsource⟩
    rw [parseTemplate_eq_ok, Reader.build_eq_ok_iff] at hsource
    exact ⟨isWellFormed_of_content hsource.1, hsource.2⟩
  · -- A forest that could be read can be written, and is read back then.
    rintro ⟨hnodes, hroom⟩
    exact ⟨String.ofList (written nodes), parseTemplate_written hnodes hroom⟩

end Colloquy
