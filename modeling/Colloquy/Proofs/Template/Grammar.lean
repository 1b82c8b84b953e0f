import Colloquy.Template.Lexeme

/-!
# The Grammar of Templates

Which texts are templates and what they mean, said without a reader. The grammar has two layers, as
reading has. A piece is what one lexeme is written as; content is a sequence of pieces in which
every opening tag is followed by the content of its element and then by the closing tag of the same
name.

Nothing here says where a piece ends other than by what it consists of. Runs of text are the
exception: two of them never follow each other, so that text is always one node, and content says so
of what comes behind a run.

How deeply elements nest is no part of the grammar. It is read off the tree, whose elements in the
order in which they open are listed with the number of elements around each.

## Main definitions

* `Grammar.Attribute`: An attribute as it is written.
* `Grammar.Head`: The name and the attributes of a tag.
* `Grammar.Piece`: A lexeme as it is written.
* `Grammar.Content`: The nodes that a text means.
* `outline`: The elements of a tree in the order in which they open.

## Theorems

* `Grammar.head_name`: A name alone is the head of a tag without attributes.
* `length_outline`: What nodes are nested inside does not change how many elements there are.
* `outline_succ`: One element more around nodes.
* `outline_append`: The elements of nodes side by side.
-/

namespace Colloquy

namespace Grammar

/-- Any number of spaces between the parts of a tag. -/
def IsGap (cs : List Char) : Prop := ∀ c ∈ cs, isTagSpace c = true

/-- The name of a tag or of an attribute. -/
def IsName (cs : List Char) : Prop := cs ≠ [] ∧ ∀ c ∈ cs, isNameChar c = true

/-- What may follow a run of text: nothing, or the start of markup. -/
def IsStop (cs : List Char) : Prop := ∀ c ∈ cs.head?, c = '<'

/-- A value between quotes, and the text that it stands for. -/
inductive Quoted : List Char → String → Prop where
  | intro {quote : Char} {value : List Char} (hquote : quote = '"' ∨ quote = '\'')
      (hvalue : quote ∉ value) :
      Quoted (quote :: value ++ [quote]) (String.ofList (Reference.expand value))

/-- An attribute, which keeps at least one space from what stands before it, and its name with the
    value that it stands for. -/
inductive Attribute : List Char → String × String → Prop where
  | intro {gap name before after quoted : List Char} {value : String} (hne : gap ≠ [])
      (hgap : IsGap gap) (hname : IsName name) (hbefore : IsGap before) (hafter : IsGap after)
      (hquoted : Quoted quoted value) :
      Attribute (gap ++ (name ++ (before ++ '=' :: (after ++ quoted)))) (String.ofList name, value)

/-- Any number of attributes. -/
inductive Attributes : List Char → List (String × String) → Prop where
  | nil : Attributes [] []
  | cons {first rest : List Char} {pair : String × String} {pairs : List (String × String)}
      (hfirst : Attribute first pair) (hrest : Attributes rest pairs) :
      Attributes (first ++ rest) (pair :: pairs)

/-- What the two forms of a tag have in common: a name, attributes, and spaces. Of two attributes of
    one name the later one counts. -/
inductive Head : List Char → Tag → Prop where
  | intro {name written gap : List Char} {pairs : List (String × String)} {tag : Tag}
      (hname : IsName name) (hwritten : Attributes written pairs) (hgap : IsGap gap)
      (hnamed : tag.name = String.ofList name)
      (hattribute : ∀ key, tag.attribute? key = pairs.reverse.lookup key) :
      Head (name ++ (written ++ gap)) tag

/-- What a lexeme is written as. The two that stand for errors are not written at all. -/
inductive Piece : Lexeme → List Char → Prop where
  | comment {body : List Char} (hbody : ¬ ['-', '-', '>'] <:+: body) :
      Piece (.comment body) ('<' :: '!' :: '-' :: '-' :: (body ++ ['-', '-', '>']))
  | text {run : List Char} (hne : run ≠ []) (hrun : '<' ∉ run) : Piece (.text run) run
  | leaf {head : List Char} {tag : Tag} (hhead : Head head tag) :
      Piece (.leaf tag) ('<' :: (head ++ ['/', '>']))
  | opening {head : List Char} {tag : Tag} (hhead : Head head tag) :
      Piece (.opening tag) ('<' :: (head ++ ['>']))
  | closing {name gap : List Char} (hname : IsName name) (hgap : IsGap gap) :
      Piece (.closing (String.ofList name)) ('<' :: '/' :: (name ++ (gap ++ ['>'])))

/-- The nodes that a text means. -/
inductive Content : List Char → List Node → Prop where
  | nil : Content [] []
  | comment {body piece rest : List Char} {nodes : List Node} (hpiece : Piece (.comment body) piece)
      (hrest : Content rest nodes) : Content (piece ++ rest) nodes
  | text {run rest : List Char} {nodes : List Node} (hpiece : Piece (.text run) run)
      (hstop : IsStop rest) (hrest : Content rest nodes) :
      Content (run ++ rest) (.text (String.ofList (Reference.expand run)) :: nodes)
  | leaf {tag : Tag} {piece rest : List Char} {nodes : List Node} (hpiece : Piece (.leaf tag) piece)
      (hrest : Content rest nodes) : Content (piece ++ rest) (.leaf tag :: nodes)
  | container {tag : Tag} {start inner stop rest : List Char} {children nodes : List Node}
      (hstart : Piece (.opening tag) start) (hinner : Content inner children)
      (hstop : Piece (.closing tag.name) stop) (hrest : Content rest nodes) :
      Content (start ++ (inner ++ (stop ++ rest))) (.container tag children :: nodes)

/-- A name alone is the head of a tag without attributes. -/
theorem head_name {name : List Char} (h : IsName name) : Head name ⟨String.ofList name, ∅⟩ := by
  have hhead := @Head.intro name [] [] [] ⟨String.ofList name, ∅⟩ h .nil
    (fun _ hc => absurd hc List.not_mem_nil) rfl fun _ => rfl
  rwa [List.append_nil, List.append_nil] at hhead

end Grammar

/-- An element of a tree, with the number of elements that it is nested inside. -/
structure Occurrence where
  around : Nat
  tag : Tag
  deriving DecidableEq, Repr

mutual

/-- The elements of a node in the order in which they open. The node itself is nested inside
    `around` elements. -/
def Node.outline (around : Nat) : Node → List Occurrence
  | .text _ => []
  | .leaf tag => [⟨around, tag⟩]
  | .container tag children => ⟨around, tag⟩ :: outline (around + 1) children

/-- The elements of nodes in the order in which they open. -/
def outline (around : Nat) : List Node → List Occurrence
  | [] => []
  | node :: rest => node.outline around ++ outline around rest

end

mutual

theorem Node.length_outline (around other : Nat) :
    ∀ node : Node, (node.outline around).length = (node.outline other).length
  | .text _ => rfl
  | .leaf _ => rfl
  | .container _ children => by
    rw [Node.outline, Node.outline, List.length_cons, List.length_cons,
      length_outline (around + 1) (other + 1) children]

/-- What nodes are nested inside does not change how many elements there are. -/
theorem length_outline (around other : Nat) :
    ∀ nodes : List Node, (outline around nodes).length = (outline other nodes).length
  | [] => rfl
  | node :: rest => by
    rw [outline, outline, List.length_append, List.length_append, node.length_outline around other,
      length_outline around other rest]

end

mutual

theorem Node.outline_succ (around : Nat) :
    ∀ node : Node, node.outline (around + 1)
      = (node.outline around).map fun place => ⟨place.around + 1, place.tag⟩
  | .text _ => rfl
  | .leaf _ => rfl
  | .container _ children => by
    rw [Node.outline, Node.outline, List.map_cons, Colloquy.outline_succ (around + 1) children]

/-- Inside one element more, every element of nodes is nested inside one more. -/
theorem outline_succ (around : Nat) :
    ∀ nodes : List Node, outline (around + 1) nodes
      = (outline around nodes).map fun place => ⟨place.around + 1, place.tag⟩
  | [] => rfl
  | node :: rest => by
    rw [outline, outline, List.map_append, node.outline_succ around, outline_succ around rest]

end

/-- The elements of nodes side by side. -/
theorem outline_append (around : Nat) (nodes more : List Node) :
    outline around (nodes ++ more) = outline around nodes ++ outline around more := by
  induction nodes with
  | nil => rfl
  | cons node rest ih => rw [List.cons_append, outline, outline, ih, List.append_assoc]

end Colloquy
