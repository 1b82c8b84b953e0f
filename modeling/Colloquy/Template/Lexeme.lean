import Colloquy.Template.Node
import Colloquy.Template.Reference
import Colloquy.Text.Alphanumeric

/-!
# Lexemes of Markup

The pieces that template markup falls into: comments, runs of text, and tags. Which piece starts
at a place depends only on the text from there on, not on the elements that are open or on how
deeply they may nest, so the pieces can be listed before any tree is built. `Reader` then decides
what the list means.

Two lexemes mark the place where the list ends early. `broken` is a tag that has a name but no end
after its attributes; `stray` is a place where nothing can start. Both are errors, but which error
they are depends on the elements open around them, and a broken tag may also lie too deep, so they
are handed on rather than reported here.

## Main definitions

* `Lexeme`: One piece of markup.
* `Token`: A lexeme with the text that starts at it.
* `Lexeme.scan`: The piece at the start of a text, and what follows it.
* `Token.list`: The pieces of a text, in order.

## Theorems

* `Lexeme.scan_length`: Every piece takes up at least one character.
-/

namespace Colloquy

/-- A character of a tag or attribute name. -/
def isNameChar (c : Char) : Bool :=
  isAlphanumeric c || c = '_' || c = '-' || c = '.' || c = ':'

/-- A character that may stand between the parts of a tag. -/
def isTagSpace (c : Char) : Bool :=
  c = ' ' || c = '\t' || c = '\r' || c = '\n'

/-- One piece of markup. -/
inductive Lexeme where
  | comment (body : List Char)
  | text (run : List Char)
  | opening (tag : Tag)
  | leaf (tag : Tag)
  | closing (name : String)
  /-- A tag of this name whose attributes are followed by `rest`, which is not the end of a tag. -/
  | broken (name : String) (rest : List Char)
  | stray

namespace Lexeme

/-- The text without the spaces at its start. -/
def skipSpace (cs : List Char) : List Char := cs.dropWhile isTagSpace

/-- The name at the start of a text. -/
def name? (cs : List Char) : Option (List Char × List Char) :=
  match cs.takeWhile isNameChar with
  | [] => none
  | name => some (name, cs.dropWhile isNameChar)

/-- The rest of a value after its opening quote. -/
def valueIn? (quote : Char) (cs : List Char) : Option (List Char × List Char) :=
  match cs.dropWhile (· ≠ quote) with
  | [] => none
  | _ :: after => some (cs.takeWhile (· ≠ quote), after)

/-- The quoted value at the start of a text. -/
def value? : List Char → Option (List Char × List Char)
  | '"' :: rest => valueIn? '"' rest
  | '\'' :: rest => valueIn? '\'' rest
  | _ => none

/-- What follows an equals sign with the spaces around it. -/
def equals? (cs : List Char) : Option (List Char) :=
  match skipSpace cs with
  | '=' :: rest => some (skipSpace rest)
  | _ => none

/-- The attribute at the start of a text: at least one space, a name, an equals sign and a value. -/
def attribute? : List Char → Option ((String × String) × List Char)
  | c :: rest =>
    if isTagSpace c then do
      let (name, afterName) ← name? (skipSpace rest)
      let afterEquals ← equals? afterName
      let (value, after) ← value? afterEquals
      pure ((String.ofList name, String.ofList (Reference.expand value)), after)
    else none
  | [] => none

theorem skipSpace_length (cs : List Char) : (skipSpace cs).length ≤ cs.length :=
  (List.dropWhile_sublist _).length_le

theorem name?_length {cs name rest : List Char} (h : name? cs = some (name, rest)) :
    rest.length < cs.length := by
  unfold name? at h
  split at h
  · cases h
  · rename_i hne
    cases h
    have happ := congrArg List.length (List.takeWhile_append_dropWhile (p := isNameChar) (l := cs))
    rw [List.length_append] at happ
    have : 0 < (cs.takeWhile isNameChar).length := List.length_pos_iff.2 hne
    omega

theorem valueIn?_length {quote : Char} {cs value rest : List Char}
    (h : valueIn? quote cs = some (value, rest)) : rest.length < cs.length := by
  unfold valueIn? at h
  split at h
  · cases h
  · rename_i heq
    cases h
    have := (List.dropWhile_sublist (fun c => c ≠ quote) (l := cs)).length_le
    rw [heq] at this
    exact this

theorem value?_length {cs value rest : List Char} (h : value? cs = some (value, rest)) :
    rest.length < cs.length := by
  unfold value? at h
  split at h
  · exact Nat.lt_succ_of_lt (valueIn?_length h)
  · exact Nat.lt_succ_of_lt (valueIn?_length h)
  · cases h

theorem equals?_length {cs rest : List Char} (h : equals? cs = some rest) :
    rest.length < cs.length := by
  unfold equals? at h
  split at h
  · rename_i after heq
    cases h
    have h1 := skipSpace_length after
    have h2 := skipSpace_length cs
    rw [heq, List.length_cons] at h2
    omega
  · cases h

theorem attribute?_length {cs rest : List Char} {pair : String × String}
    (h : attribute? cs = some (pair, rest)) : rest.length < cs.length := by
  unfold attribute? at h
  split at h
  · rename_i c tail
    split at h
    · simp only [Option.bind_eq_bind, Option.bind_eq_some_iff, Option.pure_def,
        Option.some.injEq, Prod.mk.injEq, Prod.exists] at h
      obtain ⟨_, _, hname, _, hequals, _, _, hvalue, _, rfl⟩ := h
      -- Each part starts where the one before it ends.
      have h1 := name?_length hname
      have h2 := equals?_length hequals
      have h3 := value?_length hvalue
      have h4 := skipSpace_length tail
      simp only [List.length_cons]
      omega
    · cases h
  · cases h

/-- The attributes at the start of a text, as many as can be read. -/
def attributes (cs : List Char) : List (String × String) × List Char :=
  match _h : attribute? cs with
  | some (pair, rest) =>
    let more := attributes rest
    (pair :: more.1, more.2)
  | none => ([], cs)
termination_by cs.length
decreasing_by exact attribute?_length _h

theorem attributes_length (cs : List Char) : (attributes cs).2.length ≤ cs.length := by
  fun_induction attributes cs with
  | case1 cs pair rest h more ih =>
    exact Nat.le_trans ih (Nat.le_of_lt (attribute?_length h))
  | case2 cs h => exact Nat.le_refl _

/-- The body of a comment, up to the first mark that ends it, and what follows the mark. -/
def commentBody? : List Char → Option (List Char × List Char)
  | [] => none
  | c :: rest =>
    match c, rest with
    | '-', '-' :: '>' :: after => some ([], after)
    | _, _ => (commentBody? rest).map fun (body, after) => (c :: body, after)

theorem commentBody?_length {cs body after : List Char}
    (h : commentBody? cs = some (body, after)) : after.length < cs.length := by
  induction cs generalizing body with
  | nil => cases h
  | cons c rest ih =>
    unfold commentBody? at h
    split at h
    · cases h
      simp only [List.length_cons]
      omega
    · obtain ⟨⟨inner, rest'⟩, hrest, hp⟩ := Option.map_eq_some_iff.1 h
      cases hp
      exact Nat.lt_succ_of_lt (ih hrest)

/-- The comment at the start of a text. -/
def comment? : List Char → Option (List Char × List Char)
  | '<' :: '!' :: '-' :: '-' :: rest => commentBody? rest
  | _ => none

/-- The closing tag at the start of a text. -/
def closing? : List Char → Option (List Char × List Char)
  | '<' :: '/' :: rest => do
    let (name, afterName) ← name? rest
    match skipSpace afterName with
    | '>' :: after => some (name, after)
    | _ => none
  | _ => none

/-- A tag of a name with attributes of which a later one wins. -/
def tagOf (name : List Char) (pairs : List (String × String)) : Tag :=
  pairs.foldl (fun tag pair => tag.withAttribute pair.1 pair.2) { name := String.ofList name }

/-- The lexeme of a tag whose name has been read. -/
def scanTag (name afterName : List Char) : Lexeme × List Char :=
  match attributes afterName with
  | (pairs, afterPairs) =>
    match skipSpace afterPairs with
    | '/' :: '>' :: rest => (.leaf (tagOf name pairs), rest)
    | '>' :: rest => (.opening (tagOf name pairs), rest)
    -- Where a tag breaks off is behind the spaces, too.
    | rest => (.broken (String.ofList name) rest, [])

/-- The lexeme at a text that starts with an angle bracket, of which `rest` follows. -/
def scanMarkup (rest : List Char) : Lexeme × List Char :=
  match comment? ('<' :: rest) with
  | some (body, after) => (.comment body, after)
  -- A comment without an end is no comment, and it is no tag either.
  | none =>
    match closing? ('<' :: rest) with
    | some (name, after) => (.closing (String.ofList name), after)
    | none =>
      match name? rest with
      | some (name, afterName) => scanTag name afterName
      | none => (.stray, [])

/-- The lexeme at the start of a text that is not empty, and what follows it. Nothing follows a
    lexeme that is an error. -/
def scan (c : Char) (rest : List Char) : Lexeme × List Char :=
  if c = '<' then scanMarkup rest
  else (.text ((c :: rest).takeWhile (· ≠ '<')), rest.dropWhile (· ≠ '<'))

theorem closing?_length {cs name after : List Char} (h : closing? cs = some (name, after)) :
    after.length < cs.length := by
  unfold closing? at h
  split at h
  · rename_i rest
    simp only [Option.bind_eq_bind, Option.bind_eq_some_iff, Prod.exists] at h
    obtain ⟨_, afterName, hname, h⟩ := h
    split at h
    · rename_i heq
      cases h
      have h1 := name?_length hname
      have h2 := skipSpace_length afterName
      rw [heq, List.length_cons] at h2
      simp only [List.length_cons]
      omega
    · cases h
  · cases h

theorem comment?_length {cs body after : List Char} (h : comment? cs = some (body, after)) :
    after.length < cs.length := by
  unfold comment? at h
  split at h
  · have := commentBody?_length h
    simp only [List.length_cons]
    omega
  · cases h

theorem scanTag_length (name afterName : List Char) :
    (scanTag name afterName).2.length ≤ afterName.length := by
  have h1 := attributes_length afterName
  unfold scanTag
  generalize attributes afterName = read at h1
  obtain ⟨pairs, afterPairs⟩ := read
  have h2 := skipSpace_length afterPairs
  dsimp only at h1 ⊢
  split
  · rename_i heq
    rw [heq] at h2
    simp only [List.length_cons] at h2 ⊢
    omega
  · rename_i heq
    rw [heq] at h2
    simp only [List.length_cons] at h2 ⊢
    omega
  · exact Nat.zero_le _

theorem scan_length (c : Char) (rest : List Char) :
    (scan c rest).2.length < (c :: rest).length := by
  unfold scan
  split
  · rename_i hc
    subst hc
    unfold scanMarkup
    split
    · -- A comment.
      rename_i h
      exact comment?_length h
    · split
      · -- A closing tag.
        rename_i h
        exact closing?_length h
      · split
        · -- A tag with a name: the bracket and the name are gone in any case.
          rename_i name afterName h
          have h1 := scanTag_length name afterName
          have h2 := name?_length h
          simp only [List.length_cons]
          omega
        · exact Nat.zero_lt_succ _
  · -- A run of text holds at least its first character.
    have := (List.dropWhile_sublist (fun c => c ≠ '<') (l := rest)).length_le
    simp only [List.length_cons]
    omega

end Lexeme

/-- A lexeme, with the text of the source from its first character on. -/
structure Token where
  source : List Char
  lexeme : Lexeme

/-- The lexemes of a text, in order. -/
def Token.list : List Char → List Token
  | [] => []
  | c :: rest =>
    let scanned := Lexeme.scan c rest
    ⟨c :: rest, scanned.1⟩ :: Token.list scanned.2
termination_by cs => cs.length
decreasing_by exact Lexeme.scan_length c rest

end Colloquy
