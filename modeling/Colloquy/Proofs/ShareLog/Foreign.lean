import Colloquy.Proofs.ShareLog.Document

/-!
# Documents That Were Not Made Here

A document with something in it that does not end in the closing tag is foreign, and an entry is put
behind all that it holds. Whether it is foreign is asked again for every entry, and all that is
looked at is the end of the text, which is made of entries by then. So a document does not have to
stay foreign: an entry that completes the closing tag makes it look wrapped, and from then on every
entry goes in front of that tag. The tag may even begin in what stood there before any entry did,
and then foreign content is taken apart.

`StaysForeign` says that this does not happen before the last entry. Then the document is only ever
appended to; and if it does happen, then the rest of the run is that of a wrapped document.

## Main definitions

* `ShareLog.IsClosed`: A text that ends in the closing tag, but for blanks.
* `Gossip.entries`: Entries one behind the other.
* `ShareLog.StaysForeign`: No entry but the last one makes a text look wrapped.

## Theorems

* `isClosed_iff`: What a text that looks wrapped is made of.
* `wrapAll_foreign`: Entries go behind a text as long as it stays foreign.
* `staysForeign_or`: A text stays foreign, or there is a first entry that closes it.
* `foreign_until_closed`: What a run makes of a foreign document.
-/

namespace Colloquy

/-- The entries of gossip, one behind the other. -/
def Gossip.entries (gossips : List Gossip) : List Char := (gossips.map Gossip.entry).flatten

theorem Gossip.entries_cons (gossip : Gossip) (gossips : List Gossip) :
    Gossip.entries (gossip :: gossips) = gossip.entry ++ Gossip.entries gossips :=
  rfl

theorem Gossip.entries_append (gossips others : List Gossip) :
    Gossip.entries (gossips ++ others) = Gossip.entries gossips ++ Gossip.entries others := by
  rw [entries, List.map_append, List.flatten_append]
  rfl

namespace ShareLog

/-- A text that ends in the closing tag, but for blanks. -/
def IsClosed (root : String) (text : List Char) : Prop := closingTag root <:+ trimEnd text

instance (root : String) (text : List Char) : Decidable (IsClosed root text) := by
  unfold IsClosed
  infer_instance

/-- A text does not end in the closing tag before the last of these entries is put behind it. -/
def StaysForeign (root : String) : List Char → List Gossip → Prop
  | _, [] => True
  | text, gossip :: rest => ¬ IsClosed root text ∧ StaysForeign root (text ++ gossip.entry) rest

section Text

variable {root : String} {text : List Char}

/-- A text is what is left of it when it is trimmed, and blanks. -/
theorem exists_blanks (text : List Char) :
    ∃ blanks, isAllBlank blanks = true ∧ text = trimEnd text ++ blanks := by
  refine ⟨(text.reverse.takeWhile isBlank).reverse, ?_, ?_⟩
  · rw [isAllBlank, List.all_reverse]
    exact List.all_takeWhile
  · rw [trimEnd, ← List.reverse_append, List.takeWhile_append_dropWhile, List.reverse_reverse]

/-- A text that looks wrapped has the closing tag and blanks behind something. -/
theorem isClosed_iff :
    IsClosed root text ↔
      ∃ front blanks, isAllBlank blanks = true ∧ text = front ++ closingTag root ++ blanks := by
  constructor
  · rintro ⟨front, hfront⟩
    rcases exists_blanks text with ⟨blanks, hblanks, htext⟩
    exact ⟨front, blanks, hblanks, by rw [hfront, ← htext]⟩
  · rintro ⟨front, blanks, hblanks, rfl⟩
    rw [IsClosed, trimEnd_closed hblanks]
    exact List.suffix_append front _

/-- An entry goes behind a text that is neither blank nor looks wrapped. -/
theorem wrap_foreign (hblank : isAllBlank text = false) (hforeign : ¬ IsClosed root text)
    (entry : List Char) : wrap root text entry = text ++ entry := by
  have hsuffix : (closingTag root).isSuffixOf (trimEnd text) = false := by
    rw [Bool.eq_false_iff, ne_eq, List.isSuffixOf_iff_suffix]
    exact hforeign
  simp only [wrap, hsuffix, hblank, Bool.false_eq_true, if_false]

theorem isAllBlank_append_eq_false (hblank : isAllBlank text = false) (more : List Char) :
    isAllBlank (text ++ more) = false := by
  rw [isAllBlank] at hblank ⊢
  rw [List.all_append, hblank, Bool.false_and]

/-- Entries go behind a text as long as it stays foreign. -/
theorem wrapAll_foreign {gossips : List Gossip} (hblank : isAllBlank text = false)
    (hforeign : StaysForeign root text gossips) :
    wrapAll root text (gossips.map Gossip.entry) = text ++ Gossip.entries gossips := by
  induction gossips generalizing text with
  | nil => exact (List.append_nil text).symm
  | cons gossip rest ih =>
      rw [List.map_cons, wrapAll, List.foldl_cons, wrap_foreign hblank hforeign.1, ← wrapAll,
        ih (isAllBlank_append_eq_false hblank _) hforeign.2, Gossip.entries_cons,
        List.append_assoc]

/-- A text stays foreign through a run, or there is a first entry that closes it. -/
theorem staysForeign_or (root : String) (text : List Char) (gossips : List Gossip) :
    StaysForeign root text gossips ∨
      ∃ earlier later, gossips = earlier ++ later ∧ later ≠ [] ∧ StaysForeign root text earlier ∧
        IsClosed root (text ++ Gossip.entries earlier) := by
  induction gossips generalizing text with
  | nil => exact .inl trivial
  | cons gossip rest ih =>
      -- Either the text is closed already, or the next entry may close it.
      by_cases hclosed : IsClosed root text
      · refine .inr ⟨[], gossip :: rest, rfl, List.cons_ne_nil _ _, trivial, ?_⟩
        rw [Gossip.entries, List.map_nil, List.flatten_nil, List.append_nil]
        exact hclosed
      · rcases ih (text ++ gossip.entry) with
          hforeign | ⟨earlier, later, rfl, hlater, hearlier, hend⟩
        · exact .inl ⟨hclosed, hforeign⟩
        · refine .inr ⟨gossip :: earlier, later, rfl, hlater, ⟨hclosed, hearlier⟩, ?_⟩
          rw [Gossip.entries_cons, ← List.append_assoc]
          exact hend

end Text

/-- Entries go behind a text up to the first that closes it, and from then on in front of the
    tag. -/
theorem wrapAll_closes {root : String} {text front blanks : List Char}
    {earlier later : List Gossip} (hblank : isAllBlank text = false) (hlater : later ≠ [])
    (hforeign : StaysForeign root text earlier) (hblanks : isAllBlank blanks = true)
    (hclosed : text ++ Gossip.entries earlier = front ++ closingTag root ++ blanks) :
    wrapAll root text ((earlier ++ later).map Gossip.entry)
      = front ++ Gossip.entries later ++ closingTag root ++ ['\n'] := by
  have hentries : later.map Gossip.entry ≠ [] := fun hnil => hlater (List.map_eq_nil_iff.mp hnil)
  calc wrapAll root text ((earlier ++ later).map Gossip.entry)
      = wrapAll root (wrapAll root text (earlier.map Gossip.entry))
          (later.map Gossip.entry) := by
        rw [List.map_append]
        exact List.foldl_append
    _ = wrapAll root (front ++ closingTag root ++ blanks) (later.map Gossip.entry) := by
        rw [wrapAll_foreign hblank hforeign, hclosed]
    _ = front ++ Gossip.entries later ++ closingTag root ++ ['\n'] :=
        wrapAll_closed hblanks hentries

variable {log : ShareLog}

/-- A file has one text. -/
theorem file_eq_iff {text other : List Char} :
    some (Entry.file (String.ofList text).toUTF8) = some (.file (String.ofList other).toUTF8) ↔
      text = other := by
  refine ⟨fun h => ?_, fun h => by rw [h]⟩
  rw [Option.some.injEq, Entry.file.injEq] at h
  exact String.ofList_injective (String.toByteArray_inj.mp h)

/-- What a run makes of a foreign document. As long as it stays foreign it is only appended to. If
    an entry that is not the last one closes it, then the later entries go in front of the tag that
    was closed, and the blanks behind that tag become one line end; so the document is what it would
    have been if it was appended to if and only if the later entries can trade places with that tag.
    There is no third case. -/
theorem foreign_until_closed (henabled : log.documentEnabled = true) {world : World}
    (hapart : world.disk.destination log.documentPath ≠ world.disk.destination log.plainPath)
    {text : List Char} (hblank : isAllBlank text = false)
    (hdocument : log.HasDocument world.disk text) {gossips : List Gossip}
    (hok : ∀ result ∈ (log.recordAll gossips world).1, result = .ok ()) :
    let becomes (text : List Char) :=
      log.document? (log.recordAll gossips world).2.disk
        = some (.file (String.ofList text).toUTF8)
    (StaysForeign log.root text gossips → becomes (text ++ Gossip.entries gossips)) ∧
    (∀ earlier later front blanks, gossips = earlier ++ later → later ≠ [] →
      StaysForeign log.root text earlier → isAllBlank blanks = true →
      text ++ Gossip.entries earlier = front ++ closingTag log.root ++ blanks →
      becomes (front ++ Gossip.entries later ++ closingTag log.root ++ ['\n']) ∧
      (becomes (text ++ Gossip.entries gossips) ↔
        closingTag log.root ++ blanks ++ Gossip.entries later
          = Gossip.entries later ++ closingTag log.root ++ ['\n'])) ∧
    (StaysForeign log.root text gossips ∨
      ∃ earlier later front blanks, gossips = earlier ++ later ∧ later ≠ [] ∧
        StaysForeign log.root text earlier ∧ isAllBlank blanks = true ∧
        text ++ Gossip.entries earlier = front ++ closingTag log.root ++ blanks) := by
  have hafter := recordAll_document henabled hapart hdocument hok
  refine ⟨fun hforeign => ?_,
    fun earlier later front blanks hsplit hlater hforeign hblanks hclosed => ?_, ?_⟩
  · rw [wrapAll_foreign hblank hforeign] at hafter
    -- It cannot be missing, because a text that is not blank is not empty.
    refine hafter.resolve_right fun hmissing => ?_
    rw [(List.append_eq_nil_iff.mp hmissing.2).1] at hblank
    cases hblank
  · rw [hsplit, wrapAll_closes hblank hlater hforeign hblanks hclosed, ← hsplit] at hafter
    have hfile := hafter.resolve_right fun hmissing => List.concat_ne_nil _ _ hmissing.2
    refine ⟨hfile, ?_⟩
    dsimp only
    rw [hfile, file_eq_iff, hsplit, Gossip.entries_append, ← List.append_assoc, hclosed]
    simp only [List.append_assoc, List.append_cancel_left_eq]
    exact eq_comm
  · rcases staysForeign_or log.root text gossips with hforeign |
      ⟨earlier, later, hsplit, hlater, hforeign, hclosed⟩
    · exact .inl hforeign
    · rcases isClosed_iff.mp hclosed with ⟨front, blanks, hblanks, htext⟩
      exact .inr ⟨earlier, later, front, blanks, hsplit, hlater, hforeign, hblanks, htext⟩

/-- Three entries for a document that ends in a part of the closing tag. As they are, only the last
    one completes the tag and they are appended; in the order in which the last one comes first, the
    other two go in front of the tag that it completes. -/
theorem foreign_until_closed_split_tag :
    let log : ShareLog := { documentEnabled := true }
    let world : World := { disk := { entries := [(["aiml"], .directory),
      (["aiml", "gossip.aiml"], .file "Old news</ai".toUTF8)] } }
    let hello : Gossip := ⟨⟨0, 0⟩, ⟨"alice", "aria"⟩, "Hello</aiml"⟩
    let world' : Gossip := ⟨⟨60, 0⟩, ⟨"bob", "aria"⟩, "World"⟩
    let tag : Gossip := ⟨⟨120, 0⟩, ⟨"carol", "aria"⟩, "ml></aiml>\t"⟩
    isAllBlank "Old news</ai".toList = false ∧
    StaysForeign log.root "Old news</ai".toList [hello, world', tag] ∧
    log.document? (log.recordAll [hello, world', tag] world).2.disk
      = some (.file "Old news</aiHello</aiml\nWorld\nml></aiml>\t\n".toUTF8) ∧
    log.document? (log.recordAll [tag, hello, world'] world).2.disk
      = some (.file "Old news</aiml>Hello</aiml\nWorld\n</aiml>\n".toUTF8) := by
  intro log world hello world' tag
  have hblank : isAllBlank "Old news</ai".toList = false := by decide +kernel
  have hapart : world.disk.destination log.documentPath ≠ world.disk.destination log.plainPath := by
    decide
  have hdocument : log.HasDocument world.disk "Old news</ai".toList := .inl (by decide +kernel)
  -- At none of these entries the text before it ends like a closed document.
  have hforeign : StaysForeign log.root "Old news</ai".toList [hello, world', tag] :=
    ⟨by decide +kernel, by decide +kernel, by decide +kernel, trivial⟩
  have hok : ∀ result ∈ (log.recordAll [hello, world', tag] world).1, result = .ok () := by
    decide +kernel
  have hok' : ∀ result ∈ (log.recordAll [tag, hello, world'] world).1, result = .ok () := by
    decide +kernel
  have hkept := (foreign_until_closed rfl hapart hblank hdocument hok).1 hforeign
  have hclosed := ((foreign_until_closed rfl hapart hblank hdocument hok').2.1 [tag] [hello, world']
    "Old news</aiml>".toList "\t\n".toList rfl (List.cons_ne_nil _ _)
    ⟨by decide +kernel, trivial⟩ (by decide +kernel) (by decide +kernel)).1
  have htext : String.ofList ("Old news</ai".toList ++ Gossip.entries [hello, world', tag])
      = "Old news</aiHello</aiml\nWorld\nml></aiml>\t\n" := by
    decide +kernel
  have htext' : String.ofList ("Old news</aiml>".toList ++ Gossip.entries [hello, world'] ++
      closingTag log.root ++ ['\n']) = "Old news</aiml>Hello</aiml\nWorld\n</aiml>\n" := by
    decide +kernel
  dsimp only at hkept hclosed
  rw [htext] at hkept
  rw [htext'] at hclosed
  exact ⟨hblank, hforeign, hkept, hclosed⟩

/-- A document that is neither blank nor ends in the closing tag is not only appended to: the second
    of two entries goes into what stood there at first, because the first one completed a tag that
    began in it. -/
theorem foreign_content_taken_apart :
    let log : ShareLog := { documentEnabled := true }
    let text := "legacy </ai".toList
    let world : World := { disk := { entries := [(["aiml"], .directory),
      (["aiml", "gossip.aiml"], .file "legacy </ai".toUTF8)] } }
    let gossips : List Gossip := [⟨⟨0, 0⟩, ⟨"alice", "aria"⟩, "ml>"⟩,
      ⟨⟨60, 0⟩, ⟨"alice", "aria"⟩, "x"⟩]
    let after := log.document? (log.recordAll gossips world).2.disk
    isAllBlank log.root.toList = false ∧ isAllBlank text = false ∧ ¬ IsClosed log.root text ∧
    log.HasDocument world.disk text ∧
    world.disk.destination log.documentPath ≠ world.disk.destination log.plainPath ∧
    (∀ result ∈ (log.recordAll gossips world).1, result = .ok ()) ∧
    after = some (.file "legacy x\n</aiml>\n".toUTF8) ∧
    after ≠ some (.file (String.ofList (text ++ Gossip.entries gossips)).toUTF8) := by
  exact ⟨by decide +kernel, by decide +kernel, by decide +kernel, .inl (by decide +kernel),
    by decide, by decide +kernel, by decide +kernel, by decide +kernel⟩

end ShareLog

end Colloquy
