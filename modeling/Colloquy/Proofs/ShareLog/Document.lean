import Colloquy.Proofs.ShareLog
import Colloquy.Proofs.Store.Unit
import Colloquy.Proofs.Text.Run
import Mathlib.Control.Monad.Basic

/-!
# The Document of the Share Log

What the document holds after any number of entries. Where an entry goes is decided by the text of
the document each time, so what has to be shown is that the text never looks like something else,
whatever the entries are.

The text of a document decides everything, and a document that is missing is as good as an empty
one: `HasDocument` says both at once. An entry that is recorded changes that text by `wrap` and by
nothing else, for the plain log is another file. So a run is a fold of `wrap` over its entries, and
the rest is about texts. A document that was wrapped once ends in its closing tag and one line end.
Trimming stops at the tag, since the tag does not end in a blank, and the tag is found at the end
even if an entry or what stood before looks like one. So every later entry finds the document as the
first one left it.

Nothing is remembered between entries, so a run of one log is also a run of several logs with the
same settings.

## Main definitions

* `Gossip`, `ShareLog.recordAll`: An entry with its time, and entries recorded one after the other.
* `ShareLog.document?`: What stands where the document belongs.
* `ShareLog.HasDocument`: The text of the document.
* `ShareLog.wrapAll`: The text of a document with more entries.

## Theorems

* `wrap_closed`, `wrap_blank`: Where an entry goes.
* `record_document`: What one entry makes of the document.
* `recordAll_document`: What a run makes of the document.
* `document?_recordAll`: A document stays wrapped and loses no entry.
-/

namespace Colloquy

/-- Something to be recorded: the time, the conversation and the text. -/
structure Gossip where
  moment : Moment
  scope : Scope
  text : String

/-- The entry that gossip makes in a document, which ends its own line. -/
def Gossip.entry (gossip : Gossip) : List Char := gossip.text.toList ++ ['\n']

namespace ShareLog

/-- Entries recorded one after the other, each at its own time, whether those before it failed or
    not. -/
def recordAll (log : ShareLog) : List Gossip → World → List (Except ShareLogError Unit) × World
  | [], world => ([], world)
  | gossip :: rest, world =>
    let (result, between) := log.record gossip.scope gossip.text { world with now := gossip.moment }
    let (results, after) := log.recordAll rest between
    (result :: results, after)

/-- What stands where the document of a log belongs. -/
def document? (log : ShareLog) (disk : Disk) : Option Entry :=
  disk.entry? (disk.destination log.documentPath)

/-- The document of a log has this text. One that is missing has none. -/
def HasDocument (log : ShareLog) (disk : Disk) (text : List Char) : Prop :=
  log.document? disk = some (.file (String.ofList text).toUTF8) ∨
    log.document? disk = none ∧ text = []

/-- The text of a document with more entries, one after the other. -/
def wrapAll (root : String) (document : List Char) (entries : List (List Char)) : List Char :=
  entries.foldl (wrap root) document

section Text

variable {root : String} {front document blanks : List Char}

theorem trimEnd_of_isAllBlank (h : isAllBlank document = true) : trimEnd document = [] := by
  have hrun : ∀ c ∈ document.reverse, isBlank c = true := fun c hc =>
    List.all_eq_true.mp h c (List.mem_reverse.mp hc)
  have hdrop : (document.reverse ++ []).dropWhile isBlank = [] := dropWhile_run hrun nofun
  rw [List.append_nil] at hdrop
  rw [trimEnd, hdrop, List.reverse_nil]

/-- Trimming stops at a character that is not blank. -/
theorem trimEnd_append {c : Char} (hc : isBlank c = false) (hblanks : isAllBlank blanks = true) :
    trimEnd (front ++ [c] ++ blanks) = front ++ [c] := by
  have hrun : ∀ c ∈ blanks.reverse, isBlank c = true := fun c hc =>
    List.all_eq_true.mp hblanks c (List.mem_reverse.mp hc)
  have hstop : ∀ other ∈ ((front ++ [c]).reverse).head?, isBlank other = false := by
    rw [List.reverse_concat, List.head?_cons]
    rintro other ⟨⟩
    exact hc
  rw [trimEnd, List.reverse_append, dropWhile_run hrun hstop, List.reverse_reverse]

/-- Trimming stops at a closing tag, which does not end in a blank whatever its name is. -/
theorem trimEnd_closed (hblanks : isAllBlank blanks = true) :
    trimEnd (front ++ closingTag root ++ blanks) = front ++ closingTag root := by
  rw [closingTag, ← List.append_assoc]
  exact trimEnd_append (by decide) hblanks

/-- An entry goes in front of the closing tag, and white space behind the tag is given up. -/
theorem wrap_closed (hblanks : isAllBlank blanks = true) (entry : List Char) :
    wrap root (front ++ closingTag root ++ blanks) entry
      = front ++ entry ++ closingTag root ++ ['\n'] := by
  have htrim : trimEnd (front ++ closingTag root ++ blanks) = front ++ closingTag root :=
    trimEnd_closed hblanks
  have hsuffix : (closingTag root).isSuffixOf (front ++ closingTag root) = true :=
    List.isSuffixOf_iff_suffix.mpr (List.suffix_append front _)
  have hlength : (front ++ closingTag root).length - (closingTag root).length = front.length := by
    rw [List.length_append, Nat.add_sub_cancel]
  simp only [wrap, htrim, hsuffix, if_true, hlength, List.take_left]

/-- A blank document gets its tags with its first entry. -/
theorem wrap_blank (h : isAllBlank document = true) (entry : List Char) :
    wrap root document entry
      = openingTag root ++ ['\n'] ++ entry ++ closingTag root ++ ['\n'] := by
  have hsuffix : (closingTag root).isSuffixOf [] = false := by
    rw [Bool.eq_false_iff, ne_eq, List.isSuffixOf_iff_suffix, List.suffix_nil]
    nofun
  rw [List.append_assoc (openingTag root), List.singleton_append]
  simp only [wrap, trimEnd_of_isAllBlank h, hsuffix, h, if_true, Bool.false_eq_true, if_false]

/-- Entries go in front of the closing tag in their order. What they are does not matter, because
    each of them leaves the tag at the end. -/
theorem wrapAll_closed (hblanks : isAllBlank blanks = true) {entries : List (List Char)}
    (hentries : entries ≠ []) :
    wrapAll root (front ++ closingTag root ++ blanks) entries
      = front ++ entries.flatten ++ closingTag root ++ ['\n'] := by
  induction entries generalizing front blanks with
  | nil => exact absurd rfl hentries
  | cons entry rest ih =>
      rw [wrapAll, List.foldl_cons, wrap_closed hblanks, List.flatten_cons, ← List.append_assoc]
      cases rest with
      | nil => rw [List.foldl_nil, List.flatten_nil, List.append_nil]
      | cons next rest => exact ih (by decide) (List.cons_ne_nil next rest)

/-- A blank document gets its tags and then every entry in its order. -/
theorem wrapAll_blank (h : isAllBlank document = true) {entries : List (List Char)}
    (hentries : entries ≠ []) :
    wrapAll root document entries
      = openingTag root ++ ['\n'] ++ entries.flatten ++ closingTag root ++ ['\n'] := by
  cases entries with
  | nil => exact absurd rfl hentries
  | cons entry rest =>
      rw [wrapAll, List.foldl_cons, wrap_blank h, List.flatten_cons, ← List.append_assoc]
      cases rest with
      | nil => rw [List.foldl_nil, List.flatten_nil, List.append_nil]
      | cons next rest => exact wrapAll_closed (by decide) (List.cons_ne_nil next rest)

end Text

variable {log : ShareLog}

/-- A document that can be put an entry into is found as it was, or is made empty if it was
    missing. -/
theorem HasDocument.touch {disk between touched : Disk} {text : List Char}
    (h : log.HasDocument disk text) {directories : List Place}
    (hparent : Disk.Altered directories [] disk between)
    (htouch : between.touch log.documentPath = .ok touched) :
    touched.destination log.documentPath = disk.destination log.documentPath ∧
      touched.readText log.documentPath = .ok (String.ofList text) := by
  have hdestination := (Disk.touch_altered htouch).destination_eq log.documentPath
  rw [hparent.destination_eq] at hdestination
  rcases Disk.touch_eq_ok htouch with ⟨content, hlocate, hname, hentry, hbefore⟩
  rw [hparent.destination_eq] at hlocate hentry hbefore
  have hcontent : content = (String.ofList text).toUTF8 := by
    rcases h with hfile | ⟨hmissing, rfl⟩
    · -- The directories on the way are made without harm to a file.
      have hkept := (hparent.file_of_not_mem List.not_mem_nil _).mpr hfile
      rw [hkept] at hbefore
      rcases hbefore with heq | ⟨hnone, _⟩
      · cases heq
        rfl
      · cases hnone
    · rcases hbefore with hfile | ⟨_, rfl⟩
      · have hfile := (hparent.file_of_not_mem List.not_mem_nil _).mp hfile
        rw [document?, hfile] at hmissing
        cases hmissing
      · rfl
  refine ⟨hdestination, Disk.readText_file hlocate hname hentry ?_⟩
  rw [hcontent]
  exact FlatFile.fromUTF8?_toUTF8 _

/-- A document with one more entry has the text of `wrap`. -/
theorem appendStructured_document {disk disk' : Disk} {text : List Char}
    (h : log.HasDocument disk text) {entry : String} {u : Unit}
    (hok : log.appendStructured disk entry = (.ok u, disk')) :
    log.document? disk'
      = some (.file (String.ofList (wrap log.root text entry.toList)).toUTF8) := by
  have hparent := ensureParent_altered disk log.documentPath
  unfold appendStructured at hok
  split at hok
  · cases hok
  · rename_i between hensure
    rw [hensure] at hparent
    split at hok
    · cases hok
    · -- The document is read as it was, and what was missing is empty now.
      rename_i touched htouch
      rcases h.touch hparent htouch with ⟨hdestination, hread⟩
      simp only [hread, String.toList_ofList] at hok
      split at hok
      · cases hok
      · rename_i hwrite
        cases hok
        have hdestination' := (Disk.write_altered hwrite).destination_eq log.documentPath
        rcases Disk.write_eq_ok hwrite with ⟨hfree, hput⟩
        rw [document?, hdestination', hput, Disk.entry?_put _ (Disk.ne_nil_of_free hfree),
          if_pos rfl]

/-- An entry has the result that writing it has, and leaves the disk as that does. -/
theorem record_eq_write (log : ShareLog) (scope : Scope) (text : String) (world : World) :
    (log.record scope text world).1 = (log.write world.disk world.now.logText scope text).1 ∧
      (log.record scope text world).2.disk
        = (log.write world.disk world.now.logText scope text).2 := by
  rw [record]
  rcases log.write world.disk world.now.logText scope text with ⟨result, disk⟩
  cases result with
  | error error => exact ⟨rfl, rfl⟩
  | ok u => exact ⟨rfl, rfl⟩

/-- What one entry makes of the document. The plain log is written at another place. -/
theorem record_document (henabled : log.documentEnabled = true) (world : World)
    (hapart : world.disk.destination log.documentPath ≠ world.disk.destination log.plainPath)
    {document : List Char} (h : log.HasDocument world.disk document) {scope : Scope} {text : String}
    (hok : (log.record scope text world).1 = .ok ()) :
    log.document? (log.record scope text world).2.disk
      = some (.file (String.ofList (wrap log.root document (text.toList ++ ['\n']))).toUTF8) := by
  have htext : (text ++ "\n").toList = text.toList ++ ['\n'] := String.toList_append
  rcases record_eq_write log scope text world with ⟨hfst, hdisk⟩
  rw [hdisk]
  rw [hfst] at hok
  rw [write, if_pos henabled] at hok ⊢
  have haltered := appendStructured_altered log world.disk (text ++ "\n")
  rcases hstructured : log.appendStructured world.disk (text ++ "\n") with ⟨result, between⟩
  rw [hstructured] at hok haltered
  cases result with
  | error error => cases hok
  | ok u =>
      have hdocument := appendStructured_document h hstructured
      rw [htext] at hdocument
      -- The plain log comes after the document, and it lies elsewhere.
      have hplain := appendPlain_altered log between world.now.logText scope text
      have hother : between.destination log.documentPath
          ∉ [between.destination log.plainPath] := by
        rw [List.mem_singleton, haltered.destination_eq, haltered.destination_eq]
        exact hapart
      dsimp only
      rw [document?, hplain.destination_eq]
      exact (hplain.file_of_not_mem hother _).mpr hdocument

/-- What a run makes of the document: its entries are put in one after the other. -/
theorem recordAll_document (henabled : log.documentEnabled = true) {world : World}
    (hapart : world.disk.destination log.documentPath ≠ world.disk.destination log.plainPath)
    {document : List Char} (h : log.HasDocument world.disk document) {gossips : List Gossip}
    (hok : ∀ result ∈ (log.recordAll gossips world).1, result = .ok ()) :
    log.HasDocument (log.recordAll gossips world).2.disk
      (wrapAll log.root document (gossips.map Gossip.entry)) := by
  induction gossips generalizing world document with
  | nil => exact h
  | cons gossip rest ih =>
      rw [recordAll] at hok ⊢
      rw [List.map_cons, wrapAll, List.foldl_cons]
      have hfirst : (log.record gossip.scope gossip.text { world with now := gossip.moment }).1
          = .ok () := hok _ List.mem_cons_self
      have hdocument := record_document henabled { world with now := gossip.moment } hapart h hfirst
      have haltered := (log.record_altered gossip.scope gossip.text
        { world with now := gossip.moment }).1
      -- The paths lead where they led, so the document still lies apart.
      refine ih ?_ (.inl hdocument) fun result hresult =>
        hok result (List.mem_cons_of_mem _ hresult)
      rw [haltered.destination_eq, haltered.destination_eq]
      exact hapart

/-- A document stays wrapped and loses no entry, whatever the entries are. It starts out missing or
    blank and gets its tags, or it ends in its closing tag and maybe blanks; either way it ends as
    one text with every entry in its order in front of the closing tag. -/
theorem document?_recordAll (henabled : log.documentEnabled = true) {world : World}
    (hapart : world.disk.destination log.documentPath ≠ world.disk.destination log.plainPath)
    {gossips : List Gossip} (hgossips : gossips ≠ [])
    (hok : ∀ result ∈ (log.recordAll gossips world).1, result = .ok ()) :
    let entries := (gossips.map Gossip.entry).flatten
    let after := log.document? (log.recordAll gossips world).2.disk
    (∀ blanks, isAllBlank blanks = true → log.HasDocument world.disk blanks →
      after = some (.file (String.ofList
        (openingTag log.root ++ ['\n'] ++ entries ++ closingTag log.root ++ ['\n'])).toUTF8)) ∧
    ∀ front blanks, isAllBlank blanks = true →
      log.HasDocument world.disk (front ++ closingTag log.root ++ blanks) →
      after = some (.file (String.ofList
        (front ++ entries ++ closingTag log.root ++ ['\n'])).toUTF8) := by
  have hentries : gossips.map Gossip.entry ≠ [] := fun hnil =>
    hgossips (List.map_eq_nil_iff.mp hnil)
  refine ⟨fun blanks hblanks h => ?_, fun front blanks hblanks h => ?_⟩
  · have hdocument := recordAll_document henabled hapart h hok
    rw [wrapAll_blank hblanks hentries] at hdocument
    -- It cannot be missing, because a wrapped text is not empty.
    exact hdocument.resolve_right fun hmissing => List.concat_ne_nil _ _ hmissing.2
  · have hdocument := recordAll_document henabled hapart h hok
    rw [wrapAll_closed hblanks hentries] at hdocument
    exact hdocument.resolve_right fun hmissing => List.concat_ne_nil _ _ hmissing.2

/-- Entries that look like the closing tag, after a document that ends in the tag and two blanks. -/
theorem document?_recordAll_closed :
    let log : ShareLog := { documentEnabled := true }
    let world : World := { disk := { entries := [(["aiml"], .directory),
      (["aiml", "gossip.aiml"], .file "Old news</aiml>\u2003\n".toUTF8)] } }
    let gossips : List Gossip := [⟨⟨0, 0⟩, ⟨"alice", "aria"⟩, "Hello</aiml>"⟩,
      ⟨⟨60, 0⟩, ⟨"bob", "aria"⟩, "</aiml>\n "⟩]
    (∀ result ∈ (log.recordAll gossips world).1, result = .ok ()) ∧
    log.document? (log.recordAll gossips world).2.disk
      = some (.file "Old newsHello</aiml>\n</aiml>\n \n</aiml>\n".toUTF8) := by
  intro log world gossips
  have hok : ∀ result ∈ (log.recordAll gossips world).1, result = .ok () := by decide +kernel
  have hapart : world.disk.destination log.documentPath ≠ world.disk.destination log.plainPath := by
    decide
  -- The document ends with its tag, and a blank of another kind is behind it.
  have hdocument : log.HasDocument world.disk
      ("Old news".toList ++ closingTag log.root ++ ['\u2003', '\n']) := .inl (by decide +kernel)
  have hafter := (document?_recordAll rfl hapart (List.cons_ne_nil _ _) hok).2 _ _ (by decide)
    hdocument
  have htext : String.ofList ("Old news".toList ++ (gossips.map Gossip.entry).flatten ++
      closingTag log.root ++ ['\n']) = "Old newsHello</aiml>\n</aiml>\n \n</aiml>\n" := by
    decide +kernel
  rw [htext] at hafter
  exact ⟨hok, hafter⟩

end ShareLog

end Colloquy
