import Colloquy.Proofs.Disk.Content
import Colloquy.Proofs.ShareLog.Document

/-!
# Gossip That Fails Half-Way

An entry goes into the document first and into the plain log after that, and either step can fail
for what stands in the way. So an entry comes to one of three ends: it is refused by the document,
it is in the document alone, or it is in both files. There is no fourth end, because nothing can
fail any more once a file could be opened and read, and because the plain log is not touched before
the document is done.

What a failed step leaves behind is found by asking where it can fail. The document is made before
it is read, but a document that was just made is empty and can be read; so a document that cannot be
read was there before, and is still as it was. All else that a failed step has done is to make
directories, which takes no file away.

A file that is missing and a place where a directory stands hold the same here, which is nothing.
That is the right view of a log: what it holds are its entries, and neither has any. It also spares
a case, for the directory on the way to one file may be made where the other one belongs.

Obstacles come and go while a program runs, and only then does a run have calls of all three kinds.
So a run lets others at the disk between its calls, as long as they leave the two files alone.

## Main definitions

* `ShareLog.Progress`, `ShareLog.progress`: How far an entry comes.
* `ShareLog.Effect`: What an entry does to the two files, by how far it comes.
* `ShareLog.Turn`, `ShareLog.calls`: A run of calls, with what others do between them.

## Theorems

* `appendStructured_cases`, `appendPlain_cases`: Either step fails and spares all files, or it
  succeeds.
* `attempt_effect`: What one call does.
* `calls_effect`: What a run of calls does.
* `failed_gossip_is_not_logged`: The plain log holds what succeeded, and the document what came
  to it.
-/

namespace Colloquy

/-- The line that gossip makes in a plain log. -/
def Gossip.line (gossip : Gossip) : String :=
  ShareLog.plainLine gossip.moment.logText gossip.scope gossip.text

namespace ShareLog

/-- How far an entry comes. -/
inductive Progress where
  | refused
  | documented
  | logged
  deriving DecidableEq

/-- How far an entry comes: refused by the document, as far as the document, or into both files. -/
def progress (log : ShareLog) (disk : Disk) (gossip : Gossip) : Progress :=
  match log.appendStructured disk (gossip.text ++ "\n") with
  | (.error _, _) => .refused
  | (.ok (), between) =>
    match log.appendPlain between gossip.moment.logText gossip.scope gossip.text with
    | (.error _, _) => .documented
    | (.ok (), _) => .logged

/-- What the document holds. -/
def documented? (log : ShareLog) (disk : Disk) : Option ByteArray :=
  disk.contentAt? (disk.destination log.documentPath)

/-- What the plain log holds. -/
def plain? (log : ShareLog) (disk : Disk) : Option ByteArray :=
  disk.contentAt? (disk.destination log.plainPath)

/-- The document was one text before and is that text with one more entry after. -/
def Enters (log : ShareLog) (gossip : Gossip) (disk disk' : Disk) : Prop :=
  ∃ document, log.HasDocument disk document ∧
    log.documented? disk'
      = some (String.ofList (wrap log.root document gossip.entry)).toUTF8

/-- What an entry does to the two files, by how far it comes. -/
def Effect (log : ShareLog) (gossip : Gossip) (disk disk' : Disk) : Progress → Prop
  | .refused => log.documented? disk' = log.documented? disk ∧ log.plain? disk' = log.plain? disk
  | .documented => log.Enters gossip disk disk' ∧ log.plain? disk' = log.plain? disk
  | .logged => log.Enters gossip disk disk' ∧
      log.plain? disk' = some ((log.plain? disk).getD .empty ++ gossip.line.toUTF8)

/-- A call to come: what others do to the disk before it, if anything, and what is to be
    recorded. -/
structure Turn where
  meddle : Disk → Disk := id
  gossip : Gossip

/-- A call that was made: what was to be recorded, how far it came, and what was answered. -/
structure Call where
  gossip : Gossip
  progress : Progress
  result : Except ShareLogError Unit

/-- Gossip recorded at its time. -/
def attempt (log : ShareLog) (gossip : Gossip) (world : World) :
    Except ShareLogError Unit × World :=
  log.record gossip.scope gossip.text { world with now := gossip.moment }

/-- An attempt has the result that writing has, and leaves the disk as that does. -/
theorem attempt_eq_write (log : ShareLog) (gossip : Gossip) (world : World) :
    (log.attempt gossip world).1
        = (log.write world.disk gossip.moment.logText gossip.scope gossip.text).1 ∧
      (log.attempt gossip world).2.disk
        = (log.write world.disk gossip.moment.logText gossip.scope gossip.text).2 :=
  record_eq_write log gossip.scope gossip.text { world with now := gossip.moment }

/-- Where paths lead does not depend on what was recorded. -/
theorem destination_attempt (log : ShareLog) (gossip : Gossip) (world : World) (path : String) :
    (log.attempt gossip world).2.disk.destination path = world.disk.destination path :=
  (log.record_altered gossip.scope gossip.text
    { world with now := gossip.moment }).1.destination_eq path

/-- What a call finds. -/
def Turn.before (turn : Turn) (world : World) : World :=
  { world with disk := turn.meddle world.disk }

/-- Calls made one after the other, whether those before them failed or not. -/
def calls (log : ShareLog) : List Turn → World → List Call × World
  | [], world => ([], world)
  | turn :: rest, world =>
    let before := turn.before world
    let (result, between) := log.attempt turn.gossip before
    let (calls, after) := log.calls rest between
    (⟨turn.gossip, log.progress before.disk turn.gossip, result⟩ :: calls, after)

theorem calls_cons (log : ShareLog) (turn : Turn) (rest : List Turn) (world : World) :
    let call := log.attempt turn.gossip (turn.before world)
    log.calls (turn :: rest) world
      = (⟨turn.gossip, log.progress (turn.before world).disk turn.gossip, call.1⟩ ::
          (log.calls rest call.2).1, (log.calls rest call.2).2) :=
  rfl

/-- Others may do what they like to the disk, but leave the two files of a log as they are. -/
structure Spares (log : ShareLog) (meddle : Disk → Disk) : Prop where
  here : ∀ disk, (meddle disk).here = disk.here
  documented? : ∀ disk, log.documented? (meddle disk) = log.documented? disk
  plain? : ∀ disk, log.plain? (meddle disk) = log.plain? disk

variable {log : ShareLog} {disk disk' : Disk} {gossip : Gossip}

/-- The text that is read when an entry is put into a document is the text that the document had. -/
theorem hasDocument_of_readText {directories : List Place} {between touched : Disk}
    {document : String} (hparent : Disk.Altered directories [] disk between)
    (htouch : between.touch log.documentPath = .ok touched)
    (hread : touched.readText log.documentPath = .ok document) :
    log.HasDocument disk document.toList := by
  have hcontent := Disk.contentAt?_of_readText hread
  rw [(Disk.touch_altered htouch).destination_eq, Disk.contentAt?_eq_some_iff] at hcontent
  rcases Disk.touch_eq_ok htouch with ⟨content, _, _, hentry, hbefore⟩
  rw [hentry, Option.some.injEq, Entry.file.injEq] at hcontent
  rw [HasDocument, document?, String.ofList_toList]
  rw [hparent.destination_eq] at hbefore
  rcases hbefore with hfile | ⟨hmissing, hempty⟩
  · left
    rw [(hparent.file_of_not_mem List.not_mem_nil _).mp hfile, hcontent]
  · right
    -- Nothing was read from it, so what was read is the empty text.
    have hnothing : document.toUTF8 = "".toUTF8 := hcontent.symm.trans hempty
    rw [String.toByteArray_inj.mp hnothing]
    exact ⟨hparent.missing hmissing, rfl⟩

/-- A document that cannot be put an entry into stays as it was, as do all other files; or it was
    one text and has one more entry. -/
theorem appendStructured_cases (log : ShareLog) (disk : Disk) (entry : String) :
    (∃ error disk', log.appendStructured disk entry = (.error error, disk') ∧
      Disk.Altered (parentWay disk log.documentPath) [] disk disk') ∨
    ∃ document disk', log.appendStructured disk entry = (.ok (), disk') ∧
      log.HasDocument disk document ∧
      log.documented? disk'
        = some (String.ofList (wrap log.root document entry.toList)).toUTF8 := by
  have hparent := ensureParent_altered disk log.documentPath
  rcases hensure : ensureParent disk log.documentPath with ⟨result, between⟩
  rw [hensure] at hparent
  cases result with
  | error error => exact .inl ⟨error, between, by simp only [appendStructured, hensure], hparent⟩
  | ok u =>
      rcases htouch : between.touch log.documentPath with fault | touched
      · exact .inl ⟨⟨log.documentPath, fault⟩, between,
          by simp only [appendStructured, hensure, htouch], hparent⟩
      rcases hread : touched.readText log.documentPath with fault | document
      · -- A document that was just made could be read, so this one has been there.
        have hsame : touched = between :=
          (Disk.touch_cases htouch).resolve_right fun hempty => by
            rw [hread] at hempty
            cases hempty
        rw [← hsame] at hparent
        exact .inl ⟨⟨log.documentPath, fault⟩, touched,
          by simp only [appendStructured, hensure, htouch, hread], hparent⟩
      · rcases Disk.exists_write_of_touch htouch
          (String.ofList (wrap log.root document.toList entry.toList)).toUTF8 with
          ⟨written, hwrite⟩
        have happend : log.appendStructured disk entry = (.ok (), written) := by
          simp only [appendStructured, hensure, htouch, hread, hwrite]
        have hdocument := hasDocument_of_readText hparent htouch hread
        have hentry := appendStructured_document hdocument happend
        exact .inr ⟨document.toList, written, happend, hdocument,
          Disk.contentAt?_eq_some_iff.mpr hentry⟩

/-- A plain log that cannot be appended to stays as it was, as do all other files; or it has one
    more line. -/
theorem appendPlain_cases (log : ShareLog) (disk : Disk) (gossip : Gossip) :
    (∃ error disk',
      log.appendPlain disk gossip.moment.logText gossip.scope gossip.text = (.error error, disk') ∧
      Disk.Altered (parentWay disk log.plainPath) [] disk disk') ∨
    ∃ disk', log.appendPlain disk gossip.moment.logText gossip.scope gossip.text = (.ok (), disk') ∧
      log.plain? disk' = some ((log.plain? disk).getD .empty ++ gossip.line.toUTF8) := by
  have hparent := ensureParent_altered disk log.plainPath
  rcases hensure : ensureParent disk log.plainPath with ⟨result, between⟩
  rw [hensure] at hparent
  cases result with
  | error error => exact .inl ⟨error, between, by simp only [appendPlain, hensure], hparent⟩
  | ok u =>
      rcases happend : between.append log.plainPath gossip.line.toUTF8 with fault | written
      · refine .inl ⟨⟨log.plainPath, fault⟩, between, ?_, hparent⟩
        rw [Gossip.line] at happend
        simp only [appendPlain, hensure, happend]
      · -- What the file held was not changed by making its directory.
        have hcontent := Disk.append_contentAt? happend
        rw [hparent.contentAt?_destination List.not_mem_nil,
          ← (Disk.append_altered happend).destination_eq] at hcontent
        refine .inr ⟨written, ?_, hcontent⟩
        rw [Gossip.line] at happend
        simp only [appendPlain, hensure, happend]

/-- What an entry does, by how far it comes: it is answered with success if it comes to the plain
    log, and otherwise it leaves behind what its steps before the failed one have done. -/
theorem attempt_effect (henabled : log.documentEnabled = true) (world : World)
    (hapart : world.disk.destination log.documentPath ≠ world.disk.destination log.plainPath)
    (gossip : Gossip) :
    let call := log.attempt gossip world
    let progress := log.progress world.disk gossip
    (call.1 = .ok () ↔ progress = .logged) ∧ log.Effect gossip world.disk call.2.disk progress := by
  rcases attempt_eq_write log gossip world with ⟨hresult, hdisk⟩
  have htext : (gossip.text ++ "\n").toList = gossip.entry := String.toList_append
  dsimp only
  rw [hresult, hdisk, write, if_pos henabled]
  rcases appendStructured_cases log world.disk (gossip.text ++ "\n") with
    ⟨error, after, hstructured, hspared⟩ | ⟨document, between, hstructured, hbefore, hentered⟩
  · have hprogress : log.progress world.disk gossip = .refused := by
      simp only [progress, hstructured]
    rw [hstructured, hprogress]
    refine ⟨by simp only [reduceCtorEq], ?_, ?_⟩
    · exact hspared.contentAt?_destination List.not_mem_nil
    · exact hspared.contentAt?_destination List.not_mem_nil
  · have haltered := appendStructured_altered log world.disk (gossip.text ++ "\n")
    rw [hstructured] at haltered
    rw [htext] at hentered
    -- The plain log is another file, so the first step leaves it as it was.
    have hplain : log.plain? between = log.plain? world.disk :=
      haltered.contentAt?_destination fun hmem => hapart.symm (List.mem_singleton.mp hmem)
    rw [hstructured]
    dsimp only
    rcases appendPlain_cases log between gossip with
      ⟨error, after, hlast, hspared⟩ | ⟨after, hlast, hline⟩
    · have hprogress : log.progress world.disk gossip = .documented := by
        simp only [progress, hstructured, hlast]
      rw [hlast, hprogress]
      refine ⟨by simp only [reduceCtorEq], ⟨document, hbefore, ?_⟩, ?_⟩
      · exact (hspared.contentAt?_destination List.not_mem_nil).trans hentered
      · exact (hspared.contentAt?_destination List.not_mem_nil).trans hplain
    · have hprogress : log.progress world.disk gossip = .logged := by
        simp only [progress, hstructured, hlast]
      have hother := appendPlain_altered log between gossip.moment.logText gossip.scope gossip.text
      rw [hlast, haltered.destination_eq] at hother
      rw [hlast, hprogress]
      refine ⟨iff_of_true rfl rfl, ⟨document, hbefore, ?_⟩, hplain ▸ hline⟩
      -- The second step writes to the plain log alone.
      refine (hother.contentAt?_destination fun hmem => hapart ?_).trans hentered
      rw [← haltered.destination_eq, List.mem_singleton.mp hmem]

/-- A line is never empty, so a plain log with one more line is not the one without it. -/
theorem plain?_ne_grown (content : Option ByteArray) (gossip : Gossip) :
    content ≠ some (content.getD .empty ++ gossip.line.toUTF8) := by
  intro h
  cases content with
  | none => cases h
  | some content =>
      have hsize := congrArg ByteArray.size (Option.some.inj h)
      rw [Option.getD_some, ByteArray.size_append] at hsize
      -- A line has a line feed at least.
      have hline : gossip.line.toUTF8.size ≠ 0 := by
        rw [Gossip.line, plainLine, String.toUTF8_eq_toByteArray, String.toByteArray_append,
          ByteArray.size_append]
        have hfeed : "\n".toByteArray.size = 1 := rfl
        omega
      omega

/-- Somebody who clears another place leaves the two files as they are. -/
theorem spares_clear {place : Place}
    (hdocument : ∀ disk : Disk, disk.destination log.documentPath ≠ place)
    (hplain : ∀ disk : Disk, disk.destination log.plainPath ≠ place) : log.Spares (·.clear place) :=
  ⟨fun _ => rfl, fun disk => Disk.contentAt?_clear (hdocument disk),
    fun disk => Disk.contentAt?_clear (hplain disk)⟩

theorem Spares.destination_eq {meddle : Disk → Disk} (h : log.Spares meddle) (disk : Disk)
    (path : String) : (meddle disk).destination path = disk.destination path := by
  rw [Disk.destination, Disk.destination, Disk.start, Disk.start, h.here]

/-- The lines that calls have put into the plain log. -/
def lines (calls : List Call) : List String :=
  (calls.filter (·.progress = .logged)).map (·.gossip.line)

/-- The entries that calls have put into the document. -/
def entries (calls : List Call) : List (List Char) :=
  (calls.filter (·.progress ≠ .refused)).map (·.gossip.entry)

theorem join_lines_cons (call : Call) (calls : List Call) :
    String.join (lines (call :: calls))
      = (if call.progress = .logged then call.gossip.line else "")
        ++ String.join (lines calls) := by
  rw [lines, List.filter_cons, lines]
  by_cases hlogged : call.progress = .logged
  · rw [if_pos (decide_eq_true hlogged), if_pos hlogged, List.map_cons, String.join_cons]
  · rw [decide_eq_false hlogged, if_neg Bool.false_ne_true, if_neg hlogged, String.empty_append]

theorem wrapAll_entries_cons (root : String) (document : List Char) (call : Call)
    (calls : List Call) :
    wrapAll root document (entries (call :: calls))
      = wrapAll root
          (if call.progress = .refused then document else wrap root document call.gossip.entry)
          (entries calls) := by
  rw [entries, List.filter_cons, entries]
  by_cases hrefused : call.progress = .refused
  · rw [decide_eq_false (not_not_intro hrefused), if_neg Bool.false_ne_true, if_pos hrefused]
  · rw [if_pos (decide_eq_true hrefused), if_neg hrefused, List.map_cons]
    rfl

/-- A document has this text. One that is missing has none. -/
def IsWritten (log : ShareLog) (disk : Disk) (document : List Char) : Prop :=
  (log.documented? disk).getD .empty = (String.ofList document).toUTF8

theorem HasDocument.isWritten {document : List Char} (h : log.HasDocument disk document) :
    log.IsWritten disk document := by
  rcases h with hfile | ⟨hmissing, rfl⟩
  · rw [IsWritten, documented?, Disk.contentAt?_eq_some_iff.mpr hfile, Option.getD_some]
  · rw [IsWritten, documented?, Disk.contentAt?_of_missing hmissing]
    rfl

theorem IsWritten.eq {document other : List Char} (h : log.IsWritten disk document)
    (hother : log.IsWritten disk other) : document = other :=
  String.ofList_injective (String.toByteArray_inj.mp (h.symm.trans hother))

/-- What the two files hold after one call, given what they held before. -/
theorem Effect.contents {progress : Progress} (h : log.Effect gossip disk disk' progress) :
    (log.plain? disk').getD .empty = (log.plain? disk).getD .empty ++
        (if progress = .logged then gossip.line else "").toUTF8 ∧
      ∀ document, log.IsWritten disk document → log.IsWritten disk'
        (if progress = .refused then document else wrap log.root document gossip.entry) := by
  -- What is entered is entered into the document that there was.
  have henters (h : log.Enters gossip disk disk') (document : List Char)
      (hdocument : log.IsWritten disk document) :
      log.IsWritten disk' (wrap log.root document gossip.entry) := by
    rcases h with ⟨other, hother, hentered⟩
    rw [hdocument.eq hother.isWritten, IsWritten, hentered, Option.getD_some]
  cases progress with
  | refused =>
      rcases h with ⟨hdocument, hplain⟩
      refine ⟨?_, fun document h => ?_⟩
      · rw [hplain]
        exact ByteArray.append_empty.symm
      · rw [if_pos rfl, IsWritten, hdocument]
        exact h
  | documented =>
      rcases h with ⟨hdocument, hplain⟩
      refine ⟨?_, fun document h => ?_⟩
      · rw [hplain]
        exact ByteArray.append_empty.symm
      · exact henters hdocument document h
  | logged =>
      rcases h with ⟨hdocument, hplain⟩
      refine ⟨?_, fun document h => ?_⟩
      · rw [hplain, Option.getD_some, if_pos rfl]
      · exact henters hdocument document h

/-- What a run does: the calls that came to the plain log are those that succeeded, and each file
    holds what came to it, behind what it held before. -/
theorem calls_effect (henabled : log.documentEnabled = true) {world : World}
    (hapart : world.disk.destination log.documentPath ≠ world.disk.destination log.plainPath)
    {turns : List Turn} (hspares : ∀ turn ∈ turns, log.Spares turn.meddle) :
    let calls := (log.calls turns world).1
    let after := (log.calls turns world).2
    (∀ call ∈ calls, call.result = .ok () ↔ call.progress = .logged) ∧
    (log.plain? after.disk).getD .empty
      = (log.plain? world.disk).getD .empty ++ (String.join (lines calls)).toUTF8 ∧
    ∀ document, log.IsWritten world.disk document →
      log.IsWritten after.disk (wrapAll log.root document (entries calls)) := by
  induction turns generalizing world with
  | nil => exact ⟨nofun, ByteArray.append_empty.symm, fun _ h => h⟩
  | cons turn rest ih =>
      have hturn := hspares turn List.mem_cons_self
      have hapart' : (turn.meddle world.disk).destination log.documentPath
          ≠ (turn.meddle world.disk).destination log.plainPath := by
        rw [hturn.destination_eq, hturn.destination_eq]
        exact hapart
      rcases attempt_effect henabled (turn.before world) hapart' turn.gossip with
        ⟨hresult, heffect⟩
      have hsame := destination_attempt log turn.gossip (turn.before world)
      rw [calls_cons]
      generalize log.attempt turn.gossip (turn.before world) = call at hresult heffect hsame ⊢
      -- A call moves neither file, so the next one finds them apart again.
      have hapart'' : call.2.disk.destination log.documentPath
          ≠ call.2.disk.destination log.plainPath := by
        rw [hsame, hsame]
        exact hapart'
      rcases heffect.contents with ⟨hplain, hdocument⟩
      rcases ih hapart'' fun other hother => hspares other (List.mem_cons_of_mem _ hother) with
        ⟨hresults, hlines, hentries⟩
      refine ⟨List.forall_mem_cons.mpr ⟨hresult, hresults⟩, ?_, fun document h => ?_⟩
      · rw [Turn.before, hturn.plain?] at hplain
        rw [hlines, hplain, join_lines_cons, ByteArray.append_assoc, String.toUTF8_eq_toByteArray,
          String.toUTF8_eq_toByteArray, String.toUTF8_eq_toByteArray, ← String.toByteArray_append]
        rfl
      · rw [wrapAll_entries_cons]
        refine hentries _ (hdocument document ?_)
        rw [IsWritten, Turn.before, hturn.documented?]
        exact h

/-- Gossip that fails never reaches the plain log, and what the two files hold fits together. One
    call succeeds if and only if its line is the one thing new in the plain log; if the document
    refuses it, both files stay as they were, and if only the plain log does, the entry stays in the
    document. So at the end of a run the plain log has the lines of the calls that succeeded, and a
    document that was missing, blank or wrapped has the entries of these and of the calls that
    failed at the plain log, both in the order of the calls. -/
theorem failed_gossip_is_not_logged (henabled : log.documentEnabled = true) {world : World}
    (hapart : world.disk.destination log.documentPath ≠ world.disk.destination log.plainPath) :
    (∀ gossip : Gossip,
      let call := log.attempt gossip world
      let progress := log.progress world.disk gossip
      (call.1 = .ok () ↔
        log.plain? call.2.disk = some ((log.plain? world.disk).getD .empty ++ gossip.line.toUTF8)) ∧
      (call.1 = .ok () ↔ progress = .logged) ∧
      log.Effect gossip world.disk call.2.disk progress) ∧
    ∀ turns : List Turn, (∀ turn ∈ turns, log.Spares turn.meddle) →
      let calls := (log.calls turns world).1
      let after := (log.calls turns world).2
      (∀ call ∈ calls, call.result = .ok () ↔ call.progress = .logged) ∧
      (log.plain? after.disk).getD .empty
        = (log.plain? world.disk).getD .empty ++ (String.join (lines calls)).toUTF8 ∧
      (∀ blanks, isAllBlank blanks = true → log.IsWritten world.disk blanks →
        log.IsWritten after.disk (if entries calls = [] then blanks else
          openingTag log.root ++ ['\n'] ++ (entries calls).flatten ++ closingTag log.root ++
            ['\n'])) ∧
      ∀ front blanks, isAllBlank blanks = true →
        log.IsWritten world.disk (front ++ closingTag log.root ++ blanks) →
        log.IsWritten after.disk (front ++ (entries calls).flatten ++ closingTag log.root ++
          (if entries calls = [] then blanks else ['\n'])) := by
  refine ⟨fun gossip => ?_, fun turns hspares => ?_⟩
  · rcases attempt_effect henabled world hapart gossip with ⟨hresult, heffect⟩
    refine ⟨hresult.trans ⟨fun hlogged => ?_, fun hgrown => ?_⟩, hresult, heffect⟩
    · rw [hlogged] at heffect
      exact heffect.2
    · -- An entry that did not come to the plain log has left it as it was.
      cases hprogress : log.progress world.disk gossip with
      | logged => rfl
      | refused | documented =>
          rw [hprogress] at heffect
          exact absurd (heffect.2.symm.trans hgrown) (plain?_ne_grown _ gossip)
  · rcases calls_effect henabled hapart hspares with ⟨hresults, hlines, hdocument⟩
    refine ⟨hresults, hlines, fun blanks hblanks h => ?_, fun front blanks hblanks h => ?_⟩
    · -- Calls that entered nothing leave the blanks, and the first entry puts the tags around
      -- itself.
      have hafter := hdocument blanks h
      split
      · rename_i hnone
        rw [hnone] at hafter
        exact hafter
      · rename_i hsome
        rw [wrapAll_blank hblanks hsome] at hafter
        exact hafter
    · have hafter := hdocument _ h
      split
      · rename_i hnone
        rw [hnone] at hafter ⊢
        rw [List.flatten_nil, List.append_nil]
        exact hafter
      · rename_i hsome
        rw [wrapAll_closed hblanks hsome] at hafter
        exact hafter

/-- Three calls that come to three different ends: files stand where the directories of the document
    and of the plain log belong, and others take first the one and then the other away. -/
theorem failed_gossip_is_not_logged_obstacles :
    let log : ShareLog :=
      { documentEnabled := true, documentPath := "/aiml/gossip.aiml"
        plainPath := "/logs/gossip.log" }
    let world : World :=
      { disk := { entries := [(["aiml"], .file .empty), (["logs"], .file .empty)] } }
    let turns : List Turn := [
      { gossip := ⟨⟨0, 0⟩, ⟨"alice", "aria"⟩, "one"⟩ },
      { meddle := (·.clear ["aiml"]), gossip := ⟨⟨60, 0⟩, ⟨"bob", "aria"⟩, "two"⟩ },
      { meddle := (·.clear ["logs"]), gossip := ⟨⟨120, 0⟩, ⟨"alice", "aria"⟩, "three"⟩ }]
    let calls := (log.calls turns world).1
    let after := (log.calls turns world).2
    calls.map (·.progress) = [.refused, .documented, .logged] ∧
    (∀ turn ∈ turns, log.Spares turn.meddle) ∧
    (log.plain? after.disk).getD .empty
      = "1970-01-01T00:02:00+00:00 [aria/alice] three\n".toUTF8 ∧
    log.IsWritten after.disk "<aiml>\ntwo\nthree\n</aiml>\n".toList := by
  intro log world turns calls after
  have hspares : ∀ turn ∈ turns, log.Spares turn.meddle := by
    have hclear {place : Place} (hone : place.length = 1) : log.Spares (·.clear place) := by
      -- A path of two names leads to no place of one.
      have hapart {path name other : String} (habsolute : Path.isAbsolute path = true)
          (hsteps : Path.steps path = [.down name, .down other]) (disk : Disk) :
          disk.destination path ≠ place := by
        intro h
        rw [Disk.destination, Disk.start, if_pos habsolute, hsteps] at h
        rw [← h] at hone
        cases hone
      exact spares_clear
        (@hapart log.documentPath "aiml" "gossip.aiml" (by decide +kernel) (by decide +kernel))
        (@hapart log.plainPath "logs" "gossip.log" (by decide +kernel) (by decide +kernel))
    refine List.forall_mem_cons.mpr ⟨⟨fun _ => rfl, fun _ => rfl, fun _ => rfl⟩, ?_⟩
    exact List.forall_mem_cons.mpr ⟨hclear rfl, List.forall_mem_singleton.mpr (hclear rfl)⟩
  have hapart : world.disk.destination log.documentPath ≠ world.disk.destination log.plainPath := by
    decide
  rcases (failed_gossip_is_not_logged rfl hapart).2 turns hspares with ⟨_, hplain, hblank, _⟩
  have hlines : String.join (lines calls) = "1970-01-01T00:02:00+00:00 [aria/alice] three\n" := by
    decide +kernel
  have htext : (if entries calls = [] then [] else openingTag log.root ++ ['\n'] ++
      (entries calls).flatten ++ closingTag log.root ++ ['\n'])
        = "<aiml>\ntwo\nthree\n</aiml>\n".toList := by
    decide +kernel
  have hbefore : (log.plain? world.disk).getD .empty = .empty := by decide +kernel
  have hmissing : (log.documented? world.disk).getD .empty = (String.ofList []).toUTF8 := by
    decide +kernel
  refine ⟨by decide +kernel, hspares, ?_, ?_⟩
  · rw [hplain, hlines, hbefore, ByteArray.empty_append]
  · rw [← htext]
    exact hblank [] rfl hmissing

end ShareLog

end Colloquy
