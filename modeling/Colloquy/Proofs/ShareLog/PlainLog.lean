import Colloquy.Proofs.Moment.OneLine
import Colloquy.Proofs.ShareLog.Foreign
import Colloquy.Proofs.ShareLog.Progress
import Colloquy.Proofs.Text.Split

/-!
# The Lines of the Plain Log

What the plain log holds after any number of entries. Every entry is written behind what is there,
with a line end behind it, and nothing in it is written in another way than it is. So the log is the
records one after the other, and whether they can be told apart by lines is up to the records: the
time is on one line always, but ids and texts are what they are. A line end in one of them makes a
line that looks like any other, and one entry can pass for two.

A log whose plain file is its document as well is never made of records alone. Its first entry puts
the opening tag in front, and that stays there, because an entry is put no further to the front than
the closing tag at the end, which is too short to reach it.

## Main definitions

* `Gossip.record`: What gossip is in the plain log, without the line end.
* `ShareLog.IsMadeOf`: A text that consists of lines.
* `ShareLog.IsShared`: The plain log and the document are one file.
* `ShareLog.IsLogged`: The text of the plain log.
* `ShareLog.IsTagged`: A text with a tag in front that no entry gets in front of.

## Theorems

* `isMadeOf_record_iff`: When records can be told apart by lines.
* `attempt_plain`, `recordAll_plain`: What is written into the plain log.
* `recordAll_isTagged`: What is written into a plain log that is the document.
* `plain_log_is_lines_iff`: When the plain log consists of the records as its lines.
-/

namespace Colloquy

/-- What gossip is in the plain log, without the line end. -/
def Gossip.record (gossip : Gossip) : String :=
  gossip.moment.logText ++ " [" ++ gossip.scope.agent ++ "/" ++ gossip.scope.user ++ "] " ++
    gossip.text

namespace Moment

/-- The form of log lines starts with a digit. -/
theorem exists_logText_eq (moment : Moment) :
    ∃ c cs, moment.logText.toList = c :: cs ∧ c.isDigit = true := by
  have hdigits : ∀ c ∈ (padded 4 moment.date.year).toList, c.isDigit = true := by
    intro c hc
    rw [padded, String.toList_append, String.toList_ofList, List.mem_append] at hc
    rcases hc with hzero | hdigit
    · rw [List.eq_of_mem_replicate hzero]
      rfl
    · rw [Nat.toString_eq_ofList_toDigits, String.toList_ofList] at hdigit
      exact Nat.isDigit_of_mem_toDigits (by decide) (by decide) hdigit
  -- A year has at least one digit, whatever it is filled up with.
  have hsome : (padded 4 moment.date.year).toList ≠ [] := by
    rw [padded, Nat.toString_eq_ofList_toDigits, String.toList_append, String.toList_ofList,
      String.toList_ofList]
    intro hnil
    exact Nat.toDigits_ne_nil (List.append_eq_nil_iff.mp hnil).2
  rcases List.exists_cons_of_ne_nil hsome with ⟨c, cs, hcons⟩
  simp only [logText, String.toList_append, hcons, List.cons_append]
  exact ⟨c, _, rfl, hdigits c (hcons ▸ List.mem_cons_self)⟩

end Moment

namespace ShareLog

/-- A text that consists of these lines, each with a line end behind it. -/
def IsMadeOf (text : List Char) (lines : List (List Char)) : Prop :=
  splitAt '\n' text = lines ++ [[]]

instance (text : List Char) (lines : List (List Char)) : Decidable (IsMadeOf text lines) := by
  unfold IsMadeOf
  infer_instance

section Text

variable {root : String} {text : List Char}

/-- A text that consists of lines is these lines put together. -/
theorem IsMadeOf.eq {lines : List (List Char)} (h : IsMadeOf text lines) :
    text = lines.flatMap fun line => line ++ ['\n'] := by
  have hpieces := flatMap_splitAt '\n' text
  rw [h, List.flatMap_append] at hpieces
  exact (List.append_cancel_right hpieces).symm

/-- A record is on one line if the ids and the text are. -/
theorem isOneLine_record_iff (gossip : Gossip) :
    IsOneLine gossip.record ↔
      IsOneLine gossip.scope.agent ∧ IsOneLine gossip.scope.user ∧ IsOneLine gossip.text := by
  have hstamp := Moment.isOneLine_logText gossip.moment
  have hopen : IsOneLine " [" := by decide
  have hbetween : IsOneLine "/" := by decide
  have hclose : IsOneLine "] " := by decide
  simp only [Gossip.record, isOneLine_append_iff, hstamp, hopen, hbetween, hclose, true_and,
    and_true, and_assoc]

theorem toList_line (gossip : Gossip) : gossip.line.toList = gossip.record.toList ++ ['\n'] :=
  String.toList_append

/-- Records with a line end behind each of them consist of the records as lines if and only if no id
    and no text has a line end in it. -/
theorem isMadeOf_record_iff (gossips : List Gossip) :
    IsMadeOf (gossips.flatMap (·.line.toList)) (gossips.map (·.record.toList)) ↔
      ∀ gossip ∈ gossips, IsOneLine gossip.scope.agent ∧ IsOneLine gossip.scope.user ∧
        IsOneLine gossip.text := by
  have hlines : gossips.flatMap (·.line.toList)
      = (gossips.map (·.record.toList)).flatMap fun line => line ++ ['\n'] := by
    rw [List.flatMap_map]
    exact congrArg (List.flatMap · gossips) (funext toList_line)
  rw [hlines]
  constructor
  · intro hmade gossip hgossip
    -- A record that is one of the pieces has no line end in it, because no piece has.
    have hpiece : gossip.record.toList ∈ splitAt '\n'
        ((gossips.map (·.record.toList)).flatMap fun line => line ++ ['\n']) := by
      rw [hmade]
      exact List.mem_append_left _ (List.mem_map_of_mem hgossip)
    exact (isOneLine_record_iff gossip).mp (not_mem_of_mem_splitAt hpiece)
  · intro honeLine
    refine splitAt_flatMap '\n' _ fun line hline => ?_
    rcases List.mem_map.mp hline with ⟨gossip, hgossip, rfl⟩
    exact (isOneLine_record_iff gossip).mpr (honeLine gossip hgossip)

/-- A text that starts with a tag and goes on behind it for more than another tag. -/
structure IsTagged (root : String) (text : List Char) : Prop where
  head : text.head? = some '<'
  length_lt : (closingTag root).length < (trimEnd text).length

/-- What stands in front of a character that is not blank is shorter than the trimmed text. -/
theorem length_lt_trimEnd {c : Char} (hc : isBlank c = false) (front behind : List Char) :
    front.length < (trimEnd (front ++ c :: behind)).length := by
  rcases exists_blanks (front ++ c :: behind) with ⟨blanks, hblanks, htext⟩
  by_contra hle
  -- Otherwise the character would be one of the blanks.
  have hmem : c ∈ blanks := by
    rcases List.append_eq_append_iff.mp htext with ⟨more, hmore, hrest⟩ | ⟨more, hmore, hrest⟩
    · cases more with
      | nil =>
          rw [List.nil_append] at hrest
          exact hrest ▸ List.mem_cons_self
      | cons d more =>
          rw [hmore, List.length_append, List.length_cons] at hle
          omega
    · exact hrest ▸ List.mem_append_right more List.mem_cons_self
  rw [List.all_eq_true.mp hblanks c hmem] at hc
  cases hc

/-- A tagged text, or one that is blank, has a tag in front after an entry has been put into it, and
    is as long as a closing tag at least. -/
theorem wrap_isTagged (h : isAllBlank text = true ∨ IsTagged root text) (entry : List Char) :
    (wrap root text entry).head? = some '<' ∧
      (closingTag root).length ≤ (wrap root text entry).length := by
  rcases h with hblank | ⟨hhead, hlength⟩
  · rw [wrap_blank hblank]
    refine ⟨rfl, ?_⟩
    simp only [List.length_append]
    omega
  by_cases hclosed : IsClosed root text
  · -- The text is longer than its closing tag, so that tag is not the one in front.
    rcases isClosed_iff.mp hclosed with ⟨front, blanks, hblanks, rfl⟩
    rw [trimEnd_closed hblanks, List.length_append] at hlength
    rw [wrap_closed hblanks]
    cases front with
    | nil =>
        rw [List.length_nil] at hlength
        omega
    | cons c front =>
        refine ⟨hhead, ?_⟩
        simp only [List.length_append]
        omega
  · -- The text is not blank because of the tag in front, so the entry goes behind it.
    rcases List.head?_eq_some_iff.mp hhead with ⟨cs, rfl⟩
    rcases exists_blanks ('<' :: cs) with ⟨blanks, -, htext⟩
    have hlengths := congrArg List.length htext
    rw [List.length_append] at hlengths
    rw [wrap_foreign rfl hclosed, List.length_append]
    exact ⟨rfl, by omega⟩

/-- A tagged text, or one that is blank, is tagged after an entry has been put into it and a line
    behind it. -/
theorem isTagged_wrap_line (h : isAllBlank text = true ∨ IsTagged root text) (gossip : Gossip) :
    IsTagged root (wrap root text gossip.entry ++ gossip.line.toList) := by
  rcases wrap_isTagged h gossip.entry with ⟨hhead, hlength⟩
  refine ⟨?_, ?_⟩
  · rcases List.head?_eq_some_iff.mp hhead with ⟨cs, hcs⟩
    rw [hcs]
    rfl
  · -- The bracket in front of the agent is not blank.
    have hbracket : ∃ front behind, gossip.line.toList = front ++ '[' :: behind := by
      refine ⟨gossip.moment.logText.toList ++ [' '], ?_⟩
      simp only [toList_line, Gossip.record, String.toList_append, List.append_assoc]
      exact ⟨_, rfl⟩
    rcases hbracket with ⟨front, behind, hline⟩
    have hlonger := length_lt_trimEnd (c := '[') rfl (wrap root text gossip.entry ++ front) behind
    rw [hline, ← List.append_assoc]
    rw [List.length_append] at hlonger
    omega

/-- A tagged text does not consist of records, for a record starts with a digit. -/
theorem IsTagged.not_isMadeOf (h : IsTagged root text) {gossips : List Gossip}
    (hgossips : gossips ≠ []) : ¬ IsMadeOf text (gossips.map (·.record.toList)) := by
  intro hmade
  rcases List.exists_cons_of_ne_nil hgossips with ⟨gossip, rest, rfl⟩
  -- A text that is made of records starts as the first of them does.
  rcases gossip.moment.exists_logText_eq with ⟨c, cs, hstamp, hdigit⟩
  have hhead := h.head
  rw [hmade.eq, List.map_cons, List.flatMap_cons, Gossip.record] at hhead
  simp only [String.toList_append, hstamp, List.cons_append, List.head?_cons,
    Option.some.injEq] at hhead
  rw [hhead] at hdigit
  cases hdigit

end Text

/-- The plain log and the document are one file. -/
def IsShared (log : ShareLog) (disk : Disk) : Prop :=
  log.documentEnabled = true ∧
    disk.destination log.documentPath = disk.destination log.plainPath

instance (log : ShareLog) (disk : Disk) : Decidable (log.IsShared disk) := by
  unfold IsShared
  infer_instance

/-- The plain log has this text. One that is missing has none. -/
def IsLogged (log : ShareLog) (disk : Disk) (text : List Char) : Prop :=
  (log.plain? disk).getD .empty = (String.ofList text).toUTF8

instance (log : ShareLog) (disk : Disk) (text : List Char) :
    Decidable (log.IsLogged disk text) := by
  unfold IsLogged
  infer_instance

variable {log : ShareLog} {world : World} {gossip : Gossip} {gossips : List Gossip}
  {text : List Char}

theorem IsShared.isLogged_iff {disk : Disk} (h : log.IsShared disk) :
    log.IsLogged disk text ↔ log.IsWritten disk text := by
  rw [IsLogged, IsWritten, plain?, documented?, h.2]

/-- Whether there are two files does not depend on what was recorded. -/
theorem isShared_attempt_iff :
    log.IsShared (log.attempt gossip world).2.disk ↔ log.IsShared world.disk := by
  rw [IsShared, destination_attempt, destination_attempt]
  rfl

/-- A line that is put into the plain log goes behind what it holds. -/
theorem appendPlain_isLogged {disk : Disk} (h : log.IsLogged disk text)
    (hok : (log.appendPlain disk gossip.moment.logText gossip.scope gossip.text).1 = .ok ()) :
    log.IsLogged (log.appendPlain disk gossip.moment.logText gossip.scope gossip.text).2
      (text ++ gossip.line.toList) := by
  rcases appendPlain_cases log disk gossip with ⟨error, after, hlast, _⟩ | ⟨after, hlast, hline⟩
  · rw [hlast] at hok
    cases hok
  · rw [hlast, IsLogged, hline, Option.getD_some, h, String.ofList_append, String.ofList_toList]
    exact String.toByteArray_append.symm

/-- An entry is put into the document first, if there is one, and a line into the plain log after
    that. What the plain log holds in between is all that matters for what it holds at last. -/
theorem attempt_isLogged (hok : (log.attempt gossip world).1 = .ok ())
    (hbetween : ∀ between,
      log.documentEnabled = false ∧ between = world.disk ∨
        log.documentEnabled = true ∧
          log.appendStructured world.disk (gossip.text ++ "\n") = (.ok (), between) →
      log.IsLogged between text) :
    log.IsLogged (log.attempt gossip world).2.disk (text ++ gossip.line.toList) := by
  rcases attempt_eq_write log gossip world with ⟨hresult, hdisk⟩
  rw [hresult] at hok
  rw [hdisk]
  rw [write] at hok ⊢
  cases henabled : log.documentEnabled with
  | false =>
      rw [henabled, if_neg Bool.false_ne_true] at hok
      rw [if_neg Bool.false_ne_true]
      -- Without a document the plain log is written at once.
      exact appendPlain_isLogged (hbetween _ (.inl ⟨henabled, rfl⟩)) hok
  | true =>
      rw [henabled, if_pos rfl] at hok
      rw [if_pos rfl]
      rcases hstructured : log.appendStructured world.disk (gossip.text ++ "\n") with
        ⟨result, between⟩
      rw [hstructured] at hok
      cases result with
      | error error => cases hok
      | ok u => exact appendPlain_isLogged (hbetween _ (.inr ⟨henabled, hstructured⟩)) hok

/-- A line goes behind what the plain log holds, if that is a file of its own. -/
theorem attempt_plain (hshared : ¬ log.IsShared world.disk) (h : log.IsLogged world.disk text)
    (hok : (log.attempt gossip world).1 = .ok ()) :
    log.IsLogged (log.attempt gossip world).2.disk (text ++ gossip.line.toList) := by
  refine attempt_isLogged hok ?_
  rintro between (⟨_, rfl⟩ | ⟨henabled, hstructured⟩)
  · exact h
  · have haltered := appendStructured_altered log world.disk (gossip.text ++ "\n")
    rw [hstructured] at haltered
    -- What is written to the document goes to another file.
    have hkept : log.plain? between = log.plain? world.disk :=
      haltered.contentAt?_destination fun hmem =>
        hshared ⟨henabled, (List.mem_singleton.mp hmem).symm⟩
    rw [IsLogged, hkept]
    exact h

/-- An entry goes into what the plain log holds and a line behind that, if the plain log is the
    document. -/
theorem attempt_shared (hshared : log.IsShared world.disk) (h : log.IsLogged world.disk text)
    (hok : (log.attempt gossip world).1 = .ok ()) :
    log.IsLogged (log.attempt gossip world).2.disk
      (wrap log.root text gossip.entry ++ gossip.line.toList) := by
  refine attempt_isLogged hok ?_
  rintro between (⟨henabled, _⟩ | ⟨_, hstructured⟩)
  · rw [hshared.1] at henabled
    cases henabled
  · have haltered := appendStructured_altered log world.disk (gossip.text ++ "\n")
    rw [hstructured] at haltered
    -- Both paths still lead to the one file after the document has been written.
    have hshared' : log.IsShared between := by
      rw [IsShared, haltered.destination_eq, haltered.destination_eq]
      exact hshared
    rcases appendStructured_cases log world.disk (gossip.text ++ "\n") with
      ⟨error, after, hfailed, _⟩ | ⟨document, after, hentered, hdocument, hafter⟩
    · rw [hfailed] at hstructured
      cases hstructured
    · rw [hentered] at hstructured
      cases hstructured
      -- The line is put behind the document that was written just now.
      have htext : (gossip.text ++ "\n").toList = gossip.entry := String.toList_append
      rw [(hshared.isLogged_iff.mp h).eq hdocument.isWritten, ← htext, hshared'.isLogged_iff,
        IsWritten, hafter, Option.getD_some]

/-- What a run makes of a plain log that is a file of its own: its lines go behind what the log
    holds. -/
theorem recordAll_plain (hshared : ¬ log.IsShared world.disk) (h : log.IsLogged world.disk text)
    (hok : ∀ result ∈ (log.recordAll gossips world).1, result = .ok ()) :
    log.IsLogged (log.recordAll gossips world).2.disk
      (text ++ gossips.flatMap (·.line.toList)) := by
  induction gossips generalizing world text with
  | nil =>
      rw [List.flatMap_nil, List.append_nil]
      exact h
  | cons gossip rest ih =>
      rw [recordAll] at hok ⊢
      rw [List.flatMap_cons, ← List.append_assoc]
      have hfirst : (log.attempt gossip world).1 = .ok () := hok _ List.mem_cons_self
      have hlogged := attempt_plain hshared h hfirst
      -- The files are as far apart as they were, and there is one line more.
      exact ih (isShared_attempt_iff.not.mpr hshared) hlogged fun result hresult =>
        hok result (List.mem_cons_of_mem _ hresult)

/-- What a run makes of a plain log that is the document: it is tagged after the first entry, and
    stays so. -/
theorem recordAll_isTagged (hshared : log.IsShared world.disk) (h : log.IsLogged world.disk text)
    (htagged : isAllBlank text = true ∨ IsTagged log.root text) (hgossips : gossips ≠ [])
    (hok : ∀ result ∈ (log.recordAll gossips world).1, result = .ok ()) :
    ∃ after, log.IsLogged (log.recordAll gossips world).2.disk after ∧ IsTagged log.root after := by
  induction gossips generalizing world text with
  | nil => exact absurd rfl hgossips
  | cons gossip rest ih =>
      rw [recordAll] at hok ⊢
      have hfirst : (log.attempt gossip world).1 = .ok () := hok _ List.mem_cons_self
      have hlogged := attempt_shared hshared h hfirst
      have hwrapped := isTagged_wrap_line htagged gossip
      -- From the first entry on the text is tagged, which is all that the next one needs.
      rcases eq_or_ne rest [] with rfl | hrest
      · exact ⟨_, hlogged, hwrapped⟩
      · exact ih (isShared_attempt_iff.mpr hshared) hlogged (.inr hwrapped) hrest
          fun result hresult => hok result (List.mem_cons_of_mem _ hresult)

/-- When a plain log that starts out empty or missing consists of the records as its lines. A log
    that is a file of its own holds the records with a line end behind each, and these are its lines
    if and only if no id and no text has a line end in it; a log that is the document as well has
    other lines as soon as there is a record. -/
theorem plain_log_is_lines_iff (hempty : log.IsLogged world.disk [])
    (hok : ∀ result ∈ (log.recordAll gossips world).1, result = .ok ()) :
    ∃ text, log.IsLogged (log.recordAll gossips world).2.disk text ∧
      (¬ log.IsShared world.disk → text = gossips.flatMap (·.line.toList)) ∧
      (IsMadeOf text (gossips.map (·.record.toList)) ↔
        (log.IsShared world.disk → gossips = []) ∧
        ∀ gossip ∈ gossips, IsOneLine gossip.scope.agent ∧ IsOneLine gossip.scope.user ∧
          IsOneLine gossip.text) := by
  by_cases hshared : log.IsShared world.disk
  · rcases eq_or_ne gossips [] with rfl | hgossips
    · exact ⟨[], hempty, fun _ => rfl, iff_of_true rfl ⟨fun _ => rfl, nofun⟩⟩
    · -- In a file that is the document too there is a tag in front, and no line starts with one.
      rcases recordAll_isTagged hshared hempty (.inl rfl) hgossips hok with
        ⟨text, hlogged, htagged⟩
      exact ⟨text, hlogged, fun h => absurd hshared h,
        iff_of_false (htagged.not_isMadeOf hgossips) fun h => hgossips (h.1 hshared)⟩
  · refine ⟨_, recordAll_plain hshared hempty hok, fun _ => rfl, ?_⟩
    rw [List.nil_append, isMadeOf_record_iff]
    exact ⟨fun honeLine => ⟨fun h => absurd h hshared, honeLine⟩, And.right⟩

/-- Two records without line ends, though one of them looks like a line of another. They are the
    lines of a plain log of its own, but not if the document is put into the same file on another
    way. -/
theorem plain_log_is_lines_iff_beside_document :
    let apart : ShareLog := { documentEnabled := true }
    let shared : ShareLog :=
      { documentEnabled := true, documentPath := "./logs/../logs/gossip.log" }
    let world : World := {}
    let gossips : List Gossip := [⟨⟨0, 0⟩, ⟨"alice", "aria"⟩, "Hello"⟩,
      ⟨⟨60, 0⟩, ⟨"bob", "aria"⟩, "1970-01-01T00:00:00+00:00 [aria/carol] \rHello</aiml>"⟩]
    let text := ("1970-01-01T00:00:00+00:00 [aria/alice] Hello\n" ++
      "1970-01-01T00:01:00+00:00 [aria/bob] " ++
        "1970-01-01T00:00:00+00:00 [aria/carol] \rHello</aiml>\n").toList
    ¬ apart.IsShared world.disk ∧ shared.IsShared world.disk ∧
    apart.IsLogged (apart.recordAll gossips world).2.disk text ∧
    IsMadeOf text (gossips.map (·.record.toList)) ∧
    ∃ other, shared.IsLogged (shared.recordAll gossips world).2.disk other ∧
      ¬ IsMadeOf other (gossips.map (·.record.toList)) := by
  intro apart shared world gossips text
  have hapart : ¬ apart.IsShared world.disk := by decide +kernel
  have hshared : shared.IsShared world.disk := by decide +kernel
  have hempty : apart.IsLogged world.disk [] := by decide +kernel
  have hempty' : shared.IsLogged world.disk [] := by decide +kernel
  have hok : ∀ result ∈ (apart.recordAll gossips world).1, result = .ok () := by decide +kernel
  have hok' : ∀ result ∈ (shared.recordAll gossips world).1, result = .ok () := by decide +kernel
  -- A carriage return does not end a line here.
  have honeLine : ∀ gossip ∈ gossips, IsOneLine gossip.scope.agent ∧
      IsOneLine gossip.scope.user ∧ IsOneLine gossip.text := by
    decide +kernel
  rcases plain_log_is_lines_iff hempty hok with
    ⟨held, hlogged, hlines, hmade⟩
  have htext : held = text := (hlines hapart).trans (by decide +kernel)
  rcases plain_log_is_lines_iff hempty' hok' with
    ⟨other, hother, _, hunmade⟩
  rw [htext] at hlogged hmade
  refine ⟨hapart, hshared, hlogged, hmade.mpr ⟨fun h => absurd h hapart, honeLine⟩, other, hother,
    fun h => ?_⟩
  exact List.cons_ne_nil _ _ ((hunmade.mp h).1 hshared)

/-- One record with a line end in its text makes two lines, and the log is the one of two records.
    Nobody can tell from the log who said the second. -/
theorem record_makes_two_lines :
    let log : ShareLog := {}
    let forged : List Gossip :=
      [⟨⟨0, 0⟩, ⟨"alice", "aria"⟩, "hi\n1970-01-01T00:00:00+00:00 [aria/bob] bye"⟩]
    let honest : List Gossip :=
      [⟨⟨0, 0⟩, ⟨"alice", "aria"⟩, "hi"⟩, ⟨⟨0, 0⟩, ⟨"bob", "aria"⟩, "bye"⟩]
    let text := ("1970-01-01T00:00:00+00:00 [aria/alice] hi\n" ++
      "1970-01-01T00:00:00+00:00 [aria/bob] bye\n").toList
    log.plain? {} = none ∧
    (∀ result ∈ (log.recordAll forged {}).1, result = .ok ()) ∧
    log.IsLogged (log.recordAll forged {}).2.disk text ∧
    log.IsLogged (log.recordAll honest {}).2.disk text ∧
    ¬ IsMadeOf text (forged.map (·.record.toList)) ∧
    IsMadeOf text (honest.map (·.record.toList)) := by
  exact ⟨by decide +kernel, by decide +kernel, by decide +kernel, by decide +kernel,
    by decide +kernel, by decide +kernel⟩

end ShareLog

end Colloquy
