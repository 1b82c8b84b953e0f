import Colloquy.Proofs.Evaluation.Simulation
import Colloquy.Proofs.Installation.Depth
import Colloquy.Proofs.Store.Runs
import Colloquy.Proofs.Store.Stored
import Mathlib.Control.Monad.Basic

/-!
# Memory and Files

A session is answered alike whether predicates are held in memory or in files, as long as the disk
does what it is asked. This includes sessions in which the installation is put together anew: memory
is handed on, and files are found again.

One run keeps predicates in memory and the other in files, each in a world of its own. They are
paired if memory holds for every scope what the files hold. Requests keep worlds paired, by the
simulation of two evaluations for those that evaluate something and by the effect of single
operations for the others. Nothing else about the two worlds has to agree: the disk of the run in
memory may hold anything at all.

A failure of the disk is excused, whichever of the two runs it comes up in. It shows in the answer,
so that a session without such an answer is one without such a failure.

## Main definitions

* `Request`, `Reply`: What is asked of an installation, and what it answers.
* `Installation.run`, `Installation.session`: The answers to a list of requests.
* `Failure.IsInputOutput`: The disk failed.
* `Paired`: Memory holds what files hold.

## Theorems

* `simulates_paired`: Evaluations with predicates in memory and in files.
* `serve_agrees`: One request.
* `stores_are_interchangeable`: Sessions with predicates in memory and in files.
-/

namespace Colloquy

/-- What is asked of an installation: a template answered or evaluated, a predicate or all of them,
    a predicate set, or that it is put together anew. -/
inductive Request where
  | respond (scope : Scope) (source : String)
  | evaluate (scope : Scope) (template : List Node)
  | load (scope : Scope) (name : String)
  | save (scope : Scope) (name value : String)
  | predicates (scope : Scope)
  | rebuild

/-- What an installation answers when it succeeds. -/
inductive Reply where
  | text (text : String)
  | value (value : Option String)
  | saved
  | all (predicates : Predicates)
  | rebuilt
  deriving DecidableEq

/-- The scope that a request is about, if it is about one. -/
def Request.scope? : Request → Option Scope
  | .respond scope _ => some scope
  | .evaluate scope _ => some scope
  | .load scope _ => some scope
  | .save scope _ _ => some scope
  | .predicates scope => some scope
  | .rebuild => none

/-- The answer of an installation, made of what one of its parts came to. -/
def replied {ε α : Type} (lift : ε → Failure) (reply : α → Reply) :
    Except ε α × World → Except Failure Reply × World
  | (.ok value, world) => (.ok (reply value), world)
  | (.error error, world) => (.error (lift error), world)

namespace Installation

/-- The answer of an installation to a request, the installation that is there afterwards, and the
    world. `assemble` puts an installation together anew. -/
def serve (assemble : World → Except Failure Installation × World) (installation : Installation) :
    Request → World → (Except Failure Reply × World) × Installation
  | .respond scope source, world =>
    (replied id .text (installation.respond scope source world), installation)
  | .evaluate scope template, world =>
    (replied id .text (installation.evaluate scope template world), installation)
  | .load scope name, world =>
    (replied .store .value (installation.backend.load scope name world), installation)
  | .save scope name value, world =>
    (replied .store (fun _ => .saved) (installation.backend.save scope name value world),
      installation)
  | .predicates scope, world =>
    (replied .store .all (installation.backend.predicates scope world), installation)
  | .rebuild, world =>
    match assemble world with
    | (.ok fresh, world) => ((.ok .rebuilt, world), fresh)
    | (.error failure, world) => ((.error failure, world), installation)

/-- The answers to requests, each made at its moment. -/
def run (assemble : World → Except Failure Installation × World) :
    Installation → List (Request × Moment) → World → List (Except Failure Reply)
  | _, [], _ => []
  | installation, (request, now) :: rest, world =>
    let ((answer, world), installation) := serve assemble installation request { world with now }
    answer :: run assemble installation rest world

theorem run_cons (assemble : World → Except Failure Installation × World)
    (installation : Installation) (request : Request) (now : Moment)
    (rest : List (Request × Moment)) (world : World) :
    run assemble installation ((request, now) :: rest) world
      = (serve assemble installation request { world with now }).1.1 ::
        run assemble (serve assemble installation request { world with now }).2 rest
          (serve assemble installation request { world with now }).1.2 := rfl

/-- The answers to requests from the moment an installation is put together, if it can be. -/
def session (assemble : World → Except Failure Installation × World)
    (requests : List (Request × Moment)) (world : World) :
    Except Failure (List (Except Failure Reply)) :=
  match assemble world with
  | (.ok installation, world) => .ok (run assemble installation requests world)
  | (.error failure, _) => .error failure

end Installation

/-- The disk failed, in a store or in the share log. -/
inductive Failure.IsInputOutput : Failure → Prop where
  | store (path : String) (fault : Disk.Fault) : IsInputOutput (.store (.io path fault))
  | evaluation (path : String) (fault : Disk.Fault) :
      IsInputOutput (.evaluation (.store (.io path fault)))
  | shareLog (error : ShareLogError) : IsInputOutput (.evaluation (.shareLog error))

/-- Memory in one world holds what files in another one hold for every scope that they do not
    refuse, and a share log spares those files. -/
structure Paired (store : FlatFile) (log : ShareLog) (world world' : World) : Prop where
  held : ∀ scope : Scope, scope.IsValid →
    world.memory.predicates scope = Backend.stored (.files store) world' scope
  spares : ∀ scope, log.SparesUnit (.files store) world'.disk scope

namespace Paired

variable {store : FlatFile} {log : ShareLog} {world world' : World} {scope : Scope}

theorem events (h : Paired store log world world') (events events' : List Event) :
    Paired store log { world with events } { world' with events := events' } :=
  ⟨h.held, h.spares⟩

theorem report (h : Paired store log world world') (event event' : Event) :
    Paired store log (world.report event) (world'.report event') :=
  ⟨h.held, h.spares⟩

theorem now (h : Paired store log world world') (now now' : Moment) :
    Paired store log { world with now } { world' with now := now' } :=
  ⟨h.held, h.spares⟩

/-- An access to files that does what one to memory does keeps worlds paired. -/
theorem agrees {α : Type} {answer : α} {held : Scope → Predicates} {after : World}
    {outcome : Except StoreError α × World} {excused : StoreError → Prop}
    (h : Paired store log world world') (hvalid : scope.IsValid)
    (hexcused : ∀ path fault, excused (.io path fault))
    (hattempted : Backend.Attempted (.files store) world' scope answer held outcome)
    (hheld : ∀ other : Scope, other.IsValid → after.memory.predicates other = held other) :
    Agrees excused (Paired store log) (.ok answer, after) outcome := by
  cases hattempted with
  | refused _ hinvalid => exact absurd hvalid hinvalid
  | failed _ _ _ => exact .right (hexcused _ _) _ _
  | @done after' haltered hstored =>
      refine .same _ ⟨fun other hother => ?_, fun other => ?_⟩
      · rw [hheld other hother, hstored]
      · exact ShareLog.SparesUnit.of_here (h.spares other) haltered.here

section Accesses

variable (h : Paired store log world world') (hproper : isComponent store.suffix = true)
  (hvalid : scope.IsValid) {excused : StoreError → Prop}
  (hexcused : ∀ path fault, excused (.io path fault))
include h hproper hvalid hexcused

/-- Reading all predicates. -/
theorem predicates_agrees :
    Agrees excused (Paired store log) (Backend.memory.predicates scope world)
      (Backend.predicates (.files store) scope world') := by
  have hfiles : Backend.IsProper (.files store) := hproper
  have hattempted := Backend.predicates_attempted hfiles scope world'
  rw [← h.held scope hvalid] at hattempted
  exact h.agrees hvalid hexcused hattempted h.held

/-- Reading one predicate. -/
theorem load_agrees (name : String) :
    Agrees excused (Paired store log) (Backend.memory.load scope name world)
      (Backend.load (.files store) scope name world') := by
  have hfiles : Backend.IsProper (.files store) := hproper
  have hattempted := Backend.load_attempted hfiles scope world' name
  rw [← h.held scope hvalid] at hattempted
  exact h.agrees hvalid hexcused hattempted h.held

/-- Saving one predicate. -/
theorem save_agrees (name value : String) :
    Agrees excused (Paired store log) (Backend.memory.save scope name value world)
      (Backend.save (.files store) scope name value world') := by
  have hfiles : Backend.IsProper (.files store) := hproper
  have hattempted := Backend.save_attempted hfiles scope world' name value
  refine h.agrees hvalid hexcused hattempted fun other hother => ?_
  have hsaved := congrFun (Memory.predicates_save world.memory scope name value) other
  refine hsaved.trans ?_
  rw [← h.held scope hvalid]
  -- Of every other scope both still hold the same.
  by_cases hsame : other = scope
  · rw [hsame, Function.update_self, Function.update_self]
  · rw [Function.update_of_ne hsame, Function.update_of_ne hsame, h.held other hother]

end Accesses

/-- Recording gossip. -/
theorem record_agrees (h : Paired store log world world') (text : String)
    {excused : ShareLogError → Prop} (hexcused : ∀ error, excused error) :
    Agrees excused (Paired store log) (log.record scope text world)
      (log.record scope text world') := by
  refine .of_related hexcused ⟨fun other hother => ?_, fun other => ?_⟩
  · rw [(log.record_altered scope text world).2, Backend.stored_record (h.spares other),
      h.held other hother]
  · exact ShareLog.SparesUnit.of_here (h.spares other) (log.record_altered scope text world').1.here

end Paired

/-- Evaluations with predicates in memory and in files. -/
theorem Evaluator.simulates_paired {evaluator : Evaluator} {store : FlatFile} {scope : Scope}
    (hmemory : evaluator.backend = .memory) (hproper : isComponent store.suffix = true)
    (hvalid : scope.IsValid) :
    Simulates evaluator { evaluator with backend := .files store } scope
      (fun error => Failure.IsInputOutput (.evaluation error))
      (Paired store evaluator.shareLog) where
  registry := rfl
  limit := rfl
  events := fun hpaired => hpaired.events
  load := fun hpaired name => hmemory ▸ hpaired.load_agrees hproper hvalid .evaluation name
  save := fun hpaired name value =>
    hmemory ▸ hpaired.save_agrees hproper hvalid .evaluation name value
  share := fun hpaired text => hpaired.record_agrees text .shareLog

/-- An answer is made of what one part of an installation came to. -/
theorem Agrees.replied {ε α : Type} {lift : ε → Failure} {excused : Failure → Prop}
    {related : World → World → Prop} {outcome outcome' : Except ε α × World}
    (h : Agrees (fun error => excused (lift error)) related outcome outcome')
    (reply : α → Reply) :
    Agrees excused related (replied lift reply outcome) (Colloquy.replied lift reply outcome') := by
  cases h with
  | same result hrelated => cases result <;> exact .same _ hrelated
  | left hexcused _ _ => exact .left hexcused _ _
  | right hexcused _ _ => exact .right hexcused _ _

namespace Installation

/-- An installation with its predicates in another store. -/
def withBackend (installation : Installation) (backend : Backend) : Installation :=
  { installation with evaluator := { installation.evaluator with backend } }

/-- What puts an installation together, in any world, and does no more than report it. -/
def Assembles (assemble : World → Except Failure Installation × World)
    (installation : Installation) : Prop :=
  ∀ world, ∃ event, assemble world = (.ok installation, world.report event)

section Requests

variable {installation : Installation} {properties : Properties} {emptyDefault : String}
  {store : FlatFile} {assemble assemble' : World → Except Failure Installation × World}
  (hstandard : installation.evaluator.IsStandard properties emptyDefault)
  (hmemory : installation.evaluator.backend = .memory) (hproper : isComponent store.suffix = true)
  (hassemble : Assembles assemble installation)
  (hassemble' : Assembles assemble' (installation.withBackend (.files store)))
include hstandard hmemory hproper hassemble hassemble'

/-- One request is answered alike, and the installations stay what they are. -/
theorem serve_agrees (request : Request) (hvalid : ∀ scope ∈ request.scope?, scope.IsValid)
    {world world' : World} (hpaired : Paired store installation.evaluator.shareLog world world') :
    Agrees Failure.IsInputOutput (Paired store installation.evaluator.shareLog)
        (serve assemble installation request world).1
        (serve assemble' (installation.withBackend (.files store)) request world').1 ∧
      (serve assemble installation request world).2 = installation ∧
      (serve assemble' (installation.withBackend (.files store)) request world').2
        = installation.withBackend (.files store) := by
  cases request with
  | respond scope source =>
      have hsimulates := Evaluator.simulates_paired hmemory hproper (hvalid scope rfl)
      have hagrees : Agrees (fun failure => Failure.IsInputOutput (id failure))
          (Paired store installation.evaluator.shareLog)
          (installation.respond scope source world)
          ((installation.withBackend (.files store)).respond scope source world') :=
        respond_agrees hsimulates hstandard hpaired source
      exact ⟨hagrees.replied .text, rfl, rfl⟩
  | evaluate scope template =>
      have hsimulates := Evaluator.simulates_paired hmemory hproper (hvalid scope rfl)
      have hagrees : Agrees (fun failure => Failure.IsInputOutput (id failure))
          (Paired store installation.evaluator.shareLog)
          (installation.evaluate scope template world)
          ((installation.withBackend (.files store)).evaluate scope template world') :=
        evaluate_agrees hsimulates hstandard hpaired template
      exact ⟨hagrees.replied .text, rfl, rfl⟩
  | load scope name =>
      have hagrees : Agrees (fun error => Failure.IsInputOutput (.store error))
          (Paired store installation.evaluator.shareLog) (Backend.memory.load scope name world)
          (Backend.load (.files store) scope name world') :=
        hpaired.load_agrees hproper (hvalid scope rfl) .store name
      rw [← hmemory] at hagrees
      exact ⟨hagrees.replied .value, rfl, rfl⟩
  | save scope name value =>
      have hagrees : Agrees (fun error => Failure.IsInputOutput (.store error))
          (Paired store installation.evaluator.shareLog)
          (Backend.memory.save scope name value world)
          (Backend.save (.files store) scope name value world') :=
        hpaired.save_agrees hproper (hvalid scope rfl) .store name value
      rw [← hmemory] at hagrees
      exact ⟨hagrees.replied fun _ => .saved, rfl, rfl⟩
  | predicates scope =>
      have hagrees : Agrees (fun error => Failure.IsInputOutput (.store error))
          (Paired store installation.evaluator.shareLog) (Backend.memory.predicates scope world)
          (Backend.predicates (.files store) scope world') :=
        hpaired.predicates_agrees hproper (hvalid scope rfl) .store
      rw [← hmemory] at hagrees
      exact ⟨hagrees.replied .all, rfl, rfl⟩
  | rebuild =>
      -- Neither memory nor files are touched.
      rcases hassemble world with ⟨event, hok⟩
      rcases hassemble' world' with ⟨event', hok'⟩
      rw [serve, serve, hok, hok']
      exact ⟨.same _ (hpaired.report event event'), rfl, rfl⟩

/-- Requests are answered alike, unless the disk fails. -/
theorem run_eq {requests requests' : List (Request × Moment)}
    (hsame : requests'.map Prod.fst = requests.map Prod.fst)
    (hvalid : ∀ entry ∈ requests, ∀ scope ∈ entry.1.scope?, scope.IsValid) {world world' : World}
    (hpaired : Paired store installation.evaluator.shareLog world world')
    (hworks : ∀ answer ∈ run assemble installation requests world, ∀ failure,
      answer = .error failure → ¬ failure.IsInputOutput)
    (hworks' : ∀ answer ∈ run assemble' (installation.withBackend (.files store)) requests' world',
      ∀ failure, answer = .error failure → ¬ failure.IsInputOutput) :
    run assemble' (installation.withBackend (.files store)) requests' world'
      = run assemble installation requests world := by
  induction requests generalizing requests' world world' with
  | nil =>
      rw [List.map_nil, List.map_eq_nil_iff] at hsame
      subst hsame
      rfl
  | cons entry requests ih =>
      rw [List.map_cons, List.map_eq_cons_iff] at hsame
      rcases hsame with ⟨entry', rest, rfl, hentry, hrest⟩
      rcases entry with ⟨request, now⟩
      rcases entry' with ⟨_, now'⟩
      cases hentry
      rcases serve_agrees hstandard hmemory hproper hassemble hassemble' request
        (hvalid _ List.mem_cons_self) (hpaired.now now now') with ⟨hagrees, hstays, hstays'⟩
      rw [run_cons, List.forall_mem_cons, hstays] at hworks
      rw [run_cons, List.forall_mem_cons, hstays'] at hworks'
      -- Neither answer is excused, so they are the same.
      rcases hagrees.same_of_not_excused hworks.1 hworks'.1 with ⟨hanswer, hafter⟩
      rw [run_cons, run_cons, hstays, hstays', hanswer]
      exact congrArg _ (ih hrest (fun entry hentry => hvalid entry (List.mem_cons_of_mem _ hentry))
        hafter hworks.2 hworks'.2)

end Requests

/-- The store of settings has their base directory, and their suffix if that can be part of a
    name. -/
theorem filesOf_eq_ok {settings : Settings} {backend : Backend}
    (h : filesOf settings = .ok backend) :
    backend = .files ⟨settings.baseDir, settings.suffix⟩ ∧ isComponent settings.suffix = true := by
  unfold filesOf at h
  cases hcheck : check settings with
  | error failure =>
      rw [hcheck] at h
      cases h
  | ok _ =>
      rw [hcheck] at h
      dsimp only [bind, Except.bind] at h
      -- Settings that are in order are still refused for a suffix that is no component.
      unfold FlatFile.open? FlatFile.checkComponent at h
      by_cases hsuffix : isComponent settings.suffix = true
      · simp only [hsuffix, if_true] at h
        cases h
        exact ⟨rfl, hsuffix⟩
      · simp only [hsuffix, if_false, Bool.false_eq_true] at h
        cases h

theorem session_eq_ok {assemble : World → Except Failure Installation × World}
    {requests : List (Request × Moment)} {world : World} {answers : List (Except Failure Reply)}
    (h : session assemble requests world = .ok answers) :
    ∃ installation after, assemble world = (.ok installation, after) ∧
      answers = run assemble installation requests after := by
  unfold session at h
  split at h
  · rename_i installation after hassemble
    cases h
    exact ⟨installation, after, hassemble, rfl⟩
  · cases h

/-- An installation that was put together around a store can be put together again. -/
theorem assembles_of_assembleWith {settings : Settings} {backend : Backend} {world after : World}
    {installation : Installation}
    (h : assembleWith settings backend world = (.ok installation, after)) :
    ofSettings settings backend = .ok installation ∧
      Assembles (assembleWith settings backend) installation ∧
      ∃ event, after = world.report event := by
  unfold assembleWith at h
  split at h
  · cases h
  · rename_i hsettings
    cases h
    refine ⟨hsettings, fun other => ?_, _, rfl⟩
    rw [assembleWith, hsettings]
    exact ⟨_, rfl⟩

/-- With predicates in files, the store is that of the settings. -/
theorem assemble_eq_ok {settings : Settings} {world after : World} {installation : Installation}
    (h : assemble settings world = (.ok installation, after)) :
    isComponent settings.suffix = true ∧
      assemble settings = assembleWith settings (.files ⟨settings.baseDir, settings.suffix⟩) := by
  rw [assemble] at h
  cases hfiles : filesOf settings with
  | error failure =>
      rw [hfiles] at h
      cases h
  | ok backend =>
      rcases filesOf_eq_ok hfiles with ⟨rfl, hsuffix⟩
      refine ⟨hsuffix, funext fun other => ?_⟩
      rw [assemble, hfiles]

/-- Settings are assembled to the same parts around any store. -/
theorem eq_withBackend {settings : Settings} {backend other : Backend}
    {installation installation' : Installation}
    (h : ofSettings settings backend = .ok installation)
    (h' : ofSettings settings other = .ok installation') :
    installation.evaluator.backend = backend ∧
      installation.evaluator.shareLog = settings.shareLog ∧
      installation' = installation.withBackend other := by
  rcases ofSettings_eq_ok_iff.mp h with ⟨_, agents, registry, _, hagents, hregistry, rfl⟩
  rcases ofSettings_eq_ok_iff.mp h' with ⟨_, agents', registry', _, hagents', hregistry', rfl⟩
  rw [hagents, Except.ok.injEq] at hagents'
  subst hagents'
  rw [hregistry, Except.ok.injEq] at hregistry'
  subst hregistry'
  exact ⟨rfl, rfl, rfl⟩

/-- Empty memory and a base directory with nothing in it are paired, if the share log is kept
    elsewhere. -/
theorem paired_of_bare {store : FlatFile} {log : ShareLog} {world world' : World}
    (hmemory : ∀ scope, world.memory.predicates scope = ∅)
    (hbare : ∀ place, store.root world'.disk <+: place → place ≠ store.root world'.disk →
      world'.disk.entry? place = none)
    (hlog : ∀ place ∈ log.files world'.disk, ¬ store.root world'.disk <+: place) :
    Paired store log world world' := by
  have hunder (scope : Scope) : store.root world'.disk <+: store.unitPlace world'.disk scope :=
    ⟨[scope.agent] ++ [scope.user ++ store.suffix], (List.append_assoc ..).symm⟩
  refine ⟨fun scope hvalid => ?_, fun scope _ hmem => hlog _ hmem (hunder scope)⟩
  -- The unit lies two levels below the root, so it is not the root.
  have hne : store.unitPlace world'.disk scope ≠ store.root world'.disk := by
    intro heq
    have hlength := congrArg List.length heq
    simp only [FlatFile.unitPlace, FlatFile.agentPlace, List.length_append,
      List.length_singleton] at hlength
    omega
  rw [hmemory, Backend.stored_of_isValid hvalid, FlatFile.held_of_missing fun content => ?_]
  rw [hbare _ (hunder scope) hne]
  exact fun hcontra => by cases hcontra

/-- A session is answered alike with predicates in memory and in files, request by request and error
    by error. It starts with empty memory in one world and an empty base directory in the other, the
    files of the share log are not in that directory, and the disk does not fail. The installation
    may be put together anew at any time, and the moments of the requests do not matter. -/
theorem stores_are_interchangeable {settings : Settings}
    {requests requests' : List (Request × Moment)}
    (hsame : requests'.map Prod.fst = requests.map Prod.fst)
    (hvalid : ∀ entry ∈ requests, ∀ scope ∈ entry.1.scope?, scope.IsValid) {world world' : World}
    (hmemory : ∀ scope, world.memory.predicates scope = ∅)
    (hbare : ∀ place, FlatFile.root ⟨settings.baseDir, settings.suffix⟩ world'.disk <+: place →
      place ≠ FlatFile.root ⟨settings.baseDir, settings.suffix⟩ world'.disk →
      world'.disk.entry? place = none)
    (hlog : ∀ place ∈ settings.shareLog.files world'.disk,
      ¬ FlatFile.root ⟨settings.baseDir, settings.suffix⟩ world'.disk <+: place)
    {answers answers' : List (Except Failure Reply)}
    (hrun : session (assembleWith settings .memory) requests world = .ok answers)
    (hrun' : session (assemble settings) requests' world' = .ok answers')
    (hworks : ∀ answer ∈ answers, ∀ failure, answer = .error failure → ¬ failure.IsInputOutput)
    (hworks' : ∀ answer ∈ answers', ∀ failure, answer = .error failure → ¬ failure.IsInputOutput) :
    answers' = answers := by
  rcases session_eq_ok hrun with ⟨installation, after, hassemble, rfl⟩
  rcases session_eq_ok hrun' with ⟨installation', after', hassemble', rfl⟩
  rcases assemble_eq_ok hassemble' with ⟨hproper, hfiles⟩
  rw [hfiles] at hassemble' hworks' ⊢
  rcases assembles_of_assembleWith hassemble with ⟨hsettings, hassembles, event, rfl⟩
  rcases assembles_of_assembleWith hassemble' with ⟨hsettings', hassembles', event', rfl⟩
  rcases eq_withBackend hsettings hsettings' with ⟨hbackend, hshareLog, rfl⟩
  -- At the start nobody has a predicate in either of the stores.
  have hpaired := paired_of_bare hmemory hbare hlog
  rw [← hshareLog] at hpaired
  exact run_eq (isStandard_of_ofSettings hsettings).1 hbackend hproper hassembles hassembles' hsame
    hvalid (hpaired.report event event') hworks hworks'

/-- A session in which an evaluation fails behind a save, the installation is put together anew, and
    what was saved is still there. -/
theorem stores_are_interchangeable_after_rebuild :
    let alice : Scope := ⟨"alice", "aria"⟩
    let requests : List Request :=
      [.respond alice "<set name=\"n\">1</set><set>2</set>", .rebuild, .load alice "n",
        .save alice "m" " =", .rebuild, .predicates alice,
        .evaluate alice [.leaf ⟨"get", .ofList [("name", "m")]⟩]]
    let early : List (Request × Moment) := requests.map fun request => (request, ⟨0, 0⟩)
    let late : List (Request × Moment) := requests.map fun request => (request, ⟨9, 0⟩)
    let answers : List (Except Failure Reply) :=
      [.error (.evaluation (.invalidContent "set" .missingName)), .ok .rebuilt,
        .ok (.value (some "1")), .ok .saved, .ok .rebuilt,
        .ok (.all (.ofList [("m", " ="), ("n", "1")])), .ok (.text " =")]
    (∀ entry ∈ early, ∀ scope ∈ entry.1.scope?, scope.IsValid) ∧
      session (assembleWith {} .memory) early {} = .ok answers ∧
      (∀ answer ∈ answers, ∀ failure, answer = .error failure → ¬ failure.IsInputOutput) ∧
      ∃ answers', session (assemble {}) late {} = .ok answers' ∧ answers' = answers := by
  intro alice requests early late answers
  have hvalid : ∀ entry ∈ early, ∀ scope ∈ entry.1.scope?, scope.IsValid := by decide
  have hmemory : session (assembleWith {} .memory) early {} = .ok answers := by decide +kernel
  have hfiles : session (assemble {}) late {} = .ok answers := by decide +kernel
  have hbare : ∀ place, ["ffm"] <+: place → place ≠ ["ffm"] → Disk.entry? {} place = none := by
    rintro _ ⟨names, rfl⟩ _
    rfl
  have hlog : ∀ place ∈ ShareLog.files {} {}, ¬ ["ffm"] <+: place := by decide
  have hworks : ∀ answer ∈ answers, ∀ failure, answer = .error failure →
      ¬ failure.IsInputOutput := by
    intro answer hanswer failure herror hfailure
    subst herror
    simp only [answers, List.mem_cons, Except.error.injEq, reduceCtorEq, List.not_mem_nil,
      or_false] at hanswer
    subst hanswer
    cases hfailure
  exact ⟨hvalid, hmemory, hworks, answers, hfiles, @stores_are_interchangeable {} early late rfl
    hvalid {} {} (fun _ => rfl) hbare hlog answers answers hmemory hfiles hworks hworks⟩

end Installation

end Colloquy
