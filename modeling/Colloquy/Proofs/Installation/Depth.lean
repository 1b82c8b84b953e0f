import Colloquy.Installation
import Colloquy.Proofs.Evaluation.Depth
import Colloquy.Proofs.Template.Nesting

/-!
# Two Guards Against Depth

Elements are counted twice: the reader counts the elements that are open, and the evaluator the
elements that it is evaluating. Both counts are of the elements around an element, so that a
template which is read within a limit is evaluated within it, and a template which is not is refused
for the element at which its evaluation would have stopped, unless that had stopped before. A
refusal comes before the evaluation, though, and changes nothing.

## Theorems

* `ofSettings_eq_ok_iff`, `isStandard_of_ofSettings`: What settings are assembled to.
* `respond_error`: A template that is not read is answered without a change.
* `guards_agree`: The two guards against depth agree.
-/

namespace Colloquy

open Grammar

namespace Installation

variable {installation : Installation} {properties : Properties} {emptyDefault : String}

/-- Settings are usable only with a limit that the reader can keep. -/
theorem maxDepth_of_check {settings : Settings} {u : Unit} (h : check settings = .ok u) :
    0 < settings.maxDepth ∧ settings.maxDepth ≤ nestingCeiling := by
  unfold check Settings.check at h
  by_cases hzero : settings.maxDepth = 0
  · rw [if_pos hzero] at h
    cases h
  · rw [if_neg hzero] at h
    by_cases hmuch : nestingCeiling < settings.maxDepth
    · rw [if_pos hmuch] at h
      cases h
    · exact ⟨Nat.pos_of_ne_zero hzero, Nat.not_lt.mp hmuch⟩

/-- Settings are assembled to their agents, the standard handlers and their share log, around any
    store. -/
theorem ofSettings_eq_ok_iff {settings : Settings} {backend : Backend} :
    ofSettings settings backend = .ok installation ↔
      ∃ u agents registry, check settings = .ok u ∧ agentsOf settings = .ok agents ∧
        Standard.registry (property? agents) settings.emptyDefault = .ok registry ∧
        installation = ⟨agents, ⟨registry, backend, settings.shareLog, settings.maxDepth⟩⟩ := by
  constructor
  · -- Everything is assembled step by step, and the first failure would be the result.
    intro h
    unfold ofSettings at h
    cases hcheck : check settings with
    | error failure =>
        rw [hcheck] at h
        cases h
    | ok u =>
        rw [hcheck] at h
        cases hagents : agentsOf settings with
        | error failure =>
            rw [hagents] at h
            cases h
        | ok agents =>
            rw [hagents] at h
            dsimp only [bind, Except.bind] at h
            split at h
            · cases h
            · rename_i registry hregistry
              cases h
              exact ⟨u, agents, registry, rfl, rfl, hregistry, rfl⟩
  · rintro ⟨u, agents, registry, hcheck, hagents, hregistry, rfl⟩
    rw [ofSettings, hcheck, hagents]
    dsimp only [bind, Except.bind]
    rw [hregistry]

/-- What settings are assembled to has the standard handlers and a limit that the reader can
    keep. -/
theorem isStandard_of_ofSettings {settings : Settings} {backend : Backend}
    (h : ofSettings settings backend = .ok installation) :
    installation.evaluator.IsStandard (property? installation.agents) settings.emptyDefault ∧
      0 < installation.evaluator.limit ∧ installation.evaluator.limit ≤ nestingCeiling := by
  rcases ofSettings_eq_ok_iff.mp h with ⟨u, agents, registry, hcheck, _, hregistry, rfl⟩
  exact ⟨hregistry, maxDepth_of_check hcheck⟩

/-- A template that is not read is answered without a change. -/
theorem respond_error {source : String} {error : ParseError}
    (h : parseTemplate source installation.evaluator.limit = .error error) (scope : Scope)
    (world : World) :
    installation.respond scope source world = (.error (unreadable error), world) := by
  rw [respond, h]

theorem unreadable_of_ne {error : ParseError} (h : ∀ tag limit, error.fault ≠ .tooDeep tag limit) :
    unreadable error = .template error := by
  unfold unreadable
  split
  · rename_i tag limit hfault
    exact absurd hfault (h tag limit)
  · rfl

open Evaluator in
/-- A template that is read within the limit of the evaluator is never refused by it for its depth.
    One that is read only within the ceiling is refused by the reader for the first element in it
    that is nested inside as many others as the limit allows, and evaluating it fails for that
    element too, or else at an element that opens before it. A template that is not read is answered
    with the error of the evaluator, or that of the reader, and the world stays as it was. -/
theorem guards_agree (hstandard : installation.evaluator.IsStandard properties emptyDefault)
    (hlimit : installation.evaluator.limit ≤ nestingCeiling) (scope : Scope) (source : String)
    (world : World) :
    (∀ nodes, parseTemplate source installation.evaluator.limit = .ok nodes →
      ∀ tag limit, (installation.evaluator.evaluate scope nodes world).1
        ≠ .error (.depthExceeded tag limit)) ∧
    (∀ nodes, parseTemplate source nestingCeiling = .ok nodes →
      (∀ read, parseTemplate source installation.evaluator.limit ≠ .ok read) →
      ∃ before tag after offset index error,
        outline 0 nodes = before ++ ⟨installation.evaluator.limit, tag⟩ :: after ∧
        (∀ other ∈ before, other.around < installation.evaluator.limit) ∧
        parseTemplate source installation.evaluator.limit
          = .error ⟨offset, .tooDeep tag.name installation.evaluator.limit⟩ ∧
        (installation.evaluator.evaluate scope nodes world).1 = .error error ∧
        FailsAt installation.evaluator scope installation.evaluator.limit nodes world index error ∧
        (index = before.length ∧ error = .depthExceeded tag.name installation.evaluator.limit ∨
          index < before.length)) ∧
    (∀ offset tag limit,
      parseTemplate source installation.evaluator.limit = .error ⟨offset, .tooDeep tag limit⟩ →
      installation.respond scope source world
        = (.error (.evaluation (.depthExceeded tag limit)), world)) ∧
    (∀ error, parseTemplate source installation.evaluator.limit = .error error →
      (∀ tag limit, error.fault ≠ .tooDeep tag limit) →
      installation.respond scope source world = (.error (.template error), world)) := by
  have hmin : min installation.evaluator.limit nestingCeiling = installation.evaluator.limit :=
    Nat.min_eq_left hlimit
  refine ⟨?_, ?_, ?_, ?_⟩
  · intro nodes hread tag limit
    rw [parseTemplate_eq_ok, Reader.build_eq_ok_iff, hmin] at hread
    exact evaluate_ne_depthExceeded hstandard hread.2 world tag limit
  · intro nodes hread hrefused
    rw [parseTemplate_eq_ok, Reader.build_eq_ok_iff] at hread
    -- The template is derived, so what it is refused for is an element without a level.
    cases hfind : (outline 0 nodes).find? fun place =>
        installation.evaluator.limit ≤ place.around with
    | none =>
        -- Without such an element the template would have been read.
        refine absurd ?_ (hrefused nodes)
        rw [parseTemplate_eq_ok, Reader.build_eq_ok_iff, hmin]
        exact ⟨hread.1, fun place hplace => Nat.not_le.mp fun hle =>
          List.find?_eq_none.mp hfind place hplace (decide_eq_true hle)⟩
    | some place =>
        rcases List.find?_eq_some_iff_append.mp hfind with
          ⟨hbeyond, before, after, houtline, hbefore⟩
        have hbefore : ∀ other ∈ before, other.around < installation.evaluator.limit := by
          intro other hother
          have hnot := hbefore other hother
          rw [Bool.not_eq_true', decide_eq_false_iff_not] at hnot
          exact Nat.not_le.mp hnot
        -- Both sides look for the first element that is nested inside too many others.
        have htooDeep := @parseTemplate_tooDeep source nodes hread.1 installation.evaluator.limit
          before after place houtline
        rw [hmin] at htooDeep
        rcases htooDeep hbefore (of_decide_eq_true hbeyond) with ⟨haround, offset, herror⟩
        rcases exists_failsAt_evaluate hstandard houtline hbefore haround world with
          ⟨index, error, hevaluate, hfails, hindex⟩
        refine ⟨before, place.tag, after, offset, index, error, ?_, hbefore, herror, hevaluate,
          hfails, hindex⟩
        rw [houtline, ← haround]
  · intro offset tag limit herror
    exact respond_error herror scope world
  · intro error herror hfault
    rw [respond_error herror, unreadable_of_ne hfault]

/-- An evaluator of one level, and an element without a handler, which takes up that level as any
    other element does. -/
theorem guards_agree_one_level :
    let source := "<id/><x><get/></x>"
    let template := [.leaf ⟨"id", ∅⟩, .container ⟨"x", ∅⟩ [.leaf ⟨"get", ∅⟩]]
    ∃ registry, Standard.registry (fun _ _ => none) "" = .ok registry ∧
      let installation : Installation := ⟨∅, ⟨registry, .memory, {}, 1⟩⟩
      installation.evaluator.limit ≤ nestingCeiling ∧
      parseTemplate source nestingCeiling = .ok template ∧
      (∃ error, (installation.evaluator.evaluate ⟨"u", "v"⟩ template {}).1 = .error error) ∧
      installation.respond ⟨"u", "v"⟩ source {}
        = (.error (.evaluation (.depthExceeded "get" 1)), {}) := by
  intro source template
  rcases Standard.exists_registry (fun _ _ => none) "" with ⟨registry, hregistry⟩
  have hlimit : 1 ≤ nestingCeiling := by decide
  have hid : Piece (.leaf ⟨"id", ∅⟩) ['<', 'i', 'd', '/', '>'] :=
    @Piece.leaf ['i', 'd'] _ (head_name ⟨by decide, List.all_eq_true.mp (by decide)⟩)
  have hstart : Piece (.opening ⟨"x", ∅⟩) ['<', 'x', '>'] :=
    @Piece.opening ['x'] _ (head_name ⟨by decide, List.all_eq_true.mp (by decide)⟩)
  have hget : Piece (.leaf ⟨"get", ∅⟩) ['<', 'g', 'e', 't', '/', '>'] :=
    @Piece.leaf ['g', 'e', 't'] _ (head_name ⟨by decide, List.all_eq_true.mp (by decide)⟩)
  have hstop : Piece (.closing "x") ['<', '/', 'x', '>'] :=
    @Piece.closing ['x'] [] ⟨by decide, List.all_eq_true.mp (by decide)⟩
      (fun _ hc => absurd hc List.not_mem_nil)
  -- The source is taken apart into the pieces that it is written with.
  have hsource : source.toList = ['<', 'i', 'd', '/', '>'] ++ (['<', 'x', '>'] ++
      (['<', 'g', 'e', 't', '/', '>'] ++ [] ++ (['<', '/', 'x', '>'] ++ []))) := by decide
  have hcontent : Content source.toList template :=
    hsource ▸ .leaf hid (.container hstart (.leaf hget .nil) hstop .nil)
  have hread : parseTemplate source nestingCeiling = .ok template :=
    parseTemplate_eq_ok.mpr (Reader.build_eq_ok_iff.mpr ⟨hcontent, by decide⟩)
  rcases @parseTemplate_tooDeep source template hcontent 1 [⟨0, ⟨"id", ∅⟩⟩, ⟨0, ⟨"x", ∅⟩⟩] []
    ⟨1, ⟨"get", ∅⟩⟩ rfl (by decide) (by decide) with ⟨_, offset, hrefused⟩
  have hunread : ∀ read, parseTemplate source 1 ≠ .ok read := by
    intro read hread
    rw [hrefused] at hread
    cases hread
  rcases @guards_agree ⟨∅, ⟨registry, .memory, {}, 1⟩⟩ _ _ hregistry hlimit ⟨"u", "v"⟩ source {}
    with ⟨_, hdeep, hanswer, _⟩
  rcases hdeep template hread hunread with ⟨_, _, _, _, _, error, _, _, _, herror, _⟩
  exact ⟨registry, hregistry, hlimit, hread, ⟨error, herror⟩, hanswer offset "get" 1 hrefused⟩

end Installation

end Colloquy
