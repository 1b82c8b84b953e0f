import Colloquy.Proofs.Template.Reading
import Mathlib.Control.Monad.Basic

/-!
# Elements That Lie Too Deep

The reader gives up at the first element that is nested inside as many others as the limit is.
Everything before that element is read as usual, because the elements before it are not too deep,
and no element can be deeper without one that is exactly too deep around it.

The limit does nothing else. Two readers with different limits do the same at every lexeme until
the lower limit ends the reading of one of them, and there is no other lexeme at which the limit is
asked for, so whatever else the reader with the lower limit comes to is what the other one comes to.

## Theorems

* `build_tooDeep`: Content is read up to the first element that is too deep.
* `parseTemplate_tooDeep`: What the grammar derives is refused for one reason only.
* `build_of_le`: A higher limit changes nothing unless the lower one is exceeded.
* `limit_only_filters`: Trees and other errors than that do not depend on the limit.
-/

namespace Colloquy

open Grammar

namespace Reader

/-- Content is read up to the first element that is too deep. That element is nested inside exactly
    as many others as the limit is. -/
theorem build_tooDeep {cs : List Char} {nodes : List Node} (h : Content cs nodes) {limit : Nat}
    {stack : List Frame} (hstack : stack.length ≤ limit) {place : Occurrence}
    (hfirst : (outline stack.length nodes).find? (fun place => limit ≤ place.around) = some place)
    (siblings : List Node) {rest : List Char} (hrest : IsStop rest) :
    place.around = limit ∧ ∃ source, build limit (Token.list (cs ++ rest)) stack siblings
      = .error ⟨source, .tooDeep place.tag.name limit⟩ := by
  -- Induction on the derivation, as for content that is read to its end.
  induction h generalizing stack siblings rest with
  | nil => cases hfirst
  | comment hpiece _ ih =>
      rw [List.append_assoc, list_piece hpiece _ trivial, build]
      exact ih hstack hfirst siblings hrest
  | text hpiece hstop _ ih =>
      rw [List.append_assoc, list_piece hpiece _ (hstop.append hrest), build]
      exact ih hstack hfirst _ hrest
  | @leaf tag piece _ _ hpiece _ ih =>
      rw [List.append_assoc, list_piece hpiece _ trivial, build]
      rw [outline, Node.outline, List.singleton_append] at hfirst
      by_cases hhere : limit ≤ stack.length
      · -- It is this element, and the stack is no longer than the limit.
        simp only [List.find?_cons, decide_eq_true hhere] at hfirst
        cases hfirst
        exact ⟨Nat.le_antisymm hstack hhere, _, if_neg (Nat.not_lt.mpr hhere)⟩
      · simp only [List.find?_cons, decide_eq_false hhere] at hfirst
        rw [if_pos (Nat.not_le.mp hhere)]
        exact ih hstack hfirst _ hrest
  | @container tag start inner stop more children nodes hstart hinner hstop _ ihInner ihRest =>
      rw [List.append_assoc, List.append_assoc, List.append_assoc, list_piece hstart _ trivial,
        build]
      rw [outline, Node.outline, List.cons_append] at hfirst
      by_cases hhere : limit ≤ stack.length
      · simp only [List.find?_cons, decide_eq_true hhere] at hfirst
        cases hfirst
        exact ⟨Nat.le_antisymm hstack hhere, _, if_neg (Nat.not_lt.mpr hhere)⟩
      · simp only [List.find?_cons, decide_eq_false hhere, List.find?_append] at hfirst
        rw [if_pos (Nat.not_le.mp hhere)]
        -- The first element that is too deep is inside this one or behind it.
        cases hinside : (outline (stack.length + 1) children).find?
            (fun place => limit ≤ place.around) with
        | some other =>
            -- One more element is open there, which the limit allows.
            rw [hinside] at hfirst
            cases hfirst
            exact @ihInner (_ :: stack) (Nat.not_le.mp hhere) hinside [] _ (isStop_closing hstop _)
        | none =>
            rw [hinside, Option.none_or] at hfirst
            -- The children are read as content then, and the closing tag behind them.
            have hroom : ∀ place ∈ outline (stack.length + 1) children, place.around < limit :=
              fun place hplace => Nat.not_le.mp fun hle =>
                List.find?_eq_none.mp hinside place hplace (decide_eq_true hle)
            rw [@build_content _ _ hinner _ (_ :: stack) hroom [] _ (isStop_closing hstop _),
              list_piece hstop _ trivial, build]
            dsimp only
            rw [if_pos rfl]
            exact ihRest hstack hfirst _ hrest

end Reader

/-- What the grammar derives is refused for one reason only: the first element that is nested inside
    as many others as the lesser of the limit and the ceiling. -/
theorem parseTemplate_tooDeep {source : String} {nodes : List Node}
    (h : Content source.toList nodes) {limit : Nat} {before after : List Occurrence}
    {place : Occurrence} (houtline : outline 0 nodes = before ++ place :: after)
    (hbefore : ∀ other ∈ before, other.around < min limit nestingCeiling)
    (hplace : min limit nestingCeiling ≤ place.around) :
    place.around = min limit nestingCeiling ∧ ∃ offset, parseTemplate source limit
      = .error ⟨offset, .tooDeep place.tag.name (min limit nestingCeiling)⟩ := by
  -- The place is the first of all that have no room, in the order of the text.
  have hfirst : (outline 0 nodes).find? (fun place => min limit nestingCeiling ≤ place.around)
      = some place := by
    rw [List.find?_eq_some_iff_append]
    refine ⟨decide_eq_true hplace, before, after, houtline, fun other hother => ?_⟩
    rw [decide_eq_false (Nat.not_le.mpr (hbefore other hother))]
    rfl
  rcases @Reader.build_tooDeep _ _ h _ [] (Nat.zero_le _) _ hfirst [] [] nofun with
    ⟨hexact, rest, hbuild⟩
  rw [List.append_nil] at hbuild
  refine ⟨hexact, ?_⟩
  unfold parseTemplate
  rw [hbuild]
  exact ⟨_, rfl⟩

namespace Reader

/-- Under a higher limit the reader comes to the same, unless it ends at an element that is too deep
    for the lower one. -/
theorem build_of_le {limit limit' : Nat} (hle : limit ≤ limit') (tokens : List Token)
    (stack : List Frame) (siblings : List Node) :
    build limit' tokens stack siblings = build limit tokens stack siblings ∨
      ∃ source tag, build limit tokens stack siblings = .error ⟨source, .tooDeep tag limit⟩ := by
  -- Induction on the lexemes, along the reader with the lower limit. Where that one goes on, the
  -- other one does, too.
  fun_induction build limit tokens stack siblings with
  | case1 siblings => exact .inl rfl
  | case2 => exact .inl rfl
  | case3 tokens stack siblings source body ih => exact ih
  | case4 tokens stack siblings source run ih => exact ih
  | case5 tokens stack siblings source tag hroom ih =>
      rw [build, if_pos (Nat.lt_of_lt_of_le hroom hle)]
      exact ih
  | case6 tokens stack siblings source tag hroom => exact .inr ⟨_, _, rfl⟩
  | case7 tokens stack siblings source tag hroom ih =>
      rw [build, if_pos (Nat.lt_of_lt_of_le hroom hle)]
      exact ih
  | case8 tokens stack siblings source tag hroom => exact .inr ⟨_, _, rfl⟩
  | case9 tokens stack siblings source name rest hroom =>
      rw [build, if_pos (Nat.lt_of_lt_of_le hroom hle)]
      exact .inl rfl
  | case10 tokens stack siblings source name rest hroom => exact .inr ⟨_, _, rfl⟩
  | case11 tokens siblings source name => exact .inl rfl
  | case12 tokens siblings source frame outer ih =>
      rw [build, if_pos rfl]
      exact ih
  | case13 tokens siblings source name frame outer hname =>
      rw [build, if_neg hname]
      exact .inl rfl
  | case14 tokens stack siblings source => exact .inl rfl

end Reader

/-- Under a higher limit a source is read as before, unless it has an element too deep for the lower
    one. -/
theorem parseTemplate_of_le {limit limit' : Nat} (hle : limit ≤ limit') (source : String) :
    parseTemplate source limit' = parseTemplate source limit ∨
      ∃ offset tag max, parseTemplate source limit = .error ⟨offset, .tooDeep tag max⟩ := by
  have hmin : min limit nestingCeiling ≤ min limit' nestingCeiling := by omega
  unfold parseTemplate
  rcases Reader.build_of_le hmin (Token.list source.toList) [] [] with
    hsame | ⟨rest, tag, hdeep⟩
  · exact .inl (by rw [hsame])
  · exact .inr ⟨_, tag, _, by rw [hdeep]; rfl⟩

/-- The limit on nesting only filters. What is read under a limit is what is read under the ceiling,
    where no element is nested inside as many others as the limit is; and whoever raises the limit
    gets the same tree again, or the same error if it was not about the limit. -/
theorem limit_only_filters (source : String) {limit limit' : Nat} (hle : limit ≤ limit') :
    (∀ nodes, parseTemplate source limit = .ok nodes ↔
      parseTemplate source nestingCeiling = .ok nodes ∧
        ∀ place ∈ outline 0 nodes, place.around < min limit nestingCeiling) ∧
    (∀ nodes, parseTemplate source limit = .ok nodes → parseTemplate source limit' = .ok nodes) ∧
    ∀ error, parseTemplate source limit = .error error →
      (∀ tag max, error.fault ≠ .tooDeep tag max) → parseTemplate source limit' = .error error := by
  -- A higher limit gives the same result, unless the lower one has stopped the reading.
  have hraise := parseTemplate_of_le hle source
  refine ⟨fun nodes => ?_, fun nodes hok => ?_, fun error herror hfault => ?_⟩
  · rw [parseTemplate_eq_ok_iff, parseTemplate_eq_ok_iff, Nat.min_self]
    constructor
    · rintro ⟨hcontent, hroom⟩
      have hceiling : ∀ place ∈ outline 0 nodes, place.around < nestingCeiling :=
        fun place hplace => Nat.lt_of_lt_of_le (hroom place hplace) (Nat.min_le_right _ _)
      exact ⟨⟨hcontent, hceiling⟩, hroom⟩
    · rintro ⟨⟨hcontent, _⟩, hroom⟩
      exact ⟨hcontent, hroom⟩
  · rcases hraise with hsame | ⟨offset, tag, max, hdeep⟩
    · exact hsame.trans hok
    · rw [hdeep] at hok
      cases hok
  · rcases hraise with hsame | ⟨offset, tag, max, hdeep⟩
    · exact hsame.trans herror
    · rw [hdeep] at herror
      cases herror
      exact absurd rfl (hfault tag max)

/-- Two elements that are open at once, of which the inner one is closed under a wrong name, under
    limits that allow them and one that allows more than the ceiling. -/
theorem limit_only_filters_mismatch :
    2 ≤ 1000 ∧ parseTemplate "é<a><b></a>" 2 = .error ⟨8, .expected .closingTag⟩ ∧
      parseTemplate "é<a><b></a>" 1000 = .error ⟨8, .expected .closingTag⟩ := by
  have herror : parseTemplate "é<a><b></a>" 2 = .error ⟨8, .expected .closingTag⟩ :=
    parseTemplate_eq_error_of_map (by decide +kernel)
  exact ⟨by decide, herror, (limit_only_filters "é<a><b></a>" (by decide)).2.2 _ herror
    fun _ _ => ParseFault.noConfusion⟩

end Colloquy
