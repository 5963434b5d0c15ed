import Mathlib.Data.List.Infix
import ReleasePipeline.Glob
import ReleasePipeline.Proofs.Support.Except

/-!
# `ReleasePipeline.Proofs.Glob`: what a pattern matches

`Matches` says what it means for the tokens of a pattern to match a text, and says nothing of how
a match is found. `accepts_iff_matches` is the bridge: the matcher, which tries one end of the
text after the other and gives up early where the text is too short, finds a match whenever there
is one. `judge_spec` carries the reason along: where a text is too short for some tokens, so is
every end of it.

The other half of the module is about reading. A text without a class is read character by
character (`tokens_append`), unless two stars stand in a row (`tokens_append_error`). A text of
one component gives no token that stands for whole components
(`OneComponent.anyComponents_notMem`), so that the bridge covers every pattern made of such a
text.
-/

set_option autoImplicit false

namespace ReleasePipeline.Proofs

open Glob (Token Verdict judge afterRun tokens readClass takeClass)

/-! ### Matching -/

/-- Tokens match a text: each of them stands for a stretch of it, in their order. -/
inductive Matches : List Token → List Char → Prop where
  | nil : Matches [] []
  | one {token rest c text} (holds : token.holds c = true) (behind : Matches rest text) :
      Matches (token :: rest) (c :: text)
  | run {rest text} (skipped : List Char) (behind : Matches rest text) :
      Matches (.anyRun :: rest) (skipped ++ text)

section
variable {token : Token} {rest : List Token} {c : Char} {text : List Char}

/-- No token matches nothing but the empty text. -/
theorem matches_nil_iff : Matches [] text ↔ text = [] := by
  constructor
  · rintro ⟨⟩
    rfl
  · rintro rfl
    exact .nil

/-- A run of characters takes all but some end of a text, which the rest matches. -/
theorem matches_anyRun_iff :
    Matches (.anyRun :: rest) text ↔ ∃ after, after <:+ text ∧ Matches rest after := by
  constructor
  · intro h
    cases h with
    | one holds behind => cases holds
    | run skipped behind => exact ⟨_, List.suffix_append _ _, behind⟩
  · rintro ⟨after, ⟨skipped, rfl⟩, behind⟩
    exact .run skipped behind

/-- Any other token takes the first character. -/
theorem matches_cons_iff (h : token ≠ .anyRun) :
    Matches (token :: rest) text ↔
      ∃ c behind, text = c :: behind ∧ token.holds c = true ∧ Matches rest behind := by
  constructor
  · intro hmatches
    cases hmatches with
    | one holds behind => exact ⟨_, _, rfl, holds, behind⟩
    | run skipped behind => exact absurd rfl h
  · rintro ⟨c, behind, rfl, holds, hmatches⟩
    exact .one holds hmatches

/-- A token for one character is held against the first one, and judging goes on behind both. -/
theorem judge_cons_cons (h : token ≠ .anyRun) (hcomponents : token ≠ .anyComponents) :
    judge (token :: rest) (c :: text) = if token.holds c then judge rest text else .differs := by
  cases token with
  | anyRun => exact absurd rfl h
  | anyComponents => exact absurd rfl hcomponents
  | char | anyChar | oneOf => rfl

/-- A token for one character cannot be held against a text that has ended. -/
theorem judge_cons_nil (h : token ≠ .anyRun) (hcomponents : token ≠ .anyComponents) :
    judge (token :: rest) [] = .tooShort := by
  cases token with
  | anyRun => exact absurd rfl h
  | anyComponents => exact absurd rfl hcomponents
  | char | anyChar | oneOf => rfl

/-- What a judge tells of texts is what it tells of the ends of a text: the first of them that is
not known to differ decides. -/
theorem judged_ends {wanted : List Char → Prop} {judge : List Char → Verdict}
    (hfits : ∀ text, judge text = .fits ↔ wanted text)
    (hshort : ∀ text, judge text = .tooShort → ∀ after, after <:+ text → ¬ wanted after)
    (text : List Char) :
    (Verdict.first judge (afterRun text) = .fits ↔ ∃ after, after <:+ text ∧ wanted after) ∧
    (Verdict.first judge (afterRun text) = .tooShort →
      ∀ after, after <:+ text → ¬ wanted after) := by
  induction text with
  | nil =>
      simp only [afterRun, Verdict.first, List.suffix_nil, exists_eq_left, forall_eq, ← hfits]
      cases judge [] <;> simp
  | cons c text ih =>
      have hends : (∃ after, after <:+ c :: text ∧ wanted after) ↔
          wanted (c :: text) ∨ ∃ after, after <:+ text ∧ wanted after := by
        simp only [List.suffix_cons_iff, or_and_right, exists_or, exists_eq_left]
      rw [hends, ← hfits]
      unfold afterRun Verdict.first
      cases hverdict : judge (c :: text) with
      | fits => exact ⟨⟨fun _ => .inl rfl, fun _ => rfl⟩, nofun⟩
      | tooShort =>
          -- No end of the text is wanted, so the ends behind the first need no look.
          have hnone := hshort _ hverdict
          refine ⟨⟨nofun, ?_⟩, fun _ => hnone⟩
          rintro (hfirst | ⟨after, hafter, hwanted⟩)
          · cases hfirst
          · exact absurd hwanted (hnone after (hafter.trans (List.suffix_cons c text)))
      | differs =>
          have hnot : ¬ wanted (c :: text) := by
            rw [← hfits, hverdict]
            exact nofun
          refine ⟨ih.1.trans (or_iff_right nofun).symm, fun hrest after hafter => ?_⟩
          rcases List.suffix_cons_iff.mp hafter with rfl | hafter
          · exact hnot
          · exact ih.2 hrest after hafter

/-- The verdict on a text is a match where the tokens match it, and a text that is too short has
no end that they match. No token may stand for whole components. -/
theorem judge_spec {tokens : List Token} (hflat : .anyComponents ∉ tokens) (text : List Char) :
    (judge tokens text = .fits ↔ Matches tokens text) ∧
    (judge tokens text = .tooShort → ∀ after, after <:+ text → ¬ Matches tokens after) := by
  induction tokens generalizing text with
  | nil =>
      rw [matches_nil_iff]
      cases text <;> simp [judge]
  | cons token rest ih =>
      obtain ⟨hone, hrest⟩ := List.ne_and_not_mem_of_not_mem_cons hflat
      have ih := ih hrest
      by_cases hrun : token = .anyRun
      · subst hrun
        obtain ⟨hfits, hshort⟩ :=
          judged_ends (fun text => (ih text).1) (fun text => (ih text).2) text
        refine ⟨hfits.trans matches_anyRun_iff.symm, fun hverdict after hafter hmatches => ?_⟩
        obtain ⟨last, hlast, hmatches⟩ := matches_anyRun_iff.mp hmatches
        exact hshort hverdict last (hlast.trans hafter) hmatches
      · simp only [matches_cons_iff hrun]
        cases text with
        | nil =>
            rw [judge_cons_nil hrun hone.symm]
            simp
        | cons c text =>
            rw [judge_cons_cons hrun hone.symm]
            by_cases hholds : token.holds c = true
            · rw [if_pos hholds]
              refine ⟨(ih text).1.trans ⟨fun h => ⟨c, text, rfl, hholds, h⟩, ?_⟩, ?_⟩
              · rintro ⟨_, _, heq, -, hmatches⟩
                cases heq
                exact hmatches
              · rintro hverdict after hafter ⟨d, behind, rfl, -, hmatches⟩
                -- What is left behind the first character of an end is an end of what is left.
                have hbehind : behind <:+ text := by
                  rcases List.suffix_cons_iff.mp hafter with heq | hafter
                  · cases heq
                    exact List.suffix_refl _
                  · exact (List.suffix_cons d behind).trans hafter
                exact (ih text).2 hverdict behind hbehind hmatches
            · rw [if_neg hholds]
              refine ⟨⟨nofun, ?_⟩, nofun⟩
              rintro ⟨_, _, heq, hother, -⟩
              cases heq
              exact absurd hother hholds

/-- A pattern accepts the texts that its tokens match. -/
theorem accepts_iff_matches {pattern : Glob.Pattern} (hflat : .anyComponents ∉ pattern.tokens)
    (text : String) : pattern.accepts text = true ↔ Matches pattern.tokens text.toList := by
  unfold Glob.Pattern.accepts
  rw [decide_eq_true_eq]
  exact (judge_spec hflat text.toList).1

end

/-! ### Reading -/

/-- The token that a character is read as, where no class begins. -/
def tokenOf (c : Char) : Token :=
  if c = '?' then .anyChar else if c = '*' then .anyRun else .char c

/-- A text matches what it is read as. -/
theorem matches_map_tokenOf {behind : List Token} {after : List Char} (h : Matches behind after)
    (text : List Char) : Matches (text.map tokenOf ++ behind) (text ++ after) := by
  induction text with
  | nil => exact h
  | cons c rest ih =>
      rw [List.map_cons, List.cons_append, List.cons_append]
      unfold tokenOf
      split
      · exact .one rfl ih
      · split
        · exact .run [c] ih
        · exact .one (beq_self_eq_true c) ih

section
variable {size : Nat} {previous : Option Char} {text rest after : List Char} {c : Char}
  {token : Token}

/-- A character that begins neither a class nor a second star is read as a token of its own. -/
theorem tokens_cons (hclass : c ≠ '[') (hstars : c = '*' → rest.head? ≠ some '*') :
    tokens size previous (c :: rest) = (tokens size (some c) rest).map (tokenOf c :: ·) := by
  unfold tokenOf
  -- The two wildcards are one character each, and any other character stands for itself.
  by_cases hquestion : c = '?'
  · subst hquestion
    rw [tokens]
    rfl
  · rw [if_neg hquestion]
    by_cases hstar : c = '*'
    · subst hstar
      have hnone : ∀ others, rest ≠ '*' :: others := by
        rintro others rfl
        exact hstars rfl rfl
      rw [if_pos rfl, tokens]
      · exact fun others heq => hnone _ heq
      · exact hnone
    · rw [if_neg hstar, tokens]
      all_goals simp [hquestion, hstar, hclass]

/-- A star behind a dash is a run. -/
theorem tokens_dash_star : tokens size previous ['-', '*'] = .ok [.char '-', .anyRun] := by
  rw [tokens_cons (by decide) (by decide), tokens_cons (by decide) (by decide), tokens]
  rfl

/-- Two stars in a row are refused, unless they end the pattern or a separator stands behind
them. -/
theorem tokens_stars (hend : rest ≠ []) (hslash : rest.head? ≠ some '/') :
    ∃ error, tokens size previous ('*' :: '*' :: rest) = .error error := by
  cases rest with
  | nil => exact absurd rfl hend
  | cons c others =>
      by_cases hstar : c = '*'
      · subst hstar
        rw [tokens]
        exact ⟨_, rfl⟩
      · have hnone : ∀ tail, c :: others ≠ '*' :: tail := by
          intro tail heq
          exact hstar (List.cons.inj heq).1
        have hother : c ≠ '/' := by
          rintro rfl
          exact hslash rfl
        -- Wherever the stars stand, something is wrong with them.
        rw [tokens]
        · split <;> exact ⟨_, rfl⟩
        · exact hnone
        · exact List.cons_ne_nil c others
        · intro after heq
          exact hother (List.cons.inj heq).1

/-- A text is read character by character where it holds no class and no two stars in a row. -/
theorem tokens_append {name tail : List Char} {behind : List Token} (hclass : '[' ∉ name)
    (hstars : ¬ ['*', '*'] <:+: name) (htail : tail.head? ≠ some '*')
    (hbehind : ∀ previous, tokens size previous tail = .ok behind) :
    tokens size previous (name ++ tail) = .ok (name.map tokenOf ++ behind) := by
  induction name generalizing previous with
  | nil => exact hbehind previous
  | cons c rest ih =>
      obtain ⟨hc, hrest⟩ := List.ne_and_not_mem_of_not_mem_cons hclass
      -- A star at the end of the name meets no star at the front of the tail.
      have hfront : c = '*' → (rest ++ tail).head? ≠ some '*' := by
        rintro rfl
        cases rest with
        | nil => exact htail
        | cons d others =>
            intro heq
            obtain rfl : d = '*' := Option.some_inj.mp heq
            exact hstars (List.prefix_append ['*', '*'] others).isInfix
      have hthere : ¬ ['*', '*'] <:+: rest :=
        fun h => hstars (h.trans (List.suffix_cons c rest).isInfix)
      rw [List.cons_append, tokens_cons hc.symm hfront, ih hrest hthere]
      rfl

/-- A text with two stars in a row is refused where something other than a separator stands
behind. -/
theorem tokens_append_error {name tail : List Char} (hclass : '[' ∉ name) (hslash : '/' ∉ name)
    (hstars : ['*', '*'] <:+: name) (htail : tail ≠ []) (hseparator : tail.head? ≠ some '/') :
    ∃ error, tokens size previous (name ++ tail) = .error error := by
  induction name generalizing previous with
  | nil => exact absurd (List.eq_nil_of_infix_nil hstars) (by decide)
  | cons c rest ih =>
      obtain ⟨hc, hrest⟩ := List.ne_and_not_mem_of_not_mem_cons hclass
      obtain ⟨-, hnone⟩ := List.ne_and_not_mem_of_not_mem_cons hslash
      by_cases hfront : ['*', '*'] <+: c :: rest
      · obtain ⟨others, hothers⟩ := hfront
        cases hothers
        refine tokens_stars (List.append_ne_nil_of_right_ne_nil others htail) ?_
        cases others with
        | nil => exact hseparator
        | cons d others =>
            intro heq
            obtain rfl : d = '/' := Option.some_inj.mp heq
            exact hnone (List.mem_cons_of_mem _ (List.mem_cons_self ..))
      · -- The stars stand further behind, so the first character is read and they are met later.
        have hthere := (List.infix_cons_iff.mp hstars).resolve_left hfront
        have hstar : c = '*' → (rest ++ tail).head? ≠ some '*' := by
          rintro rfl
          cases rest with
          | nil => exact absurd (List.eq_nil_of_infix_nil hthere) (by decide)
          | cons d others =>
              intro heq
              obtain rfl : d = '*' := Option.some_inj.mp heq
              exact hfront (List.prefix_append ['*', '*'] others)
        obtain ⟨error, herror⟩ : ∃ error, tokens size (some c) (rest ++ tail) = .error error :=
          ih hrest hnone hthere
        rw [List.cons_append, tokens_cons hc.symm hstar, herror]
        exact ⟨error, rfl⟩

/-! ### Whole components -/

/-- What stands behind a class is the end of what stood behind its opening bracket. -/
theorem suffix_of_takeClass {chars : List Char} (h : takeClass text = some (chars, after)) :
    after <:+ text := by
  cases text with
  | nil => cases h
  | cons first rest =>
      simp only [takeClass] at h
      have hdropped := List.dropWhile_suffix (l := rest) (· ≠ ']')
      split at h
      next => cases h
      next hrest =>
        obtain ⟨-, rfl⟩ := Prod.mk.inj (Option.some_inj.mp h)
        rw [hrest] at hdropped
        exact (List.suffix_cons _ _).trans (hdropped.trans (List.suffix_cons _ _))

/-- A class is no wildcard, and the rest of the pattern stands behind it. -/
theorem readClass_spec (h : readClass text = some (token, after)) :
    token ≠ .anyComponents ∧ after <:+ text := by
  unfold readClass at h
  split at h
  all_goals
    obtain ⟨⟨chars, behind⟩, htaken, heq⟩ := Option.map_eq_some_iff.mp h
    cases heq
  · exact ⟨nofun, (suffix_of_takeClass htaken).trans (List.suffix_cons _ _)⟩
  · exact ⟨nofun, suffix_of_takeClass htaken⟩

/-- Reading one more token that is no double star adds no double star. -/
theorem anyComponents_notMem_map {ε : Type} {result : Except ε (List Token)} {found : List Token}
    (h : result.map (token :: ·) = .ok found) (htoken : token ≠ .anyComponents)
    (hothers : ∀ others, result = .ok others → .anyComponents ∉ others) :
    .anyComponents ∉ found := by
  obtain ⟨others, hresult, rfl⟩ := map_eq_ok.mp h
  exact List.not_mem_cons_of_ne_of_not_mem htoken.symm (hothers others hresult)

/-- A text in which two stars cannot stand for whole components: nothing separates components, and
no stars are at its end. -/
structure OneComponent (text : List Char) : Prop where
  noSlash : '/' ∉ text
  noStars : ¬ ['*', '*'] <:+ text

/-- The end of a text for one component is one as well. -/
theorem OneComponent.of_suffix (h : OneComponent text) (hafter : after <:+ text) :
    OneComponent after :=
  ⟨fun hmem => h.noSlash (hafter.mem hmem), fun hstars => h.noStars (hstars.trans hafter)⟩

/-- No token of such a text stands for whole components. -/
theorem OneComponent.anyComponents_notMem {found : List Token} (hone : OneComponent text)
    (h : tokens size previous text = .ok found) : .anyComponents ∉ found := by
  -- Two stars stand for components at the end of a text (case 4) or in front of a separator (case
  -- 5), and there is neither.
  fun_induction tokens size previous text generalizing found with
  | case1 =>
      cases h
      exact List.not_mem_nil
  | case2 previous rest ih =>
      refine anyComponents_notMem_map h nofun fun others => ?_
      exact ih (hone.of_suffix (List.suffix_cons _ rest))
  | case4 => exact absurd (List.suffix_refl _) hone.noStars
  | case5 => exact absurd (by simp) hone.noSlash
  | case8 previous rest _ _ ih =>
      refine anyComponents_notMem_map h nofun fun others => ?_
      exact ih (hone.of_suffix (List.suffix_cons _ rest))
  | case10 previous rest token after hclass _ ih =>
      obtain ⟨htoken, hafter⟩ := readClass_spec hclass
      refine anyComponents_notMem_map h htoken fun others => ?_
      exact ih (hone.of_suffix (hafter.trans (List.suffix_cons _ rest)))
  | case11 previous c rest _ _ _ _ _ ih =>
      refine anyComponents_notMem_map h nofun fun others => ?_
      exact ih (hone.of_suffix (List.suffix_cons _ rest))
  | case3 | case6 | case7 | case9 => cases h

end
end ReleasePipeline.Proofs
