import ReleasePipeline.Proofs.Glob
import ReleasePipeline.Proofs.Publish.AllOrNothing
import ReleasePipeline.Proofs.Text.ByteOrder

/-!
# `ReleasePipeline.Proofs.Publish.PlainSelection`: artifacts selected by a plain name

The pattern of a program is its name, a dash and a star. A name without stars, question marks and
brackets stands for itself in it, and the star for whatever is behind the dash. So the pattern
accepts the texts that start with the name and the dash (`accepts_plain_iff`), separators and
leading dots included.

`selects_by_start` says what is selected: all artifacts whose file names start like this, each as
often as it is there, in the order of the bytes of their names. Artifacts of one name stay in the
order in which they were, since sorting never swaps what is tied (`filter_mergeSort`).
-/

set_option autoImplicit false

namespace ReleasePipeline.Proofs

open Glob (Token Pattern tokens)

/-! ### The pattern -/

section
variable {name : List Char}

/-- Nothing in a name has a meaning of its own in a pattern. -/
def WithoutWildcards (name : List Char) : Prop :=
  ∀ c ∈ name, c ≠ '*' ∧ c ≠ '?' ∧ c ≠ '['

/-- The characters of a plain name stand for themselves. -/
theorem WithoutWildcards.map_tokenOf (h : WithoutWildcards name) :
    name.map tokenOf = name.map Token.char := by
  refine List.map_congr_left fun c hc => ?_
  obtain ⟨hstar, hquestion, -⟩ := h c hc
  unfold tokenOf
  rw [if_neg hquestion, if_neg hstar]

/-- A plain name in front of a star is read as its characters and a run. -/
theorem WithoutWildcards.tokens_append_star (h : WithoutWildcards name) (size : Nat) :
    tokens size none (name ++ ['-', '*']) = .ok (name.map Token.char ++ [.char '-', .anyRun]) := by
  have hclass : '[' ∉ name := fun hmem => (h _ hmem).2.2 rfl
  have hstars : ¬ ['*', '*'] <:+: name := fun hwithin =>
    (h '*' (hwithin.subset List.mem_cons_self)).1 rfl
  rw [tokens_append hclass hstars (by decide) fun _ => tokens_dash_star, h.map_tokenOf]

/-- A character that stands for itself matches a text that starts with it. -/
theorem matches_char_iff {c : Char} {behind : List Token} {text : List Char} :
    Matches (.char c :: behind) text ↔ ∃ after, text = c :: after ∧ Matches behind after := by
  have hchar : Token.char c ≠ .anyRun := nofun
  rw [matches_cons_iff hchar]
  constructor
  · rintro ⟨d, after, rfl, hholds, hafter⟩
    obtain rfl : d = c := eq_of_beq hholds
    exact ⟨after, rfl, hafter⟩
  · rintro ⟨after, rfl, hafter⟩
    exact ⟨c, after, rfl, beq_self_eq_true c, hafter⟩

/-- So do several of them. -/
theorem matches_map_char_iff {behind : List Token} {text : List Char} :
    Matches (name.map Token.char ++ behind) text ↔
      ∃ after, text = name ++ after ∧ Matches behind after := by
  induction name generalizing text with
  | nil => exact ⟨fun h => ⟨text, rfl, h⟩, fun ⟨_, htext, h⟩ => htext ▸ h⟩
  | cons c rest ih =>
      rw [List.map_cons, List.cons_append, matches_char_iff]
      constructor
      · rintro ⟨others, rfl, hothers⟩
        obtain ⟨after, rfl, hafter⟩ := ih.mp hothers
        exact ⟨after, rfl, hafter⟩
      · rintro ⟨after, rfl, hafter⟩
        exact ⟨rest ++ after, rfl, ih.mpr ⟨after, rfl, hafter⟩⟩

end

/-- The pattern of a plain name accepts what starts with the name and a dash. -/
theorem accepts_plain_iff {binary : String} (h : WithoutWildcards binary.toList) :
    ∃ pattern, Pattern.ofText (binary ++ "-*") = .ok pattern ∧
      ∀ text, pattern.accepts text = true ↔ (binary ++ "-").toList <+: text.toList := by
  refine ⟨⟨binary.toList.map Token.char ++ [.char '-', .anyRun]⟩, ?_, fun text => ?_⟩
  · have htext : (binary ++ "-*").toList = binary.toList ++ ['-', '*'] := String.toList_append
    unfold Pattern.ofText
    rw [htext, h.tokens_append_star]
    rfl
  · have hdash : (binary ++ "-").toList = binary.toList ++ ['-'] := String.toList_append
    have hflat : .anyComponents ∉ binary.toList.map Token.char ++ [.char '-', .anyRun] := by
      simp
    rw [accepts_iff_matches hflat, matches_map_char_iff, hdash]
    constructor
    · rintro ⟨after, htext, hafter⟩
      obtain ⟨others, rfl, -⟩ := matches_char_iff.mp hafter
      exact ⟨others, by rw [htext, List.append_assoc]; rfl⟩
    · rintro ⟨others, htext⟩
      -- The star stands for all that is behind the dash.
      have hrun : Matches [.anyRun] others := matches_anyRun_iff.mpr ⟨[], List.nil_suffix, .nil⟩
      exact ⟨'-' :: others, by rw [← htext, List.append_assoc]; rfl, .one rfl hrun⟩

/-! ### The order -/

/-- Sorting keeps the order of what is tied. -/
theorem filter_mergeSort {α : Type} {le : α → α → Bool}
    (htrans : ∀ a b c, le a b = true → le b c = true → le a c = true)
    (htotal : ∀ a b, (le a b || le b a) = true) {p : α → Bool}
    (htied : ∀ a b, p a = true → p b = true → le a b = true) (items : List α) :
    (items.mergeSort le).filter p = items.filter p := by
  have hsorted : (items.filter p).Pairwise fun a b => le a b = true :=
    List.pairwise_of_forall_mem_list fun a ha b hb =>
      htied a b (List.mem_filter.mp ha).2 (List.mem_filter.mp hb).2
  have hsub : (items.filter p).Sublist ((items.mergeSort le).filter p) := by
    have hkept := (List.sublist_mergeSort htrans htotal hsorted List.filter_sublist).filter p
    simpa only [List.filter_filter, Bool.and_self] using hkept
  have hlength : (items.filter p).length = ((items.mergeSort le).filter p).length :=
    ((List.mergeSort_perm items le).filter p).length_eq.symm
  exact (hsub.eq_of_length hlength).symm

/-- **A plain name selects by its start.** The pattern made of a name without stars, question
marks and brackets is never refused. What it selects are exactly the artifacts whose file names
start with the name and a dash, each as often as it is there. They stand in the order of the bytes
of their names, and those of one name in the order in which they were given. -/
theorem selects_by_start (artifacts : List Artifact) (binary : String)
    (hplain : ∀ c ∈ binary.toList, c ≠ '*' ∧ c ≠ '?' ∧ c ≠ '[') :
    ∃ selected, selectArtifacts artifacts (binary ++ "-*") = .ok selected ∧
      selected.Perm
        (artifacts.filter fun artifact => (binary ++ "-").toList <+: artifact.fileName.toList) ∧
      selected.Pairwise (fun a b => bytes a.fileName ≤ bytes b.fileName) ∧
      ∀ name, selected.filter (·.fileName = name) =
        artifacts.filter fun artifact =>
          artifact.fileName = name ∧ (binary ++ "-").toList <+: artifact.fileName.toList := by
  obtain ⟨pattern, hpattern, haccepts⟩ := accepts_plain_iff hplain
  have hfilter : (artifacts.filter fun artifact => pattern.accepts artifact.fileName) =
      artifacts.filter fun artifact => (binary ++ "-").toList <+: artifact.fileName.toList :=
    List.filter_congr fun artifact _ => Bool.eq_iff_iff.mpr (by rw [haccepts, decide_eq_true_eq])
  have hselect : selectArtifacts artifacts (binary ++ "-*") = .ok
      ((artifacts.filter
        fun artifact => (binary ++ "-").toList <+: artifact.fileName.toList).mergeSort
        fun a b => decide (a.fileName ≤ b.fileName)) := by
    unfold selectArtifacts
    rw [hpattern, ← hfilter]
    rfl
  obtain ⟨-, -, -, hsorted⟩ := selectArtifacts_spec hselect
  refine ⟨_, hselect, List.mergeSort_perm _ _, hsorted.imp bytes_le_iff.mpr, fun name => ?_⟩
  -- Artifacts of one name are ties, and sorting leaves ties in their order.
  have htied : ∀ a b : Artifact,
      decide (a.fileName = name) = true → decide (b.fileName = name) = true →
        decide (a.fileName ≤ b.fileName) = true := by
    intro a b ha hb
    rw [of_decide_eq_true ha, of_decide_eq_true hb]
    exact decide_eq_true (String.le_refl name)
  rw [filter_mergeSort fileName_le_trans fileName_le_total htied, List.filter_filter]
  exact List.filter_congr fun artifact _ => (Bool.decide_and _ _).symm

/-- Some artifacts, two of them with one name. -/
def mixedArtifacts : List Artifact :=
  [⟨"linux", ⟨"dist/seeker-linux"⟩, "seeker-linux"⟩, ⟨"other", ⟨"dist/seek-all"⟩, "seek-all"⟩,
   ⟨"nested", ⟨"dist/seeker-/.a"⟩, "seeker-/.a"⟩, ⟨"none", ⟨"dist/seeker-"⟩, "seeker-"⟩,
   ⟨"again", ⟨"cache/seeker-linux"⟩, "seeker-linux"⟩, ⟨"hidden", ⟨".seeker-x"⟩, ".seeker-x"⟩,
   ⟨"ö", ⟨"dist/seeker-ö"⟩, "seeker-ö"⟩]

/-- Of these a plain name selects what starts with it. The two of one name stay in their order. -/
theorem selects_by_start_mixed :
    (∀ c ∈ "seeker".toList, c ≠ '*' ∧ c ≠ '?' ∧ c ≠ '[') ∧
    ∃ selected, selectArtifacts mixedArtifacts ("seeker" ++ "-*") = .ok selected ∧
      (selected.map (·.os)).Perm ["linux", "nested", "none", "again", "ö"] ∧
      selected.Pairwise (fun a b => bytes a.fileName ≤ bytes b.fileName) ∧
      (selected.filter (·.fileName = "seeker-linux")).map (·.os) = ["linux", "again"] := by
  have hplain : ∀ c ∈ "seeker".toList, c ≠ '*' ∧ c ≠ '?' ∧ c ≠ '[' := by simp
  obtain ⟨selected, hselect, hperm, hsorted, hstable⟩ :=
    selects_by_start mixedArtifacts "seeker" hplain
  refine ⟨hplain, selected, hselect, (hperm.map _).trans (.of_eq ?_), hsorted, ?_⟩
  · decide
  · rw [hstable "seeker-linux"]
    decide

end ReleasePipeline.Proofs
