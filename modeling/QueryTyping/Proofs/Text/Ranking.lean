import Mathlib.Data.List.Sort
import Mathlib.Data.List.TakeWhile
import Mathlib.Data.Prod.Lex
import Mathlib.Data.String.Basic
import Mathlib.Tactic.Tauto
import QueryTyping.Proofs.Text.EditDistance
import QueryTyping.Suggestion

/-!
# The closest names

The candidates for a name that was not found have a rank: the edit distance in lower case counts
first, then the order of the code points. A ranking lists the candidates that are close enough, each
once, by their ranks (`IsRanking`), and there is exactly one; whether a list is the ranking can be
decided without sorting (`isRanking_iff`). What is suggested is the beginning of the ranking
(`suggest_eq_take_ranking`).

The list that is computed is sorted with all repetitions, and what equals its neighbour is dropped
afterwards. That is enough, since the distance is a function of the name: entries with the same name
are the same, so that none of them is lost with another (`mem_dropRepeats`), and they stand side by
side (`pairwise_dropRepeats`).
-/

namespace QueryTyping

variable {name : String} {candidates ranking ranking' : List String} {maxDistance : Nat}
  {entries : List (Nat × String)} {config : SuggestionConfig}

/-! ## Ranks -/

/-- The least number of edits that lead from one name to the other, both in lower case. -/
def lowerDistance (a b : String) : Nat :=
  Text.distance (Text.lowerCase a.toList) (Text.lowerCase b.toList)

/-- The code points of a name. -/
def codePoints (name : String) : List Nat := name.toList.map Char.toNat

/-- Where a candidate for a name stands: the distance decides, then the code points. -/
def rank (name candidate : String) : ℕ ×ₗ List ℕ :=
  toLex (lowerDistance name candidate, codePoints candidate)

/-- The candidates other than the name itself that are close enough to it, each once, by rank. -/
structure IsRanking (name : String) (candidates : List String) (maxDistance : Nat)
    (ranking : List String) : Prop where
  nodup : ranking.Nodup
  ordered : ranking.Pairwise fun a b => rank name a < rank name b
  mem_iff : ∀ candidate, candidate ∈ ranking ↔
    candidate ∈ candidates ∧ candidate ≠ name ∧ lowerDistance name candidate ≤ maxDistance

theorem nameDistance_eq_lowerDistance (a b : String) : nameDistance a b = lowerDistance a b :=
  Text.editDistance_eq_distance _ _

theorem map_toNat_lt_iff (l l' : List Char) : l.map Char.toNat < l'.map Char.toNat ↔ l < l' := by
  induction l generalizing l' with
  | nil => cases l' <;> simp
  | cons c l ih =>
    cases l' with
    | nil => simp
    | cons d l' =>
      rw [List.map_cons, List.map_cons, List.cons_lt_cons_iff, List.cons_lt_cons_iff, ih]
      simp only [Char.toNat_inj]
      rfl

theorem codePoints_le_iff (a b : String) : codePoints a ≤ codePoints b ↔ a ≤ b := by
  rw [← not_lt, ← not_lt, codePoints, codePoints, map_toNat_lt_iff, String.lt_iff_toList_lt]

theorem closerEq_iff (a b : Nat × String) : closerEq a b = true ↔ toLex a ≤ toLex b := by
  simp [closerEq, Prod.Lex.le_iff]

theorem rank_le_iff (name a b : String) :
    rank name a ≤ rank name b ↔
      closerEq (nameDistance name a, a) (nameDistance name b, b) = true := by
  rw [closerEq_iff, nameDistance_eq_lowerDistance, nameDistance_eq_lowerDistance]
  simp only [rank, Prod.Lex.le_iff, ofLex_toLex, codePoints_le_iff]

theorem rank_lt_iff (name a b : String) :
    rank name a < rank name b ↔
      ¬closerEq (nameDistance name b, b) (nameDistance name a, a) = true := by
  rw [← rank_le_iff, not_le]

theorem rank_injective (name : String) : Function.Injective (rank name) := by
  intro a b h
  have hcode : codePoints a = codePoints b := congrArg (fun r => (ofLex r).2) h
  exact le_antisymm ((codePoints_le_iff a b).mp hcode.le) ((codePoints_le_iff b a).mp hcode.ge)

/-- There is at most one ranking. -/
theorem IsRanking.eq (h : IsRanking name candidates maxDistance ranking)
    (h' : IsRanking name candidates maxDistance ranking') : ranking = ranking' := by
  have hirrefl : Std.Irrefl fun a b => rank name a < rank name b := ⟨fun _ => lt_irrefl _⟩
  have hantisymm : Std.Antisymm fun a b => rank name a < rank name b :=
    ⟨fun _ _ hab hba => (lt_asymm hab hba).elim⟩
  exact h.ordered.eq_of_mem_iff h'.ordered fun candidate =>
    (h.mem_iff candidate).trans (h'.mem_iff candidate).symm

theorem nodup_of_ordered (h : ranking.Pairwise fun a b => rank name a < rank name b) :
    ranking.Nodup := by
  refine h.imp fun hlt heq => ?_
  exact lt_irrefl _ (heq ▸ hlt)

/-- Whether a list is the ranking is seen by comparing its entries and going through the
candidates. -/
theorem isRanking_iff :
    IsRanking name candidates maxDistance ranking ↔
      (ranking.Pairwise fun a b =>
        ¬closerEq (nameDistance name b, b) (nameDistance name a, a) = true) ∧
      (∀ candidate ∈ ranking, candidate ∈ candidates ∧ candidate ≠ name ∧
        nameDistance name candidate ≤ maxDistance) ∧
      ∀ candidate ∈ candidates, candidate ≠ name → nameDistance name candidate ≤ maxDistance →
        candidate ∈ ranking := by
  simp only [← rank_lt_iff]
  simp only [nameDistance_eq_lowerDistance]
  constructor
  · intro h
    refine ⟨h.ordered, fun candidate => (h.mem_iff candidate).mp, ?_⟩
    intro candidate hmem hne hclose
    exact (h.mem_iff candidate).mpr ⟨hmem, hne, hclose⟩
  · rintro ⟨hordered, hsound, hcomplete⟩
    refine ⟨nodup_of_ordered hordered, hordered, fun candidate => ⟨hsound candidate, ?_⟩⟩
    rintro ⟨hmem, hne, hclose⟩
    exact hcomplete candidate hmem hne hclose

instance : Decidable (IsRanking name candidates maxDistance ranking) :=
  decidable_of_iff' _ isRanking_iff

/-! ## Repetitions -/

/-- Each entry holds the distance of its name. -/
def Scored (name : String) (entries : List (Nat × String)) : Prop :=
  ∀ entry ∈ entries, entry.1 = nameDistance name entry.2

theorem Scored.eq_of_name_eq (h : Scored name entries) {a b : Nat × String} (ha : a ∈ entries)
    (hb : b ∈ entries) (heq : a.2 = b.2) : a = b := by
  refine Prod.ext ?_ heq
  rw [h a ha, h b hb, heq]

theorem Scored.rank_le (h : Scored name entries) {a b : Nat × String} (ha : a ∈ entries)
    (hb : b ∈ entries) (hab : closerEq a b = true) : rank name a.2 ≤ rank name b.2 := by
  rw [rank_le_iff, ← h a ha, ← h b hb]
  exact hab

/-- Only entries that equal another are dropped. -/
theorem mem_dropRepeats (h : Scored name entries) (entry : Nat × String) :
    entry ∈ dropRepeats entries ↔ entry ∈ entries := by
  induction entries with
  | nil => rfl
  | cons first rest ih =>
    have ih := ih fun other hother => h other (List.mem_cons_of_mem first hother)
    rw [dropRepeats, List.mem_cons, List.mem_cons]
    constructor
    · rintro (rfl | hmem)
      · exact Or.inl rfl
      · exact Or.inr (ih.mp ((List.dropWhile_sublist _).mem hmem))
    · rintro (rfl | hmem)
      · exact Or.inl rfl
      · have hkept := ih.mpr hmem
        have hsplit := (dropRepeats rest).takeWhile_append_dropWhile (p := (·.2 == first.2))
        rw [← hsplit, List.mem_append] at hkept
        refine hkept.imp_left fun hdropped => ?_
        have hname := List.mem_takeWhile_imp hdropped
        exact h.eq_of_name_eq (List.mem_cons_of_mem first hmem) List.mem_cons_self
          (beq_iff_eq.mp hname)

/-- In a sorted list all repetitions are dropped. -/
theorem pairwise_dropRepeats (h : Scored name entries)
    (hsorted : entries.Pairwise fun a b => closerEq a b = true) :
    (dropRepeats entries).Pairwise fun a b => rank name a.2 < rank name b.2 := by
  induction entries with
  | nil => exact List.Pairwise.nil
  | cons first rest ih =>
    have hrest : Scored name rest := fun other hother => h other (List.mem_cons_of_mem first hother)
    obtain ⟨hfirst, hsorted⟩ := List.pairwise_cons.mp hsorted
    have ih := ih hrest hsorted
    have hleft := ih.sublist (List.dropWhile_sublist (·.2 == first.2))
    have hle (entry : Nat × String) (hentry : entry ∈ dropRepeats rest) :
        rank name first.2 ≤ rank name entry.2 := by
      have hmem := (mem_dropRepeats hrest entry).mp hentry
      exact h.rank_le List.mem_cons_self (List.mem_cons_of_mem first hmem) (hfirst entry hmem)
    rw [dropRepeats]
    refine List.pairwise_cons.mpr ⟨fun entry hentry => ?_, hleft⟩
    -- what is left begins with another name, and all that follows is ranked higher
    cases hcases : (dropRepeats rest).dropWhile (·.2 == first.2) with
    | nil => simp [hcases] at hentry
    | cons next others =>
      have hnext : next ∈ dropRepeats rest :=
        (List.dropWhile_sublist (·.2 == first.2)).mem (hcases ▸ List.mem_cons_self)
      have hne : next.2 ≠ first.2 := by
        have hnil : (dropRepeats rest).dropWhile (·.2 == first.2) ≠ [] := by simp [hcases]
        simpa [hcases] using List.head_dropWhile_not _ hnil
      have hlt : rank name first.2 < rank name next.2 :=
        lt_of_le_of_ne (hle next hnext) fun heq => hne (rank_injective name heq).symm
      rw [hcases] at hentry hleft
      rcases List.mem_cons.mp hentry with rfl | hentry
      · exact hlt
      · exact hlt.trans (List.rel_of_pairwise_cons hleft hentry)

/-! ## What is suggested -/

theorem sorted_mergeSort (entries : List (Nat × String)) :
    (entries.mergeSort closerEq).Pairwise fun a b => closerEq a b = true := by
  refine List.pairwise_mergeSort ?_ ?_ entries
  · intro a b c hab hbc
    rw [closerEq_iff] at hab hbc ⊢
    exact hab.trans hbc
  · intro a b
    rw [Bool.or_eq_true, closerEq_iff, closerEq_iff]
    exact le_total _ _

/-- The candidates other than the name that are close enough, with their distances. -/
def closeEntries (name : String) (candidates : List String) (maxDistance : Nat) :
    List (Nat × String) :=
  ((candidates.filter (· != name)).map fun candidate =>
    (nameDistance name candidate, candidate)).filter (·.1 ≤ maxDistance)

theorem mem_closeEntries_iff (entry : Nat × String) :
    entry ∈ closeEntries name candidates maxDistance ↔
      entry.1 = nameDistance name entry.2 ∧ entry.2 ∈ candidates ∧ entry.2 ≠ name ∧
        nameDistance name entry.2 ≤ maxDistance := by
  obtain ⟨distance, candidate⟩ := entry
  simp only [closeEntries, List.mem_filter, List.mem_map, bne_iff_ne, Prod.mk.injEq,
    decide_eq_true_eq]
  constructor
  · rintro ⟨⟨_, ⟨hmem, hne⟩, rfl, rfl⟩, hclose⟩
    exact ⟨rfl, hmem, hne, hclose⟩
  · rintro ⟨rfl, hmem, hne, hclose⟩
    exact ⟨⟨candidate, ⟨hmem, hne⟩, rfl, rfl⟩, hclose⟩

/-- The ranking as it is computed. -/
def computedRanking (name : String) (candidates : List String) (maxDistance : Nat) : List String :=
  (dropRepeats ((closeEntries name candidates maxDistance).mergeSort closerEq)).map (·.2)

theorem isRanking_computedRanking (name : String) (candidates : List String) (maxDistance : Nat) :
    IsRanking name candidates maxDistance (computedRanking name candidates maxDistance) := by
  have hscored : Scored name ((closeEntries name candidates maxDistance).mergeSort closerEq) :=
    fun entry hentry => ((mem_closeEntries_iff entry).mp (List.mem_mergeSort.mp hentry)).1
  have hordered : (computedRanking name candidates maxDistance).Pairwise fun a b =>
      rank name a < rank name b :=
    List.pairwise_map.mpr (pairwise_dropRepeats hscored (sorted_mergeSort _))
  refine ⟨nodup_of_ordered hordered, hordered, fun candidate => ?_⟩
  simp only [computedRanking, List.mem_map, mem_dropRepeats hscored, List.mem_mergeSort,
    mem_closeEntries_iff, nameDistance_eq_lowerDistance]
  constructor
  · rintro ⟨entry, ⟨-, hclose⟩, rfl⟩
    exact hclose
  · intro hclose
    exact ⟨(lowerDistance name candidate, candidate), ⟨rfl, hclose⟩, rfl⟩

theorem suggest_of_enabled (h : config.enabled = true) (name : String) (candidates : List String) :
    suggest config name candidates =
      (computedRanking name candidates config.maxDistance.toNat).take
        config.maxSuggestions.toNat := by
  by_cases hzero : config.maxSuggestions = 0
  · simp [suggest, hzero]
  · simp [suggest, h, hzero, computedRanking, closeEntries, List.map_take]

theorem IsRanking.suggest_eq (h : config.enabled = true)
    (hranking : IsRanking name candidates config.maxDistance.toNat ranking) :
    suggest config name candidates = ranking.take config.maxSuggestions.toNat := by
  rw [suggest_of_enabled h, hranking.eq (isRanking_computedRanking name candidates _)]

theorem IsRanking.congr (h : IsRanking name candidates maxDistance ranking)
    {candidates' : List String}
    (hsame : ∀ candidate, candidate ∈ candidates' ↔ candidate ∈ candidates) :
    IsRanking name candidates' maxDistance ranking :=
  ⟨h.nodup, h.ordered, fun candidate => by rw [h.mem_iff, hsame]⟩

/-- A beginning of the ranking holds whatever is ranked before one of its names. -/
theorem IsRanking.mem_take (h : IsRanking name candidates maxDistance ranking) {n : Nat}
    {a b : String} (hb : b ∈ ranking.take n) (ha : a ∈ ranking) (hlt : rank name a < rank name b) :
    a ∈ ranking.take n := by
  have hordered := h.ordered
  rw [← List.take_append_drop n ranking, List.pairwise_append] at hordered
  rw [← List.take_append_drop n ranking, List.mem_append] at ha
  refine ha.resolve_right fun hdropped => ?_
  exact lt_asymm hlt (hordered.2.2 b hb a hdropped)

/-- Where names are suggested, they are the beginning of the one ranking of the candidates, as long
as the settings allow. So no name is suggested twice, order and repetition of the candidates make no
difference, a candidate is not passed over for one that is ranked behind it, and whoever asks for
more names gets the same ones first. -/
theorem suggest_eq_take_ranking (h : config.enabled = true) (name : String)
    (candidates : List String) :
    (∃! ranking, IsRanking name candidates config.maxDistance.toNat ranking) ∧
    (∀ ranking, IsRanking name candidates config.maxDistance.toNat ranking →
      suggest config name candidates = ranking.take config.maxSuggestions.toNat) ∧
    (suggest config name candidates).Nodup ∧
    (∀ candidates', (∀ candidate, candidate ∈ candidates' ↔ candidate ∈ candidates) →
      suggest config name candidates' = suggest config name candidates) ∧
    (∀ suggestion ∈ suggest config name candidates, ∀ candidate ∈ candidates, candidate ≠ name →
      rank name candidate < rank name suggestion → candidate ∈ suggest config name candidates) ∧
    ∀ more, config.maxSuggestions ≤ more →
      suggest config name candidates <+:
        suggest { config with maxSuggestions := more } name candidates := by
  have hranking := isRanking_computedRanking name candidates config.maxDistance.toNat
  have hsuggest := suggest_of_enabled h name
  refine ⟨⟨_, hranking, fun other hother => hother.eq hranking⟩, ?_, ?_, ?_, ?_, ?_⟩
  · exact fun ranking hother => hother.suggest_eq h
  · rw [hsuggest]
    exact hranking.nodup.sublist (List.take_sublist _ _)
  · intro candidates' hsame
    rw [hranking.suggest_eq h, (hranking.congr hsame).suggest_eq h]
  · intro suggestion hsuggestion candidate hcandidate hne hlt
    rw [hsuggest] at hsuggestion ⊢
    refine hranking.mem_take hsuggestion ?_ hlt
    obtain ⟨-, -, hclose⟩ := (hranking.mem_iff suggestion).mp (List.mem_of_mem_take hsuggestion)
    exact (hranking.mem_iff candidate).mpr
      ⟨hcandidate, hne, (Prod.Lex.monotone_fst _ _ hlt.le).trans hclose⟩
  · intro more hmore
    have henabled : ({ config with maxSuggestions := more } : SuggestionConfig).enabled = true := h
    rw [hsuggest, suggest_of_enabled henabled]
    exact List.take_prefix_take_left (UInt64.le_iff_toNat_le.mp hmore)

/-- Two names are as close as each other, one differs from the name in letter case only, one is
among the candidates twice, and one is too far away. -/
theorem suggest_eq_take_ranking_of_repeated :
    let config : SuggestionConfig := { maxSuggestions := 3 }
    let candidates := ["emails", "mail", "email", "identifier", "EMAI", "email"]
    config.enabled = true ∧
      suggest config "emai" candidates = ["EMAI", "email", "emails"] ∧
      suggest config "emai" ["mail", "EMAI", "email", "identifier", "emails"] =
        ["EMAI", "email", "emails"] ∧
      ["EMAI", "email", "emails"] <+:
        suggest { config with maxSuggestions := 4 } "emai" candidates := by
  intro config candidates
  have hranking : IsRanking "emai" candidates 2 ["EMAI", "email", "emails", "mail"] := by
    decide +kernel
  have hmore : config.maxSuggestions ≤ 4 := by decide
  have henabled : config.enabled = true := rfl
  obtain ⟨-, htake, -, hsame, -, hextends⟩ := suggest_eq_take_ranking henabled "emai" candidates
  have hsuggest : suggest config "emai" candidates = ["EMAI", "email", "emails"] :=
    htake _ hranking
  refine ⟨henabled, hsuggest, ?_, ?_⟩
  · rw [hsame, hsuggest]
    intro candidate
    simp only [candidates, List.mem_cons, List.not_mem_nil]
    tauto
  · rw [← hsuggest]
    exact hextends 4 hmore

end QueryTyping
