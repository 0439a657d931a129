import AbilityHooks.Proofs.KeptStretches
import Mathlib.Data.List.Infix

/-!
# All finds of a search

A search for all finds goes on behind each of them, so a run that begins inside a find is passed
over. Each find is a run from some place of the text. Where no run begins inside another one, nothing
is passed over: there are as many finds as places with a run. Words with white space between them are
counted by these places.
-/

namespace AbilityHooks

variable {before : Option Char} {front back chars taken : List Char}

/-- The ends of a text that pass a test are counted alike behind characters at which none passes. -/
theorem countP_tails_append {holds : List Char → Bool}
    (silent : ∀ early late, front = early ++ late → late ≠ [] → holds (late ++ back) = false) :
    (front ++ back).tails.countP holds = back.tails.countP holds := by
  induction front with
  | nil => rfl
  | cons c rest ih =>
    have here := silent [] (c :: rest) rfl (List.cons_ne_nil _ _)
    have later := ih fun early late split => silent (c :: early) late (congrArg (c :: ·) split)
    rw [List.cons_append] at here ⊢
    rw [List.tails, List.countP_cons_of_neg (ne_true_of_eq_false here), later]

namespace Pattern

variable {p : Pattern} {place : Place}

/-- Each of all finds is a run from a place of the text. -/
theorem run_of_mem_all {found : Found} (among : found ∈ p.all place) :
    ∃ skipped start, place.Leads skipped start ∧ (found.captures, found.after) ∈ p.runs start := by
  have first {place : Place} {found : Found} (search : p.find? place = some found) :
      ∃ skipped start, place.Leads skipped start ∧ (found.captures, found.after) ∈ p.runs start := by
    obtain ⟨skipped, start, leads, prefers, -⟩ := find?_eq_some_iff.mp search
    exact ⟨skipped, start, leads, prefers.mem_runs⟩
  fun_induction all p place with
  | case1 place none => cases among
  | case2 place here search shorter ih =>
    rcases List.mem_cons.mp among with rfl | later
    · exact first search
    · obtain ⟨ahead, start, leads, run⟩ := first search
      obtain ⟨taken, -, covers⟩ := spells_of_run run
      obtain ⟨skipped, again, further, inside⟩ := ih later
      exact ⟨ahead ++ (taken ++ skipped), again, Place.Leads.append_iff.mpr
        ⟨start, leads, Place.Leads.append_iff.mpr ⟨_, covers, further⟩⟩, inside⟩
  | case3 place here search longer =>
    obtain rfl := List.mem_singleton.mp among
    exact first search

/-- No run begins inside another one, and every run takes something. -/
structure RunsApart (p : Pattern) : Prop where
  filled : ∀ taken, p.Spells taken → taken ≠ []
  silent : ∀ taken early late rest before, p.Spells taken → taken = early ++ late → early ≠ [] →
    late ≠ [] → p.runs ⟨before, late ++ rest⟩ = []

/-- Whether a pattern has a run at the beginning of some characters. -/
def begins (p : Pattern) (chars : List Char) : Bool := (p.at? ⟨none, chars⟩).isSome

/-- A pattern without word edges has a run at the beginning of characters if they begin with a
stretch that it spells. -/
theorem runs_ne_nil_iff (blind : p.edgeless = true) : p.runs ⟨before, chars⟩ ≠ [] ↔
    ∃ taken rest, p.Spells taken ∧ chars = taken ++ rest := by
  constructor
  · intro run
    obtain ⟨⟨kept, stop⟩, inside⟩ := List.exists_mem_of_ne_nil _ run
    obtain ⟨taken, spells, leads⟩ := spells_of_run inside
    exact ⟨taken, stop.rest, spells, leads.rest⟩
  · rintro ⟨taken, rest, spells, rfl⟩
    have leads : Place.Leads ⟨before, taken ++ rest⟩ taken _ := .of_rest rfl
    obtain ⟨kept, run⟩ := run_of_spells blind spells leads
    exact List.ne_nil_of_mem run

/-- Such characters are told by trying the pattern. -/
theorem begins_iff (blind : p.edgeless = true) : p.begins chars = true ↔
    ∃ taken rest, p.Spells taken ∧ chars = taken ++ rest := by
  rw [← @runs_ne_nil_iff none _ _ blind, begins, Option.isSome_iff_ne_none, ne_eq, at?_eq_none_iff]

/-- Where the runs of a pattern are apart, there are as many finds as places with a run. -/
theorem length_all (blind : p.edgeless = true) (apart : p.RunsApart) (place : Place) :
    (p.all place).length = place.rest.tails.countP p.begins := by
  have quiet {before : Option Char} {chars : List Char} (none : p.runs ⟨before, chars⟩ = []) :
      p.begins chars = false := by
    rw [← Bool.not_eq_true, begins_iff blind, ← @runs_ne_nil_iff before _ _ blind]
    exact not_not_intro none
  fun_induction all p place with
  | case1 place none =>
    refine (List.countP_eq_zero.mpr fun tail ending => ?_).symm
    obtain ⟨skipped, split⟩ := (List.mem_tails _ _).mp ending
    have silent : p.runs ⟨skipped.getLast?.or place.before, tail⟩ = [] := by
      by_contra run
      have found := find?_isSome_iff.mpr ⟨skipped, _, Place.Leads.of_rest split.symm, run⟩
      rw [none] at found
      cases found
    exact ne_true_of_eq_false (quiet silent)
  | case2 place found search shorter ih =>
    obtain ⟨skipped, start, leads, prefers, leftmost⟩ := find?_eq_some_iff.mp search
    obtain ⟨taken, spells, covers⟩ := spells_of_run prefers.mem_runs
    obtain ⟨c, letters, rfl⟩ := List.exists_cons_of_ne_nil (apart.filled taken spells)
    have passed : place.rest.tails.countP p.begins = start.rest.tails.countP p.begins := by
      rw [leads.rest]
      refine countP_tails_append fun early late split filled => ?_
      have reached : place.Leads early ⟨early.getLast?.or place.before, late ++ start.rest⟩ :=
        .of_rest (by rw [leads.rest, split, List.append_assoc])
      have less : early.length < skipped.length := by
        have := List.length_pos_iff.mpr filled
        rw [split, List.length_append]
        omega
      exact quiet (leftmost early _ reached less)
    have inside : (letters ++ found.after.rest).tails.countP p.begins =
        found.after.rest.tails.countP p.begins := by
      refine countP_tails_append fun early late split filled => ?_
      exact @quiet none _ (apart.silent (c :: letters) (c :: early) late _ none spells
        (congrArg (c :: ·) split) (List.cons_ne_nil _ _) filled)
    have here : p.begins (c :: (letters ++ found.after.rest)) = true :=
      (begins_iff blind).mpr ⟨c :: letters, found.after.rest, spells, rfl⟩
    rw [List.length_cons, ih, passed, covers.rest, List.cons_append, List.tails,
      List.countP_cons_of_pos here, inside]
  | case3 place found search longer =>
    obtain ⟨_, start, leads, prefers, -⟩ := find?_eq_some_iff.mp search
    obtain ⟨taken, spells, covers⟩ := spells_of_run prefers.mem_runs
    have filled := List.length_pos_iff.mpr (apart.filled taken spells)
    rw [leads.rest, covers.rest, List.length_append, List.length_append] at longer
    omega

end Pattern

end AbilityHooks
