/-
**The tour of a survey.**

A survey stops at every hop whose countries are wanted and goes on when it hears of them. Its tour
with some answers is what it comes to when it hears them one after another and goes on as far as it
can. A survey that wants nothing more has passed all hops; and a survey that hears of every place
what a function tells finds what the whole walk with that function finds.

* `Survey.tour`: the survey after some answers;
* `Survey.tour_concat`: one more answer;
* `Survey.isOver_of_satisfied`: a survey that can go no further and wants nothing is over;
* `Survey.tour_of_satisfied`, `Survey.found_tour_completeBy`, `Survey.found_tour`: a result of its
  own, that surveying a candidate step by step and at once are the same: the tour with the answers of
  a function is the whole walk.
-/

import Wayfinder.Survey

namespace Wayfinder.Survey

variable {geolocating : Bool} {survey : Survey} {count : Nat}

/-- What a survey comes to when it hears some answers one after another. -/
def tour (geolocating : Bool) (survey : Survey) : List (List String) → Survey
  | [] => survey.advance geolocating
  | countries :: rest => tour geolocating ((survey.advance geolocating).pass countries) rest

/-- **One more answer**: the survey passes the hop where it waits and goes on. -/
theorem tour_concat (answers : List (List String)) (countries : List String) :
    tour geolocating survey (answers ++ [countries]) =
      ((tour geolocating survey answers).pass countries).advance geolocating := by
  induction answers generalizing survey with
  | nil => rfl
  | cons first rest hypothesis => exact hypothesis

/-! ### Going on -/

theorem hops_pass (countries : List String) : (survey.pass countries).hops = survey.hops.tail := by
  unfold pass
  split
  · next finished => rw [finished, List.tail_nil]
  · next finished => rw [finished, List.tail_cons]

/-- At the end there is nothing more to pass. -/
theorem pass_of_isOver (finished : survey.isOver = true) (countries : List String) :
    survey.pass countries = survey := by
  unfold pass
  rw [List.isEmpty_iff.mp finished]

/-- A survey that waits at a hop goes no further. -/
theorem advance_of_wanted {place : Coordinates} (wanted : survey.wanted? geolocating = some place) :
    survey.advance geolocating = survey := by
  unfold advance
  cases survey.hops.length with
  | zero => rfl
  | succ count =>
    rw [passUpTo, wanted, Option.isSome_some, Bool.or_true, if_pos rfl]

/-- A survey that wants nothing at a hop passes it when it goes on. -/
theorem advance_of_satisfied (satisfied : survey.wanted? geolocating = none) :
    survey.advance geolocating = (survey.pass []).advance geolocating := by
  unfold advance
  rw [hops_pass, List.length_tail]
  cases rest : survey.hops.length with
  | zero =>
    have finished : survey.isOver = true := List.isEmpty_iff.mpr (List.length_eq_zero_iff.mp rest)
    rw [pass_of_isOver finished]
  | succ count =>
    have going : survey.isOver = false := by
      refine Bool.eq_false_iff.mpr fun finished => ?_
      rw [List.isEmpty_iff.mp finished] at rest
      cases rest
    rw [passUpTo, satisfied, going]
    rfl

/-- **A survey that has gone on as far as it can and wants nothing is over.** -/
theorem isOver_of_satisfied
    (satisfied : (survey.advance geolocating).wanted? geolocating = none) :
    (survey.advance geolocating).isOver = true := by
  generalize length : survey.hops.length = count
  induction count generalizing survey with
  | zero =>
    unfold advance
    rw [length]
    exact List.isEmpty_iff.mpr (List.length_eq_zero_iff.mp length)
  | succ count hypothesis =>
    cases wanted : survey.wanted? geolocating with
    | some place =>
      rw [advance_of_wanted wanted, wanted] at satisfied
      cases satisfied
    | none =>
      rw [advance_of_satisfied wanted] at satisfied ⊢
      refine hypothesis satisfied ?_
      rw [hops_pass, List.length_tail, length, Nat.add_sub_cancel]

/-! ### The whole walk -/

theorem tour_of_satisfied (satisfied : survey.wanted? geolocating = none)
    (answers : List (List String)) :
    tour geolocating survey answers = tour geolocating (survey.pass []) answers := by
  cases answers with
  | nil => exact advance_of_satisfied satisfied
  | cons countries rest => rw [tour, tour, advance_of_satisfied satisfied]

/-- The tour with the answers of a function is the walk with it, from any hop on. -/
theorem found_tour_completeBy (lookUp : Option (Coordinates → List String))
    (enough : survey.hops.length ≤ count) :
    (tour lookUp.isSome survey ((completeBy lookUp count survey).1.map
      (lookUp.getD fun _ => []))).found = (completeBy lookUp count survey).2 := by
  induction count generalizing survey with
  | zero =>
    have none : survey.hops = [] := List.length_eq_zero_iff.mp (Nat.le_zero.mp enough)
    show (survey.advance lookUp.isSome).found = survey.found
    rw [advance, none]
    rfl
  | succ count hypothesis =>
    have shorter {countries : List String} : (survey.pass countries).hops.length ≤ count := by
      rw [hops_pass, List.length_tail]
      omega
    cases wanted : survey.wanted? lookUp.isSome with
    | none =>
      have walk : completeBy lookUp (count + 1) survey = completeBy lookUp count (survey.pass []) := by
        simp only [completeBy, wanted]
      rw [walk, tour_of_satisfied wanted]
      exact hypothesis shorter
    | some place =>
      cases lookUp with
      | none => cases wanted
      | some find =>
        have walk : completeBy (some find) (count + 1) survey =
            (place :: (completeBy (some find) count (survey.pass (find place))).1,
              (completeBy (some find) count (survey.pass (find place))).2) := by
          simp only [completeBy, wanted]
        rw [walk]
        show (tour true ((survey.advance true).pass (find place)) _).found = _
        rw [show survey.advance true = survey from advance_of_wanted wanted]
        exact hypothesis shorter

/-- **A survey that hears of every place what a function tells finds what the whole walk finds.** -/
theorem found_tour (lookUp : Option (Coordinates → List String)) (candidate : Candidate) :
    (tour lookUp.isSome (ofCandidate candidate) ((complete lookUp candidate).1.map
      (lookUp.getD fun _ => []))).found = (complete lookUp candidate).2 :=
  found_tour_completeBy lookUp (Nat.le_refl _)

end Wayfinder.Survey
