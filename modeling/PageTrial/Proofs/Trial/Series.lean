import Mathlib.Data.List.Forall2
import PageTrial.Proofs.Trial.Itinerary

/-!
# Runs one after another

A session that has been closed can be opened again, so a test can be run any number of times in
one world. The journal of such a series is made of the journals of its runs (`Chronicle`).
-/

set_option autoImplicit false

namespace PageTrial

variable {σ τ : Type}

namespace Trial

open Timed Journal

variable [Timescale τ]

/-- Runs a test once with each way of opening a session. A fault that leaves one run does not keep
the next one from being started. -/
def series (rounds : Nat) (config : Config τ) :
    List (Timed σ τ (Session σ τ)) → Timed σ τ (List (Except Fault (Result τ)))
  | [] => return []
  | openSession :: rest => do
    let outcome ← Timed.attempt (run rounds config openSession)
    let outcomes ← series rounds config rest
    return outcome :: outcomes

/-- A series goes the same way if a journal is kept of it. -/
theorem series_journaled (rounds : Nat) (config : Config τ)
    (openings : List (Timed σ τ (Session σ τ))) :
    Pair none Eq Forgets Forgets (series rounds config openings)
      (series rounds config (openings.map Session.openJournaled)) (Same Forgets) := by
  induction openings with
  | nil => exact .pure fun m n hs => ⟨rfl, hs⟩
  | cons openSession rest ih =>
    have onward (outcome : Except Fault (Result τ)) :
        Pair none Eq Forgets Forgets
          (series rounds config rest >>= fun outcomes => pure (outcome :: outcomes))
          (series rounds config (rest.map Session.openJournaled) >>=
            fun outcomes => pure (outcome :: outcomes)) (Same Forgets) :=
      .bind ih (Pair.following fun outcomes => .pure fun m n hs => ⟨rfl, hs⟩)
    refine .attempt_bind (run_journaled rounds config openSession)
      (Pair.following fun result => onward (.ok result)) fun f g hf => ?_
    rw [hf]
    exact onward (.error g)

/-- The journal of a series, part by part. -/
theorem series_writes (rounds : Nat) (config : Config τ) (deadline : Option τ)
    (openings : List (Timed σ τ (Session σ τ))) :
    Writes Moment.journal deadline
      (WhenSettled fun outcome entries => ∀ outcomes, outcome = .ok outcomes →
        ∃ parts, entries = List.flatten parts ∧
          List.Forall₂ (RunJournal config) outcomes parts ∧ parts.length = openings.length)
      (series rounds config (openings.map Session.openJournaled)) := by
  induction openings with
  | nil =>
    refine .pure fun outcomes h => ⟨[], rfl, ?_, rfl⟩
    cases h
    exact .nil
  | cons openSession rest ih =>
    refine (run_writes rounds config openSession).attempt_settled fun outcome entries hrun => ?_
    refine ih.bind_settled ?_ ?_
    · rintro outcomes more hrest
      obtain ⟨parts, rfl, hparts, hlength⟩ := hrest outcomes rfl
      refine .pure fun all h => ⟨entries :: parts, ?_, ?_, ?_⟩
      · rw [List.append_nil, List.flatten_cons]
      · cases h
        exact .cons hrun hparts
      · rw [List.length_cons, hlength, List.length_cons]
    · rintro fault added - outcomes h
      cases h

/-- What every run keeps is kept by a series. -/
theorem series_keeps {R : Moment σ τ → Moment σ τ → Prop} (hR : Frame R) {rounds : Nat}
    {config : Config τ} {openings : List (Timed σ τ (Session σ τ))}
    (h : ∀ openSession ∈ openings, Keeps R (run rounds config openSession)) :
    Keeps R (series rounds config openings) := by
  induction openings with
  | nil => exact .pure hR []
  | cons openSession rest ih =>
    have hrest := ih fun other hmem => h other (List.mem_cons_of_mem _ hmem)
    refine .bind hR (h openSession List.mem_cons_self).attempt fun outcome => ?_
    exact .bind hR hrest fun outcomes => .pure hR _

/-- What a journal says of a series of runs that all settled. -/
structure Chronicle (rounds : Nat) (config : Config τ) (openings : List (Timed σ τ (Session σ τ)))
    (m after : Moment σ τ) (outcomes : List (Except Fault (Result τ))) (parts : List Journal) :
    Prop where
  /-- With a journal the series goes the same way, and the journal is made of the parts. -/
  kept : (series rounds config (openings.map Session.openJournaled)).run (m.withJournal []) =
    (.done outcomes, after.withJournal parts.flatten)
  /-- Each part is the journal of one run. -/
  shaped : List.Forall₂ (RunJournal config) outcomes parts
  /-- There is one part for each run. -/
  whole : parts.length = openings.length

theorem exists_chronicle {rounds : Nat} {config : Config τ}
    {openings : List (Timed σ τ (Session σ τ))} {m after : Moment σ τ}
    {outcomes : List (Except Fault (Result τ))}
    (h : (series rounds config openings).run m = (.done outcomes, after)) :
    ∃ parts, Chronicle rounds config openings m after outcomes parts := by
  have hpair := series_journaled rounds config openings m (m.withJournal []) rfl
  obtain ⟨entries, hjournal, hshape⟩ :=
    series_writes rounds config none openings (m.withJournal [])
  rw [show series rounds config openings none m = _ from h] at hpair
  generalize hright :
    series rounds config (openings.map Session.openJournaled) none (m.withJournal []) = right
    at hpair hjournal hshape
  cases hpair with
  | @done _ _ _ n hv =>
    obtain ⟨rfl, rfl⟩ := hv
    obtain ⟨parts, rfl, hparts, hlength⟩ := hshape outcomes rfl
    refine ⟨parts, ?_, hparts, hlength⟩
    show series _ _ _ none _ = _
    rw [hright, ← n.withJournal_forget, hjournal]
    rfl

end Trial

end PageTrial
