import PageTrial.Proofs.Trail
import PageTrial.Proofs.Trial.Pair

/-!
# Runs that differ in their release alone

When a session is released, the outcome of the run has been decided. So two runs go alike up to
there, and come to the same, if what they find in the world differs only in how a session can be
closed (`Twin`). `run_undisturbed` says this of any session of which two things are known: its
other operations do not notice the difference (`Matching`), and closing it fails in an ordinary way
or not at all (`Shuts`).

Up to the release the two runs leave one and the same trail, with the same times. What the release
adds to it is described by `ReleaseTail`.
-/

set_option autoImplicit false

namespace PageTrial

open Timed

variable {σ τ α : Type}

/-- The session, without anything that is to be done when it is closed. -/
def Session.unclosed (session : Session σ τ) : Session σ τ := { session with close := pure () }

namespace Trial

/-- Two moments of which only the worlds differ, and these as `W` says. -/
structure Twin (W : σ → σ → Prop) (m n : Moment σ τ) : Prop where
  now : m.now = n.now
  trail : m.trail = n.trail
  worlds : W m.world n.world

theorem parallel_twin (W : σ → σ → Prop) : Parallel (Twin (τ := τ) W) where
  clock _ _ h := h.now
  wait _ _ _ h := { h with now := rfl }
  record m n event h := by
    refine ⟨h.now, ?_, h.worlds⟩
    show m.trail.push _ = n.trail.push _
    rw [h.trail, h.now]

/-- The same change to two worlds that keeps them related. -/
theorem update_twin {W : σ → σ → Prop} {F : Fault → Fault → Prop} {deadline : Option τ}
    {f : σ → σ} (h : ∀ w w', W w w' → W (f w) (f w')) :
    Pair deadline F (Twin W) (Twin W) (update f) (update f) fun _ _ => Twin W :=
  .update fun _ _ htwin => { htwin with worlds := h _ _ htwin.worlds }

theorem world_twin {W : σ → σ → Prop} {F : Fault → Fault → Prop} {deadline : Option τ} :
    Pair deadline F (Twin W) (Twin W) Timed.world Timed.world fun w w' m n =>
      W w w' ∧ Twin W m n := .world fun _ _ htwin => htwin.worlds

/-- What is known of failures can be left out. -/
theorem loosen {W : σ → σ → Prop} {α' : Type} {deadline : Option τ} {action : Timed σ τ α}
    {other : Timed σ τ α'} {V : α → α' → Moment σ τ → Moment σ τ → Prop}
    (h : Pair deadline Eq (Twin W) (Twin W) action other V) :
    Pair deadline (fun _ _ => True) (fun _ _ => True) (Twin W) action other V :=
  h.weaken (fun _ _ _ => trivial) fun _ _ _ => trivial

/-! ## Release -/

/-- What is logged when a session has been released, well or badly. -/
inductive TellsRelease : Note τ → Prop
  | released : TellsRelease .released
  | failed (kind : Kind) : TellsRelease (.releaseFailed kind)

/-- The entries of a release: the session is asked to close, its client is called, and how that
went is logged. -/
structure ReleaseTail (entries : List (Entry τ)) : Prop where
  shape : ∃ began calls ended note, entries = ⟨began, .asked .close⟩ :: calls ++
      [⟨ended, .logged note⟩] ∧
    (∀ entry ∈ calls, ∃ c, entry.event = .called c) ∧ TellsRelease note

/-- Closing fails in an ordinary way or not at all, and leaves nothing but calls of the client. -/
def Shuts (close : Timed σ τ Unit) (m : Moment σ τ) : Prop :=
  ∃ outcome after calls, close none m = (Ending.ofExcept outcome, after) ∧
    (∀ fault, outcome = .error fault → fault.kind.isA .exception = true) ∧
    after.trail.toList = m.trail.toList ++ calls ∧
    ∀ entry ∈ calls, ∃ c, entry.event = .called c

theorem release_of_shuts {session : Session σ τ} {m : Moment σ τ}
    (h : Shuts session.close (m.record (.asked .close))) :
    ∃ after entries, release session none m = (.done (), after) ∧
      after.trail.toList = m.trail.toList ++ entries ∧ ReleaseTail entries := by
  obtain ⟨outcome, closed, calls, hclose, hordinary, htrail, hcalls⟩ := h
  have htail (note : Note τ) : (closed.record (.logged note)).trail.toList =
      m.trail.toList ++ (⟨m.now, .asked .close⟩ :: calls ++ [⟨closed.now, .logged note⟩]) := by
    rw [Moment.record, Array.toList_push, htrail]
    simp [Moment.record]
  cases outcome with
  | ok value =>
    exact ⟨_, _, release_of_done hclose, htail _,
      ⟨m.now, calls, closed.now, _, rfl, hcalls, .released⟩⟩
  | error fault =>
    have hrelease := release_of_raised hclose
    rw [if_pos (hordinary fault rfl)] at hrelease
    exact ⟨_, _, hrelease, htail _, ⟨m.now, calls, closed.now, _, rfl, hcalls, .failed _⟩⟩

/-! ## What two runs have in common -/

/-- The record that a note leaves in the log. -/
def recordAt [Timescale τ] (time : τ) (note : Note τ) : Record τ :=
  ⟨time, note.level, note.text, note.faultKind?⟩

/-- Two runs agree but for their release: they left one trail up to it, wrote the same to the
standard output, and of the records of the runner only the last one may differ. -/
structure Agree [Timescale τ] (left right : Moment σ τ) : Prop where
  trail : ∃ common entries entries', left.trail.toList = common ++ entries ∧
    right.trail.toList = common ++ entries' ∧ ReleaseTail entries ∧ ReleaseTail entries'
  stdout : left.stdout = right.stdout
  records : ∃ common ended ended' note note',
    left.records .trial = common ++ [recordAt ended note] ∧
    right.records .trial = common ++ [recordAt ended' note'] ∧
    TellsRelease note ∧ TellsRelease note'

theorem ReleaseTail.printed {entries : List (Entry τ)} (h : ReleaseTail entries) :
    (entries.map (·.event)).filterMap Event.printed? = [] := by
  obtain ⟨began, calls, ended, note, rfl, hcalls, -⟩ := h.shape
  have hsilent : (calls.map (·.event)).filterMap Event.printed? = [] := by
    rw [List.filterMap_eq_nil_iff]
    intro event hmem
    obtain ⟨entry, hentry, rfl⟩ := List.mem_map.mp hmem
    obtain ⟨c, hc⟩ := hcalls entry hentry
    rw [hc]
    rfl
  rw [List.cons_append, List.map_cons, List.map_append, List.filterMap_cons,
    List.filterMap_append, hsilent]
  rfl

theorem ReleaseTail.records [Timescale τ] {entries : List (Entry τ)} (h : ReleaseTail entries) :
    ∃ ended note, TellsRelease note ∧
      entries.filterMap (Entry.record? .trial) = [recordAt ended note] := by
  obtain ⟨began, calls, ended, note, rfl, hcalls, hnote⟩ := h.shape
  have hunlogged : calls.filterMap (Entry.record? .trial) = [] := by
    rw [List.filterMap_eq_nil_iff]
    intro entry hentry
    obtain ⟨c, hc⟩ := hcalls entry hentry
    rw [Entry.record?, hc]
    rfl
  refine ⟨ended, note, hnote, ?_⟩
  rw [List.cons_append, List.filterMap_cons, List.filterMap_append, hunlogged]
  cases hnote <;> rfl

theorem Agree.of_trail [Timescale τ] {left right : Moment σ τ} {common entries entries'}
    (hleft : left.trail.toList = common ++ entries)
    (hright : right.trail.toList = common ++ entries') (htail : ReleaseTail entries)
    (htail' : ReleaseTail entries') : Agree left right where
  trail := ⟨common, entries, entries', hleft, hright, htail, htail'⟩
  stdout := by
    unfold Moment.stdout Moment.printed Moment.events
    rw [hleft, hright]
    simp only [List.map_append, List.filterMap_append, htail.printed, htail'.printed]
  records := by
    obtain ⟨ended, note, hnote, hrecords⟩ := htail.records
    obtain ⟨ended', note', hnote', hrecords'⟩ := htail'.records
    refine ⟨common.filterMap (Entry.record? .trial), ended, ended', note, note', ?_, ?_, hnote,
      hnote'⟩
    · rw [Moment.records, hleft, List.filterMap_append, hrecords]
    · rw [Moment.records, hright, List.filterMap_append, hrecords']

/-! ## The run -/

variable [Timescale τ] {rounds : Nat} {config : Config τ} {W : σ → σ → Prop}

/-- A session whose operations do not notice how it will be closed, and which can be closed. -/
structure Releasable (W : σ → σ → Prop) (session : Session σ τ) : Prop where
  matching : Matching (Twin W) session.unclosed session.unclosed
  shuts : ∀ m n, Twin W m n → Shuts session.close m ∧ Shuts session.close n

/-- A way to open a session that gives one in neither of two twin worlds, or the same in both. -/
def OpensAlike (W : σ → σ → Prop) (openSession : Timed σ τ (Session σ τ)) : Prop :=
  ∀ m n, Twin W m n → ∀ session opened, openSession none m = (.done session, opened) →
    ∃ opened', openSession none n = (.done session, opened') ∧ Twin W opened opened' ∧
      Releasable W session

omit [Timescale τ] in
/-- Nothing need be known of the moments in which a session could not be opened. -/
theorem opensAlike_of_pair {openSession : Timed σ τ (Session σ τ)}
    (h : Pair none (fun _ _ => True) (fun _ _ => True) (Twin W) openSession openSession
      fun session other m n => (session = other ∧ Releasable W session) ∧ Twin W m n) :
    OpensAlike W openSession := by
  intro m n htwin session opened hopen
  have hpair := h m n htwin
  rw [hopen] at hpair
  generalize openSession none n = right at hpair
  cases hpair with
  | done hv =>
    obtain ⟨⟨rfl, hsession⟩, hopened⟩ := hv
    exact ⟨_, rfl, hopened, hsession⟩

/-- If a session can be opened, how it is released never changes the outcome of the run. -/
def Undisturbed (W : σ → σ → Prop) (rounds : Nat) (config : Config τ)
    (openSession : Timed σ τ (Session σ τ)) : Prop :=
  ∀ m n : Moment σ τ, Twin W m n → (openSession none (opening m)).1.isDone = true →
    ∀ ending after, (run rounds config openSession).run m = (ending, after) → ending.Settled →
      ∃ after', (run rounds config openSession).run n = (ending, after') ∧ Agree after after'

/-- Up to their release the two runs are the same, and release gives nothing to the outcome. -/
theorem run_undisturbed {openSession : Timed σ τ (Session σ τ)} (hopens : OpensAlike W openSession) :
    Undisturbed W rounds config openSession := by
  intro m n htwin hacquired ending after hrun settled
  have hE := parallel_twin (τ := τ) W
  have hopening : Twin W (opening m) (opening n) := hE.record _ _ _ (hE.record _ _ _ htwin)
  rcases run_settled hrun settled with ⟨fault, opened, hopen, -⟩ |
    ⟨session, opened, outcome, overseen, hopen, hoversee, hrelease⟩
  · rw [hopen] at hacquired
    cases hacquired
  · obtain ⟨opened', hopen', hopened, hsession⟩ := hopens _ _ hopening _ _ hopen
    -- The outcome is the same, and so is all that was left on the way to it.
    have hpair := oversee_pair (alike_of_parallel config hE) hsession.matching.sessions rounds m.now
      () opened opened' hopened
    rw [show oversee rounds config m.now session.unclosed none opened = _ from hoversee] at hpair
    obtain ⟨overseen', hoversee', hoverseen⟩ := hpair.settled
    obtain ⟨hshuts, hshuts'⟩ := hsession.shuts _ _ (hE.record _ _ (.asked .close) hoverseen)
    obtain ⟨released, entries, hreleased, htrail, htail⟩ := release_of_shuts hshuts
    obtain ⟨released', entries', hreleased', htrail', htail'⟩ := release_of_shuts hshuts'
    rw [bind_of_done hreleased, ofExcept_apply] at hrelease
    obtain ⟨rfl, rfl⟩ := Prod.mk.inj hrelease
    refine ⟨released', ?_, .of_trail htrail (hoverseen.trail ▸ htrail') htail htail'⟩
    rw [htwin.now] at hoversee'
    rw [Timed.run, run_of_overseen hopen' hoversee', bind_of_done hreleased', ofExcept_apply]

end Trial

end PageTrial
