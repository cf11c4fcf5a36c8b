import PageTrial.Proofs.Clock.Double
import PageTrial.Proofs.Trail
import PageTrial.Proofs.World
import PageTrial.Session.Playwright
import PageTrial.Session.Selenium

/-!
# The adapters over a browser that does not fail

If no call of the browser client fails or takes time, an adapter passes on what the page shows,
and adds nothing but calls and records of its own. `Adapts` lists what that comes to; both
adapters do it, each with its own way to wait for the text of an element.
-/

set_option autoImplicit false

namespace PageTrial

open Timed

/-- The elements on a page with their scripts. -/
abbrev Page : Type := List (String × Script Float String)

/-- A browser that shows a page and whose calls neither fail nor take time. -/
structure Idle (page : Page) (n : Moment (World Float) Float) : Prop where
  shown : Double.Shown n.now
  browser : n.world.browser = { elements := page, reads := n.world.browser.reads }

/-- Nothing has happened but what an adapter does on its own account. -/
structure Passed (n after : Moment (World Float) Float) : Prop where
  now : after.now = n.now
  world : after.world = n.world
  printed : after.printed = n.printed
  records : after.records .trial = n.records .trial

variable {page : Page} {n after last : Moment (World Float) Float}

theorem Passed.refl (n : Moment (World Float) Float) : Passed n n := ⟨rfl, rfl, rfl, rfl⟩

theorem Passed.trans (h : Passed n after) (h' : Passed after last) : Passed n last where
  now := h'.now.trans h.now
  world := h'.world.trans h.world
  printed := h'.printed.trans h.printed
  records := h'.records.trans h.records

theorem Passed.called (c : Call) (n : Moment (World Float) Float) :
    Passed n (n.record (.called c)) where
  now := rfl
  world := rfl
  printed := by simp [Event.printed?]
  records := by simp [Entry.record?, Event.note?]

theorem Passed.logged {note : Note Float} (h : note.logger ≠ .trial)
    (n : Moment (World Float) Float) : Passed n (n.record (.logged note)) where
  now := rfl
  world := rfl
  printed := by simp [Event.printed?]
  records := by simp [Entry.record?, Event.note?, h]

theorem Idle.of_passed (h : Idle page n) (hpassed : Passed n after) : Idle page after where
  shown := by
    rw [hpassed.now]
    exact h.shown
  browser := by
    rw [hpassed.world]
    exact h.browser

/-- Run without a deadline, the action does nothing but what an adapter does on its own account,
and ends so. -/
def Ends {α : Type} (action : Timed (World Float) Float α) (n : Moment (World Float) Float)
    (ending : Ending α) : Prop :=
  ∃ after, action none n = (ending, after) ∧ Passed n after

section

variable {α β : Type} {action : Timed (World Float) Float α}
variable {next : α → Timed (World Float) Float β}

theorem Ends.pure (value : α) : Ends (pure value) n (.done value) := ⟨n, rfl, .refl n⟩

theorem Ends.raise (fault : Fault) :
    Ends (raise fault : Timed (World Float) Float α) n (.raised fault) := ⟨n, rfl, .refl n⟩

theorem Ends.called (c : Call) : Ends (Timed.emit (.called c)) n (.done ()) :=
  ⟨_, rfl, .called c n⟩

theorem Ends.noted {note : Note Float} (h : note.logger ≠ .trial) :
    Ends (Timed.note note) n (.done ()) := ⟨_, rfl, .logged h n⟩

theorem Ends.bind {value : α} {ending : Ending β} (h : Ends action n (.done value))
    (hnext : ∀ after, Passed n after → Ends (next value) after ending) :
    Ends (action >>= next) n ending := by
  obtain ⟨after, haction, hpassed⟩ := h
  obtain ⟨last, hrest, hlast⟩ := hnext after hpassed
  refine ⟨last, ?_, hpassed.trans hlast⟩
  rw [bind_of_done haction, hrest]

theorem Ends.world_bind {next : World Float → Timed (World Float) Float β} {ending : Ending β}
    (h : Ends (next n.world) n ending) : Ends (Timed.world >>= next) n ending := h

theorem Ends.attempt {value : α} (h : Ends action n (.done value)) :
    Ends (Timed.attempt action) n (.done (.ok value)) := by
  obtain ⟨after, haction, hpassed⟩ := h
  exact ⟨after, attempt_eq_ok_iff.mpr haction, hpassed⟩

theorem Ends.attempt_raised {fault : Fault} (h : Ends action n (.raised fault)) :
    Ends (Timed.attempt action) n (.done (.error fault)) := by
  obtain ⟨after, haction, hpassed⟩ := h
  exact ⟨after, attempt_eq_error_iff.mpr haction, hpassed⟩

end

/-- A call takes no time, and does not fail. -/
theorem call_ends {wait : Float → Timed (World Float) Float Unit} (h : Idle page n) (c : Call)
    (hwait : ∀ after, Idle page after → wait 0 none after = (.done (), after)) :
    Ends (World.call wait c) n (.done ()) := by
  have hrecorded : Idle page (n.record (.called c)) := h.of_passed (.called c n)
  -- The browser has neither delays nor faults in store.
  have hdelay : n.world.browser.delayOf c = 0 := by
    rw [h.browser]
    rfl
  have hfault : n.world.browser.faultOf? c = none := by
    rw [h.browser]
    rfl
  refine ⟨n.record (.called c), ?_, .called c n⟩
  unfold World.call
  rw [emit_bind, Timed.world_bind, Moment.record_world, hdelay, bind_of_done (hwait _ hrecorded),
    hfault]
  rfl

/-- What an adapter does over a browser that does not fail. `wait` is how it waits for the text of
an element. -/
structure Adapts (page : Page) (wait : Prepared Float String → Timed (World Float) Float String)
    (session : Session (World Float) Float) : Prop where
  navigate : ∀ url n, Idle page n → Ends (session.navigate url) n (.done ())
  find : ∀ id n, Idle page n → (page.lookup id).isSome →
    Ends (session.find id) n (.done { read := World.fetch wait id })
  missing : ∀ id n, Idle page n → page.lookup id = none →
    ∃ cause, Ends (session.find id) n (.raised (.elementNotFound id cause))
  close : ∀ n, Idle page n → Ends session.close n (.done ())

namespace Playwright

theorem call_ends (h : Idle page n) (c : Call) : Ends (call c) n (.done ()) := by
  refine PageTrial.call_ends h c fun after _ => ?_
  rw [await_free, if_neg (by decide +kernel)]

/-- An element is asked for by two calls, whatever comes of it. -/
theorem find_ends {id : String} {ending : Ending (Element (World Float) Float)}
    (h : Idle page n)
    (hcounted : ∀ after, Idle page after → Ends
      (if after.world.browser.countOf id = 0 then Timed.raise (.elementNotFound id)
      else do
        Timed.emit (.called .first)
        return { read := World.fetch Prepared.await id }) after ending) :
    Ends (find id) n ending := by
  refine (Ends.called _).bind fun located hlocated => ?_
  refine (call_ends (h.of_passed hlocated) .count).bind fun after hafter => ?_
  exact .world_bind (hcounted after ((h.of_passed hlocated).of_passed hafter))

theorem session_adapts (page : Page) : Adapts page Prepared.await session where
  navigate url n h := by
    refine (call_ends h _).attempt.bind fun _ _ => ?_
    exact .pure ()
  find id n h hfound := by
    refine find_ends h fun after hafter => ?_
    have hcount : after.world.browser.countOf id = 1 := by
      rw [hafter.browser, Browser.countOf]
      cases hlookup : page.lookup id with
      | none => simp [hlookup] at hfound
      | some script => rfl
    rw [if_neg (by simp [hcount])]
    exact (Ends.called _).bind fun _ _ => .pure _
  missing id n h hmissing := by
    refine ⟨none, find_ends h fun after hafter => ?_⟩
    have hcount : after.world.browser.countOf id = 0 := by
      rw [hafter.browser, Browser.countOf, hmissing]
    rw [if_pos hcount]
    exact .raise _
  close n h := by
    refine (call_ends h _).attempt.bind fun closed hclosed => ?_
    exact (call_ends (h.of_passed hclosed) .stop).bind fun _ _ => .pure ()

theorem openSession_ends (h : Idle page n) (config : Config) :
    Ends (openSession config) n (.done session) := by
  refine (Ends.noted (by simp [Note.logger])).bind fun noted hnoted => ?_
  have hidle := h.of_passed hnoted
  refine (call_ends hidle .start).bind fun started hstarted => ?_
  have hidle := hidle.of_passed hstarted
  have hlaunch : Ends (do
      call (.launch (Browser.arguments config.sandbox) config.sandbox config.executable)
      call .newPage : Timed (World Float) Float Unit) started (.done ()) :=
    (call_ends hidle _).bind fun launched hlaunched => call_ends (hidle.of_passed hlaunched) _
  exact hlaunch.attempt.bind fun _ _ => .pure _

end Playwright

namespace Selenium

theorem call_ends (h : Idle page n) (c : Call) : Ends (call c) n (.done ()) := by
  refine PageTrial.call_ends h c fun after hafter => ?_
  have hnow : after.now + 0 = after.now :=
    hafter.shown.add_nothing (by decide +kernel) (by decide +kernel)
  show (Ending.done (), { after with now := after.now + 0 }) = _
  rw [hnow]

theorem guarded_ends (h : Idle page n) (attempted : String) (c : Call) :
    Ends (guarded attempted (call c)) n (.done ()) :=
  (call_ends h c).attempt.bind fun _ _ => .pure ()

/-- An element is searched for by one call, whatever comes of it. -/
theorem search_ends {id : String} {ending : Ending Unit} (h : Idle page n)
    (hsearched : ∀ after, Idle page after → Ends
      (if after.world.browser.has id then return () else Timed.raise { kind := .noSuchElement })
      after ending) :
    Ends (search id) n ending := by
  refine (call_ends h _).bind fun after hafter => ?_
  exact .world_bind (hsearched after (h.of_passed hafter))

theorem session_adapts (page : Page) : Adapts page Prepared.delegate session where
  navigate url n h := guarded_ends h _ _
  find id n h hfound := by
    have hsearch : Ends (search id) n (.done ()) := by
      refine search_ends h fun after hafter => ?_
      have hhas : after.world.browser.has id = true := by
        rw [hafter.browser]
        exact hfound
      rw [if_pos hhas]
      exact .pure ()
    exact hsearch.attempt.bind fun _ _ => .pure _
  missing id n h hmissing := by
    have hsearch : Ends (search id) n (.raised { kind := .noSuchElement }) := by
      refine search_ends h fun after hafter => ?_
      have hhas : after.world.browser.has id = false := by
        rw [hafter.browser, Browser.has, hmissing]
        rfl
      rw [if_neg (by simp [hhas])]
      exact .raise _
    refine ⟨some .noSuchElement, ?_⟩
    exact hsearch.attempt_raised.bind fun _ _ => .raise _
  close n h := call_ends h .quit

theorem openSession_ends (h : Idle page n) (config : Config) :
    Ends (openSession config) n (.done session) := by
  refine (Ends.noted (by simp [Note.logger])).bind fun noted hnoted => ?_
  exact (guarded_ends (h.of_passed hnoted) _ _).bind fun _ _ => .pure _

end Selenium

end PageTrial
