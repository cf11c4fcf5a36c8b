import PageTrial.Proofs.Session.Adapter
import PageTrial.Proofs.Trial.Pair
import PageTrial.Session.InMemory

/-!
# Three sessions for one page

A run cannot tell a session without a browser from a session over one of the two clients, if they
show the same page and nothing else goes wrong. The session without a browser and Playwright give
way only if there is time to wait; WebDriver always gives way. Giving way for no time makes no
difference before the deadline, and each reading begins before it (`Early`): the first one since
the clock is at zero when the polling begins and the time allowed is positive, and every later
one since a pause has come before it, which the deadline would have cut off.

Faults agree but for one: WebDriver gives the cause with an element that is missing. No message
shows it.
-/

set_option autoImplicit false

namespace PageTrial.Interchange

open Timed Trial

/-! ## Moments that match -/

/-- What is known of the elements that were found without a browser: the places of some ids. -/
abbrev Known := Set (String × Nat)

/-- Both worlds show the page, and its elements have been read equally often. -/
structure Shows (page : Page) (known : Known) (state : InMemory Float) (world : World Float) :
    Prop where
  elements : state.elements = page
  navigates : state.navigateFault = none
  closes : state.closeFault = none
  browser : world.browser = { elements := page, reads := world.browser.reads }
  places : ∀ entry ∈ known, state.found.place? entry.1 = some entry.2
  texts : ∀ id element, state.found.element? id = some element →
    page.lookup id = some element.texts
  reads : ∀ id, state.found.count id = world.browser.reads.count id

/-- The clocks, the outputs and the runner's logs are the same. -/
structure Mirrors (page : Page) (known : Known) (m : Moment (InMemory Float) Float)
    (n : Moment (World Float) Float) : Prop where
  clock : m.now = n.now
  shown : Double.Shown m.now
  worlds : Shows page known m.world n.world
  printed : m.printed = n.printed
  records : m.records .trial = n.records .trial

/-- Matching moments before the polling. -/
structure Begins (page : Page) (known : Known) (m : Moment (InMemory Float) Float)
    (n : Moment (World Float) Float) : Prop extends Mirrors page known m n where
  zero : m.now = 0

/-- Matching moments under a deadline that the clock may come to show. -/
structure Standing (page : Page) (known : Known) (deadline : Option Float)
    (m : Moment (InMemory Float) Float)
    (n : Moment (World Float) Float) : Prop extends Mirrors page known m n where
  reachable : ∀ limit, deadline = some limit → Double.Shown limit

/-- Matching moments before the deadline. -/
structure Early (page : Page) (known : Known) (deadline : Option Float)
    (m : Moment (InMemory Float) Float)
    (n : Moment (World Float) Float) : Prop extends Standing page known deadline m n where
  early : ∀ limit, deadline = some limit → ¬ limit ≤ m.now

/-- The faults are the same, except that only one of them may tell why an element is missing. -/
structure Similar (f g : Fault) : Prop where
  kind : f.kind = g.kind
  argument : f.argument = g.argument
  same : f.kind ≠ .elementNotFound → f = g

theorem Similar.refl (f : Fault) : Similar f f := ⟨rfl, rfl, fun _ => rfl⟩

theorem Similar.missing (id : String) (cause : Option Kind) :
    Similar (.elementNotFound id) (.elementNotFound id cause) :=
  ⟨rfl, rfl, fun h => absurd rfl h⟩

variable {page : Page} {known : Known}
variable {m : Moment (InMemory Float) Float} {n after : Moment (World Float) Float}
variable {deadline : Option Float}

theorem Mirrors.idle (h : Mirrors page known m n) : Idle page n where
  shown := by
    rw [← h.clock]
    exact h.shown
  browser := h.worlds.browser

/-- The same is recorded on both sides. -/
theorem Mirrors.record {event other : Event Float} (h : Mirrors page known m n)
    (hprinted : event.printed? = other.printed?)
    (hrecord : Entry.record? .trial ⟨m.now, event⟩ = Entry.record? .trial ⟨m.now, other⟩) :
    Mirrors page known (m.record event) (n.record other) where
  clock := h.clock
  shown := h.shown
  worlds := h.worlds
  printed := by simp [h.printed, hprinted]
  records := by simp [h.records, hrecord, ← h.clock]

theorem Mirrors.of_passed (h : Mirrors page known m n) (hpassed : Passed n after) :
    Mirrors page known m after where
  clock := h.clock.trans hpassed.now.symm
  shown := h.shown
  worlds := by
    rw [hpassed.world]
    exact h.worlds
  printed := h.printed.trans hpassed.printed.symm
  records := h.records.trans hpassed.records.symm

/-- Both worlds change, and still show the page. More may be known of them. -/
theorem Mirrors.update {known' : Known} {state : InMemory Float} {world : World Float}
    (h : Mirrors page known m n) (hworlds : Shows page known' state world) :
    Mirrors page known' { m with world := state } { n with world } where
  clock := h.clock
  shown := h.shown
  worlds := hworlds
  printed := h.printed
  records := h.records

theorem Mirrors.wait {now : Float} (h : Mirrors page known m n) (hnow : Double.Shown now) :
    Mirrors page known { m with now } { n with now } where
  clock := rfl
  shown := hnow
  worlds := h.worlds
  printed := h.printed
  records := h.records

/-! ## Waiting -/

theorem latest_shown {a b : Float} (ha : Double.Shown a) (hb : Double.Shown b) :
    Double.Shown (Timescale.latest a b) := by
  unfold Timescale.latest
  split
  · exact hb
  · exact ha

/-- Both sides give way for the same time: they are cut off, or go on before the deadline. -/
theorem suspend_pair {resume : Float → Float}
    (hresume : ∀ now, Double.Shown now → Double.Shown (resume now)) :
    Pair deadline Similar (Mirrors page known) (Standing page known deadline) (Timed.suspend resume)
      (Timed.suspend resume) fun _ _ => Early page known deadline := by
  cases deadline with
  | none =>
    refine .suspend_free (fun m n h => h.clock) fun m n h => ?_
    exact ⟨⟨h.wait (hresume _ h.shown), h.reachable⟩, fun limit hlimit => by cases hlimit⟩
  | some limit =>
    refine .suspend (fun m n h => h.clock) (fun m n h hearly => ?_) fun m n h => ?_
    · refine ⟨⟨h.wait (hresume _ h.shown), h.reachable⟩, fun limit hlimit => ?_⟩
      cases hlimit
      exact hearly
    · exact h.wait (latest_shown h.shown (h.reachable limit rfl))

theorem sleep_pair (span : Float) :
    Pair deadline Similar (Mirrors page known) (Standing page known deadline) (Timed.sleep span)
      (Timed.sleep span) fun _ _ => Early page known deadline := by
  refine suspend_pair fun now hnow => ?_
  split
  · exact hnow
  · next hspan => exact hnow.add hspan

theorem await_pair (span : Float) :
    Pair deadline Similar (Mirrors page known) (Standing page known deadline) (Timed.await span)
      (Timed.await span) fun _ _ => Standing page known deadline := by
  unfold Timed.await
  split
  · next hspan =>
    have hwait : Pair deadline Similar (Mirrors page known) (Standing page known deadline)
        (Timed.suspend (· + span)) (Timed.suspend (· + span)) fun _ _ => Early page known deadline :=
      suspend_pair fun now hnow => hnow.add (Double.not_le_of_pos hspan)
    exact hwait.mono (fun _ _ h => h) fun _ _ _ _ h => h.toStanding
  · exact .pure fun _ _ h => h

/-- Before the deadline it makes no difference to give way for no time. -/
theorem delegate_eq_await {span : Float} (hspan : 0 ≤ span) (hshown : Double.Shown n.now)
    (hearly : ∀ limit, deadline = some limit → ¬ limit ≤ n.now) :
    Timed.delegate span deadline n = Timed.await span deadline n := by
  unfold Timed.delegate Timed.await
  by_cases hpositive : 0 < span
  · rw [if_pos hpositive]
  · have hnow : n.now + span = n.now := hshown.add_nothing hspan hpositive
    rw [if_neg hpositive]
    unfold Timed.suspend
    -- Going on at the same time is going on before the deadline.
    cases deadline with
    | none =>
      dsimp only
      rw [hnow]
      rfl
    | some limit =>
      simp only [hnow, hearly limit rfl, if_false]
      rfl

/-- Ways to wait for a text that agree with waiting only if there is time to wait. -/
def Patient (page : Page) (wait : Prepared Float String → Timed (World Float) Float String) :
    Prop :=
  ∀ known deadline answer, 0 ≤ answer.delay →
    Pair deadline Similar (Mirrors page known) (Early page known deadline) answer.await (wait answer)
      (Same (Standing page known deadline))

theorem ofExcept_pair (outcome : Except Fault String) :
    Pair deadline Similar (Mirrors page known) (Standing page known deadline)
      (Timed.ofExcept outcome)
      (Timed.ofExcept outcome) (Same (Standing page known deadline)) := by
  cases outcome with
  | ok text => exact .pure fun _ _ h => ⟨rfl, h⟩
  | error fault => exact .raise (.refl fault) fun _ _ h => h.toMirrors

theorem await_patient : Patient page Prepared.await := by
  intro known deadline answer _
  refine .bind ((await_pair answer.delay).mono (fun _ _ h => h.toStanding) fun _ _ _ _ h => h) ?_
  exact fun _ _ => ofExcept_pair answer.result

theorem delegate_patient : Patient page Prepared.delegate := by
  intro known deadline answer hdelay m n h
  have hawait : Paired Similar (Mirrors page known) (Same (Standing page known deadline))
      (answer.await deadline m) (answer.await deadline n) :=
    await_patient known deadline answer hdelay m n h
  have hshown : Double.Shown n.now := by
    rw [← h.clock]
    exact h.shown
  have hearly : ∀ limit, deadline = some limit → ¬ limit ≤ n.now := by
    rw [← h.clock]
    exact h.early
  have hsame : (answer.delegate : Timed (World Float) Float String) deadline n =
      answer.await deadline n := by
    rw [Prepared.delegate, Prepared.await, bind_apply, bind_apply,
      delegate_eq_await hdelay hshown hearly]
  rwa [hsame]

/-! ## Readings -/

/-- Every element of a page shows something, after a time that is not negative. -/
structure Presentable (page : Page) : Prop where
  nonempty : ∀ entry ∈ page, entry.2 ≠ []
  delays : ∀ entry ∈ page, ∀ answer ∈ entry.2, 0 ≤ answer.delay

theorem Presentable.answer {id : String} {script : Script Float String} (h : Presentable page)
    (hfound : page.lookup id = some script) (k : Nat) :
    ∃ answer, script.answer? k = some answer ∧ 0 ≤ answer.delay := by
  obtain ⟨before, rest, hpage, -⟩ := List.lookup_eq_some_iff.mp hfound
  have hentry : (id, script) ∈ page := by
    rw [hpage]
    simp
  cases hanswer : script.answer? k with
  | none =>
    have hnonempty := h.nonempty _ hentry
    have hpositive : 0 < script.length := List.length_pos_iff.mpr hnonempty
    rw [Script.answer?, List.getElem?_eq_none_iff] at hanswer
    omega
  | some answer => exact ⟨answer, rfl, h.delays _ hentry answer (List.mem_of_getElem? hanswer)⟩

theorem Shows.read {state : InMemory Float} {world : World Float} {id : String} {place : Nat}
    (h : Shows page known state world) (hplace : state.found.place? id = some place) :
    Shows page known (state.countRead place)
      { world with browser := { world.browser with reads := world.browser.reads.bump id } } where
  elements := h.elements
  navigates := h.navigates
  closes := h.closes
  browser := by
    rw [h.browser]
  places := h.places
  texts := by
    intro other element helement
    rw [show (state.countRead place).found = state.found.advance place from rfl,
      Roster.element?_advance hplace] at helement
    split at helement
    · next hsame =>
      obtain ⟨before, hbefore, rfl⟩ := Option.map_eq_some_iff.mp helement
      rw [hsame]
      exact h.texts id before hbefore
    · exact h.texts other element helement
  reads other := by
    show (state.found.advance place).count other = (world.browser.reads.bump id).count other
    rw [Roster.count_advance hplace, Tally.count_bump, h.reads, h.reads]
    split
    · next hsame => rw [hsame]
    · rfl

theorem Early.read {id : String} {place : Nat} (h : Early page known deadline m n)
    (hplace : m.world.found.place? id = some place) :
    Early page known deadline { m with world := m.world.countRead place }
      { n.record (.fetched id) with
        world := { n.world with browser :=
          { n.world.browser with reads := n.world.browser.reads.bump id } } } where
  toMirrors := by
    have hfetched : Mirrors page known m (n.record (.fetched id)) := by
      refine h.toMirrors.of_passed ⟨rfl, rfl, ?_, ?_⟩
      · simp [Event.printed?]
      · simp [Entry.record?, Event.note?]
    exact hfetched.update (h.worlds.read hplace)
  reachable := h.reachable
  early := h.early

/-- The handle of an element is read as the element is in a browser, once it is known where the
handle leads. -/
theorem read_pair (hpage : Presentable page) {id : String} {place : Nat}
    (hknown : (id, place) ∈ known)
    {wait : Prepared Float String → Timed (World Float) Float String}
    (hwait : Patient page wait) :
    Pair deadline Similar (Mirrors page known) (Early page known deadline) (InMemory.read place)
      (World.fetch wait id) (Same (Standing page known deadline)) := by
  intro m n h
  have hplace : m.world.found.place? id = some place := h.worlds.places _ hknown
  obtain ⟨element, hmade, helement⟩ := Roster.exists_of_place hplace
  have hfound : page.lookup id = some element.texts := h.worlds.texts id element helement
  have hcount : m.world.found.count id = element.reads := by
    rw [Roster.count, helement]
    rfl
  obtain ⟨answer, hanswer, hdelay⟩ := hpage.answer hfound element.reads
  -- The element has been read equally often on both sides, so the same answer is next.
  have hleft : (m.world.found.made[place]?).bind Scripted.next? = some answer := by
    rw [hmade]
    exact hanswer
  have hright : n.world.browser.nextText? id = some answer := by
    rw [Browser.nextText?, ← h.worlds.reads, hcount, h.worlds.browser, hfound]
    exact hanswer
  unfold InMemory.read World.fetch
  rw [world_bind, hleft, emit_bind, world_bind, Moment.record_world, update_bind, hright]
  exact hwait known deadline answer hdelay _ _ (h.read hplace)

theorem reads_pair (hpage : Presentable page) {id : String} {place : Nat}
    (hknown : (id, place) ∈ known)
    {wait : Prepared Float String → Timed (World Float) Float String}
    (hwait : Patient page wait) :
    Reads Similar (Mirrors page) (fun known limit => Standing page known (some limit))
      (fun known limit => Early page known (some limit)) known (InMemory.read place)
      (World.fetch wait id) where
  free later hlater := by
    have hread : Pair none Similar (Mirrors page later) (Early page later none)
        (InMemory.read place) (World.fetch wait id) (Same (Standing page later none)) :=
      read_pair hpage (hlater hknown) hwait
    refine hread.mono (fun m n h => ?_) fun _ _ _ _ h => ⟨h.1, h.2.toMirrors⟩
    exact ⟨⟨h, fun _ hlimit => by cases hlimit⟩, fun _ hlimit => by cases hlimit⟩
  bound later hlater _ := read_pair hpage (hlater hknown) hwait

/-! ## Sessions and runs -/

theorem Begins.of_passed (h : Begins page known m n) (hpassed : Passed n after) :
    Begins page known m after :=
  ⟨h.toMirrors.of_passed hpassed, h.zero⟩

theorem Begins.update {known' : Known} {state : InMemory Float} (h : Begins page known m n)
    (hworlds : Shows page known' state n.world) : Begins page known' { m with world := state } n :=
  ⟨h.toMirrors.update hworlds, h.zero⟩

section

variable {wait : Prepared Float String → Timed (World Float) Float String}
variable {session : Session (World Float) Float}

theorem navigate_pair (hsession : Adapts page wait session) (url : String) :
    Pair none Similar (Mirrors page known) (Begins page known) (InMemory.session.navigate url)
      (session.navigate url) fun _ _ => Begins page known := by
  intro m n h
  obtain ⟨after, hnavigate, hpassed⟩ := hsession.navigate url n h.idle
  have hleft : InMemory.session.navigate url none m =
      (.done (), { m with world := { m.world with visited := m.world.visited ++ [url] } }) := by
    show InMemory.navigate url none m = _
    rw [InMemory.navigate, world_bind, h.worlds.navigates]
    rfl
  have hworlds : Shows page known { m.world with visited := m.world.visited ++ [url] } n.world :=
    ⟨h.worlds.elements, h.worlds.navigates, h.worlds.closes, h.worlds.browser,
      h.worlds.places, h.worlds.texts, h.worlds.reads⟩
  rw [hleft, hnavigate]
  exact .done ((h.update hworlds).of_passed hpassed)

theorem Shows.find {state : InMemory Float} {world : World Float} {id : String}
    {script : Script Float String} (h : Shows page known state world)
    (hfound : page.lookup id = some script) :
    Shows page (insert (id, (state.found.enter id script).1) known)
      { state with found := (state.found.enter id script).2 } world where
  elements := h.elements
  navigates := h.navigates
  closes := h.closes
  browser := h.browser
  places := by
    rintro entry (rfl | hentry)
    · rw [Roster.place?_enter, if_pos rfl]
    · exact Roster.place?_enter_of_place (h.places entry hentry) id script
  texts := by
    intro other element helement
    rw [Roster.element?_enter] at helement
    split at helement
    · next hsame =>
      cases helement
      rw [hsame]
      cases hbefore : state.found.element? id with
      | none => exact hfound
      | some before => exact h.texts id before hbefore
    · exact h.texts other element helement
  reads other := (Roster.count_enter ..).trans (h.reads other)

/-- An element that is found is read alike from then on; one that is missing is missing on both
sides. -/
theorem find_pair (hpage : Presentable page) (hwait : Patient page wait)
    (hsession : Adapts page wait session) (known : Known) (id : String) :
    Pair none Similar (Mirrors page known) (Begins page known) (InMemory.session.find id)
      (session.find id) fun element element' m n => ∃ later, (known ≤ later ∧
        Reads Similar (Mirrors page) (fun known limit => Standing page known (some limit))
          (fun known limit => Early page known (some limit)) later element.read element'.read) ∧
        Begins page later m n := by
  intro m n h
  have hscript : m.world.script? id = page.lookup id := by
    rw [InMemory.script?, h.worlds.elements]
  cases hfound : page.lookup id with
  | none =>
    obtain ⟨cause, after, hfind, hpassed⟩ := hsession.missing id n h.idle hfound
    have hleft : InMemory.session.find id none m = (.raised (.elementNotFound id), m) := by
      show InMemory.find id none m = _
      rw [InMemory.find, world_bind, hscript, hfound]
      rfl
    rw [hleft, hfind]
    exact .raised (.missing id cause) (h.toMirrors.of_passed hpassed)
  | some script =>
    obtain ⟨after, hfind, hpassed⟩ := hsession.find id n h.idle (by simp [hfound])
    have hleft : InMemory.session.find id none m =
        (.done (InMemory.handle (m.world.found.enter id script).1),
          { m with world := { m.world with found := (m.world.found.enter id script).2 } }) := by
      show InMemory.find id none m = _
      rw [InMemory.find, world_bind, hscript, hfound]
      rfl
    rw [hleft, hfind]
    -- From now on it is known where the handle leads.
    refine .done ⟨_, ⟨Set.subset_insert _ known, ?_⟩,
      (h.update (h.worlds.find hfound)).of_passed hpassed⟩
    exact reads_pair hpage (Set.mem_insert _ known) hwait

theorem close_pair (hsession : Adapts page wait session) :
    Pair none Similar (Mirrors page known) (Mirrors page known) InMemory.session.close session.close
      fun _ _ => Mirrors page known := by
  intro m n h
  obtain ⟨after, hclose, hpassed⟩ := hsession.close n h.idle
  have hleft : InMemory.session.close none m =
      (.done (), { m with world := { m.world with closeCount := m.world.closeCount + 1 } }) := by
    show InMemory.close none m = _
    rw [InMemory.close, update_bind, world_bind]
    simp [h.worlds.closes]
  have hworlds : Shows page known { m.world with closeCount := m.world.closeCount + 1 } n.world :=
    ⟨h.worlds.elements, h.worlds.navigates, h.worlds.closes, h.worlds.browser,
      h.worlds.places, h.worlds.texts, h.worlds.reads⟩
  rw [hleft, hclose]
  exact .done ((h.update hworlds).of_passed hpassed)

theorem sessions_pair (hpage : Presentable page) (hwait : Patient page wait)
    (hsession : Adapts page wait session) :
    Sessions Similar (Begins page) (Mirrors page)
      (fun known limit => Standing page known (some limit))
      (fun known limit => Early page known (some limit)) InMemory.session session where
  navigate _ := navigate_pair hsession
  find := find_pair hpage hwait hsession
  close _ := close_pair hsession

end

theorem openSession_pair (hpage : Presentable page)
    {wait : Prepared Float String → Timed (World Float) Float String}
    {session : Session (World Float) Float} {openSession : Timed (World Float) Float _}
    (hwait : Patient page wait) (hsession : Adapts page wait session)
    (hopen : ∀ n, Idle page n → Ends openSession n (.done session)) :
    Pair none Similar (Mirrors page known) (Begins page known) (InMemory.openAfter 0 none) openSession
      fun session other m n => Sessions Similar (Begins page) (Mirrors page)
        (fun known limit => Standing page known (some limit))
        (fun known limit => Early page known (some limit)) session other ∧
          Begins page known m n := by
  intro m n h
  obtain ⟨after, hopened, hpassed⟩ := hopen n h.idle
  have hleft : InMemory.openAfter 0 none none m = (.done InMemory.session, m) := by
    rw [InMemory.openAfter, bind_apply, await_free, if_neg (by decide +kernel)]
    rfl
  rw [hleft, hopened]
  exact .done ⟨sessions_pair hpage hwait hsession, h.of_passed hpassed⟩

theorem Mirrors.broke {f g : Fault} (h : Mirrors page known m n) (hsimilar : Similar f g) :
    Mirrors page known (m.record (.logged (.testBroke f))) (n.record (.logged (.testBroke g))) := by
  have hmessage : f.message = g.message := Fault.message_congr hsimilar.kind hsimilar.argument
  have hrecord (fault : Fault) :
      Entry.record? .trial (⟨m.now, .logged (.testBroke fault)⟩ : Entry Float) =
        some ⟨m.now, .error, "Exception in test driver: " ++ fault.message, some fault.kind⟩ := rfl
  apply h.record
  · rfl
  · rw [hrecord, hrecord, hmessage, hsimilar.kind]

theorem Begins.early (h : Begins page known m n) {timeout : Float} (htimeout : 0 < timeout) :
    Early page known (some (m.now + timeout)) m n where
  toMirrors := h.toMirrors
  reachable limit hlimit := by
    cases hlimit
    exact h.shown.add (Double.not_le_of_pos htimeout)
  early limit hlimit := by
    cases hlimit
    -- From zero on, the deadline is the time allowed, with no rounding.
    rw [h.zero, Double.zero_add_of_pos htimeout]
    exact Double.not_le_of_pos htimeout

theorem Mirrors.forget {less : Known} (hless : less ≤ known) (h : Mirrors page known m n) :
    Mirrors page less m n where
  clock := h.clock
  shown := h.shown
  worlds := { h.worlds with places := fun entry hentry => h.worlds.places entry (hless hentry) }
  printed := h.printed
  records := h.records

theorem alike (page : Page) {config : Config Float} (htimeout : 0 < config.timeout) :
    Alike config Similar (Begins page) (Mirrors page)
      (fun known limit => Standing page known (some limit))
      (fun known limit => Early page known (some limit)) where
  same := .refl
  kind _ _ h := h.kind
  argument _ _ h := h.argument
  clock _ _ _ h := h.clock
  asked _ _ _ _ h := h.record rfl rfl
  printed _ _ _ _ h := h.record rfl rfl
  logged _ _ _ _ h := h.record rfl rfl
  broke _ _ _ _ _ hsimilar h := h.broke hsimilar
  askedBefore _ _ _ _ h := ⟨h.toMirrors.record rfl rfl, h.zero⟩
  loggedBefore _ _ _ _ h := ⟨h.toMirrors.record rfl rfl, h.zero⟩
  begun _ _ _ h := h.toMirrors
  begins _ _ _ h := h.early htimeout
  askedEarly _ _ _ _ _ h := ⟨⟨h.toMirrors.record rfl rfl, h.reachable⟩, h.early⟩
  pause _ _ := sleep_pair _
  early _ _ _ _ h := h.toMirrors
  standing _ _ _ _ h := h.toMirrors
  forget _ _ _ _ hless h := h.forget hless

/-- The two runs end the same way, with the same output and the same log of the runner. -/
structure Agree {σ σ' : Type} (left : Ending (Result Float) × Moment σ Float)
    (right : Ending (Result Float) × Moment σ' Float) : Prop where
  ending : left.1 = right.1
  stdout : left.2.stdout = right.2.stdout
  records : left.2.records .trial = right.2.records .trial

/-- A run over an adapter goes as one over a session without a browser. -/
theorem run_agree (hpage : Presentable page) {config : Config Float} (htimeout : 0 < config.timeout)
    {wait : Prepared Float String → Timed (World Float) Float String}
    {session : Session (World Float) Float} {openSession : Timed (World Float) Float _}
    (hwait : Patient page wait) (hsession : Adapts page wait session)
    (hopen : ∀ n, Idle page n → Ends openSession n (.done session)) (h : Begins page known m n)
    (rounds : Nat) :
    Agree (run rounds config (InMemory.openAfter 0 none) none m)
      (run rounds config openSession none n) := by
  have hpair := run_pair (alike page htimeout) (openSession_pair hpage hwait hsession hopen) rounds
    m n h
  have hraised {fault : Fault} {last : Moment (InMemory Float) Float} :
      run rounds config (InMemory.openAfter 0 none) none m = (.raised fault, last) →
        fault.kind.isA .exception = false := run_raised
  generalize run rounds config (InMemory.openAfter 0 none) none m = left at hpair hraised
  generalize run rounds config openSession none n = right at hpair
  have agree {last last'} (hmirrors : Mirrors page known last last') :
      last.stdout = last'.stdout ∧ last.records .trial = last'.records .trial := by
    rw [Moment.stdout, hmirrors.printed, hmirrors.records]
    exact ⟨rfl, rfl⟩
  cases hpair with
  | done hsame =>
    obtain ⟨rfl, hmirrors⟩ := hsame
    exact ⟨rfl, (agree hmirrors).1, (agree hmirrors).2⟩
  | raised hsimilar hmirrors =>
    -- What leaves a run is no ordinary exception, so it is not the fault of a missing element.
    have hescapes := hraised rfl
    rw [hsimilar.same fun hmissing => by
      simp [hmissing, Kind.isA, Kind.lineage, Kind.above] at hescapes]
    exact ⟨rfl, (agree hmirrors).1, (agree hmirrors).2⟩
  | expired hmirrors => exact ⟨rfl, (agree hmirrors).1, (agree hmirrors).2⟩
  | unfinished hmirrors => exact ⟨rfl, (agree hmirrors).1, (agree hmirrors).2⟩

/-- The beginning of a run over a page without a browser. -/
def inMemory (page : Page) : Moment (InMemory Float) Float := ⟨0, { elements := page }, #[]⟩

/-- The beginning of a run over a browser that shows a page, whatever else there is in the world. -/
def inBrowser (page : Page) (world : World Float) : Moment (World Float) Float :=
  ⟨0, { world with browser := { elements := page } }, #[]⟩

theorem begins (page : Page) (world : World Float) :
    Begins page ∅ (inMemory page) (inBrowser page world) where
  clock := rfl
  shown := Double.shown_zero
  worlds :=
    { elements := rfl
      navigates := rfl
      closes := rfl
      browser := rfl
      places := fun _ hentry => hentry.elim
      texts := fun _ _ helement => by cases helement
      reads := fun _ => rfl }
  printed := rfl
  records := rfl
  zero := rfl

/-- Over one page, runs over the three sessions agree. -/
theorem sessions_agree {page : Page} {config : Config Float} (hpage : Presentable page)
    (htimeout : 0 < config.timeout) (world : World Float) (chromium : Playwright.Config)
    (chrome : Selenium.Config) (rounds : Nat) :
    Agree ((run rounds config (InMemory.openAfter 0 none)).run (inMemory page))
        ((run rounds config (Playwright.openSession chromium)).run (inBrowser page world)) ∧
      Agree ((run rounds config (InMemory.openAfter 0 none)).run (inMemory page))
        ((run rounds config (Selenium.openSession chrome)).run (inBrowser page world)) := by
  have hbegins := begins page world
  constructor
  · exact run_agree hpage htimeout await_patient (Playwright.session_adapts page)
      (fun n hidle => Playwright.openSession_ends hidle chromium) hbegins rounds
  · exact run_agree hpage htimeout delegate_patient (Selenium.session_adapts page)
      (fun n hidle => Selenium.openSession_ends hidle chrome) hbegins rounds

/-- A page that takes half a second to show that it is at work, and then shows at once that it has
passed. -/
def slowPage : Page :=
  [("status", [⟨0.5, .ok "Running"⟩, ⟨0, .ok "exit: 0"⟩]), ("output", [⟨0, .ok "all done"⟩])]

/-- The runs over the page come to an end, and agree. -/
theorem sessions_agree_slowPage :
    ((run 5 Config.usual (InMemory.openAfter 0 none)).run (inMemory slowPage)).1.isDone = true ∧
      Agree ((run 5 Config.usual (InMemory.openAfter 0 none)).run (inMemory slowPage))
        ((run 5 Config.usual (Playwright.openSession {})).run (inBrowser slowPage {})) ∧
      Agree ((run 5 Config.usual (InMemory.openAfter 0 none)).run (inMemory slowPage))
        ((run 5 Config.usual (Selenium.openSession {})).run (inBrowser slowPage {})) := by
  have hpage : Presentable slowPage := by
    constructor
    · simp [slowPage]
    · have htwo : (0 : Float) ≤ 0 ∧ (0 : Float) ≤ 0.5 := by decide +kernel
      simp [slowPage, htwo]
  have htimeout : 0 < Config.usual.timeout := by decide +kernel
  have hdone : ((run 5 Config.usual (InMemory.openAfter 0 none)).run
      (inMemory slowPage)).1.isDone = true := by decide +kernel
  exact ⟨hdone, sessions_agree hpage htimeout {} {} {} 5⟩

end PageTrial.Interchange
