import PageTrial.Proofs.Trial.Series
import PageTrial.Session.InMemory

/-!
# The account of a session without a browser

A session without a browser counts how often it is closed and lists the addresses that it loads.
`Accounted` relates this account to the journal, operation by operation; what the journal of a
series looks like then gives the account after it. The session is closed as often as it was opened,
and it visits the page once for each run that got as far.
-/

set_option autoImplicit false

namespace PageTrial

variable {τ α : Type}

namespace Journal

/-- How often a session was closed. -/
def closings (journal : Journal) : Nat := journal.countP fun entry => entry.1 = .close

/-- The addresses that were loaded. -/
def landings (journal : Journal) : List String :=
  journal.filterMap fun
    | (.navigate url, .done ()) => some url
    | _ => none

/-- Whether the session was opened. -/
def opened (journal : Journal) : Bool :=
  journal.any fun
    | (.openSession, .done ()) => true
    | _ => false

/-- Whether the page was loaded. -/
def landed (journal : Journal) : Bool :=
  journal.any fun
    | (.navigate _, .done ()) => true
    | _ => false

@[simp] theorem closings_append (journal more : Journal) :
    closings (journal ++ more) = closings journal + closings more := List.countP_append

@[simp] theorem landings_append (journal more : Journal) :
    landings (journal ++ more) = landings journal ++ landings more := List.filterMap_append

@[simp] theorem landed_append (journal more : Journal) :
    landed (journal ++ more) = (landed journal || landed more) := List.any_append

end Journal

namespace InMemory

open Timed Trial Journal

/-- The account is the one before, with what the journal has gained. -/
def Accounted (m n : Moment (InMemory τ × Journal) τ) : Prop :=
  ∃ entries, n.journal = m.journal ++ entries ∧
    n.world.1.closeCount = m.world.1.closeCount + closings entries ∧
    n.world.1.visited = m.world.1.visited ++ landings entries

/-- The account is the one before. -/
def Idle (m n : Moment (InMemory τ) τ) : Prop :=
  n.world.closeCount = m.world.closeCount ∧ n.world.visited = m.world.visited

/-- The action does to the account what its entry says. -/
def Accounts (operation : Operation) (action : Timed (InMemory τ) τ α) : Prop :=
  ∀ deadline m,
    (action deadline m).2.world.closeCount =
        m.world.closeCount + closings [(operation, (action deadline m).1.forget)] ∧
      (action deadline m).2.world.visited =
        m.world.visited ++ landings [(operation, (action deadline m).1.forget)]

theorem accounted_of_eq {m n : Moment (InMemory τ × Journal) τ} (hjournal : n.journal = m.journal)
    (hworld : n.world.1 = m.world.1) : Accounted m n := by
  refine ⟨[], ?_, ?_, ?_⟩
  · rw [hjournal, List.append_nil]
  · rw [hworld]
    rfl
  · rw [hworld]
    exact (List.append_nil _).symm

theorem framed_accounted : Framed (Accounted (τ := τ)) where
  refl _ := accounted_of_eq rfl rfl
  trans := by
    rintro m₁ m₂ m₃ ⟨entries, hjournal, hclose, hvisited⟩ ⟨more, hjournal', hclose', hvisited'⟩
    refine ⟨entries ++ more, ?_, ?_, ?_⟩
    · rw [hjournal', hjournal, List.append_assoc]
    · rw [hclose', hclose, closings_append, Nat.add_assoc]
    · rw [hvisited', hvisited, landings_append, List.append_assoc]
  wait _ _ := accounted_of_eq rfl rfl
  asked _ _ _ := accounted_of_eq rfl rfl
  printed _ _ := accounted_of_eq rfl rfl
  logged _ _ _ := accounted_of_eq rfl rfl

theorem frame_idle : Frame (Idle (τ := τ)) where
  refl _ := ⟨rfl, rfl⟩
  trans h₁ h₂ := ⟨h₂.1.trans h₁.1, h₂.2.trans h₁.2⟩
  wait _ _ := ⟨rfl, rfl⟩

theorem Accounts.keeps {operation : Operation} {action : Timed (InMemory τ) τ α}
    (h : Accounts operation action) : Keeps Accounted (entered operation action) := by
  intro deadline m
  obtain ⟨hclose, hvisited⟩ := h deadline m.forget
  exact ⟨_, rfl, hclose, hvisited⟩

/-- The operations that the account does not mention. -/
theorem Accounts.of_idle {operation : Operation} {action : Timed (InMemory τ) τ α}
    (h : Keeps Idle action)
    (hquiet : ∀ ending, closings [(operation, ending)] = 0 ∧ landings [(operation, ending)] = []) :
    Accounts operation action := by
  intro deadline m
  obtain ⟨hclose, hvisited⟩ := h deadline m
  obtain ⟨hclosings, hlandings⟩ := hquiet (action deadline m).1.forget
  rw [hclose, hvisited, hclosings, hlandings, List.append_nil]
  exact ⟨rfl, rfl⟩

/-! ## The element behind an id -/

/-- The element that a lookup gives: the one that was found before, or a new one. -/
def current? (state : InMemory τ) (id : String) : Option (Scripted τ) :=
  (state.script? id).map fun texts => (state.found.element? id).getD { texts }

theorem current?_of_place {state : InMemory τ} {id : String} {place : Nat} {element : Scripted τ}
    (hplace : state.found.place? id = some place) (h : state.current? id = some element) :
    state.found.made[place]? = some element := by
  obtain ⟨found, hmade, hfound⟩ := Roster.exists_of_place hplace
  obtain ⟨texts, -, helement⟩ := Option.map_eq_some_iff.mp h
  rw [hfound] at helement
  cases helement
  exact hmade

/-- A lookup gives what the next lookup would have given, and changes nothing about that. -/
theorem current?_find {state : InMemory τ} {id : String} {texts : Script τ String}
    (h : state.script? id = some texts) (other : String) :
    { state with found := (state.found.enter id texts).2 }.current? other =
      state.current? other := by
  show (state.script? other).map (fun _ => _) = _
  rw [current?, Roster.element?_enter]
  by_cases same : other = id
  · rw [same, if_pos rfl, h]
    rfl
  · rw [if_neg same]

/-- A read counts for every later lookup of the element, and for none of another one. -/
theorem current?_countRead {state : InMemory τ} {id : String} {place : Nat}
    (h : state.found.place? id = some place) (other : String) :
    (state.countRead place).current? other =
      if other = id then (state.current? id).map Scripted.advance else state.current? other := by
  show (state.script? other).map (fun _ => ((state.found.advance place).element? other).getD _) = _
  rw [Roster.element?_advance h]
  by_cases same : other = id
  · obtain ⟨element, -, hfound⟩ := Roster.exists_of_place h
    rw [if_pos same, if_pos same, same, current?, hfound]
    cases state.script? id <;> rfl
  · rw [if_neg same, if_neg same, current?]

variable [Timescale τ]

section

variable {R : Moment (InMemory τ) τ → Moment (InMemory τ) τ → Prop}

theorem read_keeps (hR : Frame R) (place : Nat)
    (counted : ∀ m : Moment (InMemory τ) τ, R m { m with world := m.world.countRead place }) :
    Keeps R (read place : Timed (InMemory τ) τ String) := by
  refine .bind hR (.world hR) fun state => ?_
  split
  · next answer _ =>
    refine .bind hR (.update counted) fun _ => ?_
    exact .bind hR (.await hR _) fun _ => .ofExcept hR _
  · exact .raise hR _

theorem find_keeps (hR : Frame R) (id : String)
    (entered : ∀ (m : Moment (InMemory τ) τ) (texts : Script τ String),
      R m { m with world := { m.world with found := (m.world.found.enter id texts).2 } }) :
    Keeps R (find id : Timed (InMemory τ) τ _) := by
  refine .bind hR (.world hR) fun state => ?_
  split
  · next texts _ => exact .bind hR (.update (entered · texts)) fun _ => .pure hR _
  · exact .raise hR _

theorem openAfter_keeps (hR : Frame R) (delay : τ) (fault : Option Fault) :
    Keeps R (openAfter delay fault : Timed (InMemory τ) τ _) := by
  refine .bind hR (.await hR delay) fun _ => ?_
  split
  · exact .raise hR _
  · exact .pure hR _

end

theorem read_idle (place : Nat) : Keeps Idle (read place : Timed (InMemory τ) τ String) :=
  read_keeps frame_idle place fun _ => ⟨rfl, rfl⟩

theorem find_idle (id : String) : Keeps Idle (find id : Timed (InMemory τ) τ _) :=
  find_keeps frame_idle id fun _ _ => ⟨rfl, rfl⟩

theorem openAfter_idle (delay : τ) (fault : Option Fault) :
    Keeps Idle (openAfter delay fault : Timed (InMemory τ) τ _) :=
  openAfter_keeps frame_idle delay fault

theorem find_yields (id : String) :
    Yields (fun element => ∃ place, element = handle place) (find id : Timed (InMemory τ) τ _) := by
  refine (yields_true _).bind fun state _ => ?_
  split
  · exact (yields_true _).bind fun _ _ => .pure ⟨_, rfl⟩
  · exact .raise _

theorem openAfter_yields (delay : τ) (fault : Option Fault) :
    Yields (fun opened => opened = session) (openAfter delay fault : Timed (InMemory τ) τ _) := by
  refine (yields_true _).bind fun _ _ => ?_
  split
  · exact .raise _
  · exact .pure rfl

section

omit [Timescale τ]

theorem navigate_apply (url : String) (deadline : Option τ) (m : Moment (InMemory τ) τ) :
    navigate url deadline m =
      match m.world.navigateFault with
      | some fault => (.raised fault, m)
      | none =>
        (.done (), { m with world := { m.world with visited := m.world.visited ++ [url] } }) := by
  rcases m with ⟨now, ⟨elements, _ | fault, closeFault, visited, found, closeCount⟩, trail⟩
  · rfl
  · rfl

theorem close_apply (deadline : Option τ) (m : Moment (InMemory τ) τ) :
    (close : Timed (InMemory τ) τ Unit) deadline m =
      (match m.world.closeFault with
        | some fault => .raised fault
        | none => .done (),
        { m with world := { m.world with closeCount := m.world.closeCount + 1 } }) := by
  rcases m with ⟨now, ⟨elements, navigateFault, _ | fault, visited, found, closeCount⟩, trail⟩
  · rfl
  · rfl

theorem navigate_accounts (url : String) :
    Accounts (.navigate url) (navigate url : Timed (InMemory τ) τ Unit) := by
  intro deadline m
  rw [navigate_apply]
  cases m.world.navigateFault with
  | some fault => exact ⟨rfl, (List.append_nil _).symm⟩
  | none => exact ⟨rfl, rfl⟩

theorem close_accounts : Accounts .close (close : Timed (InMemory τ) τ Unit) := by
  intro deadline m
  rw [close_apply]
  exact ⟨rfl, (List.append_nil _).symm⟩

end

theorem journaled_keeps :
    (session.journaled : Session (InMemory τ × Journal) τ).Keeps Accounted := by
  have hf := framed_accounted (τ := τ)
  have find_keeps (id : String) : Keeps Accounted
      (entered (.find id) (find id : Timed (InMemory τ) τ (Element (InMemory τ) τ))) :=
    (Accounts.of_idle (find_idle id) (by simp [closings, landings])).keeps
  refine ⟨fun url => (navigate_accounts url).keeps, fun id => ?_, fun id => ?_⟩
  · exact .bind hf.toFrame (find_keeps id) fun _ => .pure hf.toFrame _
  · refine (entered_yields (find_yields id)).bind ?_
    rintro element ⟨place, rfl⟩
    exact .pure (Accounts.of_idle (read_idle place) (by simp [closings, landings])).keeps

/-- A run keeps the account in step with its journal. -/
theorem run_accounted (rounds : Nat) (config : Config τ) (delay : τ) (fault : Option Fault) :
    Keeps Accounted
      (run rounds config (Session.openJournaled (openAfter delay fault : Timed _ τ _))) := by
  have hf := framed_accounted (τ := τ)
  have hopen : Accounts .openSession (openAfter delay fault : Timed (InMemory τ) τ _) :=
    .of_idle (openAfter_idle delay fault) (by simp [closings, landings])
  have hclosing (m : Moment (InMemory τ × Journal) τ) : Accounted m (m.record (.asked .close)) :=
    accounted_of_eq rfl rfl
  refine run_keeps hf hclosing (.bind hf.toFrame hopen.keeps fun _ => .pure hf.toFrame _) ?_ rounds
  refine (entered_yields (openAfter_yields delay fault)).bind ?_
  rintro opened rfl
  exact .pure ⟨journaled_keeps, close_accounts.keeps⟩

end InMemory

/-! ## The account of a run -/

namespace Journal

open Trial

variable {config : Config τ} {outcome : Except Fault (Result τ)} {journal : Journal}

/-- Whether an operation is about an element of the page. -/
def aboutElement : Operation → Bool
  | .find _ | .read _ => true
  | .openSession | .navigate _ | .close => false

/-- What an open session is asked for after it has loaded the page, at most. -/
def errands (config : Config τ) (polls : Nat) : List Operation :=
  .find config.statusId :: .find config.outputId ::
    (List.replicate polls (.read config.statusId) ++ finale config)

theorem aboutElement_of_mem_errands {polls : Nat} {operation : Operation}
    (h : operation ∈ errands config polls) : aboutElement operation = true := by
  simp only [errands, finale, List.mem_cons, List.mem_append, List.mem_replicate,
    List.not_mem_nil, or_false] at h
  rcases h with rfl | rfl | ⟨-, rfl⟩ | rfl | rfl <;> rfl

theorem aboutElement_of_mem_allDone {operations : List Operation}
    (h : ∀ operation ∈ operations, aboutElement operation = true) :
    ∀ entry ∈ allDone operations, aboutElement entry.1 = true := by
  intro entry hentry
  obtain ⟨operation, hmem, rfl⟩ := List.mem_map.mp hentry
  exact h operation hmem

/-- What an open session is asked for first is to load the page, and after that it is asked for
elements only. -/
theorem excursion_cases (h : Excursion config outcome journal) :
    ∃ ending rest, journal = (.navigate config.url, ending) :: rest ∧
      ∀ entry ∈ rest, aboutElement entry.1 = true := by
  have done (polls : Nat) (operations more : List Operation)
      (hsplit : errands config polls = operations ++ more) :
      ∀ entry ∈ allDone operations, aboutElement entry.1 = true :=
    aboutElement_of_mem_allDone fun operation hmem =>
      aboutElement_of_mem_errands (hsplit ▸ List.mem_append_left more hmem)
  cases h with
  | complete _ others =>
    exact ⟨.done (), _, rfl, done (others + 1) _ [] (List.append_nil _).symm⟩
  | failed _ cause others _ hcut =>
    obtain ⟨before, operation, after, hroute, rfl⟩ := hcut
    have hroute : .navigate config.url :: errands config (others + 1) =
        before ++ operation :: after := hroute
    -- What failed is the loading of the page, or an errand after it.
    cases before with
    | nil =>
      obtain ⟨rfl, -⟩ := List.cons.inj hroute
      exact ⟨.raised cause, [], rfl, by simp⟩
    | cons first rest =>
      obtain ⟨rfl, hrest⟩ := List.cons.inj hroute
      refine ⟨.done (), allDone rest ++ [(operation, .raised cause)], rfl, fun entry hentry => ?_⟩
      rcases List.mem_append.mp hentry with hbefore | hlast
      · exact done (others + 1) rest _ hrest entry hbefore
      · obtain rfl := List.mem_singleton.mp hlast
        have hmem : operation ∈ errands config (others + 1) := by
          rw [hrest]
          simp
        exact aboutElement_of_mem_errands hmem
  | expired result others _ =>
    refine ⟨.done (), _, rfl, fun entry hentry => ?_⟩
    rcases List.mem_append.mp hentry with hbefore | hlast
    · exact done others _ (finale config) rfl entry hbefore
    · obtain rfl := List.mem_singleton.mp hlast
      rfl
  | paused result others _ =>
    exact ⟨.done (), _, rfl, done (others + 1) _ (finale config) rfl⟩

/-- What is asked about elements of the page is no matter of the account. -/
theorem account_of_aboutElement (h : ∀ entry ∈ journal, aboutElement entry.1 = true) :
    closings journal = 0 ∧ landings journal = [] ∧ landed journal = false := by
  induction journal with
  | nil => exact ⟨rfl, rfl, rfl⟩
  | cons entry rest ih =>
    obtain ⟨hclosings, hlandings, hlanded⟩ :=
      ih fun other hmem => h other (List.mem_cons_of_mem _ hmem)
    have habout := h entry List.mem_cons_self
    obtain ⟨operation, ending⟩ := entry
    cases operation with
    | find id => exact ⟨hclosings, hlandings, hlanded⟩
    | read id => exact ⟨hclosings, hlandings, hlanded⟩
    | openSession => simp [aboutElement] at habout
    | navigate url => simp [aboutElement] at habout
    | close => simp [aboutElement] at habout

/-- A run closes the session if it has opened it, and visits the page if it has loaded it. -/
theorem account_of_run (h : RunJournal config outcome journal) :
    closings journal = (if opened journal then 1 else 0) ∧
      landings journal = if landed journal then [config.url] else [] := by
  cases h with
  | notOpened _ fault => exact ⟨rfl, rfl⟩
  | opened closed hexcursion =>
    obtain ⟨ending, rest, rfl, habout⟩ := excursion_cases hexcursion
    obtain ⟨hclosings, hlandings, hlanded⟩ := account_of_aboutElement habout
    -- The opening, the loading of the page, the errands and the closing, one behind the other.
    rw [show (.openSession, .done ()) :: ((.navigate config.url, ending) :: rest ++
        [(.close, (Ending.ofExcept closed).forget)]) =
      [(.openSession, .done ())] ++ ([(.navigate config.url, ending)] ++
        (rest ++ [(.close, (Ending.ofExcept closed).forget)])) from rfl]
    simp only [closings_append, landings_append, landed_append, hclosings, hlandings, hlanded]
    cases ending with
    | done value => exact ⟨rfl, rfl⟩
    | raised fault => exact ⟨rfl, rfl⟩
    | expired => exact ⟨rfl, rfl⟩
    | unfinished => exact ⟨rfl, rfl⟩

/-- The account of a series is that of its runs. -/
theorem account_of_series {outcomes : List (Except Fault (Result τ))} {parts : List Journal}
    (h : List.Forall₂ (RunJournal config) outcomes parts) :
    closings parts.flatten = parts.countP opened ∧
      landings parts.flatten = (parts.filter landed).map fun _ => config.url := by
  induction h with
  | nil => exact ⟨rfl, rfl⟩
  | @cons outcome journal outcomes parts hrun _ ih =>
    obtain ⟨hclosings, hlandings⟩ := account_of_run hrun
    constructor
    · rw [List.flatten_cons, closings_append, ih.1, hclosings, List.countP_cons, Nat.add_comm]
    · rw [List.flatten_cons, landings_append, ih.2, hlandings, List.filter_cons]
      cases landed journal <;> rfl

end Journal

/-! ## Any number of runs -/

namespace Trial

open Timed Journal

variable [Timescale τ]

/-- Runs ask their sessions in the order of the itinerary, and release what they have opened.
However many runs there are, however sessions are opened and whatever goes wrong, the journal of
the runs that settled is made of one `RunJournal` for each. Over the session without a browser,
the session has then been closed once for each time it was opened, and its list of addresses has
grown by one for each run that loaded the page. -/
theorem series_in_order (rounds : Nat) (config : Config τ) :
    (∀ (σ : Type) (openings : List (Timed σ τ (Session σ τ))) (m after : Moment σ τ)
        (outcomes : List (Except Fault (Result τ))),
      (series rounds config openings).run m = (.done outcomes, after) →
      ∃ parts, Chronicle rounds config openings m after outcomes parts) ∧
    ∀ (openings : List (τ × Option Fault)) (m after : Moment (InMemory τ) τ)
        (outcomes : List (Except Fault (Result τ))),
      (series rounds config (openings.map fun (delay, fault) =>
        InMemory.openAfter delay fault)).run m = (.done outcomes, after) →
      ∃ parts,
        Chronicle rounds config
          (openings.map fun (delay, fault) => InMemory.openAfter delay fault)
          m after outcomes parts ∧
        after.world.closeCount = m.world.closeCount + parts.countP opened ∧
        after.world.visited =
          m.world.visited ++ (parts.filter landed).map fun _ => config.url := by
  refine ⟨fun σ openings m after outcomes h => exists_chronicle h,
    fun openings m after outcomes h => ?_⟩
  obtain ⟨parts, hchronicle⟩ := exists_chronicle h
  refine ⟨parts, hchronicle, ?_⟩
  -- The account goes with the journal, and the series with a journal ends in the same state.
  have hseries : Keeps InMemory.Accounted (series rounds config
      ((openings.map fun (delay, fault) => InMemory.openAfter delay fault).map
        Session.openJournaled)) := by
    refine series_keeps InMemory.framed_accounted.toFrame fun openSession hmem => ?_
    obtain ⟨openPlain, hplain, rfl⟩ := List.mem_map.mp hmem
    obtain ⟨⟨delay, fault⟩, -, rfl⟩ := List.mem_map.mp hplain
    exact InMemory.run_accounted rounds config delay fault
  obtain ⟨entries, hjournal, hclose, hvisited⟩ := hseries none (m.withJournal [])
  rw [show series _ _ _ none (m.withJournal []) = _ from hchronicle.kept] at hjournal hclose hvisited
  obtain rfl : parts.flatten = entries := hjournal
  obtain ⟨hclosings, hlandings⟩ := account_of_series hchronicle.shaped
  rw [hclosings] at hclose
  rw [hlandings] at hvisited
  exact ⟨hclose, hvisited⟩

/-- Three runs, of which the second finds no session to open. -/
theorem series_in_order_applies :
    ∃ outcomes after parts,
      Chronicle 5 Config.usual
        ([(0.5, none), (0, some { kind := .cancelled }), (0, none)].map fun (delay, fault) =>
          InMemory.openAfter delay fault)
        ⟨0, InMemory.page [⟨0.05, .ok "Running"⟩, ⟨0, .ok "exit: 0"⟩] ⟨0, .ok "done"⟩, #[]⟩
        after outcomes parts ∧
      after.world.closeCount = 0 + parts.countP opened ∧
      after.world.visited = [] ++ (parts.filter landed).map fun _ => Config.usual.url := by
  have hdone : ((series 5 Config.usual ([(0.5, none), (0, some { kind := .cancelled }),
        (0, none)].map fun (delay, fault) => InMemory.openAfter delay fault)).run
      ⟨0, InMemory.page [⟨0.05, .ok "Running"⟩, ⟨0, .ok "exit: 0"⟩] ⟨0, .ok "done"⟩,
        #[]⟩).1.isDone = true := by
    decide +kernel
  generalize hrun : Timed.run _ _ = result at hdone
  obtain ⟨ending, after⟩ := result
  obtain ⟨outcomes, rfl⟩ := Ending.isDone_iff.mp hdone
  obtain ⟨parts, hparts⟩ := (series_in_order 5 Config.usual).2 _ _ after outcomes hrun
  exact ⟨outcomes, after, parts, hparts⟩

end Trial

end PageTrial
