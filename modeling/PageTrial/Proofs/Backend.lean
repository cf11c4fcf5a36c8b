import PageTrial.Backend
import PageTrial.Proofs.Session.Playwright
import PageTrial.Proofs.Session.Selenium
import PageTrial.Proofs.Trial.Passing

/-!
# What the sessions of all drivers have in common

A driver prints nothing, and waits only where a deadline can end the wait: both adapters read an
element through `World.fetch`. What a test in a driver's sessions can leave on the trail is listed
once (`Settings.Covers`), so that a kind of event need only be held against the list
(`Settings.run_grows`).
-/

set_option autoImplicit false

namespace PageTrial

open Timed Trial

variable {τ : Type}

theorem world_quiet :
    World.Framed (fun _ => True) fun m n : Moment (World τ) τ => Quiet m n where
  toFrame := noted_quiet.toFrame
  logged m record _ := by simp [Quiet, Event.printed?]
  called m c _ := by simp [Quiet, Event.printed?]
  fetched m id := by simp [Quiet, Event.printed?]
  counted _ _ := rfl

variable [Timescale τ]

theorem Playwright.session_discreet : (Playwright.session : Session (World τ) τ).Discreet where
  quiet := session_keeps world_quiet fun _ _ => trivial
  close := close_keeps world_quiet fun _ _ => trivial
  timely id := by
    intro deadline m element after h
    rw [find_yields id deadline m element after h]
    exact World.fetch_timely Prepared.await_timely id

theorem Selenium.session_discreet : (Selenium.session : Session (World τ) τ).Discreet where
  quiet := session_keeps world_quiet fun _ _ => trivial
  close := close_keeps world_quiet fun _ _ => trivial
  timely id := by
    intro deadline m element after h
    rw [find_yields id deadline m element after h]
    exact World.fetch_timely Prepared.delegate_timely id

/-! ## Sessions of a driver -/

namespace Settings

variable {C : Call → Prop} {R : Moment (World τ) τ → Moment (World τ) τ → Prop}

/-- The calls by which a driver opens a session. -/
def Opens : Settings → Call → Prop
  | .playwright config, c => Playwright.Opens config c
  | .selenium config, c => c = Selenium.startCall config

/-- The calls that a driver makes: one by which a session is opened is made as it is configured. -/
def Makes (settings : Settings) (c : Call) : Prop := settings.Opens c ∨ c.phase ≠ .opening

theorem openSession_keeps (hR : World.Framed C R) {settings : Settings}
    (hopens : ∀ c, settings.Opens c → C c) (hcloses : ∀ c, c.phase = .closing → C c) :
    Keeps R settings.openSession := by
  cases settings with
  | playwright config => exact Playwright.openSession_keeps hR hopens (hcloses _ rfl)
  | selenium config => exact Selenium.openSession_keeps hR (hopens _ rfl)

theorem Opens.phase {settings : Settings} {c : Call} (h : settings.Opens c) :
    c.phase = .opening := by
  cases settings with
  | playwright config => cases h <;> rfl
  | selenium config =>
    obtain rfl := h
    exact Selenium.startCall_phase config

/-- Where a session is opened, only calls that open it were made. -/
theorem openSession_done (hR : World.Framed C R) {settings : Settings}
    (hopens : ∀ c, settings.Opens c → C c) {deadline : Option τ} {m opened : Moment (World τ) τ}
    {session : Session (World τ) τ}
    (h : settings.openSession deadline m = (.done session, opened)) : R m opened := by
  cases settings with
  | playwright config => exact Playwright.openSession_done hR hopens h
  | selenium config => exact (Selenium.openSession_keeps hR (hopens _ rfl)).ran h

theorem session_visits (hR : World.Framed C R) (settings : Settings)
    (hvisits : ∀ c, c.phase = .visit → C c) :
    Yields (fun session => session.Keeps R) settings.openSession := by
  intro deadline m session after h
  cases settings with
  | playwright config =>
    rw [Playwright.openSession_yields config deadline m session after h]
    exact Playwright.session_keeps hR hvisits
  | selenium config =>
    rw [Selenium.openSession_yields config deadline m session after h]
    exact Selenium.session_keeps hR hvisits

theorem session_closes (hR : World.Framed C R) (settings : Settings)
    (hcloses : ∀ c, c.phase = .closing → C c) :
    Yields (fun session => Keeps R session.close) settings.openSession := by
  intro deadline m session after h
  cases settings with
  | playwright config =>
    rw [Playwright.openSession_yields config deadline m session after h]
    exact Playwright.close_keeps hR hcloses
  | selenium config =>
    rw [Selenium.openSession_yields config deadline m session after h]
    exact Selenium.close_keeps hR hcloses

theorem openSession_quiet (settings : Settings) :
    Keeps Quiet (settings.openSession : Timed (World τ) τ _) :=
  openSession_keeps world_quiet (fun _ _ => trivial) fun _ _ => trivial

theorem openSession_discreet (settings : Settings) :
    Yields Session.Discreet (settings.openSession : Timed (World τ) τ _) := by
  intro deadline m session after h
  cases settings with
  | playwright config =>
    rw [Playwright.openSession_yields config deadline m session after h]
    exact Playwright.session_discreet
  | selenium config =>
    rw [Selenium.openSession_yields config deadline m session after h]
    exact Selenium.session_discreet

end Settings

/-! ## What a test leaves on the trail -/

omit [Timescale τ] in
theorem Trial.framed_grows {σ : Type} {P : Event τ → Prop}
    (hasked : ∀ operation, operation ≠ .close → P (.asked operation))
    (hlogged : ∀ record, record.logger = .trial → P (.logged record))
    (hprinted : ∀ text, P (.printed text)) :
    Trial.Framed (Grows P : Moment σ τ → Moment σ τ → Prop) where
  toFrame := Grows.frame P
  asked m operation h := .record m (hasked operation h)
  logged m record h := .record m (hlogged record h)
  printed m text := .record m (hprinted text)

omit [Timescale τ] in
theorem World.framed_grows {C : Call → Prop} {P : Event τ → Prop}
    (hlogged : ∀ record, record.logger.ofAdapter = true → P (.logged record))
    (hcalled : ∀ c, C c → P (.called c)) (hfetched : ∀ id, P (.fetched id)) :
    World.Framed C (Grows P) where
  toFrame := Grows.frame P
  logged m record h := .record m (hlogged record h)
  called m c h := .record m (hcalled c h)
  fetched m id := .record m (hfetched id)
  counted m _ := .refl m

namespace Settings

/-- A kind of events that takes in all that a test in a driver's sessions brings about. -/
structure Covers (settings : Settings) (P : Event τ → Prop) : Prop where
  asked : ∀ operation, P (.asked operation)
  called : ∀ c, settings.Makes c → P (.called c)
  fetched : ∀ id, P (.fetched id)
  printed : ∀ text, P (.printed text)
  logged : ∀ record, record.logger ≠ .command → record.logger ≠ .site → P (.logged record)

theorem run_grows {settings : Settings} {P : Event τ → Prop} (h : settings.Covers P) (rounds : Nat)
    (config : Config τ) : Keeps (Grows P) (Trial.run rounds config settings.openSession) := by
  have hT : Trial.Framed (Grows P : Moment (World τ) τ → Moment (World τ) τ → Prop) :=
    Trial.framed_grows (fun operation _ => h.asked operation)
      (fun record hrecord => h.logged record (by simp [hrecord]) (by simp [hrecord])) h.printed
  have hW : World.Framed settings.Makes (Grows P) := by
    refine World.framed_grows (fun record hrecord => ?_) h.called h.fetched
    refine h.logged record (fun hcommand => ?_) fun hsite => ?_
    · rw [hcommand] at hrecord
      cases hrecord
    · rw [hsite] at hrecord
      cases hrecord
  have hlater (phase : Call.Phase) (hphase : phase ≠ .opening) (c : Call) (hc : c.phase = phase) :
      settings.Makes c := .inr (hc ▸ hphase)
  have hcloses := hlater .closing nofun
  have hsession : Yields (fun session => session.Keeps (Grows P) ∧ Keeps (Grows P) session.close)
      settings.openSession := fun deadline m session after hopen =>
    ⟨session_visits hW settings (hlater .visit nofun) deadline m session after hopen,
      session_closes hW settings hcloses deadline m session after hopen⟩
  exact Trial.run_keeps hT (fun m => .record m (h.asked .close))
    (openSession_keeps hW (fun _ => .inl) hcloses) hsession rounds

end Settings

end PageTrial
