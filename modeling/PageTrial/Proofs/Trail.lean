import PageTrial.Proofs.Timed

/-!
# Reading the trail

Different questions are answered by different kinds of events. Each reading below picks out one
kind, and grows by that kind only.
-/

set_option autoImplicit false

namespace PageTrial

variable {σ τ : Type}

/-- A log record as it is kept. -/
structure Record (τ : Type) where
  time : τ
  level : Level
  text : String
  faultKind? : Option Kind

/-- The record of an entry, if it belongs to a logger. -/
def Entry.record? [Timescale τ] (logger : Logger) (entry : Entry τ) : Option (Record τ) :=
  entry.event.note?.bind fun note =>
    if note.logger = logger then some ⟨entry.time, note.level, note.text, note.faultKind?⟩
    else none

namespace Moment

/-- The calls of the browser client. -/
def calls (m : Moment σ τ) : List Call := m.events.filterMap Event.call?

/-- What was asked of sessions, and of those who open them. -/
def asked (m : Moment σ τ) : List Operation := m.events.filterMap Event.operation?

/-- The texts that were printed. -/
def printed (m : Moment σ τ) : List String := m.events.filterMap Event.printed?

/-- What stands on the standard output: each text that was printed, with a line end after it. -/
def stdout (m : Moment σ τ) : String := String.join (m.printed.map (· ++ "\n"))

/-- The log of one logger. -/
def records [Timescale τ] (logger : Logger) (m : Moment σ τ) : List (Record τ) :=
  m.trail.toList.filterMap (Entry.record? logger)

@[simp] theorem calls_record (m : Moment σ τ) (event : Event τ) :
    (m.record event).calls = m.calls ++ event.call?.toList := by
  rw [calls, events_record, List.filterMap_append, calls]
  cases event <;> rfl

@[simp] theorem asked_record (m : Moment σ τ) (event : Event τ) :
    (m.record event).asked = m.asked ++ event.operation?.toList := by
  rw [asked, events_record, List.filterMap_append, asked]
  cases event <;> rfl

@[simp] theorem printed_record (m : Moment σ τ) (event : Event τ) :
    (m.record event).printed = m.printed ++ event.printed?.toList := by
  rw [printed, events_record, List.filterMap_append, printed]
  cases event <;> rfl

@[simp] theorem records_record [Timescale τ] (logger : Logger) (m : Moment σ τ)
    (event : Event τ) :
    (m.record event).records logger =
      m.records logger ++ (Entry.record? logger ⟨m.now, event⟩).toList := by
  rw [records, record, Array.toList_push, List.filterMap_append, records]
  cases h : Entry.record? logger ⟨m.now, event⟩ <;> simp [h]

/-- What has been printed in between stands behind what stood there before. -/
theorem stdout_append {m after : Moment σ τ} {texts : List String}
    (h : after.printed = m.printed ++ texts) :
    after.stdout = m.stdout ++ String.join (texts.map (· ++ "\n")) := by
  rw [stdout, h, stdout]
  simp

end Moment

/-- The trail has grown by events that are all of one kind. -/
def Grows (P : Event τ → Prop) (m n : Moment σ τ) : Prop :=
  ∃ more, n.events = m.events ++ more ∧ ∀ event ∈ more, P event

namespace Grows

variable {P Q : Event τ → Prop} {m n k : Moment σ τ}

theorem refl (m : Moment σ τ) : Grows P m m := ⟨[], by simp, by simp⟩

theorem trans (h₁ : Grows P m n) (h₂ : Grows P n k) : Grows P m k := by
  obtain ⟨more, hmore, hP⟩ := h₁
  obtain ⟨rest, hrest, hP'⟩ := h₂
  refine ⟨more ++ rest, by rw [hrest, hmore, List.append_assoc], ?_⟩
  intro event hmem
  rcases List.mem_append.mp hmem with hfirst | hlater
  · exact hP event hfirst
  · exact hP' event hlater

theorem mono (h : Grows P m n) (hPQ : ∀ event, P event → Q event) : Grows Q m n := by
  obtain ⟨more, hmore, hP⟩ := h
  exact ⟨more, hmore, fun event hmem => hPQ event (hP event hmem)⟩

theorem record (m : Moment σ τ) {event : Event τ} (h : P event) : Grows P m (m.record event) :=
  ⟨[event], Moment.events_record m event, by simpa using h⟩

theorem frame (P : Event τ → Prop) : Timed.Frame (Grows P : Moment σ τ → Moment σ τ → Prop) where
  refl := refl
  trans := trans
  wait m _ := refl m

end Grows

/-- Nothing was printed. -/
def Quiet (m n : Moment σ τ) : Prop := n.printed = m.printed

theorem Grows.quiet {P : Event τ → Prop} {m n : Moment σ τ} (h : Grows P m n)
    (hP : ∀ event, P event → event.printed? = none) : Quiet m n := by
  obtain ⟨more, hmore, hall⟩ := h
  have hnothing : more.filterMap Event.printed? = [] :=
    List.filterMap_eq_nil_iff.mpr fun event hmem => hP event (hall event hmem)
  rw [Quiet, Moment.printed, hmore, List.filterMap_append, hnothing, List.append_nil,
    Moment.printed]

end PageTrial
