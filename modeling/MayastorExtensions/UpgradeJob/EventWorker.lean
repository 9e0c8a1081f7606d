import Mathlib.Data.List.Basic
import MayastorExtensions.UpgradeJob.Common

/-!
# The event worker

`EventRecorder` of `events/event_recorder.rs`: events are sent over an unbounded channel to a
worker that publishes the latest one it has received, again every twenty minutes until the next
one arrives.  The worker, its timer, the publications and the sender take their steps in any
order.  `shutdown_worker` drops the sender and waits for the worker, which by then has published
every event at least once and in the order in which they were sent.
-/

namespace MayastorExtensions.UpgradeJob

/-! ## The recorder and its steps -/

/-- Where the worker is in its loop. -/
inductive Worker where
  | receiving
  | publishing (event : Event)
  | selecting (event : Event)
  | exited
  deriving DecidableEq

/-- The recorder with its channel and its worker; `attempts` are the publications the worker has
begun. -/
structure EventRecorder where
  eventSender : Bool
  queue : List Event
  worker : Worker
  attempts : List Event

/-- A recorder as `build` leaves it. -/
def EventRecorder.build : EventRecorder := ⟨true, [], .receiving, []⟩

inductive RecorderStep where
  /-- `publish` is called. -/
  | publish (event : Event)
  /-- `shutdown_worker` drops the sender. -/
  | shutdown
  /-- The publication under way returns, with an error or without. -/
  | published (failed : Bool)
  /-- The receive completes. -/
  | recv
  /-- The twenty minutes are over. -/
  | elapsed

namespace EventRecorder

/-- The worker begins to publish an event. -/
def startPublishing (event : Event) (recorder : EventRecorder) : EventRecorder :=
  { recorder with worker := .publishing event, attempts := recorder.attempts ++ [event] }

/-- The receive takes the oldest event, or ends the loop once the channel is closed and empty; it
waits while neither is the case. -/
def receive (recorder : EventRecorder) : Option EventRecorder :=
  match recorder.queue with
  | event :: rest => some (startPublishing event { recorder with queue := rest })
  | [] => if recorder.eventSender then none else some { recorder with worker := .exited }

/-- One step; `none` if it cannot be taken now. -/
def step (recorder : EventRecorder) : RecorderStep → Option EventRecorder
  | .publish event =>
    if recorder.eventSender ∧ recorder.worker ≠ .exited then
      some { recorder with queue := recorder.queue ++ [event] }
    else some recorder
  | .shutdown => some { recorder with eventSender := false }
  | .published _ =>
    match recorder.worker with
    | .publishing event => some { recorder with worker := .selecting event }
    | _ => none
  | .recv =>
    match recorder.worker with
    | .receiving | .selecting _ => recorder.receive
    | _ => none
  | .elapsed =>
    match recorder.worker with
    | .selecting event => some (recorder.startPublishing event)
    | _ => none

/-- A sequence of steps. -/
def run (recorder : EventRecorder) (steps : List RecorderStep) : Option EventRecorder :=
  steps.foldlM step recorder

/-- The events that are sent: the calls of `publish` up to the one of `shutdown_worker`, which takes
the recorder with it. -/
def sentEvents : List RecorderStep → List Event
  | [] => []
  | .publish event :: rest => event :: sentEvents rest
  | .shutdown :: _ => []
  | .published _ :: rest => sentEvents rest
  | .recv :: rest => sentEvents rest
  | .elapsed :: rest => sentEvents rest

/-- The sender has been dropped and the worker has been waited for. -/
def ShutDown (recorder : EventRecorder) : Prop :=
  recorder.eventSender = false ∧ recorder.worker = .exited

end EventRecorder

/-! ## Sequences with repetitions -/

/-- The attempts are the events in order, each of them at least once. -/
def Stutters (events attempts : List Event) : Prop :=
  ∃ counts : List ℕ, counts.length = events.length ∧ (∀ count ∈ counts, 1 ≤ count) ∧
    attempts = (List.zipWith List.replicate counts events).flatten

theorem stutters_nil : Stutters [] [] := ⟨[], rfl, by simp, rfl⟩

/-- The next event is attempted for the first time. -/
theorem Stutters.next {events attempts : List Event} (h : Stutters events attempts)
    (event : Event) : Stutters (events ++ [event]) (attempts ++ [event]) := by
  obtain ⟨counts, hlength, hpos, hattempts⟩ := h
  refine ⟨counts ++ [1], by simp [hlength], ?_, ?_⟩
  · intro count hcount
    rcases List.mem_append.mp hcount with hold | hnew
    · exact hpos count hold
    · exact Nat.le_of_eq (List.mem_singleton.mp hnew).symm
  · rw [List.zipWith_append hlength, List.flatten_append, hattempts]
    simp

/-- The latest event is attempted once more. -/
theorem Stutters.again {events attempts : List Event} {event : Event}
    (h : Stutters (events ++ [event]) attempts) :
    Stutters (events ++ [event]) (attempts ++ [event]) := by
  obtain ⟨counts, hlength, hpos, hattempts⟩ := h
  rcases List.eq_nil_or_concat counts with rfl | ⟨earlier, last, hcounts⟩
  · simp at hlength
  · rw [List.concat_eq_append] at hcounts
    subst hcounts
    have hearlier : earlier.length = events.length := by simpa using hlength
    refine ⟨earlier ++ [last + 1], by simp [hearlier], ?_, ?_⟩
    · intro count hcount
      rcases List.mem_append.mp hcount with hold | hnew
      · exact hpos count (List.mem_append_left _ hold)
      · rw [List.mem_singleton.mp hnew]
        omega
    · rw [hattempts, List.zipWith_append hearlier, List.zipWith_append hearlier]
      simp [List.replicate_succ']

/-! ## The worker's invariant -/

/-- Of the events sent, the ones taken from the channel have been attempted in order, and the rest
is in the channel; the event that the worker holds is the latest one taken. -/
structure EventRecorder.Faithful (recorder : EventRecorder) (sent taken : List Event) : Prop where
  conserved : sent = taken ++ recorder.queue
  attempted : Stutters taken recorder.attempts
  held : match recorder.worker with
    | .receiving => taken = []
    | .publishing event | .selecting event => ∃ earlier, taken = earlier ++ [event]
    | .exited => recorder.queue = [] ∧ recorder.eventSender = false

namespace EventRecorder

variable {recorder recorder' : EventRecorder} {sent taken : List Event}

theorem faithful_build : build.Faithful [] [] := ⟨rfl, stutters_nil, rfl⟩

/-- The channel is open for as long as the sender is there. -/
theorem Faithful.not_exited (h : recorder.Faithful sent taken)
    (hsender : recorder.eventSender = true) : recorder.worker ≠ .exited := by
  intro hexited
  have hheld := h.held
  rw [hexited] at hheld
  rw [hheld.2] at hsender
  cases hsender

theorem Faithful.receive (h : recorder.Faithful sent taken)
    (hstep : recorder.receive = some recorder') :
    recorder'.eventSender = recorder.eventSender ∧ ∃ taken', recorder'.Faithful sent taken' := by
  unfold EventRecorder.receive at hstep
  split at hstep
  next event rest hqueue =>
    obtain rfl := Option.some.inj hstep
    refine ⟨rfl, taken ++ [event], ?_, h.attempted.next event, taken, rfl⟩
    calc sent = taken ++ recorder.queue := h.conserved
      _ = taken ++ [event] ++ rest := by rw [hqueue, List.append_assoc, List.singleton_append]
  next hqueue =>
    split at hstep
    next => cases hstep
    next hsender =>
      obtain rfl := Option.some.inj hstep
      exact ⟨rfl, taken, h.conserved, h.attempted, hqueue, by simpa using hsender⟩

/-- A call of `publish` puts its event into the channel, while the sender is there. -/
theorem Faithful.publish (h : recorder.Faithful sent taken) (hsender : recorder.eventSender = true)
    {event : Event} (hstep : recorder.step (.publish event) = some recorder') :
    recorder'.eventSender = true ∧ recorder'.Faithful (sent ++ [event]) taken := by
  have hopen := h.not_exited hsender
  rw [EventRecorder.step, if_pos ⟨hsender, hopen⟩] at hstep
  obtain rfl := Option.some.inj hstep
  refine ⟨hsender, ?_, h.attempted, ?_⟩
  · rw [h.conserved, List.append_assoc]
  · have hheld := h.held
    cases hstate : recorder.worker with
    | exited => exact absurd hstate hopen
    | receiving => simpa only [hstate] using hheld
    | publishing current => simpa only [hstate] using hheld
    | selecting current => simpa only [hstate] using hheld

theorem Faithful.shutdown (h : recorder.Faithful sent taken) :
    ({ recorder with eventSender := false } : EventRecorder).Faithful sent taken := by
  have hheld := h.held
  refine ⟨h.conserved, h.attempted, ?_⟩
  cases hstate : recorder.worker with
  | exited =>
    rw [hstate] at hheld
    exact ⟨hheld.1, rfl⟩
  | receiving => simpa only [hstate] using hheld
  | publishing current => simpa only [hstate] using hheld
  | selecting current => simpa only [hstate] using hheld

/-- The steps of the worker keep the sender and the invariant, with one more event taken or none. -/
theorem Faithful.worker (h : recorder.Faithful sent taken) {action : RecorderStep}
    (hstep : recorder.step action = some recorder') (hpublish : ∀ event, action ≠ .publish event)
    (hshutdown : action ≠ .shutdown) :
    recorder'.eventSender = recorder.eventSender ∧ ∃ taken', recorder'.Faithful sent taken' := by
  have hheld := h.held
  cases action with
  | publish event => exact absurd rfl (hpublish event)
  | shutdown => exact absurd rfl hshutdown
  | published failed =>
    simp only [EventRecorder.step] at hstep
    split at hstep
    next event hworker =>
      obtain rfl := Option.some.inj hstep
      rw [hworker] at hheld
      exact ⟨rfl, taken, h.conserved, h.attempted, hheld⟩
    next => cases hstep
  | recv =>
    simp only [EventRecorder.step] at hstep
    split at hstep
    next => exact h.receive hstep
    next => exact h.receive hstep
    next => cases hstep
  | elapsed =>
    simp only [EventRecorder.step] at hstep
    split at hstep
    next event hworker =>
      obtain rfl := Option.some.inj hstep
      rw [hworker] at hheld
      obtain ⟨earlier, rfl⟩ := hheld
      exact ⟨rfl, earlier ++ [event], h.conserved, h.attempted.again, earlier, rfl⟩
    next => cases hstep

/-- Once the sender is dropped, nothing more is sent. -/
theorem Faithful.run_closed (h : recorder.Faithful sent taken)
    (hsender : recorder.eventSender = false) {steps : List RecorderStep}
    (hrun : recorder.run steps = some recorder') : ∃ taken', recorder'.Faithful sent taken' := by
  induction steps generalizing recorder taken with
  | nil =>
    obtain rfl := Option.some.inj hrun
    exact ⟨taken, h⟩
  | cons action rest ih =>
    rw [EventRecorder.run, List.foldlM_cons] at hrun
    obtain ⟨next, hstep, hrest⟩ := Option.bind_eq_some_iff.mp hrun
    cases action with
    | publish event =>
      simp only [EventRecorder.step, hsender, Bool.false_eq_true, false_and, if_false] at hstep
      obtain rfl := Option.some.inj hstep
      exact ih h hsender hrest
    | shutdown =>
      obtain rfl := Option.some.inj hstep
      exact ih h.shutdown rfl hrest
    | published failed =>
      obtain ⟨hkept, taken', h'⟩ := h.worker hstep (fun _ ↦ nofun) nofun
      exact ih h' (hkept.trans hsender) hrest
    | recv =>
      obtain ⟨hkept, taken', h'⟩ := h.worker hstep (fun _ ↦ nofun) nofun
      exact ih h' (hkept.trans hsender) hrest
    | elapsed =>
      obtain ⟨hkept, taken', h'⟩ := h.worker hstep (fun _ ↦ nofun) nofun
      exact ih h' (hkept.trans hsender) hrest

/-- A run adds the events of its calls of `publish` to the ones sent before. -/
theorem Faithful.run (h : recorder.Faithful sent taken) (hsender : recorder.eventSender = true)
    {steps : List RecorderStep} (hrun : recorder.run steps = some recorder') :
    ∃ taken', recorder'.Faithful (sent ++ sentEvents steps) taken' := by
  induction steps generalizing recorder sent taken with
  | nil =>
    obtain rfl := Option.some.inj hrun
    exact ⟨taken, by rwa [sentEvents, List.append_nil]⟩
  | cons action rest ih =>
    rw [EventRecorder.run, List.foldlM_cons] at hrun
    obtain ⟨next, hstep, hrest⟩ := Option.bind_eq_some_iff.mp hrun
    cases action with
    | publish event =>
      obtain ⟨hopen, h'⟩ := h.publish hsender hstep
      obtain ⟨taken', hfinal⟩ := ih h' hopen hrest
      rw [List.append_assoc, List.singleton_append] at hfinal
      exact ⟨taken', hfinal⟩
    | shutdown =>
      obtain rfl := Option.some.inj hstep
      rw [sentEvents, List.append_nil]
      exact h.shutdown.run_closed rfl hrest
    | published failed =>
      obtain ⟨hkept, taken', h'⟩ := h.worker hstep (fun _ ↦ nofun) nofun
      exact ih h' (hkept.trans hsender) hrest
    | recv =>
      obtain ⟨hkept, taken', h'⟩ := h.worker hstep (fun _ ↦ nofun) nofun
      exact ih h' (hkept.trans hsender) hrest
    | elapsed =>
      obtain ⟨hkept, taken', h'⟩ := h.worker hstep (fun _ ↦ nofun) nofun
      exact ih h' (hkept.trans hsender) hrest

/-- However sends, timers, receives, publications and their failures interleave: when
`shutdown_worker` returns, the publications the worker has attempted are the events that `publish`
was called with, in order, each at least once, and there is none if it was not called. -/
theorem shutdown_attempts_all {steps : List RecorderStep} {recorder : EventRecorder}
    (hrun : build.run steps = some recorder) (hshutdown : recorder.ShutDown) :
    Stutters (sentEvents steps) recorder.attempts ∧
      (sentEvents steps = [] → recorder.attempts = []) := by
  obtain ⟨taken, h⟩ := faithful_build.run rfl hrun
  have hheld := h.held
  rw [hshutdown.2] at hheld
  have hsent : sentEvents steps = taken := by
    have hconserved := h.conserved
    rwa [List.nil_append, hheld.1, List.append_nil] at hconserved
  have hall : Stutters (sentEvents steps) recorder.attempts := hsent ▸ h.attempted
  refine ⟨hall, fun hnone ↦ ?_⟩
  obtain ⟨counts, -, -, hattempts⟩ := hall
  rw [hattempts, hnone, List.zipWith_nil_right, List.flatten_nil]

/-- An event of the recorder with the given message. -/
def noted (message : String) : Event :=
  ⟨.normal, upgradeEventReason, ⟨"2.5.0", "2.6.0", .text message⟩, EventAction.upgradingCP.toString⟩

/-- The first event is published, fails, is published again when the timer runs out, and the
second one is taken after the sender has been dropped. -/
def twoEvents : List RecorderStep :=
  [.publish (noted "a"), .recv, .publish (noted "b"), .published true, .elapsed, .shutdown,
    .published false, .recv, .published false, .recv]

theorem shutdown_attempts_all_two_events :
    sentEvents twoEvents = [noted "a", noted "b"] ∧
      build.run twoEvents = some ⟨false, [], .exited, [noted "a", noted "a", noted "b"]⟩ ∧
      Stutters [noted "a", noted "b"] [noted "a", noted "a", noted "b"] := by
  have hrun : build.run twoEvents =
      some ⟨false, [], .exited, [noted "a", noted "a", noted "b"]⟩ := rfl
  exact ⟨rfl, hrun, (shutdown_attempts_all hrun ⟨rfl, rfl⟩).1⟩

end EventRecorder

end MayastorExtensions.UpgradeJob
