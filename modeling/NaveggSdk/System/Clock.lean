import NaveggSdk.System.Step

/-!
# A clock that never goes back

Under `Forward` steps the dates in the history only grow, so that the newest recorded send and the
newest saved answer are the latest ones, and none of them lies in the future (`Timely`).
-/

def Event.date? : Event → Option Date
  | .answered _ _ date => some date
  | _ => none

def History.dates (log : List Event) : List Date := log.filterMap Event.date?

namespace History

/-- What is read off some of the answers has dates of its own among theirs. -/
theorem map_filterMap_sublist {β : Type} {f : Event → Option β} {d : β → Date}
    (h : ∀ e b, f e = some b → e.date? = some (d b)) (log : List Event) :
    List.Sublist ((log.filterMap f).map d) (dates log) := by
  unfold dates
  induction log with
  | nil => exact List.Sublist.refl _
  | cons e log ih =>
      cases hf : f e with
      | none =>
          rw [List.filterMap_cons_none hf]
          cases hdate : e.date? with
          | none => rwa [List.filterMap_cons_none hdate]
          | some date =>
              rw [List.filterMap_cons_some hdate]
              exact ih.cons date
      | some b =>
          rw [List.filterMap_cons_some hf, List.filterMap_cons_some (h e b hf), List.map_cons]
          exact ih.cons_cons (d b)

theorem recorded_dates (log : List Event) :
    List.Sublist ((recorded log).map Prod.snd) (dates log) := by
  apply map_filterMap_sublist
  intro e p hp
  cases e with
  | answered flight response date =>
      by_cases hok : flight.request.call = .sendOnBoarding ∧
          WebService.recordsSuccess response = true
      · rw [Event.recorded?, if_pos hok, Option.some.injEq] at hp
        rw [← hp]
        rfl
      · simp [Event.recorded?, hok] at hp
  | launched segments => cases hp
  | stored key value => cases hp
  | skipped => cases hp
  | issued flight => cases hp

theorem saved_dates (log : List Event) :
    List.Sublist ((saved log).map Saved.date) (dates log) := by
  apply map_filterMap_sublist
  intro e sv hsv
  cases e with
  | answered flight response date =>
      by_cases hcall : flight.request.call = .getSegments
      · rw [Event.saved?, if_pos hcall] at hsv
        cases hread : WebService.readSegments response with
        | accepted segments =>
            rw [hread] at hsv
            cases hsv
            rfl
        | refused => simp [hread] at hsv
        | fatal why => simp [hread] at hsv
      · simp [Event.saved?, hcall] at hsv
  | launched segments => cases hsv
  | stored key value => cases hsv
  | skipped => cases hsv
  | issued flight => cases hsv

end History

namespace System

open History

def Forward (s : System) : Action → Prop
  | .clock now => s.device.now ≤ now
  | _ => True

instance (s : System) (a : Action) : Decidable (s.Forward a) :=
  match a with
  | .clock now => inferInstanceAs (Decidable (s.device.now ≤ now))
  | .call _ | .complete _ _ | .connectivity _ | .restart _ => isTrue trivial

/-- The dates of the history, and before them the present, newest first. -/
def Timely (s : System) : Prop := (s.device.now :: dates s.log).Pairwise fun d d' => d' ≤ d

theorem dates_settle (s : System) (es : List Event) (x : Outcome Unit) :
    dates (s.settle es x).log = dates es.reverse ++ dates s.log :=
  filterMap_settle s es x fun _ => rfl

theorem Timely.settle {s : System} (h : Timely s) {es : List Event} (x : Outcome Unit)
    (hes : dates es.reverse = []) : Timely (s.settle es x) := by
  unfold Timely
  rw [dates_settle, hes]
  exact h

/-- The events of a call have no dates. -/
theorem dates_events (device : Device) (c : Call) (m : Memory) :
    dates (c.events device m).reverse = [] := by
  cases c with
  | getSegments k => rfl
  | sendDataSaveInDefault => rfl
  | setOnboarding k v =>
      unfold Call.events
      simp only
      split
      · split <;> rfl
      · rfl

/-- **A step forward keeps the dates in order.** -/
theorem Timely.step {s : System} (h : Timely s) {a : Action} (hforward : s.Forward a) :
    Timely (s.step a) := by
  cases a with
  | call c =>
      cases happ : s.app with
      | none => simpa only [System.step, happ] using h
      | some user =>
          simp only [System.step, happ]
          exact h.settle _ (dates_events _ _ _)
  | complete id response =>
      cases happ : s.app with
      | none => simpa only [System.step, happ] using h
      | some user =>
          cases hf : s.flight? id with
          | none => simpa only [System.step, happ, hf] using h
          | some f =>
              simp only [System.step, happ, hf]
              -- an answer carries the present, which no date of the history exceeds
              have hnow : ∀ d ∈ s.device.now :: dates s.log, d ≤ s.device.now := by
                intro d hd
                rcases List.mem_cons.mp hd with rfl | hd
                · exact le_refl _
                · exact List.rel_of_pairwise_cons h hd
              unfold Timely
              rw [dates_settle]
              exact List.Pairwise.cons hnow h
  | connectivity connected => exact h
  | clock now =>
      obtain ⟨hpast, hdates⟩ := List.pairwise_cons.mp h
      exact List.Pairwise.cons (fun d hd => le_trans (hpast d hd) hforward) hdates
  | restart idAppStore => exact Timely.settle (s := { s with inFlight := [] }) h _ rfl

/-- Only the clock changes the time, and nothing changes the calendar. -/
theorem Step.clock_eq {s t : System} {a : Action} (h : Step s a t)
    (hclock : ∀ now, a ≠ .clock now) :
    t.device.calendar = s.device.calendar ∧ t.device.now = s.device.now := by
  cases h with
  | clock now => exact absurd rfl (hclock now)
  | _ => exact ⟨rfl, rfl⟩

theorem timely_installed (accountId : Int) (device : Device) :
    Timely (installed accountId device) := List.pairwise_singleton _ _

/-- The recorded sends are in order, and none lies in the future. -/
theorem Timely.recorded {s : System} (h : Timely s) :
    (s.device.now :: (recorded s.log).map Prod.snd).Pairwise fun d d' => d' ≤ d :=
  h.sublist ((recorded_dates s.log).cons_cons _)

/-- Nor does a saved answer. -/
theorem Timely.saved {s : System} (h : Timely s) :
    (s.device.now :: (saved s.log).map Saved.date).Pairwise fun d d' => d' ≤ d :=
  h.sublist ((saved_dates s.log).cons_cons _)

end System
