import NaveggSdk.System.Sound

/-!
# What `getSegments` answers

The segments exist three times: in the body of the last answer that was saved, in the suite, and in
memory, where every call takes the custom entry apart and puts it together again. `getSegments`
answers from memory. `segment_eq` says that the three agree, whatever happened since and however
often the app was restarted, and `view_right_iff` that the answer is therefore the right one,
whenever there is one: a fetch that is due does not come back if the account number is no `UInt32`.

The names of segments are looked up and compared, and nothing else. So they are texts up to Swift's
`==`, which is canonical equivalence, and so is the value that is answered.
-/

open WebService NaveggApi

namespace History

/-- The value of a segment in the body of the last saved answer, `""` if it has none. -/
def segment (log : List Event) (k : String) : String :=
  match (saved log).head? with
  | some sv => (sv.segments.lookup k).getD ""
  | none => ""

end History

namespace System

/-- **Memory, suite and history agree** on every segment. -/
theorem segment_eq {s : System} (h : Sound s) {user : User} (happ : s.app = some user)
    (k : String) :
    user.segment k = History.segment s.log k := by
  have hmemory := (h.consistent user happ).segment k
  rw [Memory.enter_user, Memory.enter_defaults, storedSegments, h.mirror.jsonSegments] at hmemory
  rw [hmemory, History.segment]
  cases (History.saved s.log).head? <;> rfl

/-- `getSegments`, called now, answers the value of the segment in the last saved answer. -/
def ViewRight (s : System) (user : User) (k : String) : Prop :=
  ∃ m, NaveggApi.getSegments s.device k (.enter user s.defaults) =
    .done (History.segment s.log k) m

/-- **The answer is right, and there is one** unless a fetch is due, the device is connected, and
the account number does not fit. -/
theorem view_right_iff (accountId : Int) (device : Device) (actions : List Action) (user : User)
    (happ : (after accountId device actions).app = some user) (k : String) :
    (after accountId device actions).ViewRight user k ↔
      (User.refreshDue (after accountId device actions).device
          (after accountId device actions).defaults = true →
        user.getUserId ≠ "0" → (after accountId device actions).device.connected = true →
          AccountFits accountId) := by
  have hsound := sound_after accountId device actions
  have haccount := after_accountId accountId device actions
  generalize after accountId device actions = s at *
  have hsegment : (User.browsed (.enter user s.defaults)).user.segment k =
      History.segment s.log k := by
    rw [User.browsed_segment _ (hsound.consistent user happ).noPermanent]
    exact segment_eq hsound happ k
  unfold ViewRight NaveggApi.getSegments
  rw [User.getSegments_eq, Memory.enter_defaults]
  cases hdue : User.refreshDue s.device s.defaults with
  | false =>
      exact iff_of_true ⟨User.browsed (.enter user s.defaults), by simp [hsegment]⟩ (by simp)
  | true =>
      have hfetch := WebService.fetch s.device (User.browsed (.enter user s.defaults))
      simp only [if_true, true_implies]
      generalize WebService.getSegments s.device (User.browsed (.enter user s.defaults)) = x
        at hfetch ⊢
      cases hfetch with
      | idle hidle =>
          refine iff_of_true ⟨User.browsed (.enter user s.defaults), by simp [hsegment]⟩ ?_
          intro hid hconn
          rcases hidle with hzero | hoff
          · exact absurd hzero hid
          · simp [hconn] at hoff
      | issue acc hid hconn hacc =>
          have hfits : AccountFits accountId := by
            rw [← haccount]
            exact hsound.fits happ hacc
          rw [Outcome.bind_done, ← hsegment]
          exact iff_of_true ⟨_, rfl⟩ fun _ _ => hfits
      | overflow hid hconn hacc =>
          refine iff_of_false (by simp) fun hall => ?_
          rw [← haccount] at hall
          exact hsound.not_fits happ hacc (hall hid hconn)

def restored : List Action :=
  [.restart none, .complete 0 (named "u1"), .complete 1 (listed "1"), .restart none]

theorem view_right_iff_restored :
    ∃ user, (after 7 (.phone 1700000000) restored).app = some user ∧
      ((after 7 (.phone 1700000000) restored).ViewRight user "gender" ↔
        (User.refreshDue (after 7 (.phone 1700000000) restored).device
            (after 7 (.phone 1700000000) restored).defaults = true →
          user.getUserId ≠ "0" →
            (after 7 (.phone 1700000000) restored).device.connected = true → AccountFits 7)) := by
  have hlive : (after 7 (.phone 1700000000) restored).app.isSome = true := by decide +kernel
  obtain ⟨user, happ⟩ := Option.isSome_iff_exists.mp hlive
  exact ⟨user, happ, view_right_iff 7 _ restored user happ "gender"⟩

/-! ### An account number that is no `UInt32`

The id is stored before the first fetch traps, so the second process starts with an id, and its
first `getSegments` traps as well. -/

def restarted : List Action := [.restart none, .complete 0 (named "u1"), .restart none]

theorem view_traps : ∃ user, (after (-1) (.phone 1700000000) restarted).app = some user ∧
    ¬ (after (-1) (.phone 1700000000) restarted).ViewRight user "gender" := by
  have hlive : ((after (-1) (.phone 1700000000) restarted).app.map fun user =>
      (NaveggApi.getSegments (after (-1) (.phone 1700000000) restarted).device "gender"
        (.enter user (after (-1) (.phone 1700000000) restarted).defaults)).isDone) =
          some false := by
    decide +kernel
  obtain ⟨user, happ, htrap⟩ := Option.map_eq_some_iff.mp hlive
  refine ⟨user, happ, ?_⟩
  rintro ⟨m, hdone⟩
  rw [hdone] at htrap
  simp at htrap

end System
