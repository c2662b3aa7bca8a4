import NaveggSdk.Delivery.Ledger
import NaveggSdk.Library.Runs

/-!
# Does the delivery flag tell the truth?

`toSendOnBoarding` is put up by a send whose success was recorded and taken down by a failed or
skipped one. With no send in flight, a flag that is up should mean that every stored pair has
arrived (`FlagHonest`). It does not always: an answer does not know which map it answers for, and a
restart forgets that an answer was awaited. `FlagSafe` are the deeds that cannot go wrong in one of
these two ways, and `flag_honest_iff` says that there is no third way.
-/

namespace Ledger

def Settled (l : Ledger) : Prop := ∀ k v, l.stored.lookup k = some v → l.Delivered k v

/-- With no send in flight, the flag is up only if every stored pair was delivered. -/
def FlagHonest (l : Ledger) : Prop := l.sends = [] → l.flag = true → l.Settled

/-- The deeds after which the flag still tells the truth.

* A recorded success that is the last answer awaited: its map, with what was delivered before, is
  the whole stored map. (It is not when a pair was stored after the map was sent, and the send of
  that pair has failed in the meantime.)
* The end of the process: no send is in flight, or the flag is down, or everything was delivered. -/
def FlagSafe (l : Ledger) : Deed → Prop
  | .confirm parcel _ =>
    (∃ p ∈ l.sends, p.id ≠ parcel.id) ∨
      ∀ k v, l.stored.lookup k = some v → parcel.map.lookup k = some v ∨ l.Delivered k v
  | .lose => l.sends = [] ∨ l.flag = false ∨ l.Settled
  | _ => True

/-- **One deed.** From an honest ledger, exactly the safe deeds lead to an honest one. -/
theorem flagHonest_apply {l : Ledger} (h : l.FlagHonest) (d : Deed) :
    (l.apply d).FlagHonest ↔ l.FlagSafe d := by
  cases d with
  | nothing => exact iff_of_true h trivial
  | keep key value => exact iff_of_true (fun _ hflag => by simp [apply] at hflag) trivial
  | send key value id => exact iff_of_true (fun hsends _ => by simp [apply] at hsends) trivial
  | resend id => exact iff_of_true (fun hsends _ => by simp [apply] at hsends) trivial
  | fail id => exact iff_of_true (fun _ hflag => by simp [apply] at hflag) trivial
  | confirm parcel date =>
      have hsends : (l.apply (.confirm parcel date)).sends = [] ↔
          ¬ ∃ p ∈ l.sends, p.id ≠ parcel.id := by
        simp [apply]
      have hsettled : (l.apply (.confirm parcel date)).Settled ↔ ∀ k v,
          l.stored.lookup k = some v → parcel.map.lookup k = some v ∨ l.Delivered k v :=
        forall₂_congr fun k v => imp_congr_right fun _ => delivered_confirm
      -- the flag is up now, so either another answer is awaited or everything must have arrived
      unfold FlagHonest FlagSafe
      rw [hsends, hsettled, ← or_iff_not_imp_left]
      simp [apply]
  | lose =>
      -- nothing is in flight afterwards, whatever was before: only the flag excuses
      have hforget : (l.apply .lose).FlagHonest ↔ (l.flag = true → l.Settled) := by
        simp [FlagHonest, apply, Settled, Delivered]
      rw [hforget, FlagSafe, or_iff_not_imp_left, or_iff_not_imp_left, Bool.not_eq_false]
      constructor
      · intro hall _
        exact hall
      · intro hsome hflag
        by_cases hidle : l.sends = []
        · exact h hidle hflag
        · exact hsome hidle hflag

end Ledger

namespace System

/-- With no send in flight, `hasToSendOnBoarding()` is false only if every stored pair was contained
in a send whose success was recorded. -/
def FlagHonest (s : System) : Prop :=
  (∀ f ∈ s.inFlight, f.request.call ≠ .sendOnBoarding) →
    OnBoarding.hasToSendOnBoarding s.defaults = false →
      ∀ k v, (OnBoarding.storedMap s.accountId s.defaults).lookup k = some v →
        History.Delivered s.log k v

theorem flagHonest_iff_ledger (s : System) : s.FlagHonest ↔ s.ledger.FlagHonest := by
  have hsends : s.ledger.sends = [] ↔ ∀ f ∈ s.inFlight, f.request.call ≠ .sendOnBoarding := by
    simp [ledger, List.filterMap_eq_nil_iff, Flight.parcel?]
  have hflag : OnBoarding.hasToSendOnBoarding s.defaults = false ↔ s.ledger.flag = true := by
    simp [OnBoarding.hasToSendOnBoarding, ledger]
  unfold FlagHonest Ledger.FlagHonest
  rw [hsends, hflag]
  rfl

/-- **The flag tells the truth in exactly the runs whose deeds are all safe.** -/
theorem flag_honest_iff (accountId : Int) (device : Device) (actions : List Action) :
    Runs.Always step FlagHonest (installed accountId device) actions ↔
      Runs.Each step (fun s a => s.ledger.FlagSafe (s.deed a)) (installed accountId device)
        actions := by
  apply Runs.always_iff_each Sound fun _ _ => True
  · exact Sound.installed accountId device
  · have hdown : OnBoarding.hasToSendOnBoarding UserDefaults.empty = true := rfl
    exact fun _ hflag => absurd (hdown.symm.trans hflag) nofun
  · exact Runs.each_of_forall (fun _ _ => trivial) _ _
  · exact fun s a h _ => h.step (step_step s a)
  · intro s a h _ hgood
    rw [flagHonest_iff_ledger, ledger_step h]
    exact Ledger.flagHonest_apply ((flagHonest_iff_ledger s).mp hgood) (s.deed a)

/-! ### A run in which it lies

Two pairs are sent one after the other. The answer for both is lost, which takes the flag down; the
answer for the first pair arrives after that and puts it up. The second pair was never delivered. -/

def crossing : List Action :=
  [.restart none, .complete 0 (WebService.named "u1"), .call (.setOnboarding "age" "30"),
    .call (.setOnboarding "city" "SP"), .complete 3 .lost, .complete 2 (.ok (.text "ok"))]

theorem flag_lies : ¬ Runs.Always step FlagHonest (installed 7 (.phone 1700000000)) crossing := by
  intro h
  have hnone : ∀ f ∈ (after 7 (.phone 1700000000) crossing).inFlight,
      f.request.call ≠ .sendOnBoarding := by decide +kernel
  have hflag : OnBoarding.hasToSendOnBoarding (after 7 (.phone 1700000000) crossing).defaults =
      false := by decide +kernel
  have hstored : (OnBoarding.storedMap 7 (after 7 (.phone 1700000000) crossing).defaults).lookup
      "city" = some "SP" := by decide +kernel
  have hnever : ¬ ∃ p ∈ History.recorded (after 7 (.phone 1700000000) crossing).log,
      p.1.lookup "city" = some "SP" := by decide +kernel
  exact hnever (h.last hnone hflag "city" "SP" hstored)

end System
