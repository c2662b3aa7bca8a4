import NaveggSdk.Delivery.Ledger
import NaveggSdk.Library.Runs
import NaveggSdk.System.Clock

/-!
# Does the same-day suppression lose an update?

`addInfo` refuses a pair that is already stored when the date of the last recorded send is of
today. What it means to ask is whether *this pair* was delivered today. The two agree as long as
every recorded success of the day covers every stored pair (`SuppressionSafe`), and only then:
`suppression_honest_iff`.

A pair that was delivered today is always refused; this direction needs no condition, only a clock
that does not go back.
-/

namespace Ledger

variable (calendar : Calendar)

def SentOn (day : Int) (l : Ledger) : Prop :=
  ∃ p, l.recorded.head? = some p ∧ calendar.dayOf p.2 = day

/-- A pair was contained in a send whose success was recorded on a given day. -/
def DeliveredOn (day : Int) (l : Ledger) (key value : String) : Prop :=
  ∃ p ∈ l.recorded, calendar.dayOf p.2 = day ∧ p.1.lookup key = some value

/-- The pairs that are refused on a given day are the stored ones that were delivered on it. -/
def SuppressionHonest (day : Int) (l : Ledger) : Prop :=
  ∀ k v, (l.stored.lookup k = some v ∧ l.SentOn calendar day) ↔
    (l.stored.lookup k = some v ∧ l.DeliveredOn calendar day k v)

/-- The deeds after which the pairs refused are still the right ones.

* A pair is stored: nothing was sent today yet, or this pair was delivered today already.
* A success is recorded: its map, with what was delivered today, is the whole stored map. -/
def SuppressionSafe (now : Date) (l : Ledger) : Deed → Prop
  | .keep key value | .send key value _ =>
    l.SentOn calendar (calendar.dayOf now) → l.DeliveredOn calendar (calendar.dayOf now) key value
  | .confirm parcel _ => ∀ k v, l.stored.lookup k = some v →
    parcel.map.lookup k = some v ∨ l.DeliveredOn calendar (calendar.dayOf now) k v
  | _ => True

/-- The recorded sends are in order, and none lies in the future. -/
def Timely (now : Date) (l : Ledger) : Prop :=
  (now :: l.recorded.map Prod.snd).Pairwise fun d d' => d' ≤ d

variable {calendar} {l : Ledger} {now : Date}

/-- What was delivered today was sent today: the last send is at least as recent. -/
theorem DeliveredOn.sentOn (htimely : l.Timely now) {k v : String}
    (h : l.DeliveredOn calendar (calendar.dayOf now) k v) :
    l.SentOn calendar (calendar.dayOf now) := by
  obtain ⟨p, hp, hday, -⟩ := h
  obtain ⟨hnow, hdates⟩ := List.pairwise_cons.mp htimely
  cases hrecorded : l.recorded with
  | nil => simp [hrecorded] at hp
  | cons q rest =>
      rw [hrecorded] at hp hnow hdates
      refine ⟨q, by simp [hrecorded], le_antisymm ?_ ?_⟩
      · exact calendar.dayOf_mono (hnow q.2 (by simp))
      · rw [← hday]
        apply calendar.dayOf_mono
        rcases List.mem_cons.mp hp with rfl | hp
        · exact le_refl _
        · exact List.rel_of_pairwise_cons hdates (List.mem_map_of_mem hp)

/-- What honesty comes to. -/
theorem suppressionHonest_iff (htimely : l.Timely now) :
    l.SuppressionHonest calendar (calendar.dayOf now) ↔
      (l.SentOn calendar (calendar.dayOf now) → ∀ k v, l.stored.lookup k = some v →
        l.DeliveredOn calendar (calendar.dayOf now) k v) := by
  constructor
  · intro h hsent k v hstored
    exact ((h k v).mp ⟨hstored, hsent⟩).2
  · intro h k v
    constructor
    · rintro ⟨hstored, hsent⟩
      exact ⟨hstored, h hsent k v hstored⟩
    · rintro ⟨hstored, hdelivered⟩
      exact ⟨hstored, hdelivered.sentOn htimely⟩

/-- Storing a pair adds one pair to answer for. -/
theorem forall_stored_insert {P : String → String → Prop} {stored : Dictionary String String}
    (h : ∀ k v, stored.lookup k = some v → P k v) (key value : String) :
    (∀ k v, (stored.insert key value).lookup k = some v → P k v) ↔ P key value := by
  constructor
  · intro hall
    exact hall key value (AList.lookup_insert stored)
  · intro hnew k v hlookup
    by_cases hk : k = key
    · subst hk
      rw [AList.lookup_insert, Option.some.injEq] at hlookup
      rwa [← hlookup]
    · rw [AList.lookup_insert_ne hk] at hlookup
      exact h k v hlookup

/-- **One deed**, at one moment: from an honest ledger, exactly the safe deeds lead to an honest
one. -/
theorem suppressionHonest_apply (htimely : l.Timely now)
    (h : l.SuppressionHonest calendar (calendar.dayOf now)) {d : Deed}
    (hdate : ∀ parcel date, d = .confirm parcel date → date = now)
    (htimely' : (l.apply d).Timely now) :
    (l.apply d).SuppressionHonest calendar (calendar.dayOf now) ↔
      l.SuppressionSafe calendar now d := by
  rw [suppressionHonest_iff htimely] at h
  rw [suppressionHonest_iff htimely']
  cases d with
  | nothing => exact iff_of_true h trivial
  | resend id => exact iff_of_true h trivial
  | fail id => exact iff_of_true h trivial
  | lose => exact iff_of_true h trivial
  | keep key value =>
      exact forall_congr' fun hsent => forall_stored_insert (h hsent) key value
  | send key value id =>
      exact forall_congr' fun hsent => forall_stored_insert (h hsent) key value
  | confirm parcel date =>
      -- from now on something was sent today, so honesty asks about every stored pair
      obtain rfl : date = now := hdate parcel date rfl
      have hsent : (l.apply (.confirm parcel date)).SentOn calendar (calendar.dayOf date) :=
        ⟨(parcel.map, date), rfl, rfl⟩
      have hdelivered : ∀ k v,
          (l.apply (.confirm parcel date)).DeliveredOn calendar (calendar.dayOf date) k v ↔
            parcel.map.lookup k = some v ∨ l.DeliveredOn calendar (calendar.dayOf date) k v := by
        intro k v
        simp [DeliveredOn, apply]
      rw [forall_prop_of_true hsent]
      exact forall₂_congr fun k v => imp_congr_right fun _ => hdelivered k v

/-- **The clock.** If the last send is of the new day, the new day is the old one. -/
theorem suppressionHonest_clock {now' : Date} (htimely : l.Timely now) (hforward : now ≤ now')
    (h : l.SuppressionHonest calendar (calendar.dayOf now)) :
    l.SuppressionHonest calendar (calendar.dayOf now') := by
  have htimely' : l.Timely now' := by
    obtain ⟨hnow, hdates⟩ := List.pairwise_cons.mp htimely
    exact List.Pairwise.cons (fun d hd => le_trans (hnow d hd) hforward) hdates
  rw [suppressionHonest_iff htimely] at h
  rw [suppressionHonest_iff htimely']
  rintro ⟨p, hp, hday⟩
  have hpast : p.2 ≤ now := by
    refine List.rel_of_pairwise_cons htimely (List.mem_map_of_mem ?_)
    exact List.mem_of_mem_head? hp
  have hsame : calendar.dayOf now = calendar.dayOf now' := by
    apply le_antisymm (calendar.dayOf_mono hforward)
    rw [← hday]
    exact calendar.dayOf_mono hpast
  rw [← hsame] at hday ⊢
  exact h ⟨p, hp, hday⟩

end Ledger

namespace System

/-- `addInfo` refuses a pair exactly when it is the stored one and was contained in a send whose
success was recorded on the current day. -/
def SuppressionHonest (s : System) : Prop :=
  ∀ onBoarding : OnBoarding, onBoarding.accountId = s.accountId → ∀ k v,
    (onBoarding.addInfo s.device k v s.defaults).1 = false ↔
      (OnBoarding.storedMap s.accountId s.defaults).lookup k = some v ∧
        History.DeliveredOn s.device.calendar (s.device.calendar.dayOf s.device.now) s.log k v

/-- What `addInfo` looks at, in terms of the ledger. -/
theorem addInfo_eq_false_iff {s : System} (h : Sound s) (onBoarding : OnBoarding)
    (haccount : onBoarding.accountId = s.accountId) (k v : String) :
    (onBoarding.addInfo s.device k v s.defaults).1 = false ↔
      s.ledger.stored.lookup k = some v ∧
        s.ledger.SentOn s.device.calendar (s.device.calendar.dayOf s.device.now) := by
  have hreturn : (onBoarding.addInfo s.device k v s.defaults).1 = false ↔
      OnBoarding.isSuppressed s.device s.defaults s.ledger.stored k v = true := by
    unfold OnBoarding.addInfo
    rw [haccount]
    show (if OnBoarding.isSuppressed s.device s.defaults s.ledger.stored k v = true then _ else _
      : Bool × _).1 = false ↔ _
    split <;> simp_all
  rw [hreturn, OnBoarding.isSuppressed, h.mirror.dateOnBoarding]
  cases hlookup : s.ledger.stored.lookup k with
  | none => simp
  | some checkValue =>
      by_cases hvalue : checkValue = v
      · subst hvalue
        cases hrecorded : History.recorded s.log with
        | nil => simp [Ledger.SentOn, ledger, hrecorded]
        | cons p rest =>
            simp [Ledger.SentOn, ledger, hrecorded, Util.dayBetweenDates, sub_eq_zero]
      · simp [hvalue]

theorem suppressionHonest_iff_ledger {s : System} (h : Sound s) :
    s.SuppressionHonest ↔
      s.ledger.SuppressionHonest s.device.calendar (s.device.calendar.dayOf s.device.now) := by
  constructor
  · intro hall k v
    rw [← addInfo_eq_false_iff h (OnBoarding.init s.accountId s.defaults) rfl k v]
    exact hall _ rfl k v
  · intro hall onBoarding haccount k v
    rw [addInfo_eq_false_iff h onBoarding haccount k v]
    exact hall k v

/-- A success is recorded at the present. -/
theorem deed_confirm_date {s : System} {a : Action} {parcel : Parcel} {date : Date}
    (h : s.deed a = .confirm parcel date) : date = s.device.now := by
  cases a with
  | connectivity connected => cases h
  | clock now => cases h
  | restart idAppStore => cases h
  | call c =>
      cases happ : s.app with
      | none => simp [deed, happ] at h
      | some user =>
          cases c with
          | getSegments k => simp [deed, happ] at h
          | setOnboarding k v =>
              simp only [deed, happ] at h
              split at h
              · cases h
              · split at h <;> cases h
          | sendDataSaveInDefault =>
              simp only [deed, happ] at h
              split at h <;> cases h
  | complete id response =>
      cases hf : s.flight? id with
      | none => simp [deed, hf] at h
      | some f =>
          cases hcall : f.request.call with
          | createUser => simp [deed, hf, hcall] at h
          | getSegments =>
              simp only [deed, hf, hcall] at h
              split at h <;> cases h
          | sendOnBoarding =>
              simp only [deed, hf, hcall] at h
              split at h
              · cases h
                rfl
              · cases h

/-- The dates of the ledger are in order. -/
theorem Timely.ledger {s : System} (h : Timely s) : s.ledger.Timely s.device.now := h.recorded

/-- **One step.** -/
theorem suppressionHonest_step {s : System} (hsound : Sound s) (htimely : Timely s) {a : Action}
    (hforward : s.Forward a) (h : s.SuppressionHonest) :
    (s.step a).SuppressionHonest ↔
      s.ledger.SuppressionSafe s.device.calendar s.device.now (s.deed a) := by
  have hsound' : Sound (s.step a) := hsound.step (step_step s a)
  have htimely' : (s.step a).ledger.Timely (s.step a).device.now := (htimely.step hforward).ledger
  rw [suppressionHonest_iff_ledger hsound] at h
  rw [suppressionHonest_iff_ledger hsound', ledger_step hsound]
  rw [ledger_step hsound] at htimely'
  -- only the clock changes the day; every other step is judged at the moment it is made
  by_cases hclock : ∃ now, a = .clock now
  · obtain ⟨now, rfl⟩ := hclock
    exact iff_of_true (Ledger.suppressionHonest_clock htimely.ledger hforward h) trivial
  · obtain ⟨hcalendar, hnow⟩ := (step_step s a).clock_eq (not_exists.mp hclock)
    rw [hnow] at htimely'
    rw [hcalendar, hnow]
    exact Ledger.suppressionHonest_apply htimely.ledger h (fun _ _ => deed_confirm_date) htimely'

/-- **The pairs refused are the right ones in exactly the runs whose deeds are all safe.** -/
theorem suppression_honest_iff (accountId : Int) (device : Device) (actions : List Action)
    (hforward : Runs.Each step Forward (installed accountId device) actions) :
    Runs.Always step SuppressionHonest (installed accountId device) actions ↔
      Runs.Each step
        (fun s a => s.ledger.SuppressionSafe s.device.calendar s.device.now (s.deed a))
        (installed accountId device) actions := by
  apply Runs.always_iff_each (fun s => Sound s ∧ Timely s) Forward
  · exact ⟨Sound.installed accountId device, timely_installed accountId device⟩
  · rw [suppressionHonest_iff_ledger (Sound.installed accountId device)]
    exact fun k v => iff_of_false (fun h => by cases h.1) (fun h => by cases h.1)
  · exact hforward
  · exact fun s a h hforward => ⟨h.1.step (step_step s a), h.2.step hforward⟩
  · exact fun s a h hforward hgood => suppressionHonest_step h.1 h.2 hforward hgood

/-! ### A run in which an update is lost

One pair is delivered. A minute later, without a connection, another pair is stored. From then on
and for the rest of the day the new pair is refused, as if it had been delivered as well. -/

def overlooked : List Action :=
  [.restart none, .complete 0 (WebService.named "u1"), .call (.setOnboarding "age" "30"),
    .complete 2 (.ok (.text "ok")), .clock 1700000060, .connectivity false,
    .call (.setOnboarding "city" "SP")]

theorem forward_overlooked :
    Runs.Each step Forward (installed 7 (.phone 1700000000)) overlooked := by
  decide +kernel

theorem suppression_honest_iff_overlooked :
    Runs.Each step Forward (installed 7 (.phone 1700000000)) overlooked ∧
      (Runs.Always step SuppressionHonest (installed 7 (.phone 1700000000)) overlooked ↔
        Runs.Each step
          (fun s a => s.ledger.SuppressionSafe s.device.calendar s.device.now (s.deed a))
          (installed 7 (.phone 1700000000)) overlooked) :=
  ⟨forward_overlooked, suppression_honest_iff 7 _ _ forward_overlooked⟩

theorem suppression_overlooks :
    Runs.Each step Forward (installed 7 (.phone 1700000000)) overlooked ∧
      ¬ Runs.Always step SuppressionHonest (installed 7 (.phone 1700000000)) overlooked := by
  refine ⟨forward_overlooked, fun h => ?_⟩
  have hrefused : ((OnBoarding.init 7 (after 7 (.phone 1700000000) overlooked).defaults).addInfo
      (after 7 (.phone 1700000000) overlooked).device "city" "SP"
      (after 7 (.phone 1700000000) overlooked).defaults).1 = false := by
    decide +kernel
  have hnever : ¬ ∃ p ∈ History.recorded (after 7 (.phone 1700000000) overlooked).log,
      p.1.lookup "city" = some "SP" := by
    decide +kernel
  obtain ⟨-, p, hp, -, hlookup⟩ := (h.last _ rfl "city" "SP").mp hrefused
  exact hnever ⟨p, hp, hlookup⟩

end System
