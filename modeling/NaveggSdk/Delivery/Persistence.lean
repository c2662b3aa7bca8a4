import NaveggSdk.Delivery.Partition
import NaveggSdk.Library.Runs
import NaveggSdk.System.Objects

/-!
# No onboarding write is lost

Every object keeps a copy of the onboarding map, and a copy goes stale as soon as another object
writes. `addInfo` therefore reads the store again before it looks at the copy, and what it refuses
to write is there already. So the stored map is all the writes so far, the last one of each key
winning, however many objects made them (`onboarding_persists`).
-/

open WebService NaveggApi

namespace OnBoarding

variable (accountId : Int) (defaults : UserDefaults)

/-- A write under one of the other keys does not touch the map. -/
theorem storedMap_set (v : PropertyList) {key : String} (h : key ∈ fixedKeys) :
    storedMap accountId (defaults.set v key) = storedMap accountId defaults := by
  rw [storedMap, UserDefaults.dictionary_set_ne _ _ (mapKey_ne h accountId), storedMap]

theorem storedMap_setOptional (v : Option PropertyList) {key : String} (h : key ∈ fixedKeys) :
    storedMap accountId (defaults.setOptional v key) = storedMap accountId defaults := by
  rw [storedMap, UserDefaults.dictionary_setOptional_ne _ _ (mapKey_ne h accountId), storedMap]

theorem storedMap_registered (idAppStore : Option Int) :
    storedMap accountId (registered accountId idAppStore defaults) =
      storedMap accountId defaults := by
  have hreaders := registered_readers accountId idAppStore defaults (mapKey accountId) (by simp)
    (by simp) (by simp)
  rw [storedMap, hreaders.2.2.2, storedMap]

/-- A pair that is refused is the stored one. -/
theorem lookup_of_isSuppressed {device : Device} {valueData : Dictionary String String}
    {key value : String} (h : isSuppressed device defaults valueData key value = true) :
    valueData.lookup key = some value := by
  unfold isSuppressed at h
  cases hlookup : valueData.lookup key with
  | none => simp [hlookup] at h
  | some checkValue =>
      rw [hlookup] at h
      by_cases hvalue : checkValue = value
      · rw [hvalue]
      · simp [hvalue] at h

end OnBoarding

open OnBoarding

/-! ## What a piece of code does to the map -/

def KeepsMap (accountId : Int) (m : Memory) (x : Outcome Unit) : Prop :=
  storedMap accountId x.memory.defaults = storedMap accountId m.defaults

namespace KeepsMap

theorem frame (accountId : Int) (device : Device) :
    Frame device fun m m' => KeepsMap accountId m (.done () m') where
  refl _ := rfl
  trans h h' := Eq.trans h' h
  browsed _ := rfl
  reread _ := rfl
  issue _ _ _ _ := rfl
  setToSendOnBoarding _ _ := storedMap_set accountId _ _ (by decide)
  setDateLastSync _ _ := storedMap_set accountId _ _ (by decide)
  setRunningCreateUser _ _ := rfl
  saveSegments _ _ :=
    (storedMap_set accountId _ _ (by decide)).trans (storedMap_set accountId _ _ (by decide))

variable (accountId : Int) (device : Device) (m : Memory)

/-- The calls that are no `setOnboarding`. -/
theorem call (c : Call) (hc : ∀ k v, c ≠ .setOnboarding k v) :
    KeepsMap accountId m (c.run device m) :=
  (frame accountId device).call c m fun k v heq => absurd heq (hc k v)

theorem completion (call : WebCall) (response : DataResponse) :
    KeepsMap accountId m (WebService.completion device call response m) := by
  apply (frame accountId device).completion call response m
  intro userId _ _
  exact storedMap_setOptional accountId m.defaults (some (.string userId)) (by decide)

end KeepsMap

/-! ## What `setOnboarding` does -/

/-- What `setOnboarding` leaves behind: the pair in the stored map, the stored map in memory, and
requests made from it. -/
structure Persists (accountId : Int) (key value : String) (m : Memory) (x : Outcome Unit) :
    Prop where
  map : (storedMap accountId x.memory.defaults).Same
    ((storedMap accountId m.defaults).insert key value)
  info : x.memory.user.getOnBoarding.getInfo key = value
  requests : ∀ r ∈ x.memory.requests, r.call = .sendOnBoarding ∧ ∃ acc userId,
    Partitioned acc userId (storedMap accountId x.memory.defaults) r.parameters

theorem getInfo_of_lookup {onBoarding : OnBoarding} {key value : String}
    (h : onBoarding.valueData.lookup key = some value) : onBoarding.getInfo key = value := by
  unfold getInfo
  rw [h]

/-- `sendOnBoarding` leaves the objects alone and issues at most one request, made from the map it
is given. -/
theorem sendOnBoarding_spec (device : Device) (onBoarding : OnBoarding) {m : Memory}
    (h : m.requests = []) :
    (WebService.sendOnBoarding device onBoarding m).memory.user = m.user ∧
      ∀ r ∈ (WebService.sendOnBoarding device onBoarding m).memory.requests,
        r.call = .sendOnBoarding ∧ ∃ acc userId,
          Partitioned acc userId onBoarding.valueData r.parameters := by
  have hsend := send device onBoarding m
  generalize WebService.sendOnBoarding device onBoarding m = x at hsend ⊢
  cases hsend with
  | missing hid => exact ⟨rfl, by simp [h]⟩
  | offline hid hconn => exact ⟨rfl, by simp [WebService.setToSendOnBoarding, h]⟩
  | overflow hid hconn hacc => exact ⟨rfl, by simp [h]⟩
  | issue acc hid hconn hacc =>
      refine ⟨rfl, fun r hr => ?_⟩
      have heq : r = sendOnBoardingRequest acc m.user.getUserId onBoarding.valueData := by
        simpa [Memory.issue, h] using hr
      rw [heq]
      exact ⟨rfl, acc, m.user.getUserId, partitioned _ _ _⟩

/-- **A write persists**, whether it is sent, refused, kept for later, or ends the process. -/
theorem persists_setOnboarding (device : Device) (key value : String) {m : Memory}
    {accountId : Int} (haccount : m.user.onBoarding.accountId = accountId)
    (hrequests : m.requests = []) :
    Persists accountId key value m (setOnboarding device key value m) := by
  subst haccount
  rw [setOnboarding_eq]
  cases hsup : suppresses device key value m with
  | true =>
      -- what is refused is there already
      have hlookup := lookup_of_isSuppressed m.defaults hsup
      refine ⟨Dictionary.same_insert_self hlookup, getInfo_of_lookup hlookup, ?_⟩
      simp [reread, hrequests]
  | false =>
      have hmap : storedMap m.user.onBoarding.accountId (store key value m).defaults =
          (storedMap m.user.onBoarding.accountId m.defaults).insert key value := by
        simp [store, storedMap]
      have hkeeps := (KeepsMap.frame m.user.onBoarding.accountId device).sendOnBoarding
        (store key value m).user.onBoarding (store key value m)
      obtain ⟨huser, hissued⟩ := sendOnBoarding_spec device (store key value m).user.onBoarding
        (m := store key value m) hrequests
      simp only [Bool.false_eq_true, if_false]
      simp only [KeepsMap, Outcome.memory_done] at hkeeps
      constructor
      case map =>
        rw [hkeeps, hmap]
        exact Dictionary.Same.refl _
      case info =>
        rw [huser]
        exact getInfo_of_lookup (AList.lookup_insert _)
      case requests =>
        intro r hr
        rw [hkeeps, hmap]
        exact hissued r hr

/-! ## Runs of any number of objects -/

namespace Shared

/-- The pair a step writes: a call of `setOnboarding` on an object that is there. -/
def written (s : Shared) : Action → Option (String × String)
  | .call owner (.setOnboarding key value) =>
    if (s.apps[owner]?).isSome then some (key, value) else none
  | _ => none

def writes : Shared → List Action → List (String × String)
  | _, [] => []
  | s, a :: as => (s.written a).toList ++ writes (s.step a) as

/-- **No other step touches the map.** -/
theorem storedMap_step_of_not_written {s : Shared} {a : Action}
    (h : s.written a = none) :
    storedMap s.accountId (s.step a).defaults = storedMap s.accountId s.defaults := by
  cases hran : s.ran a with
  | none => rw [(idle_of_not_ran hran).2.1]
  | some x =>
      rw [(ends_of_ran hran).defaults]
      cases a with
      | construct idAppStore =>
          cases hran
          rw [init_eq]
          exact storedMap_registered s.accountId s.defaults idAppStore
      | call owner c =>
          obtain ⟨user, huser, rfl⟩ := Option.map_eq_some_iff.mp hran
          refine KeepsMap.call s.accountId s.device (.enter user s.defaults) c ?_
          rintro k v rfl
          simp [written, huser] at h
      | complete id response =>
          obtain ⟨p, hp, hmapped⟩ := Option.bind_eq_some_iff.mp hran
          obtain ⟨user, huser, rfl⟩ := Option.map_eq_some_iff.mp hmapped
          exact KeepsMap.completion s.accountId s.device (.enter user s.defaults) _ response
      | connectivity connected => cases hran
      | clock now => cases hran
      | restart => cases hran

/-- A call of `setOnboarding` on an object that is there. -/
theorem persists_ran {s : Shared} (howned : s.Owned) {owner : Nat} {key value : String}
    {x : Outcome Unit} (hran : s.ran (.call owner (.setOnboarding key value)) = some x) :
    ∃ user, s.apps[owner]? = some user ∧
      Persists s.accountId key value (.enter user s.defaults) x := by
  obtain ⟨user, huser, rfl⟩ := Option.map_eq_some_iff.mp hran
  refine ⟨user, huser, ?_⟩
  exact persists_setOnboarding s.device key value (howned user (List.mem_of_getElem? huser)).2 rfl

/-- The object a call was made through, after the call. -/
theorem eq_of_caller {s : Shared} {owner : Nat} {c : Call} {user : User}
    (h : (s.step (.call owner c)).apps[owner]? = some user) :
    ∃ x, s.ran (.call owner c) = some x ∧ user = x.memory.user := by
  cases howner : s.apps[owner]? with
  | none =>
      simp [step, howner] at h
  | some before =>
      refine ⟨c.run s.device (.enter before s.defaults), by simp [ran, howner], ?_⟩
      have hlt : owner < s.apps.length := (List.getElem?_eq_some_iff.mp howner).1
      simp only [step, howner, settle] at h
      by_cases hdone : (c.run s.device (.enter before s.defaults)).isDone = true
      · rw [if_pos hdone, List.getElem?_set_self hlt, Option.some.injEq] at h
        exact h.symm
      · rw [if_neg hdone] at h
        simp at h

/-- A step that writes is a call of `setOnboarding`, which runs. -/
theorem ran_of_written {s : Shared} {a : Action} {p : String × String}
    (h : s.written a = some p) :
    ∃ owner x, a = .call owner (.setOnboarding p.1 p.2) ∧ s.ran a = some x := by
  cases a with
  | call owner c =>
      cases c with
      | setOnboarding key value =>
          rw [written] at h
          split at h
          · obtain ⟨user, huser⟩ := Option.isSome_iff_exists.mp ‹_›
            cases h
            exact ⟨owner, _, rfl, by rw [ran, huser]; rfl⟩
          · cases h
      | getSegments k => cases h
      | sendDataSaveInDefault => cases h
  | construct idAppStore => cases h
  | complete id response => cases h
  | connectivity connected => cases h
  | clock now => cases h
  | restart => cases h

/-- **One step** leaves the map with the pair it writes. -/
theorem storedMap_step {s : Shared} (howned : s.Owned) (a : Action) :
    (storedMap s.accountId (s.step a).defaults).Same
      (Dictionary.overwrite (storedMap s.accountId s.defaults) (s.written a).toList) := by
  cases hwritten : s.written a with
  | none =>
      rw [storedMap_step_of_not_written hwritten]
      exact Dictionary.Same.refl _
  | some p =>
      obtain ⟨owner, x, rfl, hran⟩ := ran_of_written hwritten
      obtain ⟨user, -, hpersists⟩ := persists_ran howned hran
      rw [(ends_of_ran hran).defaults]
      exact hpersists.map

/-- A run leaves the map with all the pairs it writes. -/
theorem storedMap_run {s : Shared} (howned : s.Owned) (actions : List Action) :
    (storedMap s.accountId (Runs.run step s actions).defaults).Same
      (Dictionary.overwrite (storedMap s.accountId s.defaults) (s.writes actions)) := by
  induction actions generalizing s with
  | nil => exact Dictionary.Same.refl _
  | cons a as ih =>
      have hstep := storedMap_step howned a
      have hrest := ih (howned.step a)
      rw [step_accountId] at hrest
      refine hrest.trans ?_
      rw [writes, Dictionary.overwrite_append]
      exact hstep.overwrite _

def after (accountId : Int) (device : Device) (actions : List Action) : Shared :=
  Runs.run step (installed accountId device) actions

theorem owned_after (accountId : Int) (device : Device) (actions : List Action) :
    (after accountId device actions).Owned ∧
      (after accountId device actions).accountId = accountId :=
  Runs.run_invariant (I := fun s => s.Owned ∧ s.accountId = accountId)
    ⟨owned_installed accountId device, rfl⟩
    (fun s a h => ⟨h.1.step a, (step_accountId s a).trans h.2⟩) actions

/-- **No onboarding write is lost.** After every run of any number of objects

* the stored map is all the writes so far, the last one of each key winning;
* a step that is no call of `setOnboarding` leaves it alone;
* an object a pair was set through answers with it;
* the requests of such a call carry exactly the map that is then stored. -/
theorem onboarding_persists (accountId : Int) (device : Device) (actions : List Action) :
    (storedMap accountId (after accountId device actions).defaults).Same
        (Dictionary.overwrite ∅ ((installed accountId device).writes actions)) ∧
      (∀ a, (after accountId device actions).written a = none →
        storedMap accountId ((after accountId device actions).step a).defaults =
          storedMap accountId (after accountId device actions).defaults) ∧
      ∀ owner key value,
        (∀ user, ((after accountId device actions).step
            (.call owner (.setOnboarding key value))).apps[owner]? = some user →
          user.getOnBoarding.getInfo key = value) ∧
        ∀ x, (after accountId device actions).ran (.call owner (.setOnboarding key value)) =
            some x →
          ∀ r ∈ x.memory.requests, r.call = .sendOnBoarding ∧ ∃ acc userId,
            Partitioned acc userId (storedMap accountId ((after accountId device actions).step
              (.call owner (.setOnboarding key value))).defaults) r.parameters := by
  have hrun := storedMap_run (owned_installed accountId device) actions
  obtain ⟨howned, haccount⟩ := owned_after accountId device actions
  refine ⟨hrun, fun a ha => ?_, fun owner key value => ⟨fun user huser => ?_, fun x hran => ?_⟩⟩
  · have hstep := storedMap_step_of_not_written ha
    rwa [haccount] at hstep
  · obtain ⟨x, hran, rfl⟩ := eq_of_caller huser
    obtain ⟨before, -, hpersists⟩ := persists_ran howned hran
    exact hpersists.info
  · obtain ⟨before, -, hpersists⟩ := persists_ran howned hran
    rw [haccount] at hpersists
    rw [(ends_of_ran hran).defaults]
    exact hpersists.requests

end Shared
