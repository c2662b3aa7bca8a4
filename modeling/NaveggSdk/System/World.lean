import NaveggSdk.Delivery.Persistence
import NaveggSdk.Library.Numeral
import NaveggSdk.System.Requests

/-!
# Several accounts on one device

An app may build objects of several accounts. Each account has a suite of its own, which is opened
by a name made of the account number; what the accounts share is the device and the process. A
`World` holds all the suites by name, and the objects and requests by account, in the order in which
the account got them.

`view_run` says what an account notices of the others: nothing, except that the process ends when
one of them traps. So what is known of one account (`Shared`) holds of each account of a world, and
`isolated` says so for the onboarding map.
-/

structure World where
  device : Device
  /-- `UserDefaults(suiteName:)`. -/
  suites : String → UserDefaults
  objects : Int → List User
  inFlight : Int → List Posted
  issued : Int → Nat

namespace World

inductive Action where
  | construct (accountId : Int) (idAppStore : Option Int)
  | call (accountId : Int) (owner : Nat) (c : Call)
  | complete (accountId : Int) (id : Nat) (response : DataResponse)
  | connectivity (connected : Bool)
  | clock (now : Date)
  | restart

/-- The name of the suite of an account, `"NVGSDK\\(accountId)"`. -/
def suiteName (accountId : Int) : String := "NVGSDK" ++ toString accountId

/-- **No two accounts have one suite.** -/
theorem suiteName_injective : Function.Injective suiteName := by
  intro a b h
  refine Numeral.toString_int_injective ?_
  have hlist := congrArg String.toList h
  rw [suiteName, suiteName, String.toList_append, String.toList_append,
    List.append_cancel_left_eq] at hlist
  exact String.toList_injective hlist

def view (w : World) (accountId : Int) : Shared where
  accountId := accountId
  device := w.device
  defaults := w.suites (suiteName accountId)
  apps := w.objects accountId
  inFlight := w.inFlight accountId
  issued := w.issued accountId

def put (w : World) (accountId : Int) (s : Shared) : World :=
  { w with
    suites := Function.update w.suites (suiteName accountId) s.defaults
    objects := Function.update w.objects accountId s.apps
    inFlight := Function.update w.inFlight accountId s.inFlight
    issued := Function.update w.issued accountId s.issued }

/-- The end of the process, for all accounts. -/
def die (w : World) : World := { w with objects := fun _ => [], inFlight := fun _ => [] }

def act (w : World) (accountId : Int) (a : Shared.Action) : World :=
  if (w.view accountId).Lives a then w.put accountId ((w.view accountId).step a)
  else (w.put accountId ((w.view accountId).step a)).die

def step (w : World) : Action → World
  | .construct accountId idAppStore => w.act accountId (.construct idAppStore)
  | .call accountId owner c => w.act accountId (.call owner c)
  | .complete accountId id response => w.act accountId (.complete id response)
  | .connectivity connected => { w with device := { w.device with connected := connected } }
  | .clock now => { w with device := { w.device with now := now } }
  | .restart => w.die

def installed (device : Device) : World where
  device := device
  suites := fun _ => UserDefaults.empty
  objects := fun _ => []
  inFlight := fun _ => []
  issued := fun _ => 0

/-! ## What an account notices -/

/-- What an account notices of a step of an object of one of the accounts: all of its own, and of
another one that it ends the process. -/
def noticedOf (w : World) (accountId : Int) (a : Shared.Action) (b : Int) : List Shared.Action :=
  if b = accountId then [a] else if (w.view accountId).Lives a then [] else [.restart]

/-- What an account notices of a step. -/
def noticed (w : World) (b : Int) : Action → List Shared.Action
  | .construct accountId idAppStore => w.noticedOf accountId (.construct idAppStore) b
  | .call accountId owner c => w.noticedOf accountId (.call owner c) b
  | .complete accountId id response => w.noticedOf accountId (.complete id response) b
  | .connectivity connected => [.connectivity connected]
  | .clock now => [.clock now]
  | .restart => [.restart]

/-- What an account notices of a run. -/
def noticedAll (b : Int) : World → List Action → List Shared.Action
  | _, [] => []
  | w, a :: as => w.noticed b a ++ noticedAll b (w.step a) as

theorem view_put_self (w : World) {accountId : Int} {s : Shared} (haccount : s.accountId = accountId)
    (hdevice : s.device = w.device) : (w.put accountId s).view accountId = s := by
  subst haccount
  simp only [view, put, Function.update_self]
  rw [← hdevice]

theorem view_put_of_ne (w : World) {accountId b : Int} (h : b ≠ accountId) (s : Shared) :
    (w.put accountId s).view b = w.view b := by
  have hname : suiteName b ≠ suiteName accountId := fun heq => h (suiteName_injective heq)
  simp only [view, put, Function.update_of_ne hname, Function.update_of_ne h]

theorem view_die (w : World) (b : Int) : w.die.view b = (w.view b).step .restart := rfl

/-- **One step of an object**, as each of the accounts sees it. -/
theorem view_act (w : World) (accountId : Int) {a : Shared.Action} (ha : a.isOwn = true) (b : Int) :
    (w.act accountId a).view b = Runs.run Shared.step (w.view b) (w.noticedOf accountId a b) := by
  have hself : (w.put accountId ((w.view accountId).step a)).view accountId =
      (w.view accountId).step a :=
    w.view_put_self ((w.view accountId).step_accountId a) ((w.view accountId).step_device ha)
  unfold act noticedOf
  by_cases hb : b = accountId
  · subst hb
    rw [if_pos rfl]
    by_cases hlives : (w.view b).Lives a
    · rw [if_pos hlives, hself]
      rfl
    · -- the account has noticed itself that the process has ended
      obtain ⟨happs, hinFlight⟩ := Shared.dead_step hlives
      rw [if_neg hlives, view_die, hself, Runs.run_cons, Runs.run_nil]
      generalize (w.view b).step a = t at happs hinFlight ⊢
      cases t
      cases happs
      cases hinFlight
      rfl
  · rw [if_neg hb]
    by_cases hlives : (w.view accountId).Lives a
    · rw [if_pos hlives, if_pos hlives, w.view_put_of_ne hb]
      rfl
    · rw [if_neg hlives, if_neg hlives, view_die, w.view_put_of_ne hb]
      rfl

theorem view_step (w : World) (a : Action) (b : Int) :
    (w.step a).view b = Runs.run Shared.step (w.view b) (w.noticed b a) := by
  cases a with
  | construct accountId idAppStore => exact w.view_act accountId rfl b
  | call accountId owner c => exact w.view_act accountId rfl b
  | complete accountId id response => exact w.view_act accountId rfl b
  | connectivity connected => rfl
  | clock now => rfl
  | restart => rfl

/-- **What an account sees of a run of the world is a run of its own.** -/
theorem view_run (w : World) (actions : List Action) (b : Int) :
    (Runs.run step w actions).view b =
      Runs.run Shared.step (w.view b) (noticedAll b w actions) := by
  induction actions generalizing w with
  | nil => rfl
  | cons a as ih =>
      rw [Runs.run_cons, ih, view_step, noticedAll, Runs.run_append]

/-! ## What an account does itself -/

/-- The action of an object of the account, if it is one. -/
def addressed (b : Int) : Action → Option Shared.Action
  | .construct accountId idAppStore => if b = accountId then some (.construct idAppStore) else none
  | .call accountId owner c => if b = accountId then some (.call owner c) else none
  | .complete accountId id response => if b = accountId then some (.complete id response) else none
  | .connectivity _ | .clock _ | .restart => none

theorem filter_noticedOf (w : World) {accountId : Int} {a : Shared.Action} (ha : a.isOwn = true)
    (b : Int) :
    (w.noticedOf accountId a b).filter Shared.Action.isOwn = if b = accountId then [a] else [] := by
  unfold noticedOf
  by_cases hb : b = accountId
  · rw [if_pos hb, if_pos hb, List.filter_cons_of_pos ha]
    rfl
  · rw [if_neg hb, if_neg hb]
    split <;> rfl

theorem filter_noticed (w : World) (b : Int) (a : Action) :
    (w.noticed b a).filter Shared.Action.isOwn = (addressed b a).toList := by
  cases a with
  | construct accountId idAppStore =>
      rw [noticed, filter_noticedOf w rfl, addressed]
      split <;> rfl
  | call accountId owner c =>
      rw [noticed, filter_noticedOf w rfl, addressed]
      split <;> rfl
  | complete accountId id response =>
      rw [noticed, filter_noticedOf w rfl, addressed]
      split <;> rfl
  | connectivity connected => rfl
  | clock now => rfl
  | restart => rfl

/-- An account notices its own actions in their order, and beside them nothing but the device and
the ends of the process. -/
theorem filter_noticedAll (b : Int) (w : World) (actions : List Action) :
    (noticedAll b w actions).filter Shared.Action.isOwn = actions.filterMap (addressed b) := by
  induction actions generalizing w with
  | nil => rfl
  | cons a as ih =>
      rw [noticedAll, List.filter_append, ih, filter_noticed, List.filterMap_cons]
      cases addressed b a <;> rfl

/-- **The accounts of a device are isolated.** Whatever the objects of all the accounts do, each
account is in a state that it reaches alone, by its own actions in their order and some of the
device and of the end of the process; and its onboarding map is what was written through its own
objects, the last write of each key winning. -/
theorem isolated (device : Device) (actions : List Action) (accountId : Int) :
    ∃ own : List Shared.Action,
      own.filter Shared.Action.isOwn = actions.filterMap (addressed accountId) ∧
      (Runs.run step (installed device) actions).view accountId =
        Shared.after accountId device own ∧
      (OnBoarding.storedMap accountId
          ((Runs.run step (installed device) actions).suites (suiteName accountId))).Same
        (Dictionary.overwrite ∅ ((Shared.installed accountId device).writes own)) := by
  have hview : (Runs.run step (installed device) actions).view accountId =
      Shared.after accountId device (noticedAll accountId (installed device) actions) :=
    view_run (installed device) actions accountId
  refine ⟨_, filter_noticedAll accountId (installed device) actions, hview, ?_⟩
  have hsuite : (Runs.run step (installed device) actions).suites (suiteName accountId) =
      (Shared.after accountId device
        (noticedAll accountId (installed device) actions)).defaults := by
    rw [← hview]
    rfl
  rw [hsuite]
  have hmap := Shared.storedMap_run (Shared.owned_installed accountId device)
    (noticedAll accountId (installed device) actions)
  exact hmap

end World
