import NaveggSdk.System.Step

/-!
# The live objects agree with the suite

With one live `NaveggApi` nobody else writes the suite, so what its objects hold in memory is what
the suite says: the user id, the onboarding map, and (up to the rewritten custom entry) the
segments. `Consistent` states this of a memory, and the lemmas below say that every effect of the
code keeps it.
-/

open WebService NaveggApi

def storedSegments (defaults : UserDefaults) : Dictionary String String :=
  (defaults.dictionary "jsonSegments").getD ∅

/-- The live objects agree with the suite of the account. -/
structure Memory.Consistent (accountId : Int) (m : Memory) : Prop where
  account : m.user.accountId = accountId
  mapAccount : m.user.onBoarding.accountId = accountId
  userId : m.user.userId = m.defaults.string "NVGSDK_USERID"
  valueData : m.user.onBoarding.valueData = OnBoarding.storedMap accountId m.defaults
  noPermanent : m.user.customListPermanent = []
  segment : ∀ k, m.user.segment k = ((storedSegments m.defaults).lookup k).getD ""

namespace Memory.Consistent

variable {accountId : Int} {m : Memory}

/-- The objects are those of the call's start, without its requests. -/
theorem enter (h : m.Consistent accountId) :
    (Memory.enter m.user m.defaults).Consistent accountId :=
  ⟨h.account, h.mapAccount, h.userId, h.valueData, h.noPermanent, h.segment⟩

theorem issue (h : m.Consistent accountId) (r : Request) : (m.issue r).Consistent accountId :=
  ⟨h.account, h.mapAccount, h.userId, h.valueData, h.noPermanent, h.segment⟩

theorem browsed (h : m.Consistent accountId) : (User.browsed m).Consistent accountId where
  account := h.account
  mapAccount := h.mapAccount
  userId := h.userId
  valueData := h.valueData
  noPermanent := h.noPermanent
  segment k := by
    rw [User.browsed_segment m h.noPermanent]
    exact h.segment k

theorem reread (h : m.Consistent accountId) : (reread m).Consistent accountId where
  account := h.account
  mapAccount := h.mapAccount
  userId := h.userId
  valueData := by
    show OnBoarding.storedMap m.user.onBoarding.accountId m.defaults = _
    rw [h.mapAccount]
    rfl
  noPermanent := h.noPermanent
  segment := h.segment

theorem store (h : m.Consistent accountId) (k v : String) :
    (store k v m).Consistent accountId where
  account := h.account
  mapAccount := h.mapAccount
  userId := by
    rw [show (NaveggApi.store k v m).user.userId = m.user.userId from rfl, h.userId]
    simp [NaveggApi.store]
  valueData := by
    simp [NaveggApi.store, OnBoarding.storedMap, h.mapAccount]
  noPermanent := h.noPermanent
  segment k' := by
    rw [show (NaveggApi.store k v m).user.segment k' = m.user.segment k' from rfl, h.segment]
    simp [NaveggApi.store, storedSegments]

theorem setToSendOnBoarding (h : m.Consistent accountId) (status : Bool) :
    (setToSendOnBoarding status m).Consistent accountId where
  account := h.account
  mapAccount := h.mapAccount
  userId := by
    simp [WebService.setToSendOnBoarding, OnBoarding.setToSendOnBoarding, h.userId]
  valueData := by
    simp [WebService.setToSendOnBoarding, OnBoarding.setToSendOnBoarding, OnBoarding.storedMap,
      h.valueData]
  noPermanent := h.noPermanent
  segment k := by
    rw [show (WebService.setToSendOnBoarding status m).user.segment k = m.user.segment k from rfl,
      h.segment]
    simp [WebService.setToSendOnBoarding, OnBoarding.setToSendOnBoarding, storedSegments]

theorem setDateLastSync (h : m.Consistent accountId) (date : Date) :
    (setDateLastSync date m).Consistent accountId where
  account := h.account
  mapAccount := h.mapAccount
  userId := by
    simp [WebService.setDateLastSync, OnBoarding.setDateLastSync, h.userId]
  valueData := by
    simp [WebService.setDateLastSync, OnBoarding.setDateLastSync, OnBoarding.storedMap,
      h.valueData]
  noPermanent := h.noPermanent
  segment k := by
    rw [show (WebService.setDateLastSync date m).user.segment k = m.user.segment k from rfl,
      h.segment]
    simp [WebService.setDateLastSync, OnBoarding.setDateLastSync, storedSegments]

theorem setRunningCreateUser (h : m.Consistent accountId) (value : Bool) :
    (setRunningCreateUser value m).Consistent accountId :=
  ⟨h.account, h.mapAccount, h.userId, h.valueData, h.noPermanent, h.segment⟩

theorem identify (h : m.Consistent accountId) (userId : String) :
    (m.identify userId).Consistent accountId where
  account := h.account
  mapAccount := h.mapAccount
  userId := by
    simp [Memory.identify, WebService.setRunningCreateUser, User.setUserId,
      UserDefaults.setOptional]
  valueData := by
    simp [Memory.identify, WebService.setRunningCreateUser, User.setUserId, OnBoarding.storedMap,
      h.valueData]
  noPermanent := h.noPermanent
  segment k := by
    rw [show (m.identify userId).user.segment k = m.user.segment k from rfl, h.segment]
    simp [Memory.identify, WebService.setRunningCreateUser, User.setUserId, storedSegments]

theorem saveSegments (h : m.Consistent accountId) (device : Device)
    (segments : Dictionary String String) :
    (User.saveSegments device segments m).Consistent accountId where
  account := h.account
  mapAccount := h.mapAccount
  userId := by
    simp [User.saveSegments, h.userId]
  valueData := by
    simp [User.saveSegments, OnBoarding.storedMap, h.valueData]
  noPermanent := h.noPermanent
  segment k := by
    simp [User.saveSegments, storedSegments, User.segment]

/-- A new process starts consistent, because it is built from the suite. -/
theorem built (accountId : Int) (idAppStore : Option Int) (defaults : UserDefaults)
    (requests : List Request) :
    Memory.Consistent accountId
      ⟨built accountId defaults, registered accountId idAppStore defaults, requests⟩ := by
  constructor
  case account => rfl
  case mapAccount => rfl
  case userId => exact (registered_readers _ _ _ _ (by decide) (by decide) (by decide)).1.symm
  case valueData =>
    have hmap := (registered_readers accountId idAppStore defaults
      (OnBoarding.mapKey accountId) (by simp) (by simp) (by simp)).2.2.2
    show OnBoarding.storedMap accountId defaults = _
    rw [OnBoarding.storedMap, OnBoarding.storedMap, hmap]
  case noPermanent => rfl
  case segment =>
    intro k
    have hsegments := (registered_readers accountId idAppStore defaults "jsonSegments"
      (by decide) (by decide) (by decide)).2.2.2
    rw [storedSegments, hsegments]
    rfl

end Memory.Consistent
