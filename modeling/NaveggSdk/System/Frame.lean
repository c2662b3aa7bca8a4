import NaveggSdk.Sdk.Parameters
import NaveggSdk.System.Step

/-!
# What the code leaves alone

Most facts about a piece of code say what it does not do. Such a fact is a relation between the
memory before and the memory after, and it holds of all the code as soon as it holds of its single
writes (`Frame`). Two writes are left to the caller of the rules, since many facts fail for them:
storing a pair of the onboarding map, and taking over a user id.
-/

open WebService NaveggApi

/-- A relation between memories that is kept by single writes. -/
structure Frame (device : Device) (R : Memory → Memory → Prop) : Prop where
  refl : ∀ m, R m m
  trans : ∀ {m m' m''}, R m m' → R m' m'' → R m m''
  browsed : ∀ m, R m (User.browsed m)
  reread : ∀ m, R m (reread m)
  issue : ∀ (m : Memory) (r : Request), m.user.getUserId ≠ "0" →
    r.parameters.lookup "id" = some (.string m.user.getUserId) → R m (m.issue r)
  setToSendOnBoarding : ∀ status m, R m (setToSendOnBoarding status m)
  setDateLastSync : ∀ date m, R m (setDateLastSync date m)
  setRunningCreateUser : ∀ value m, R m (setRunningCreateUser value m)
  saveSegments : ∀ segments m, R m (User.saveSegments device segments m)

namespace Frame

variable {device : Device} {R : Memory → Memory → Prop} (F : Frame device R)

include F

theorem getSegments (m : Memory) : R m (WebService.getSegments device m).memory := by
  have hfetch := fetch device m
  generalize WebService.getSegments device m = x at hfetch ⊢
  cases hfetch with
  | idle h => exact F.refl m
  | issue acc hid hconn hacc => exact F.issue m _ hid (getSegmentsRequest_id _ _ _)
  | overflow hid hconn hacc => exact F.refl m

theorem sendOnBoarding (onBoarding : OnBoarding) (m : Memory) :
    R m (WebService.sendOnBoarding device onBoarding m).memory := by
  have hsend := send device onBoarding m
  generalize WebService.sendOnBoarding device onBoarding m = x at hsend ⊢
  cases hsend with
  | missing h => exact F.refl m
  | offline hid hconn => exact F.setToSendOnBoarding false m
  | issue acc hid hconn hacc => exact F.issue m _ hid (sendOnBoardingRequest_id _ _ _)
  | overflow hid hconn hacc => exact F.refl m

/-- **A public call**, if the relation survives the pair it may store. -/
theorem call (c : Call) (m : Memory) (hstore : ∀ k v, c = .setOnboarding k v → R m (store k v m)) :
    R m (c.run device m).memory := by
  cases c with
  | getSegments k =>
      rw [Call.run_getSegments]
      cases User.refreshDue device m.defaults with
      | true => exact F.trans (F.browsed m) (F.getSegments (User.browsed m))
      | false => exact F.browsed m
  | setOnboarding k v =>
      show R m (setOnboarding device k v m).memory
      rw [setOnboarding_eq]
      cases suppresses device k v m with
      | true => exact F.reread m
      | false => exact F.trans (hstore k v rfl) (F.sendOnBoarding _ (store k v m))
  | sendDataSaveInDefault =>
      show R m (User.sendDataSaveInDefault device m).memory
      rw [User.sendDataSaveInDefault_eq]
      cases device.connected && m.defaults.bool "toSendOnBoarding" with
      | true => exact F.sendOnBoarding _ m
      | false => exact F.refl m

/-- **A handler**, if the relation survives the id it may take over. -/
theorem completion (call : WebCall) (response : DataResponse) (m : Memory)
    (hidentify : ∀ userId, call = .createUser → readUserId response = .accepted userId →
      R m (m.identify userId)) :
    R m (WebService.completion device call response m).memory := by
  cases call with
  | createUser =>
      show R m (createUserCompletion device response m).memory
      rw [createUserCompletion_eq]
      cases hread : readUserId response with
      | accepted userId =>
          exact F.trans (hidentify userId rfl hread) (F.getSegments (m.identify userId))
      | refused => exact F.setRunningCreateUser false m
      | fatal why => exact F.refl m
  | getSegments =>
      show R m (getSegmentsCompletion device response m).memory
      rw [getSegmentsCompletion_eq]
      cases readSegments response with
      | accepted segments => exact F.saveSegments segments m
      | refused => exact F.refl m
      | fatal why => exact F.refl m
  | sendOnBoarding =>
      show R m (sendOnBoardingCompletion device response m)
      rw [sendOnBoardingCompletion_eq]
      cases recordsSuccess response with
      | true => exact F.trans (F.setToSendOnBoarding true m) (F.setDateLastSync device.now _)
      | false => exact F.setToSendOnBoarding false m

end Frame

/-! ## A part of the memory

What the code leaves alone is often read off the memory: a field of the user, a value of the suite.
Of the writes of a call that stores no pair, only the flag is left to the caller here. -/

section
variable {β : Type} (part : Memory → β) (device : Device) (m : Memory) (response : DataResponse)

/-- **The handler of segments.** -/
theorem WebService.part_getSegmentsCompletion
    (hsave : ∀ segments, part (User.saveSegments device segments m) = part m) :
    part (getSegmentsCompletion device response m).memory = part m := by
  rw [getSegmentsCompletion_eq]
  cases readSegments response with
  | accepted segments => exact hsave segments
  | refused => rfl
  | fatal why => rfl

/-- **The handler of a send.** -/
theorem WebService.part_sendOnBoardingCompletion
    (hflag : ∀ status m, part (setToSendOnBoarding status m) = part m)
    (hdate : ∀ m, part (setDateLastSync device.now m) = part m) :
    part (sendOnBoardingCompletion device response m) = part m := by
  rw [sendOnBoardingCompletion_eq]
  split
  · exact (hdate _).trans (hflag true m)
  · exact hflag false m

end

/-- A part of the memory that browsing and issuing a request leave alone. -/
structure Spared {β : Type} (part : Memory → β) : Prop where
  browsed : ∀ m, part (User.browsed m) = part m
  issue : ∀ (m : Memory) (r : Request), part (m.issue r) = part m

namespace Spared

variable {β : Type} {part : Memory → β} (h : Spared part) (device : Device) (m : Memory)
include h

theorem getSegments : part (WebService.getSegments device m).memory = part m := by
  have hfetch := fetch device m
  generalize WebService.getSegments device m = x at hfetch ⊢
  cases hfetch with
  | idle hidle => rfl
  | issue acc hid hconn hacc => exact h.issue m _
  | overflow hid hconn hacc => rfl

/-- **A call that stores no pair**, unless it sends again. -/
theorem call {c : Call} (hc : ∀ k v, c ≠ .setOnboarding k v)
    (hresend : c = .sendDataSaveInDefault →
      part (User.sendDataSaveInDefault device m).memory = part m) :
    part (c.run device m).memory = part m := by
  cases c with
  | getSegments k =>
      rw [Call.run_getSegments]
      split
      · exact (h.getSegments device (User.browsed m)).trans (h.browsed m)
      · exact h.browsed m
  | setOnboarding k v => exact absurd rfl (hc k v)
  | sendDataSaveInDefault => exact hresend rfl

/-- **The handler of an id.** -/
theorem createUserCompletion (response : DataResponse)
    (hidentify : ∀ userId, part (m.identify userId) = part m)
    (hlock : part (setRunningCreateUser false m) = part m) :
    part (WebService.createUserCompletion device response m).memory = part m := by
  rw [createUserCompletion_eq]
  cases readUserId response with
  | accepted userId => exact (h.getSegments device (m.identify userId)).trans (hidentify userId)
  | refused => exact hlock
  | fatal why => rfl

variable (hflag : ∀ status m, part (setToSendOnBoarding status m) = part m)
include hflag

theorem sendOnBoarding (onBoarding : OnBoarding) :
    part (WebService.sendOnBoarding device onBoarding m).memory = part m := by
  have hsend := send device onBoarding m
  generalize WebService.sendOnBoarding device onBoarding m = x at hsend ⊢
  cases hsend with
  | missing hid => rfl
  | offline hid hconn => exact hflag false m
  | issue acc hid hconn hacc => exact h.issue m _
  | overflow hid hconn hacc => rfl

theorem sendDataSaveInDefault :
    part (User.sendDataSaveInDefault device m).memory = part m := by
  rw [User.sendDataSaveInDefault_eq]
  split
  · exact h.sendOnBoarding device m hflag m.user.onBoarding
  · rfl

/-- **Any call**, if the part survives a pair. -/
theorem run (hreread : ∀ m, part (reread m) = part m)
    (hstore : ∀ k v m, part (store k v m) = part m) (c : Call) :
    part (c.run device m).memory = part m := by
  cases c with
  | getSegments k => exact h.call device m nofun nofun
  | setOnboarding k v =>
      show part (NaveggApi.setOnboarding device k v m).memory = part m
      rw [setOnboarding_eq]
      split
      · exact hreread m
      · exact (h.sendOnBoarding device (store k v m) hflag _).trans (hstore k v m)
  | sendDataSaveInDefault => exact h.sendDataSaveInDefault device m hflag

end Spared
