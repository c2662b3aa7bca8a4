import NaveggSdk.Library.Runs
import NaveggSdk.System.Step

/-!
# The lock of `createUser`

`runningCreateUser` is meant to be up exactly while one `createUser` is in flight. `createUser`
takes it before it looks for a connection, and every branch of the handler gives it back; but
nobody gives it back when there was no connection and no request was made. From then on the lock is
wedged: there is no answer left that could free it.

A `System` is stepped here by the calls of `createUserId` themselves, which the public calls only
make while an object is built.
-/

namespace Lock

open System WebService NaveggApi

/-- What can happen to a `User` while it has no id. -/
inductive Action where
  | createUserId
  | connectivity (connected : Bool)
  | complete (id : Nat) (response : DataResponse)

def start (device : Device) (accountId : Int) (defaults : UserDefaults) : System :=
  System.settle [] (.done () (User.init device accountId defaults))
    ⟨accountId, device, defaults, none, [], 0, []⟩

def step (s : System) : Action → System
  | .createUserId =>
    match s.app with
    | none => s
    | some user => s.settle [] (.done () (User.createUserId s.device (.enter user s.defaults)))
  | .connectivity connected => s.step (.connectivity connected)
  | .complete id response => s.step (.complete id response)

def createUsers (s : System) : List Flight := s.inFlight.filter Flight.isCreateUser

/-- The lock is up if and only if exactly one `createUser` is in flight, and otherwise none is; and
when none is, a `createUserId` with a connection issues one. -/
def Honest (s : System) : Prop :=
  ∀ user, s.app = some user →
    (user.ws.runningCreateUser = some true ↔ (createUsers s).length = 1) ∧
    (user.ws.runningCreateUser ≠ some true → createUsers s = []) ∧
    (s.device.connected = true → createUsers s = [] →
      (User.createUserId s.device (.enter user s.defaults)).requests =
        [createUserRequest s.device user.accountId])

/-- The steps that keep the lock honest: it is not taken without a connection. -/
def Safe (s : System) : Action → Prop
  | .createUserId => ∀ user, s.app = some user →
    user.ws.runningCreateUser = some true ∨ s.device.connected = true
  | _ => True

/-! ## The lock and the requests agree -/

/-- Up with one request, or down with none. -/
def Agrees (lock : Option Bool) (requests : List Flight) : Prop :=
  lock = some true ∧ requests.length = 1 ∨ lock ≠ some true ∧ requests = []

theorem Agrees.length_le {lock : Option Bool} {requests : List Flight} (h : Agrees lock requests) :
    requests.length ≤ 1 := by
  rcases h with ⟨-, hone⟩ | ⟨-, rfl⟩
  · exact Nat.le_of_eq hone
  · exact Nat.zero_le 1

/-- A free lock and a connection: a request is issued. -/
theorem createUserId_of_free {device : Device} {m : Memory}
    (hfree : m.user.ws.runningCreateUser ≠ some true) (hconn : device.connected = true) :
    User.createUserId device m =
      (setRunningCreateUser true m).issue (createUserRequest device m.user.accountId) := by
  simp [User.createUserId, createUser, hfree, Util.isConnectedInternet, hconn]

/-- A free lock and no connection: the lock is taken all the same. -/
theorem createUserId_of_offline {device : Device} {m : Memory}
    (hfree : m.user.ws.runningCreateUser ≠ some true) (hconn : device.connected = false) :
    User.createUserId device m = setRunningCreateUser true m := by
  simp [User.createUserId, createUser, hfree, Util.isConnectedInternet, hconn]

theorem createUserId_of_taken {device : Device} {m : Memory}
    (htaken : m.user.ws.runningCreateUser = some true) : User.createUserId device m = m := by
  simp [User.createUserId, createUser, htaken]

theorem honest_iff (s : System) : Honest s ↔
    ∀ user, s.app = some user → Agrees user.ws.runningCreateUser (createUsers s) := by
  refine forall₂_congr fun user happ => ?_
  constructor
  · rintro ⟨hlock, hfree, -⟩
    by_cases htaken : user.ws.runningCreateUser = some true
    · exact .inl ⟨htaken, hlock.mp htaken⟩
    · exact .inr ⟨htaken, hfree htaken⟩
  · rintro (⟨htaken, hone⟩ | ⟨hfree, hnone⟩)
    · refine ⟨iff_of_true htaken hone, fun h => absurd htaken h, fun _ hnone => ?_⟩
      simp [hnone] at hone
    · refine ⟨iff_of_false hfree (by simp [hnone]), fun _ => hnone, fun hconn _ => ?_⟩
      rw [createUserId_of_free (m := .enter user s.defaults) hfree hconn]
      rfl

/-! ## The steps -/

/-- The requests in flight after a call that ended. -/
theorem createUsers_settle (s : System) (es : List Event) (m : Memory) :
    createUsers (s.settle es (.done () m)) =
      createUsers s ++ (Flight.number s.issued m.requests).filter Flight.isCreateUser :=
  List.filter_append ..

/-- `createUserId` keeps the lock honest unless it takes it without a connection. -/
theorem honest_createUserId {s : System} (h : Honest s) :
    Honest (step s .createUserId) ↔ Safe s .createUserId := by
  cases happ : s.app with
  | none =>
      have hdead : step s .createUserId = s := by simp only [step, happ]
      rw [hdead]
      exact iff_of_true h fun user huser => by simp [happ] at huser
  | some user =>
      have hagrees := (honest_iff s).mp h user happ
      have hstep : step s .createUserId =
          s.settle [] (.done () (User.createUserId s.device (.enter user s.defaults))) := by
        simp only [step, happ]
      have hsafe : Safe s .createUserId ↔
          user.ws.runningCreateUser = some true ∨ s.device.connected = true := by
        simp [Safe, happ]
      rw [honest_iff, hstep, hsafe]
      simp only [settle_app_done, Option.some.injEq, forall_eq', createUsers_settle]
      by_cases htaken : user.ws.runningCreateUser = some true
      · rw [createUserId_of_taken (m := .enter user s.defaults) htaken]
        exact iff_of_true (by simpa [Flight.number] using hagrees) (.inl htaken)
      · have hnone : createUsers s = [] := by
          rcases hagrees with ⟨hup, -⟩ | ⟨-, hnone⟩
          · exact absurd hup htaken
          · exact hnone
        cases hconn : s.device.connected with
        | true =>
            rw [createUserId_of_free (m := .enter user s.defaults) htaken hconn]
            refine iff_of_true (.inl ⟨rfl, ?_⟩) (.inr rfl)
            simp [hnone, Memory.issue, setRunningCreateUser, Flight.number, Flight.isCreateUser,
              createUserRequest]
        | false =>
            -- taken for a request that is never made
            rw [createUserId_of_offline (m := .enter user s.defaults) htaken hconn]
            refine iff_of_false ?_ (by simp [htaken])
            simp [Agrees, hnone, setRunningCreateUser, Flight.number]

/-- An answer to `createUser` frees the lock, and no other `createUser` is in flight. -/
theorem honest_answered {s : System} {user : User} {f : Flight}
    (hagrees : Agrees user.ws.runningCreateUser (createUsers s)) (hf : s.flight? f.id = some f)
    (hcall : f.request.call = .createUser) {es : List Event} {m : Memory}
    (hlock : m.user.ws.runningCreateUser = some false)
    (hrequests : (Flight.number s.issued m.requests).filter Flight.isCreateUser = []) :
    Honest ((s.drop f.id).settle es (.done () m)) := by
  rw [honest_iff]
  intro user' huser'
  cases huser'
  refine .inr ⟨by simp [hlock], ?_⟩
  rw [createUsers_settle, drop_issued, hrequests, List.append_nil]
  exact filter_drop_createUser hagrees.length_le (mem_of_flight? hf).1 hcall

/-- Any other answer leaves lock and requests alone. -/
theorem honest_other {s : System} (hnum : Numbered s) {user : User} {f : Flight}
    (hagrees : Agrees user.ws.runningCreateUser (createUsers s)) (hf : s.flight? f.id = some f)
    (hcall : f.request.call ≠ .createUser) {es : List Event} {m : Memory}
    (hlock : m.user.ws.runningCreateUser = user.ws.runningCreateUser)
    (hrequests : m.requests = []) :
    Honest ((s.drop f.id).settle es (.done () m)) := by
  rw [honest_iff]
  intro user' huser'
  cases huser'
  have hsame : createUsers (s.drop f.id) = createUsers s :=
    hnum.filter_drop (mem_of_flight? hf).1 (by simp [Flight.isCreateUser, hcall])
  show Agrees m.user.ws.runningCreateUser _
  rw [createUsers_settle, hrequests, hlock, hsame]
  simpa [Flight.number] using hagrees

/-- A process that ended has no lock. -/
theorem honest_dead {s : System} (h : s.app = none) : Honest s := by
  intro user huser
  simp [h] at huser

/-- **An answer keeps the lock honest**, whatever it says. -/
theorem honest_complete {s t : System} (hnum : Numbered s) (h : Honest s) {id : Nat}
    {response : DataResponse} (hstep : Step s (.complete id response) t) : Honest t := by
  have hagrees := (honest_iff s).mp h
  cases hstep with
  | unasked id response hnone => exact h
  | userId user f response userId happ hf hcall hread hidle =>
      exact honest_answered (hagrees user happ) hf hcall rfl rfl
  | userIdFetch user f response userId acc happ hf hcall hread hid hconn hacc =>
      exact honest_answered (hagrees user happ) hf hcall rfl rfl
  | userIdOverflow user f response userId happ hf hcall hread hid hconn hacc =>
      exact honest_dead rfl
  | userIdRefused user f response happ hf hcall hread =>
      exact honest_answered (hagrees user happ) hf hcall rfl rfl
  | userIdFatal user f response why happ hf hcall hread => exact honest_dead rfl
  | segments user f response segments happ hf hcall hread =>
      exact honest_other hnum (hagrees user happ) hf (by simp [hcall]) rfl rfl
  | segmentsRefused user f response happ hf hcall hread =>
      exact honest_other hnum (hagrees user happ) hf (by simp [hcall]) rfl rfl
  | segmentsFatal user f response why happ hf hcall hread => exact honest_dead rfl
  | delivered user f response happ hf hcall hread =>
      exact honest_other hnum (hagrees user happ) hf (by simp [hcall]) rfl rfl
  | undelivered user f response happ hf hcall hread =>
      exact honest_other hnum (hagrees user happ) hf (by simp [hcall]) rfl rfl

/-- **One step.** -/
theorem honest_step {s : System} (hnum : Numbered s) (h : Honest s) (a : Action) :
    Honest (step s a) ↔ Safe s a := by
  cases a with
  | createUserId => exact honest_createUserId h
  | connectivity connected =>
      refine iff_of_true ?_ trivial
      rw [honest_iff] at h ⊢
      exact h
  | complete id response => exact iff_of_true (honest_complete hnum h (step_step s _)) trivial

theorem numbered_step {s : System} (h : Numbered s) (a : Action) : Numbered (step s a) := by
  cases a with
  | createUserId =>
      cases happ : s.app with
      | none => simpa only [step, happ] using h
      | some user =>
          simp only [step, happ]
          exact h.settle _ _
  | connectivity connected => exact h.step (.connectivity connected)
  | complete id response => exact h.step (.complete id response)

/-- `User.init` leaves an honest lock unless it had to ask for an id without a connection. -/
theorem honest_start (device : Device) (accountId : Int) (defaults : UserDefaults) :
    Honest (start device accountId defaults) ↔
      (missing defaults = true → device.connected = true) := by
  rw [honest_iff, start, userInit_eq]
  simp only [settle_app_done, Option.some.injEq, forall_eq', createUsers_settle]
  cases hmissing : missing defaults <;> cases hconn : device.connected <;>
    simp [Agrees, built, hmissing, createUsers, Flight.number, Flight.isCreateUser,
      createUserRequest]

/-- **The lock is honest in exactly the runs that never take it without a connection**, the
constructor included. -/
theorem lock_honest_iff (device : Device) (accountId : Int) (defaults : UserDefaults)
    (actions : List Action) :
    Runs.Always step Honest (start device accountId defaults) actions ↔
      (missing defaults = true → device.connected = true) ∧
        Runs.Each step Safe (start device accountId defaults) actions := by
  rw [← honest_start device accountId defaults]
  have hnum : Numbered (start device accountId defaults) :=
    (Numbered.of_idle rfl).settle [] _
  -- from an honest start the steps decide; an unsafe start is a first state that is not honest
  have hiff : Honest (start device accountId defaults) →
      (Runs.Always step Honest (start device accountId defaults) actions ↔
        Runs.Each step Safe (start device accountId defaults) actions) := fun hgood =>
    Runs.always_iff_each Numbered (fun _ _ => True) hnum hgood
      (Runs.each_of_forall (fun _ _ => trivial) _ _) (fun s a h _ => numbered_step h a)
      (fun s a h _ hgood => honest_step h hgood a)
  constructor
  · intro halways
    exact ⟨halways.head, (hiff halways.head).mp halways⟩
  · rintro ⟨hgood, hsafe⟩
    exact (hiff hgood).mpr hsafe

/-! ### A wedged lock

The first request fails, which frees the lock. The next attempt is made without a connection, and
keeps it; when the connection is back nothing can be asked for any more. -/

/-- A failed attempt, an attempt offline, and the connection again. -/
def retries : List Action :=
  [.complete 0 .lost, .connectivity false, .createUserId, .connectivity true]

theorem lock_wedges :
    ¬ Runs.Always step Honest (start (.phone 1700000000) 7 UserDefaults.empty) retries := by
  intro h
  have hlock : ((Runs.run step (start (.phone 1700000000) 7 UserDefaults.empty) retries).app.map
      fun user => user.ws.runningCreateUser) = some (some true) := by
    decide +kernel
  have hnone : (createUsers (Runs.run step (start (.phone 1700000000) 7 UserDefaults.empty)
      retries)).length ≠ 1 := by
    decide +kernel
  obtain ⟨user, happ, htaken⟩ := Option.map_eq_some_iff.mp hlock
  exact hnone ((h.last user happ).1.mp htaken)

end Lock
