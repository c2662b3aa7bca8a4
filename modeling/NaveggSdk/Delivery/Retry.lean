import NaveggSdk.Delivery.Partition
import NaveggSdk.Delivery.Persistence
import NaveggSdk.System.Requests

/-!
# What is sent again

A map that did not arrive is to be sent again in the background. Two things stand in the way, for
any number of objects and in every order of events.

* The flag: once it is down and no send is in flight, only a new pair sends the map again
  (`no_retry`).
* The copies: what is sent again is the copy of the object that sends. An object reads the stored
  map when it is built and when a pair is set through it, and not in between, so it sends the map
  of that moment however much was stored since (`flush_carries`).
-/

open WebService NaveggApi OnBoarding

/-! ## Code that stores no pair -/

section
variable (device : Device) (m : Memory)

/-- The copy of the map in an object. -/
theorem spared_valueData : Spared fun m => m.user.onBoarding.valueData where
  browsed _ := rfl
  issue _ _ := rfl

/-- The copy of the map survives the calls that set no pair. -/
theorem Call.valueData_run {c : Call} (hc : ∀ k v, c ≠ .setOnboarding k v) :
    (c.run device m).memory.user.onBoarding.valueData = m.user.onBoarding.valueData :=
  spared_valueData.call device m hc fun _ =>
    spared_valueData.sendDataSaveInDefault device m fun _ _ => rfl

/-- No handler touches the copy of the map. -/
theorem WebService.valueData_completion (call : WebCall) (response : DataResponse) :
    (WebService.completion device call response m).memory.user.onBoarding.valueData =
      m.user.onBoarding.valueData := by
  cases call with
  | createUser =>
      exact spared_valueData.createUserCompletion device m response (fun _ => rfl) rfl
  | getSegments =>
      exact part_getSegmentsCompletion (·.user.onBoarding.valueData) device m response fun _ => rfl
  | sendOnBoarding =>
      exact part_sendOnBoardingCompletion (·.user.onBoarding.valueData) device m response
        (fun _ _ => rfl) fun _ => rfl

/-- **After `setOnboarding` the copy is the stored map**, whatever became of the pair. -/
theorem NaveggApi.valueData_setOnboarding (k v : String) :
    (setOnboarding device k v m).memory.user.onBoarding.valueData =
      storedMap m.user.onBoarding.accountId (setOnboarding device k v m).memory.defaults := by
  rw [setOnboarding_eq]
  cases suppresses device k v m with
  | true => rfl
  | false =>
      have hkeeps := (KeepsMap.frame m.user.onBoarding.accountId device).sendOnBoarding
        (store k v m).user.onBoarding (store k v m)
      simp only [KeepsMap, Outcome.memory_done] at hkeeps
      have hcopy := spared_valueData.sendOnBoarding device (store k v m) (fun _ _ => rfl)
        (store k v m).user.onBoarding
      rw [if_neg Bool.false_ne_true, hkeeps, hcopy]
      simp [store, storedMap]

end

/-! ## The flag -/

section
variable {device : Device} {m : Memory} (hflag : m.defaults.bool "toSendOnBoarding" = false)

theorem spared_flag : Spared fun m => m.defaults.bool "toSendOnBoarding" where
  browsed _ := rfl
  issue _ _ := rfl

include hflag

/-- A flag that is down stays down in the calls that set no pair: nothing is sent again. -/
theorem Call.flag_run {c : Call} (hc : ∀ k v, c ≠ .setOnboarding k v) :
    (c.run device m).memory.defaults.bool "toSendOnBoarding" = false := by
  refine (spared_flag.call device m hc fun _ => ?_).trans hflag
  rw [User.sendDataSaveInDefault_eq, hflag, Bool.and_false, if_neg Bool.false_ne_true]
  exact hflag

/-- Only the handler of a send puts the flag up. -/
theorem WebService.flag_completion {call : WebCall} (hcall : call ≠ .sendOnBoarding)
    (response : DataResponse) :
    (WebService.completion device call response m).memory.defaults.bool "toSendOnBoarding" =
      false := by
  cases call with
  | createUser =>
      refine (spared_flag.createUserCompletion device m response (fun userId => ?_) rfl).trans hflag
      show (m.defaults.setOptional (some (.string userId)) "NVGSDK_USERID").bool _ = _
      exact UserDefaults.bool_setOptional_ne _ _ (by decide)
  | getSegments =>
      refine (part_getSegmentsCompletion (·.defaults.bool "toSendOnBoarding") device m response
        fun segments => ?_).trans hflag
      exact (UserDefaults.bool_set_ne _ _ (by decide)).trans
        (UserDefaults.bool_set_ne _ _ (by decide))
  | sendOnBoarding => exact absurd rfl hcall

end

namespace Shared

def Action.SetsNothing (a : Action) : Prop := ∀ owner k v, a ≠ .call owner (.setOnboarding k v)

/-- The flag is down, and no send is in flight. -/
structure GivenUp (s : Shared) : Prop where
  flag : s.defaults.bool "toSendOnBoarding" = false
  idle : ∀ p ∈ s.inFlight, p.flight.request.call ≠ .sendOnBoarding

/-- Where the sending was given up, an action that sets no pair issues no send. -/
theorem GivenUp.issues_no_send {s : Shared} (h : s.GivenUp) {a : Action} (ha : a.SetsNothing)
    {r : Request} (hr : s.Issues a r) : r.call ≠ .sendOnBoarding := by
  cases hr with
  | create idAppStore hmissing hconn => exact nofun
  | fetch owner user k acc huser hdue hid hconn hacc => exact nofun
  | send owner user k v acc huser hsup hid hconn hacc => exact absurd rfl (ha owner k v)
  | flush owner user acc huser hflag hid hconn hacc =>
      rw [h.flag] at hflag
      cases hflag
  | named id response p user userId acc hp huser hcall hread hne hconn hacc => exact nofun

/-- **One step.** Given up once, given up for good. -/
theorem GivenUp.step {s : Shared} (h : s.GivenUp) {a : Action} (ha : a.SetsNothing) :
    (s.step a).GivenUp := by
  constructor
  case idle =>
    intro p hp
    obtain hold | ⟨-, hnew⟩ := mem_inFlight_step hp
    · exact h.idle p hold
    · exact h.issues_no_send ha hnew
  case flag =>
    apply defaults_step (P := fun d => d.bool "toSendOnBoarding" = false) h.flag a
    · intro idAppStore
      have hreaders := registered_readers s.accountId idAppStore s.defaults "toSendOnBoarding"
        (by decide) (by decide) (by decide)
      exact hreaders.2.1.trans h.flag
    · rintro owner c user rfl
      apply Call.flag_run (m := .enter user s.defaults) h.flag
      rintro k v rfl
      exact ha owner k v rfl
    · rintro id response p user rfl hp
      have hcall := h.idle p (List.mem_of_find?_eq_some hp)
      exact flag_completion (m := .enter user s.defaults) h.flag hcall response

/-- **Nothing is tried again.** Once the flag is down and no send is in flight, the map is never
sent again by anything but a new pair: not by the background, not by a connection or a Wi-Fi that
comes up, not by another object, not by a restart, however long the run. -/
theorem no_retry (s : Shared) (h : s.GivenUp) (actions : List Action)
    (hquiet : ∀ a ∈ actions, a.SetsNothing) :
    Runs.Each step (fun s a => ∀ r ∈ s.issuedBy a, r.call ≠ .sendOnBoarding) s actions ∧
      (Runs.run step s actions).GivenUp := by
  induction actions generalizing s with
  | nil => exact ⟨trivial, h⟩
  | cons a as ih =>
      have ha : a.SetsNothing := hquiet a List.mem_cons_self
      have hrest : ∀ a' ∈ as, a'.SetsNothing :=
        fun a' ha' => hquiet a' (List.mem_cons_of_mem a ha')
      obtain ⟨hsilent, hgiven⟩ := ih (s.step a) (h.step ha) hrest
      exact ⟨⟨fun r hr => h.issues_no_send ha (mem_issuedBy_iff.mp hr), hsilent⟩, hgiven⟩

/-- The only send has failed; then the background tries, the process restarts, and the background of
the new process tries. -/
def lost : List Action :=
  [.construct none, .complete 0 (named "u1"), .call 0 (.setOnboarding "a" "1"), .complete 2 .lost]

theorem no_retry_lost :
    Runs.Each step (fun s a => ∀ r ∈ s.issuedBy a, r.call ≠ .sendOnBoarding)
      (after 7 (.phone 1700000000) lost)
      [.call 0 .sendDataSaveInDefault, .restart, .construct none,
        .call 0 .sendDataSaveInDefault] := by
  have hgiven : (after 7 (.phone 1700000000) lost).GivenUp :=
    ⟨by decide +kernel, by decide +kernel⟩
  refine (no_retry _ hgiven _ ?_).1
  simp [Action.SetsNothing]

/-! ## The copies -/

/-- The step has the object read the stored map: it builds it, or sets a pair through it. -/
def Reads (s : Shared) (i : Nat) : Action → Prop
  | .construct _ => s.apps.length = i
  | .call owner (.setOnboarding _ _) => owner = i ∧ (s.apps[i]?).isSome
  | _ => False

/-- The object is there, and its copy of the map is this one. -/
def Holds (s : Shared) (i : Nat) (map : Dictionary String String) : Prop :=
  ∃ user, s.apps[i]? = some user ∧ user.onBoarding.valueData = map

/-- What an object has read is the stored map. -/
theorem holds_of_reads {s : Shared} (howned : s.Owned) {i : Nat} {a : Action}
    (hlives : s.Lives a) (h : s.Reads i a) :
    (s.step a).Holds i (storedMap s.accountId (s.step a).defaults) := by
  unfold Holds
  rw [apps_step hlives]
  cases a with
  | construct idAppStore =>
      subst h
      rw [actor, if_pos rfl, (ends_of_ran rfl).defaults]
      simp only [ran, Option.map_some, Option.some_or, Option.some.injEq, exists_eq_left',
        Outcome.memory_done, init_eq, storedMap_registered]
      rfl
  | call owner c =>
      cases c with
      | setOnboarding k v =>
          obtain ⟨rfl, hsome⟩ := h
          obtain ⟨user, huser⟩ := Option.isSome_iff_exists.mp hsome
          have hran : s.ran (.call owner (.setOnboarding k v)) =
              some (setOnboarding s.device k v (.enter user s.defaults)) := by
            rw [ran, huser]
            rfl
          rw [actor, if_pos rfl, (ends_of_ran hran).defaults, hran]
          refine ⟨_, rfl, ?_⟩
          rw [valueData_setOnboarding, Memory.enter_user,
            (howned user (List.mem_of_getElem? huser)).2]
      | getSegments k => cases h
      | sendDataSaveInDefault => cases h
  | complete id response => cases h
  | connectivity connected => cases h
  | clock now => cases h
  | restart => cases h

/-- A copy stays as it is until the object reads again. -/
theorem Holds.step {s : Shared} {i : Nat} {map : Dictionary String String} (h : s.Holds i map)
    {a : Action} (hlives : s.Lives a) (hquiet : ∀ k v, a ≠ .call i (.setOnboarding k v)) :
    (s.step a).Holds i map := by
  obtain ⟨user, huser, rfl⟩ := h
  apply object_step hlives huser
  · intro _
    rfl
  · rintro c rfl
    apply Call.valueData_run s.device (.enter user s.defaults)
    rintro k v rfl
    exact hquiet k v rfl
  · intro id response p _ _ _
    exact valueData_completion s.device (.enter user s.defaults) _ response

theorem Holds.run {s : Shared} {i : Nat} {map : Dictionary String String} (h : s.Holds i map)
    {actions : List Action} (hlives : Runs.Each Shared.step Lives s actions)
    (hquiet : ∀ a ∈ actions, ∀ k v, a ≠ .call i (.setOnboarding k v)) :
    (Runs.run Shared.step s actions).Holds i map := by
  induction actions generalizing s with
  | nil => exact h
  | cons a as ih =>
      have hrest : ∀ a' ∈ as, ∀ k v, a' ≠ .call i (.setOnboarding k v) :=
        fun a' ha' => hquiet a' (List.mem_cons_of_mem a ha')
      exact ih (h.step hlives.1 (hquiet a List.mem_cons_self)) hlives.2 hrest

/-- The request of the background carries the copy of the object. -/
theorem Holds.flush {s : Shared} {i : Nat} {map : Dictionary String String} (h : s.Holds i map)
    {r : Request} (hr : r ∈ s.issuedBy (.call i .sendDataSaveInDefault)) :
    ∃ acc userId, r = sendOnBoardingRequest acc userId map := by
  obtain ⟨user, huser, rfl⟩ := h
  have hissues := mem_issuedBy_iff.mp hr
  cases hissues with
  | flush owner user' acc huser' hflag hid hconn hacc =>
      obtain rfl : user = user' := Option.some.inj (huser.symm.trans huser')
      exact ⟨acc, user.getUserId, rfl⟩

/-- Two maps that one send was made from are the same. -/
theorem same_of_sent {acc acc' : UInt32} {userId userId' : String}
    {map map' : Dictionary String String}
    (h : (sendOnBoardingRequest acc userId map).parameters =
      (sendOnBoardingRequest acc' userId' map').parameters) : map.Same map' := by
  intro k
  rw [← recover_eq acc userId map k, h, recover_eq]

/-- **What the background sends again is the map of the moment the object last read it**, and that
is the stored map in exactly the runs whose writes since then change nothing.

Any number of objects may read and write in between; the object `i` is built, or a pair is set
through it, by the step `a`, and no pair is set through it after that. -/
theorem flush_carries (accountId : Int) (device : Device) (before : List Action) (a : Action)
    (later : List Action) {i : Nat} (hreads : (after accountId device before).Reads i a)
    (hlives : Runs.Each step Lives (after accountId device before) (a :: later))
    (hquiet : ∀ b ∈ later, ∀ k v, b ≠ .call i (.setOnboarding k v)) {r : Request}
    (hr : r ∈ (after accountId device (before ++ a :: later)).issuedBy
      (.call i .sendDataSaveInDefault)) :
    (∃ acc userId, r = sendOnBoardingRequest acc userId
        (storedMap accountId (after accountId device (before ++ [a])).defaults)) ∧
      ((∃ acc userId map, r = sendOnBoardingRequest acc userId map ∧
          map.Same (storedMap accountId
            (after accountId device (before ++ a :: later)).defaults)) ↔
        (storedMap accountId (after accountId device (before ++ [a])).defaults).Same
          (Dictionary.overwrite
            (storedMap accountId (after accountId device (before ++ [a])).defaults)
            ((after accountId device (before ++ [a])).writes later))) := by
  have hsplit : after accountId device (before ++ a :: later) =
      Runs.run step ((after accountId device before).step a) later := by
    rw [after, Runs.run, List.foldl_append]
    rfl
  have hread : after accountId device (before ++ [a]) = (after accountId device before).step a := by
    rw [after, Runs.run, List.foldl_append]
    rfl
  obtain ⟨howned, haccount⟩ := owned_after accountId device before
  obtain ⟨howned', haccount'⟩ := owned_after accountId device (before ++ [a])
  rw [hread] at howned' haccount' ⊢
  rw [hsplit] at hr ⊢
  have hholds := holds_of_reads howned hlives.1 hreads
  rw [haccount] at hholds
  obtain ⟨acc, userId, rfl⟩ := (hholds.run hlives.2 hquiet).flush hr
  have hwrites := storedMap_run howned' later
  rw [haccount'] at hwrites
  refine ⟨⟨acc, userId, rfl⟩, ?_, fun hsame => ?_⟩
  · rintro ⟨acc', userId', map, hmade, hsame⟩
    exact ((same_of_sent (congrArg Request.parameters hmade)).trans hsame).trans hwrites
  · exact ⟨acc, userId, _, rfl, fun k => (hsame k).trans (hwrites k).symm⟩

def outdated : List Action :=
  [.complete 2 (.ok (.text "1")), .call 1 (.setOnboarding "b" "2")]

theorem flush_carries_outdated :
    ∃ r ∈ (after 7 (.phone 1700000000)
        ([.construct none, .complete 0 (named "u1"), .construct none] ++
          .call 0 (.setOnboarding "a" "1") :: outdated)).issuedBy (.call 0 .sendDataSaveInDefault),
      ∃ acc userId, r = sendOnBoardingRequest acc userId
        (storedMap 7 (after 7 (.phone 1700000000)
          ([.construct none, .complete 0 (named "u1"), .construct none] ++
            [.call 0 (.setOnboarding "a" "1")])).defaults) := by
  have hflush : ((after 7 (.phone 1700000000)
      ([.construct none, .complete 0 (named "u1"), .construct none] ++
        .call 0 (.setOnboarding "a" "1") :: outdated)).issuedBy
          (.call 0 .sendDataSaveInDefault)).isEmpty = false := by decide +kernel
  obtain ⟨r, hr⟩ := List.exists_mem_of_ne_nil _ (List.isEmpty_eq_false_iff.mp hflush)
  refine ⟨r, hr, (flush_carries 7 _ _ _ _ ?_ ?_ ?_ hr).1⟩
  · exact ⟨rfl, by decide +kernel⟩
  · decide +kernel
  · simp [outdated]

end Shared
