import NaveggSdk.System.Frame
import NaveggSdk.System.Shared

/-!
# The objects of one account

Whatever the code does to an object, it does not touch its account numbers: the one of the user,
which the requests are made with, and the one of the onboarding map, which makes the key of the
stored map. So all objects that share a suite have the account of the suite (`owned_after`).
-/

open WebService NaveggApi

/-- The code leaves the account numbers of the object alone. -/
structure KeepsAccount (m : Memory) (x : Outcome Unit) : Prop where
  account : x.memory.user.accountId = m.user.accountId
  mapAccount : x.memory.user.onBoarding.accountId = m.user.onBoarding.accountId

namespace KeepsAccount

theorem frame (device : Device) : Frame device fun m m' => KeepsAccount m (.done () m') where
  refl _ := ⟨rfl, rfl⟩
  trans h h' := ⟨h'.account.trans h.account, h'.mapAccount.trans h.mapAccount⟩
  browsed _ := ⟨rfl, rfl⟩
  reread _ := ⟨rfl, rfl⟩
  issue _ _ _ _ := ⟨rfl, rfl⟩
  setToSendOnBoarding _ _ := ⟨rfl, rfl⟩
  setDateLastSync _ _ := ⟨rfl, rfl⟩
  setRunningCreateUser _ _ := ⟨rfl, rfl⟩
  saveSegments _ _ := ⟨rfl, rfl⟩

variable (device : Device) (m : Memory)

theorem call (c : Call) : KeepsAccount m (c.run device m) := by
  obtain ⟨haccount, hmap⟩ := (frame device).call c m fun _ _ _ => ⟨rfl, rfl⟩
  exact ⟨haccount, hmap⟩

theorem completion (call : WebCall) (response : DataResponse) :
    KeepsAccount m (WebService.completion device call response m) := by
  obtain ⟨haccount, hmap⟩ :=
    (frame device).completion call response m fun _ _ _ => ⟨rfl, rfl⟩
  exact ⟨haccount, hmap⟩

end KeepsAccount

namespace Shared

def Owned (s : Shared) : Prop :=
  ∀ user ∈ s.apps, user.accountId = s.accountId ∧ user.onBoarding.accountId = s.accountId

/-- The object at the end of the code of a step has the account of the suite. -/
theorem Owned.ran {s : Shared} (h : s.Owned) {a : Action} {x : Outcome Unit}
    (hran : s.ran a = some x) :
    x.memory.user.accountId = s.accountId ∧ x.memory.user.onBoarding.accountId = s.accountId := by
  cases a with
  | construct idAppStore =>
      cases hran
      rw [init_eq]
      exact ⟨rfl, rfl⟩
  | call owner c =>
      obtain ⟨user, huser, rfl⟩ := Option.map_eq_some_iff.mp hran
      obtain ⟨haccount, hmap⟩ := h user (List.mem_of_getElem? huser)
      have hkeeps := KeepsAccount.call s.device (.enter user s.defaults) c
      exact ⟨hkeeps.account.trans haccount, hkeeps.mapAccount.trans hmap⟩
  | complete id response =>
      obtain ⟨p, hp, hmapped⟩ := Option.bind_eq_some_iff.mp hran
      obtain ⟨user, huser, rfl⟩ := Option.map_eq_some_iff.mp hmapped
      obtain ⟨haccount, hmap⟩ := h user (List.mem_of_getElem? huser)
      have hkeeps := KeepsAccount.completion s.device (.enter user s.defaults)
        p.flight.request.call response
      exact ⟨hkeeps.account.trans haccount, hkeeps.mapAccount.trans hmap⟩
  | connectivity connected => cases hran
  | clock now => cases hran
  | restart => cases hran

/-- **Every step keeps the accounts.** -/
theorem Owned.step {s : Shared} (h : s.Owned) (a : Action) : (s.step a).Owned := by
  intro user huser
  cases hran : s.ran a with
  | none =>
      obtain ⟨haccount, -, happs, -⟩ := idle_of_not_ran hran
      rw [haccount]
      exact h user (happs user huser)
  | some x =>
      have hends := ends_of_ran hran
      rw [hends.accountId]
      rcases hends.apps user huser with hold | rfl
      · exact h user hold
      · exact h.ran hran

theorem step_accountId (s : Shared) (a : Action) : (s.step a).accountId = s.accountId := by
  cases hran : s.ran a with
  | none => exact (idle_of_not_ran hran).1
  | some x => exact (ends_of_ran hran).accountId

theorem owned_installed (accountId : Int) (device : Device) : (installed accountId device).Owned :=
  fun _ huser => absurd huser List.not_mem_nil

end Shared
