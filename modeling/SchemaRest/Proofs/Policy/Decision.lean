import SchemaRest.Policy.Decision
import SchemaRest.Proofs.Service.Effects

/-!
# What a decision looks at and changes

A decision about a permission puts at most one question to the access service, and nothing else of
the world has a part in it.
-/

namespace SchemaRest

namespace World

/-- The same access service and the same random text. -/
structure SameService (w v : World) : Prop where
  policy : v.policy = w.policy
  asked : v.asked = w.asked
  random : v.random = w.random

/-- The world with the access service of another. -/
def withService (w v : World) : World := { w with policy := v.policy, asked := v.asked }

theorem SameService.refl (w : World) : w.SameService w := ⟨rfl, rfl, rfl⟩

end World

namespace Effect

variable {ε ε' α β : Type}

/-- An effect that looks at the access service and the random text only, and changes only what the
service has still to answer and what it was asked. -/
def Inquires (m : Effect ε α) : Prop :=
  ∀ w v : World, w.SameService v → m v = ((m w).1, v.withService (m w).2)

namespace Inquires

theorem of_const {r : Except ε α} {m : Effect ε α} (hm : ∀ w, m w = (r, w)) : m.Inquires := by
  intro w v h
  rw [hm w, hm v]
  cases v
  cases h.policy
  cases h.asked
  rfl

theorem ofExcept (r : Except ε α) : (Effect.ofExcept r).Inquires := of_const fun _ => rfl

theorem pure (a : α) : (Pure.pure a : Effect ε α).Inquires := of_const fun _ => rfl

theorem look_random : (Effect.look (·.random) : Effect ε String).Inquires := by
  intro w v h
  cases v
  cases h.policy
  cases h.asked
  cases h.random
  rfl

theorem bind {m : Effect ε α} {f : α → Effect ε β} (hm : m.Inquires) (hf : ∀ a, (f a).Inquires) :
    (m >>= f).Inquires := by
  intro w v h
  have hv := hm w v h
  have hw := hm w w (.refl w)
  rw [bind_apply, bind_apply, hv]
  cases hr : (m w).1 with
  | error e =>
    rw [hr] at hw
    rw [hw]
  | ok a =>
    rw [hr] at hw
    have hsame : (w.withService (m w).2).SameService (v.withService (m w).2) := ⟨rfl, rfl, h.random⟩
    have hf := hf a _ _ hsame
    rw [hw]
    exact hf

theorem mapFailure {m : Effect ε α} (hm : m.Inquires) (f : ε → ε') : (m.mapFailure f).Inquires := by
  intro w v h
  have hv := hm w v h
  unfold Effect.mapFailure
  rw [hv]
  cases m w with
  | mk r w' => cases r <;> rfl

end Inquires

end Effect

namespace Policy

open Effect

theorem inquires_ask (r : Request) : (ask r).Inquires := by
  intro w v h
  obtain ⟨hpolicy, hasked, -⟩ := h
  unfold ask
  rw [hpolicy]
  cases v
  cases hpolicy
  cases hasked
  cases w.policy with
  | unreachable => rfl
  | replying replies =>
    cases replies with
    | nil => rfl
    | cons reply rest => cases reply <;> rfl

theorem inquires_consult (r : Except Problem Request) : (consult r).Inquires :=
  .bind (.ofExcept r) fun r => .bind (inquires_ask r) fun _ => .ofExcept _

theorem inquires_allowed (security : Security) (c : Context) (permission : String) :
    (allowed security c permission).Inquires := by
  cases security with
  | disabled => exact .pure true
  | bearer endpoint appIdentifier =>
    unfold allowed
    cases c.bearerToken? with
    | none => exact .pure false
    | some token => exact .bind (.mapFailure (inquires_consult _) _) fun _ => .pure _
  | delegated d =>
    refine .bind .look_random fun random => ?_
    exact .bind (.mapFailure (inquires_consult _) _) fun _ => .pure _

/-! ## The question -/

/-- What the access service is asked about a permission, if it is asked at all. -/
def question? (security : Security) (c : Context) (permission random : String) : Option Request :=
  match security with
  | .disabled => none
  | .bearer endpoint appIdentifier =>
    c.bearerToken?.bind fun token => (ofToken endpoint appIdentifier token permission).toOption
  | .delegated d => (ofTemplate d (c.templateData permission random)).toOption

/-- What of a question a service hears. -/
def heard (service : Link PolicyReply) (question : Option Request) : List Request :=
  match service with
  | .unreachable => []
  | .replying _ => question.toList

theorem asked_ask (r : Request) (w : World) :
    (ask r w).2.asked = w.asked ++ heard w.policy (some r) := by
  unfold ask heard
  cases w.policy with
  | unreachable => simp
  | replying replies =>
    cases replies with
    | nil => rfl
    | cons reply rest => cases reply <;> rfl

theorem heard_none (service : Link PolicyReply) : heard service none = [] := by
  cases service <;> rfl

theorem asked_consult (r : Except Problem Request) (w : World) :
    (consult r w).2.asked = w.asked ++ heard w.policy r.toOption := by
  unfold consult
  rw [bind_apply]
  cases r with
  | error p =>
    change w.asked = w.asked ++ heard w.policy none
    rw [heard_none, List.append_nil]
  | ok r =>
    have hask := asked_ask r w
    change ((ask r >>= fun reply => Effect.ofExcept (answer r reply)) w).2.asked = _
    rw [bind_apply]
    cases h : ask r w with
    | mk reply w' =>
      rw [h] at hask
      cases reply <;> exact hask

/-- A test of what a service answers to a question. -/
def judged (what : String) (r : Except Problem Request) (test : Json → Bool) : Effect Failure Bool :=
  (consult r).mapFailure (blamed what) >>= fun v => pure (test v)

theorem judged_apply (what : String) (r : Except Problem Request) (test : Json → Bool) (w : World) :
    judged what r test w = match consult r w with
      | (.ok v, w') => (.ok (test v), w')
      | (.error p, w') => (.error (blamed what p), w') := by
  rw [judged, bind_apply, Effect.mapFailure]
  cases consult r w with
  | mk v w' => cases v <;> rfl

/-- A decision is made without a question, or it is a test of the answer to one. -/
theorem allowed_cases (security : Security) (c : Context) (permission : String) (w : World) :
    (∃ b, question? security c permission w.random = none ∧
      allowed security c permission w = (.ok b, w)) ∨
    (∃ what r test, question? security c permission w.random = r.toOption ∧
      allowed security c permission w = judged what r test w) := by
  cases security with
  | disabled => exact .inl ⟨true, rfl, rfl⟩
  | bearer endpoint appIdentifier =>
    unfold allowed question?
    cases c.bearerToken? with
    | none => exact .inl ⟨false, rfl, rfl⟩
    | some token => exact .inr ⟨"token validation", _, tokenAllowed, rfl, rfl⟩
  | delegated d =>
    refine .inr ⟨"delegated validation", ofTemplate d (c.templateData permission w.random),
      testPassed d.test, rfl, ?_⟩
    unfold allowed
    dsimp only
    rw [bind_apply]
    rfl

/-- A decision asks its question and no other. -/
theorem asked_allowed (security : Security) (c : Context) (permission : String) (w : World) :
    (allowed security c permission w).2.asked =
      w.asked ++ heard w.policy (question? security c permission w.random) := by
  rcases allowed_cases security c permission w with ⟨b, hnone, h⟩ | ⟨what, r, test, hquestion, h⟩
  · rw [h, hnone, heard_none, List.append_nil]
  · have hconsult := asked_consult r w
    rw [h, hquestion, judged_apply]
    cases hr : consult r w with
    | mk v w' =>
      rw [hr] at hconsult
      cases v <;> exact hconsult

/-- A decision fails in one way only. -/
theorem error_of_allowed {security : Security} {c : Context} {permission : String} {w : World}
    {e : Failure} (h : (allowed security c permission w).1 = .error e) :
    ∃ text, e = .authorizationService text := by
  rcases allowed_cases security c permission w with ⟨b, -, hb⟩ | ⟨what, r, test, -, hr⟩
  · rw [hb] at h
    cases h
  · rw [hr, judged_apply] at h
    split at h
    · cases h
    · cases h
      exact ⟨_, rfl⟩

end Policy

end SchemaRest
