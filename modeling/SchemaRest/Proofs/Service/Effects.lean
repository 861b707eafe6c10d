import SchemaRest.Service.Registration

/-!
# What effects change

`Effect.Sends P m` says that `m` changes nothing but the database, and sends it only statements that
satisfy `P`. What sends one statement is `send` alone; all else follows by composition.
-/

namespace SchemaRest

/-- From one world to the other statements with a property were sent, and nothing else was done. -/
structure World.Sends (P : Sent → Prop) (w w' : World) : Prop where
  sent : ∃ more, w'.sent = w.sent ++ more ∧ ∀ s ∈ more, P s
  rest : w' = { w with database := w'.database, sent := w'.sent }

namespace World.Sends

variable {P Q : Sent → Prop} {w w₁ w₂ : World}

theorem refl (P : Sent → Prop) (w : World) : w.Sends P w := ⟨⟨[], by simp⟩, rfl⟩

theorem trans (h : w.Sends P w₁) (k : w₁.Sends P w₂) : w.Sends P w₂ := by
  obtain ⟨⟨more, hmore, hP⟩, hrest⟩ := h
  obtain ⟨⟨again, hagain, kP⟩, krest⟩ := k
  refine ⟨⟨more ++ again, ?_, List.forall_mem_append.mpr ⟨hP, kP⟩⟩, ?_⟩
  · rw [hagain, hmore, List.append_assoc]
  · rw [krest, hrest]

theorem mono (h : w.Sends P w₁) (hPQ : ∀ s, P s → Q s) : w.Sends Q w₁ := by
  obtain ⟨⟨more, hmore, hP⟩, hrest⟩ := h
  exact ⟨⟨more, hmore, fun s hs => hPQ s (hP s hs)⟩, hrest⟩

theorem registry (h : w.Sends P w₁) : w₁.registry = w.registry := by rw [h.rest]

theorem catalog (h : w.Sends P w₁) : w₁.catalog = w.catalog := by rw [h.rest]

theorem registration (h : w.Sends P w₁) : w₁.registration = w.registration := by rw [h.rest]

theorem policy (h : w.Sends P w₁) : w₁.policy = w.policy := by rw [h.rest]

theorem asked (h : w.Sends P w₁) : w₁.asked = w.asked := by rw [h.rest]

end World.Sends

/-- Whether there is a database to answer. -/
def World.connected (w : World) : Bool :=
  match w.database with
  | .unreachable => false
  | .replying _ => true

/-- What is recorded of statements: without a connection nothing is. -/
def World.recorded (w : World) (statements : List Sent) : List Sent :=
  if w.connected then statements else []

/-- From one world to the other these statements were issued. -/
structure World.Issues (statements : List Sent) (w w' : World) : Prop where
  sent : w'.sent = w.sent ++ w.recorded statements
  connected : w'.connected = w.connected

namespace World

variable {w w₁ w₂ : World} {a b : List Sent}

theorem recorded_append (w : World) (a b : List Sent) :
    w.recorded (a ++ b) = w.recorded a ++ w.recorded b := by
  unfold recorded
  split <;> rfl

theorem Issues.refl (w : World) : Issues [] w w := ⟨by simp [recorded], rfl⟩

theorem Issues.trans (h : Issues a w w₁) (k : Issues b w₁ w₂) : Issues (a ++ b) w w₂ where
  sent := by
    have hrecorded : w₁.recorded b = w.recorded b := by rw [recorded, h.connected, ← recorded]
    rw [k.sent, h.sent, hrecorded, recorded_append, List.append_assoc]
  connected := k.connected.trans h.connected

end World

namespace Effect

variable {ε ε' α β : Type} {P Q : Sent → Prop}

def Sends (P : Sent → Prop) (m : Effect ε α) : Prop := ∀ w : World, w.Sends P (m w).2

theorem bind_apply (m : Effect ε α) (f : α → Effect ε β) (w : World) :
    (m >>= f) w = match m w with
      | (.ok a, w') => f a w'
      | (.error e, w') => (.error e, w') := by
  change ExceptT.bind m f w = _
  simp only [ExceptT.bind, ExceptT.mk, ExceptT.bindCont, bind, StateT.bind]
  cases m w with
  | mk r w' => cases r <;> rfl

theorem bind_eq_ok_iff {m : Effect ε α} {f : α → Effect ε β} {b : β} {w w' : World} :
    (m >>= f) w = (.ok b, w') ↔ ∃ a w₁, m w = (.ok a, w₁) ∧ f a w₁ = (.ok b, w') := by
  rw [bind_apply]
  cases m w with
  | mk r w₁ =>
    constructor
    · intro h
      cases r with
      | error e => cases h
      | ok a => exact ⟨a, w₁, rfl, h⟩
    · rintro ⟨a, w₂, hm, hf⟩
      cases hm
      exact hf

theorem bind_eq_error_iff {m : Effect ε α} {f : α → Effect ε β} {e : ε} {w w' : World} :
    (m >>= f) w = (.error e, w') ↔
      m w = (.error e, w') ∨ ∃ a w₁, m w = (.ok a, w₁) ∧ f a w₁ = (.error e, w') := by
  rw [bind_apply]
  cases m w with
  | mk r w₁ =>
    constructor
    · intro h
      cases r with
      | error d =>
        cases h
        exact .inl rfl
      | ok a => exact .inr ⟨a, w₁, rfl, h⟩
    · rintro (hm | ⟨a, w₂, hm, hf⟩)
      · cases hm
        rfl
      · cases hm
        exact hf

/-- What both parts of an effect keep to, and is transitive, the whole keeps to. -/
theorem bind_related {R : World → World → Prop} (htrans : ∀ {w w₁ w₂}, R w w₁ → R w₁ w₂ → R w w₂)
    {m : Effect ε α} {f : α → Effect ε β} (hm : ∀ w, R w (m w).2) (hf : ∀ a w, R w (f a w).2)
    (w : World) : R w ((m >>= f) w).2 := by
  have hw := hm w
  rw [bind_apply]
  cases h : m w with
  | mk r w' =>
    rw [h] at hw
    cases r with
    | error e => exact hw
    | ok a => exact htrans hw (hf a w')

/-- What follows an effect and leaves the world alone does not count. -/
theorem bind_snd {m : Effect ε α} {f : α → Effect ε β}
    (hf : ∀ a w, (f a w).2 = w) (w : World) : ((m >>= f) w).2 = (m w).2 := by
  rw [bind_apply]
  cases m w with
  | mk r w' =>
    cases r with
    | error e => rfl
    | ok a => exact hf a w'

theorem mapFailure_snd (m : Effect ε α) (f : ε → ε') (w : World) :
    (m.mapFailure f w).2 = (m w).2 := by
  unfold mapFailure
  cases m w with
  | mk r w' => cases r <;> rfl

theorem mapFailure_eq_ok_iff {m : Effect ε α} {f : ε → ε'} {a : α} {w w' : World} :
    m.mapFailure f w = (.ok a, w') ↔ m w = (.ok a, w') := by
  unfold mapFailure
  cases m w with
  | mk r w₁ =>
    cases r with
    | error e => constructor <;> intro h <;> cases h
    | ok b => constructor <;> intro h <;> cases h <;> rfl

theorem ofExcept_eq_ok_iff {r : Except ε α} {a : α} {w w' : World} :
    ofExcept r w = (.ok a, w') ↔ r = .ok a ∧ w' = w := by
  constructor
  · intro h
    cases h
    exact ⟨rfl, rfl⟩
  · rintro ⟨rfl, rfl⟩
    rfl

theorem look_bind (f : World → α) (g : α → Effect ε β) (w : World) :
    (look f >>= g) w = g (f w) w := rfl

theorem ofExcept_bind (a : α) (g : α → Effect ε β) (w : World) :
    (ofExcept (.ok a) >>= g) w = g a w := rfl

namespace Sends

theorem pure (a : α) : Effect.Sends P (Pure.pure a : Effect ε α) := World.Sends.refl P

theorem fail (e : ε) : Effect.Sends P (Effect.fail e : Effect ε α) := World.Sends.refl P

theorem ofExcept (r : Except ε α) : Effect.Sends P (Effect.ofExcept r) := World.Sends.refl P

theorem look (f : World → α) : Effect.Sends P (Effect.look f : Effect ε α) := World.Sends.refl P

theorem bind {m : Effect ε α} {f : α → Effect ε β} (hm : m.Sends P) (hf : ∀ a, (f a).Sends P) :
    (m >>= f).Sends P := bind_related (R := World.Sends P) World.Sends.trans hm hf

/-- What follows a check may rely on its outcome. -/
theorem bind_ofExcept {r : Except ε α} {f : α → Effect ε β} (hf : ∀ a, r = .ok a → (f a).Sends P) :
    (Effect.ofExcept r >>= f).Sends P := by
  intro w
  rw [bind_apply, Effect.ofExcept]
  cases h : r with
  | error e => exact World.Sends.refl P w
  | ok a => exact hf a h w

theorem mapFailure {m : Effect ε α} (hm : m.Sends P) (f : ε → ε') : (m.mapFailure f).Sends P := by
  intro w
  rw [mapFailure_snd]
  exact hm w

theorem mono {m : Effect ε α} (hm : m.Sends P) (hPQ : ∀ s, P s → Q s) : m.Sends Q :=
  fun w => (hm w).mono hPQ

end Sends

end Effect

theorem sends_send (s : Sent) : (send s).Sends (· = s) := by
  intro w
  unfold send
  split
  · exact World.Sends.refl _ w
  · exact ⟨⟨[s], rfl, by simp⟩, rfl⟩
  · exact ⟨⟨[s], rfl, by simp⟩, rfl⟩

/-- The world after some statements took their replies, with other replies left. -/
def World.answered (w : World) (statements : List Sent) (left : List (List Reply)) : World :=
  { w with sent := w.sent ++ statements, database := .replying left }

theorem World.answered_answered (w : World) (a b : List Sent) (left more : List (List Reply)) :
    (w.answered a more).answered b left = w.answered (a ++ b) left := by
  rw [answered, answered, answered, List.append_assoc]

theorem send_eq_ok_iff {s : Sent} {reply : List Reply} {w w' : World} :
    send s w = (.ok reply, w') ↔
      ∃ left, w.database = .replying (reply :: left) ∧ w' = w.answered [s] left := by
  unfold send World.answered
  constructor
  · intro h
    split at h <;> cases h
    exact ⟨_, ‹_›, rfl⟩
  · rintro ⟨left, hw, rfl⟩
    rw [hw]

theorem issues_send (s : Sent) (w : World) : World.Issues [s] w (send s w).2 := by
  rcases w with ⟨registry, registration, catalog, _ | _ | _, sent⟩
  · exact ⟨(List.append_nil _).symm, rfl⟩
  · exact ⟨rfl, rfl⟩
  · exact ⟨rfl, rfl⟩

/-! ## Running statements -/

namespace Database

open Effect

theorem sends_rows (s : Sent) : (rows s).Sends (· = s) :=
  .bind (sends_send s) fun _ => .ofExcept _

theorem sends_fetchAll (s : Sql.Statement) : (fetchAll s).Sends (· = .ofStatement s) :=
  .bind (sends_rows _) fun _ => .pure _

theorem sends_fetchFirst (s : Sql.Statement) : (fetchFirst? s).Sends (· = .ofStatement s) :=
  .bind (sends_rows _) fun _ => .pure _

theorem sends_firstRow (s : Sent) : (firstRow s).Sends (· = s) := by
  refine .bind (sends_rows s) fun rows => ?_
  cases rows.head? with
  | none => exact .fail _
  | some r => exact .pure r

theorem sends_count (s : Sql.Statement) : (count s).Sends (· = .ofStatement s) :=
  .bind (sends_firstRow _) fun _ => .bind (.ofExcept _) fun _ => .pure _

theorem sends_execute (s : Sql.Statement) : (execute s).Sends (· = .ofStatement s) :=
  .bind (sends_send _) fun _ => .ofExcept _

theorem sends_fetchText (sql : String) : (fetchText sql).Sends (· = .text sql) :=
  .bind (sends_rows _) fun _ => .pure _

end Database

end SchemaRest
