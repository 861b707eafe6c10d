import SchemaRest.Proofs.Service.Effects

/-!
# Replies that answer what was sent

The database of a world has its replies laid out beforehand. `Answered reply m w` says that in `w` they
are the ones a given `reply` makes of the statements that `m` sends there, one after the other. An effect
that is put together from others is answered in all its parts.
-/

namespace SchemaRest

/-- From one world to the other every statement sent took one reply. -/
structure World.Draws (w w' : World) : Prop where
  taken : ∃ more, w'.sent = w.sent ++ more ∧ ∀ replies, w.database = .replying replies →
    w'.database = .replying (replies.drop more.length)

theorem World.Draws.refl (w : World) : w.Draws w :=
  ⟨⟨[], (List.append_nil _).symm, fun _ h => h⟩⟩

theorem World.Draws.trans {w w₁ w₂ : World} (h : w.Draws w₁) (k : w₁.Draws w₂) : w.Draws w₂ := by
  obtain ⟨more, hmore, hleft⟩ := h.taken
  obtain ⟨again, hagain, kleft⟩ := k.taken
  refine ⟨⟨more ++ again, by rw [hagain, hmore, List.append_assoc], fun replies hreplies => ?_⟩⟩
  rw [kleft _ (hleft replies hreplies), List.drop_drop, List.length_append]

namespace Effect

variable {ε ε' α β : Type}

def Draws (m : Effect ε α) : Prop := ∀ w : World, w.Draws (m w).2

namespace Draws

theorem pure (a : α) : Draws (Pure.pure a : Effect ε α) := World.Draws.refl

theorem ofExcept (r : Except ε α) : Draws (Effect.ofExcept r) := World.Draws.refl

theorem fail (e : ε) : Draws (Effect.fail e : Effect ε α) := World.Draws.refl

theorem bind {m : Effect ε α} {f : α → Effect ε β} (hm : m.Draws) (hf : ∀ a, (f a).Draws) :
    (m >>= f).Draws := bind_related (R := World.Draws) World.Draws.trans hm hf

theorem mapFailure {m : Effect ε α} (hm : m.Draws) (f : ε → ε') : (m.mapFailure f).Draws := by
  intro w
  rw [mapFailure_snd]
  exact hm w

end Draws

theorem draws_send (s : Sent) : (send s).Draws := by
  intro w
  unfold send
  split
  · exact World.Draws.refl w
  · next h =>
    refine ⟨⟨[s], rfl, fun replies hreplies => ?_⟩⟩
    cases h.symm.trans hreplies
    exact h
  · next h =>
    refine ⟨⟨[s], rfl, fun replies hreplies => ?_⟩⟩
    cases h.symm.trans hreplies
    rfl

theorem draws_rows (s : Sent) : (Database.rows s).Draws := .bind (draws_send s) fun _ => .ofExcept _

theorem draws_fetchAll (s : Sql.Statement) : (Database.fetchAll s).Draws :=
  .bind (draws_rows _) fun _ => .pure _

theorem draws_firstRow (s : Sent) : (Database.firstRow s).Draws := by
  refine .bind (draws_rows s) fun rows => ?_
  cases rows.head? with
  | none => exact .fail _
  | some r => exact .pure r

theorem draws_count (s : Sql.Statement) : (Database.count s).Draws :=
  .bind (draws_firstRow _) fun _ => .bind (.ofExcept _) fun _ => .pure _

/-! ## Effects that are answered -/

variable {reply : Sent → List Reply} {w : World}

/-- The replies laid out are those to the statements that the effect sends. -/
def Answered (reply : Sent → List Reply) (m : Effect ε α) (w : World) : Prop :=
  ∃ more rest, (m w).2.sent = w.sent ++ more ∧ w.database = .replying (more.map reply ++ rest)

theorem Answered.bind {m : Effect ε α} {f : α → Effect ε β} (h : Answered reply (m >>= f) w)
    (hm : m.Draws) (hf : ∀ a, (f a).Draws) :
    Answered reply m w ∧ ∀ a w', m w = (.ok a, w') → Answered reply (f a) w' := by
  obtain ⟨more, rest, hsent, hdatabase⟩ := h
  obtain ⟨first, hfirst, hleft⟩ := (hm w).taken
  rw [bind_apply] at hsent
  cases hrun : m w with
  | mk r w' =>
    rw [hrun] at hsent hfirst hleft
    cases r with
    | error e =>
      refine ⟨⟨more, rest, by rw [hrun]; exact hsent, hdatabase⟩, fun a w'' heq => ?_⟩
      cases heq
    | ok a =>
      obtain ⟨second, hsecond, -⟩ := (hf a w').taken
      have hmore : more = first ++ second := by
        have htotal := hsecond.symm.trans hsent
        rw [hfirst, List.append_assoc] at htotal
        exact (List.append_cancel_left htotal).symm
      rw [hmore, List.map_append, List.append_assoc] at hdatabase
      refine ⟨⟨first, _, by rw [hrun]; exact hfirst, hdatabase⟩, fun b w'' heq => ?_⟩
      cases heq
      refine ⟨second, rest, hsecond, ?_⟩
      rw [hleft _ hdatabase, List.drop_left' (List.length_map _)]

theorem Answered.mapFailure {m : Effect ε α} {f : ε → ε'} (h : Answered reply (m.mapFailure f) w) :
    Answered reply m w := by
  rwa [Answered, mapFailure_snd] at h

/-- Wherever it is answered the effect has this outcome, after sending these statements. -/
def Gives (reply : Sent → List Reply) (m : Effect ε α) (r : Except ε α) (more : List Sent) : Prop :=
  ∀ w, Answered reply m w → ∃ w', m w = (r, w') ∧ w'.sent = w.sent ++ more

namespace Gives

theorem pure (a : α) : Gives reply (Pure.pure a : Effect ε α) (.ok a) [] :=
  fun w _ => ⟨w, rfl, (List.append_nil _).symm⟩

theorem ofExcept (r : Except ε α) : Gives reply (Effect.ofExcept r) r [] :=
  fun w _ => ⟨w, rfl, (List.append_nil _).symm⟩

theorem bind {m : Effect ε α} {f : α → Effect ε β} {a : α} {r : Except ε β} {more again : List Sent}
    (h : Gives reply m (.ok a) more) (hm : m.Draws) (hf : ∀ a, (f a).Draws)
    (k : Gives reply (f a) r again) : Gives reply (m >>= f) r (more ++ again) := by
  intro w hw
  obtain ⟨hfirst, hthen⟩ := hw.bind hm hf
  obtain ⟨w₁, hrun, hsent⟩ := h w hfirst
  obtain ⟨w₂, hrun', hsent'⟩ := k w₁ (hthen a w₁ hrun)
  refine ⟨w₂, ?_, by rw [hsent', hsent, List.append_assoc]⟩
  rw [bind_apply, hrun]
  exact hrun'

theorem mapFailure {m : Effect ε α} {a : α} {more : List Sent} (h : Gives reply m (.ok a) more)
    (f : ε → ε') : Gives reply (m.mapFailure f) (.ok a) more := by
  intro w hw
  obtain ⟨w', hrun, hsent⟩ := h w hw.mapFailure
  refine ⟨w', ?_, hsent⟩
  rw [Effect.mapFailure, hrun]

/-- A statement that is answered gets its reply. -/
theorem send (s : Sent) : Gives reply (send s) (.ok (reply s)) [s] := by
  intro w hw
  obtain ⟨more, rest, hsent, hdatabase⟩ := hw
  unfold SchemaRest.send at hsent ⊢
  rw [hdatabase] at hsent ⊢
  cases more with
  | nil =>
    cases rest <;> simp at hsent
  | cons t more =>
    obtain ⟨rfl, rfl⟩ : s = t ∧ more = [] := by simpa using hsent
    exact ⟨_, rfl, rfl⟩

theorem rows (s : Sent) : Gives reply (Database.rows s) (Database.rowsOf (reply s)) [s] :=
  (send s).bind (draws_send s) (fun _ => .ofExcept _) (ofExcept _)

theorem fetchAll {s : Sql.Statement} {rows : List Database.Row}
    (h : Database.rowsOf (reply (.ofStatement s)) = .ok rows) :
    Gives reply (Database.fetchAll s) (.ok (rows.map (Database.Row.value .prepared)))
      [.ofStatement s] := by
  have hrows : Gives reply (Database.rows (.ofStatement s)) _ _ := Gives.rows (.ofStatement s)
  rw [h] at hrows
  exact hrows.bind (draws_rows _) (fun _ => .pure _) (pure _)

theorem firstRow {s : Sent} {row : Database.Row} {rows : List Database.Row}
    (h : Database.rowsOf (reply s) = .ok (row :: rows)) :
    Gives reply (Database.firstRow s) (.ok row) [s] := by
  have hrows : Gives reply (Database.rows s) _ _ := Gives.rows s
  rw [h] at hrows
  refine hrows.bind (draws_rows s) (fun rows => ?_) (pure row)
  cases rows.head? with
  | none => exact .fail _
  | some r => exact .pure r

theorem count {s : Sql.Statement} {row : Database.Row} {rows : List Database.Row} {n : Int}
    (h : Database.rowsOf (reply (.ofStatement s)) = .ok (row :: rows))
    (hn : row.number "total" = .ok n) :
    Gives reply (Database.count s) (.ok n.toNat) [.ofStatement s] := by
  refine (firstRow h).bind (draws_firstRow _) (fun _ => .bind (.ofExcept _) fun _ => .pure _) ?_
  rw [hn]
  exact (ofExcept _).bind (.ofExcept _) (fun _ => .pure _) (pure _)

end Gives

end Effect

end SchemaRest
