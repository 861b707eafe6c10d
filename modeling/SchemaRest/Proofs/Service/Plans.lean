import SchemaRest.Proofs.Service.Effects
import SchemaRest.Service.Administration

/-!
# Plans of requests

What a request to an endpoint of a table sends to the database is planned before its first statement: a
handler sends the statements of its plan in their order, and all of them unless the database fails.
-/

namespace SchemaRest

namespace Effect

variable {ε α β : Type}

/-- Sends one statement, and does not succeed without having sent it. -/
structure Once (s : Sent) (m : Effect ε α) : Prop where
  issues : ∀ w, World.Issues [s] w (m w).2
  connected : ∀ w a, (m w).1 = .ok a → w.connected = true

theorem once_send (s : Sent) : Once s (send s) where
  issues := issues_send s
  connected := by
    rintro ⟨registry, registration, catalog, _ | _ | _, sent⟩ a h
    · cases h
    · rfl
    · rfl

/-- What is made of the replies leaves the world alone. -/
theorem Once.bind {s : Sent} {m : Effect ε α} {f : α → Effect ε β} (hm : m.Once s)
    (hf : ∀ a w, (f a w).2 = w) : (m >>= f).Once s where
  issues w := by
    rw [bind_snd hf]
    exact hm.issues w
  connected w b h := by
    obtain ⟨a, w', hw, -⟩ := bind_eq_ok_iff.mp (Prod.ext h rfl)
    exact hm.connected w a (by rw [hw])

theorem once_rows (s : Sent) : (Database.rows s).Once s := (once_send s).bind fun _ _ => rfl

theorem once_fetchAll (s : Sql.Statement) : (Database.fetchAll s).Once (.ofStatement s) :=
  (once_rows _).bind fun _ _ => rfl

theorem once_fetchFirst? (s : Sql.Statement) : (Database.fetchFirst? s).Once (.ofStatement s) :=
  (once_rows _).bind fun _ _ => rfl

theorem once_firstRow (s : Sent) : (Database.firstRow s).Once s :=
  (once_rows s).bind fun rows _ => by cases rows.head? <;> rfl

theorem once_count (s : Sql.Statement) : (Database.count s).Once (.ofStatement s) := by
  refine (once_firstRow _).bind fun r w => ?_
  rw [bind_snd fun _ _ => rfl]
  rfl

theorem once_execute (s : Sql.Statement) : (Database.execute s).Once (.ofStatement s) :=
  (once_send _).bind fun _ _ => rfl

/-- Sends the statements of a plan in their order, and all of them unless the database fails. -/
def Follows (plan : List Sql.Statement) (m : Effect Failure α) : Prop :=
  ∀ w, ∃ issued, (m w).2.sent = w.sent ++ issued ∧ issued <+: plan.map Sent.ofStatement ∧
    ((∀ h d, (m w).1 ≠ .error (.queryExecution h d)) → issued = plan.map Sent.ofStatement)

theorem follows_nil {m : Effect Failure α} (hm : ∀ w, (m w).2 = w) : m.Follows [] := by
  intro w
  rw [hm]
  exact ⟨[], (List.append_nil _).symm, List.nil_prefix, fun _ => rfl⟩

theorem follows_reported {h : Handler} {s : Sql.Statement} {plan : List Sql.Statement}
    {m : Effect DatabaseError α} {f : α → Effect Failure β} (hm : m.Once (.ofStatement s))
    (hf : ∀ a, (f a).Follows plan) : (Service.reported h m >>= f).Follows (s :: plan) := by
  intro w
  have hsent := (hm.issues w).sent
  rw [bind_apply, Service.reported, mapFailure]
  cases hw : m w with
  | mk r w' =>
    rw [hw] at hsent
    cases r with
    | error d =>
      -- the statement was sent if there was a connection, and nothing was sent after it
      refine ⟨w.recorded [.ofStatement s], hsent, ?_, fun hno => absurd rfl (hno h d)⟩
      unfold World.recorded
      split
      · exact ⟨plan.map Sent.ofStatement, rfl⟩
      · exact List.nil_prefix
    | ok a =>
      have hconnected := hm.connected w a (by rw [hw])
      rw [World.recorded, if_pos hconnected] at hsent
      obtain ⟨issued, hissued, hahead, hall⟩ := hf a w'
      refine ⟨.ofStatement s :: issued, ?_, List.cons_prefix_cons.mpr ⟨rfl, hahead⟩, fun hno => ?_⟩
      · rw [hissued, hsent, List.append_assoc]
        rfl
      · rw [hall hno, List.map_cons]

/-- Follows a plan, or fails with what kept the plan from being made. -/
def Plans : Except Failure (List Sql.Statement) → Effect Failure α → Prop
  | .ok plan, m => m.Follows plan
  | .error e, m => ∀ w, m w = (.error e, w)

theorem plans_ofExcept {r : Except Failure α} {p : α → Except Failure (List Sql.Statement)}
    {f : α → Effect Failure β} (hf : ∀ a, Plans (p a) (f a)) :
    Plans (r >>= p) (ofExcept r >>= f) := by
  cases r with
  | error e => exact fun w => rfl
  | ok a =>
    rw [show ofExcept (.ok a) >>= f = f a from funext (ofExcept_bind a f)]
    exact hf a

end Effect

namespace Service

open Effect

/-- The query for the row with a key. -/
def rowQuery (settings : Settings) (table : String) (c : Call) : Sql.Select :=
  { Sql.Select.all table with
    columns := settings.visible.select table []
    limit := some 1 }.restrictEq c.keyColumn c.key

/-- The statements that show the rows of a query. -/
def showing (page : Page) (q : Sql.Select) : List Sql.Statement :=
  if page.enabled then [q.count, (page.window q).rows] else [q.rows]

/-- The statements that a request to an endpoint of a table is meant to send. -/
def planned (settings : Settings) (table : String) (c : Call) :
    Handler → Except Failure (List Sql.Statement)
  | .getOne => return [(rowQuery settings table c).rows]
  | .create => do
    let rows ← readInserts c.body
    return [Sql.insert table rows]
  | .update => do
    let changes ← readChanges c.body
    return [Sql.update table changes c.keyColumn c.key]
  | .delete => return [Sql.delete table c.keyColumn c.key]
  | .query => do
    let spec ← Body.parse QuerySpec.decode c.body
    let q ← spec.select table (settings.visible.select table spec.fields)
    return showing ((Page.ofQuery c.context.query).override spec.page) q
  | _ => return []

/-- The handlers that take values. -/
def valued : List Handler := [.getOne, .create, .update, .delete, .query]

theorem plans_run (settings : Settings) {e : Endpoint} (he : e.handler ∈ valued) (c : Call) :
    Plans (planned settings e.tableName c e.handler) (run settings e c) := by
  have hpure (r : Response) : (pure r : Effect Failure Response).Follows [] := follows_nil fun _ => rfl
  unfold run
  split
  case h_2 h =>
    rw [h]
    exact follows_reported (once_fetchFirst? _) fun row => hpure _
  case h_3 h =>
    rw [h]
    exact plans_ofExcept fun rows => follows_reported (once_execute _) fun _ => hpure _
  case h_4 h =>
    rw [h]
    exact plans_ofExcept fun changes => follows_reported (once_execute _) fun _ => hpure _
  case h_5 h =>
    rw [h]
    refine follows_reported (once_execute _) fun outcome => follows_nil fun w => ?_
    dsimp only
    split <;> rfl
  case h_6 h =>
    rw [h]
    refine plans_ofExcept fun spec => plans_ofExcept fun q => ?_
    unfold showing
    split
    · exact follows_reported (once_count _) fun total =>
        follows_reported (once_fetchAll _) fun items => hpure _
    · exact follows_reported (once_fetchAll _) fun items => hpure _
  all_goals
    next h =>
      rw [h] at he
      exact absurd he (by decide)

end Service

end SchemaRest
