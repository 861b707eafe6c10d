import SchemaRest.Proofs.Service.Access

/-!
# What a permission stands for

A permission is the name of a table and an action, with a colon between them. Names are texts of any kind
and may have colons of their own; actions have none, so the last colon tells the two apart. A permission
stands for one table and one action, and never for the administration of the service: what is granted for
one table opens the endpoints of that table alone.
-/

namespace SchemaRest

open Handler (tableScoped)

/-- The last separator of a text says what stands before and behind it. -/
theorem eq_of_last_separator {c : Char} {s t a b : List Char} (ha : c ∉ a) (hb : c ∉ b)
    (h : s ++ c :: a = t ++ c :: b) : s = t ∧ a = b := by
  have hnone : ∀ {m a b : List Char}, c ∉ a → c :: a = m ++ c :: b → m = [] := by
    intro m a b ha h
    cases m with
    | nil => rfl
    | cons x m =>
      obtain ⟨-, rfl⟩ := List.cons.inj h
      exact absurd (List.mem_append_right m List.mem_cons_self) ha
  rcases List.append_eq_append_iff.mp h with ⟨m, rfl, hm⟩ | ⟨m, rfl, hm⟩
  · obtain rfl := hnone ha hm
    exact ⟨(List.append_nil s).symm, (List.cons.inj hm).2⟩
  · obtain rfl := hnone hb hm
    exact ⟨List.append_nil t, (List.cons.inj hm).2.symm⟩

namespace Handler

variable {g h : Handler} {s t : String}

theorem permission_toList (hh : h ∈ tableScoped) (t : String) :
    (h.permission t).toList = t.toList ++ ':' :: h.action.toList := by
  rw [permission_of_tableScoped hh, String.toList_append, String.toList_append, List.append_assoc]
  rfl

theorem colon_not_mem_action : ∀ h ∈ tableScoped, ':' ∉ h.action.toList := by decide

theorem action_ne_any : ∀ h ∈ tableScoped, h.action.toList ≠ ['*'] := by decide

theorem permission_eq_iff (hg : g ∈ tableScoped) (hh : h ∈ tableScoped) :
    g.permission s = h.permission t ↔ s = t ∧ g.action = h.action := by
  constructor
  · intro heq
    have hchars := congrArg String.toList heq
    rw [permission_toList hg, permission_toList hh] at hchars
    obtain ⟨hname, haction⟩ :=
      eq_of_last_separator (colon_not_mem_action g hg) (colon_not_mem_action h hh) hchars
    exact ⟨String.toList_inj.mp hname, String.toList_inj.mp haction⟩
  · rintro ⟨rfl, haction⟩
    rw [permission_of_tableScoped hg, permission_of_tableScoped hh, haction]

/-- The administrative permission has an action that no table knows. -/
theorem permission_ne_admin (hh : h ∈ tableScoped) (t : String) : h.permission t ≠ adminPermission := by
  intro heq
  have hchars : t.toList ++ ':' :: h.action.toList = ['*'] ++ ':' :: ['*'] := by
    rw [← permission_toList hh, heq]
    rfl
  have hany := (eq_of_last_separator (colon_not_mem_action h hh) (by decide) hchars).2
  exact action_ne_any h hh hany

end Handler

/-- Of the endpoints that the service makes those of a table ask for its permissions, and no others do. -/
theorem Endpoint.Made.table_of_permission {P : String → Prop} {e : Endpoint} {h : Handler} {t : String}
    (he : e.Made P) (hh : h ∈ tableScoped) (hpermission : e.permission = h.permission t) :
    e.table = some t ∧ e.handler.action = h.action := by
  cases he with
  | table s g hs hg =>
    obtain ⟨rfl, haction⟩ := (Handler.permission_eq_iff hg hh).mp hpermission
    exact ⟨rfl, haction⟩
  | administrative g hg => exact absurd hpermission.symm (Handler.permission_ne_admin hh t)

namespace Service

/-- What is granted is granted for one table. -/
def OnlyFor (table : String) (granted : String → Prop) : Prop :=
  ∀ permission, granted permission → ∃ h ∈ tableScoped, permission = h.permission table

/-- Access to an endpoint is given only if its permission is granted. -/
def Honours (granted : String → Prop) (settings : Settings) (method pattern : String) (c : Call)
    (w : World) : Prop :=
  ∀ d, w.registry.resolve? method pattern = some d → (decision settings c w d).1 = .ok true →
    granted d.permission

/-- Where grants for one table are honoured a request has an effect only through an endpoint of that
table, whatever the names of the tables are. -/
theorem table_of_affected {table : String} {granted : String → Prop} (honly : OnlyFor table granted)
    {settings : Settings} {method pattern : String} {c : Call} {w : World}
    (hw : Reached (fun _ => True) w) (hhonours : Honours granted settings method pattern c w)
    (haffected : Affected w (dispatch settings method pattern c w).2) :
    ∃ d, w.registry.resolve? method pattern = some d ∧ d.table = some table ∧ granted d.permission := by
  obtain ⟨d, hd, hdecision, -⟩ := allowed_of_affected haffected
  have hgranted := hhonours d hd (congrArg Prod.fst hdecision)
  obtain ⟨h, hh, hpermission⟩ := honly d.permission hgranted
  have hmade := hw.made d (Registry.mem_of_resolve? hd)
  exact ⟨d, hd, (hmade.table_of_permission hh hpermission).1, hgranted⟩

/-- A permission says its table and its action, and is none of the administration's. So nothing that is
granted for a table lets a request change or read anything through another endpoint. -/
theorem permissions_apart {g h : Handler} (hg : g ∈ tableScoped) (hh : h ∈ tableScoped) (s t : String) :
    (g.permission s = h.permission t ↔ s = t ∧ g.action = h.action) ∧
    g.permission s ≠ "*:*" ∧
    ∀ granted, OnlyFor s granted → ∀ settings method pattern c w, Reached (fun _ => True) w →
      Honours granted settings method pattern c w →
      Affected w (dispatch settings method pattern c w).2 →
        ∃ d, w.registry.resolve? method pattern = some d ∧ d.table = some s ∧ granted d.permission :=
  ⟨Handler.permission_eq_iff hg hh, Handler.permission_ne_admin hg s,
    fun _ honly _ _ _ _ _ hw hhonours => table_of_affected honly hw hhonours⟩

/-- The service of `usersOnly` with a database to ask. -/
def usersAsked : World := { usersOnly with database := .replying [] }

/-- A name that looks like a permission is kept apart from it, and who may read the users gets at nothing
but the users. -/
theorem permissions_apart_users :
    Handler.list ∈ tableScoped ∧ Handler.update ∈ tableScoped ∧
      Handler.list.permission "users:update" ≠ Handler.update.permission "users" ∧
      ∃ d, usersAsked.registry.resolve? "GET" "/users" = some d ∧ d.table = some "users" ∧
        d.permission = "users:select" := by
  have hlist : Handler.list ∈ tableScoped := by decide
  have hupdate : Handler.update ∈ tableScoped := by decide
  have hreached : Reached (fun _ => True) usersAsked :=
    .meanwhile (.given _ (.initial "" "") fun _ _ => trivial) rfl rfl rfl
  have hresolve : usersAsked.registry.resolve? "GET" "/users" = some (.ofTable "users" .list) := by decide
  let c : Call := ⟨⟨"GET", "/users", [], []⟩, "", .empty⟩
  have honly : OnlyFor "users" (· = "users:select") := fun _ hp => ⟨.list, hlist, hp⟩
  have hhonours : Honours (· = "users:select") openSettings "GET" "/users" c usersAsked := by
    intro d hd _
    cases hresolve.symm.trans hd
    decide
  have hsent : (dispatch openSettings "GET" "/users" c usersAsked).2.sent ≠ usersAsked.sent := by
    decide +kernel
  obtain ⟨hiff, -, -⟩ := permissions_apart hlist hupdate "users:update" "users"
  obtain ⟨-, -, hconfined⟩ := permissions_apart hlist hupdate "users" "users"
  refine ⟨hlist, hupdate, fun heq => absurd (hiff.mp heq).1 (by decide), ?_⟩
  exact hconfined _ honly openSettings "GET" "/users" c usersAsked hreached hhonours (.inl hsent)

end Service

end SchemaRest
