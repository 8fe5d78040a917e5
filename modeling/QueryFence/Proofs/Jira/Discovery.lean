import QueryFence.Proofs.Jira.Ending
import QueryFence.Proofs.Settings.Grammar

/-!
Completing settings with the custom fields of the service. Whatever the service answers, settings should
come back, so that blocks without custom fields can be used. They do as long as the answer can be read: a
list of fields that has another shape than the service promises stands in the way of all blocks.
-/

namespace QueryFence

open QueryFence.Steps

theorem Plan.andThen_assoc {Ask : Type} {Reply : Ask → Type} {α β γ : Type} (p : Plan Ask Reply α)
    (f : α → Plan Ask Reply β) (g : β → Plan Ask Reply γ) :
    (p.andThen f).andThen g = p.andThen fun a => (f a).andThen g := by
  induction p with
  | done a => rfl
  | ask q next ih => exact congrArg (Plan.ask q) (funext ih)

namespace Json

/-- A name can be looked for in a value, and is not found. -/
def Lacks (name : Text) : Json → Prop
  | .object members => members.lookup name = none
  | .list items => .text name ∉ items
  | .text t => name.occursIn t = false
  | .null | .bool _ | .int _ | .float _ => False

theorem contains_eq_false_iff {name : Text} {v : Json} :
    v.contains name = .ok false ↔ v.Lacks name := by
  cases v with
  | object members =>
    rw [contains, Except.ok.injEq, Option.isSome_eq_false_iff, Option.isNone_iff_eq_none]
    rfl
  | list items =>
    obtain ⟨found, hfound, hmem⟩ := contains_list items name
    rw [hfound, Except.ok.injEq, Lacks, ← hmem, Bool.not_eq_true]
  | text t =>
    rw [contains, Except.ok.injEq]
    rfl
  | null | bool | int | float => exact iff_of_false nofun id

/-- A member of an object is the one that stands under its name. -/
theorem item_object_iff {members : List (Text × Json)} {name : Text} {v : Json} :
    (Json.object members).item name = .ok v ↔ members.lookup name = some v := by
  rw [item]
  cases members.lookup name with
  | none =>
    constructor
    · intro h
      cases h
    · intro h
      cases h
  | some found => rw [Except.ok.injEq, Option.some.injEq]

end Json

namespace Jira

/-- The members of a field that can be taken for the table or left out of it. -/
inductive IsFieldRecord (members : List (Text × Json)) : Prop
  /-- It is no custom field. -/
  | plain (h : ((members.lookup ("custom" : Text)).getD .null).isVoid = true)
  /-- It has no id. -/
  | unnumbered (h : ((members.lookup ("schema" : Text)).getD (.object [])).Lacks "customId")
  /-- It has an id and a name, of whatever kind they are. -/
  | numbered {schema : List (Text × Json)} {id name : Json}
      (hschema : members.lookup ("schema" : Text) = some (.object schema))
      (hid : schema.lookup ("customId" : Text) = some id)
      (hname : members.lookup ("name" : Text) = some name)

/-- A list of fields that a table can be made of. Nothing but an empty text or object passes for one. -/
def IsFieldList : Json → Prop
  | .list fields => ∀ field ∈ fields, ∃ members, field = .object members ∧ IsFieldRecord members
  | .object members => members = []
  | .text t => t = []
  | .null | .bool _ | .int _ | .float _ => False

section Fields

variable {table : FieldTable} {members : List (Text × Json)}

theorem addField_object : addField table (.object members) =
    if ((members.lookup ("custom" : Text)).getD .null).isVoid then .ok table
    else ((members.lookup ("schema" : Text)).getD (.object [])).contains "customId" >>= fun found =>
      if found then do
        let name ← (Json.object members).item "name"
        let id ← (← (Json.object members).item "schema").item "customId"
        return Assoc.put id.display name table
      else .ok table := rfl

/-- A record with an id is taken exactly when it has a name, and the id is a member of an object. -/
theorem IsFieldRecord.of_item {schema id name : Json}
    (hschema : (Json.object members).item "schema" = .ok schema)
    (hid : schema.item "customId" = .ok id) (hname : (Json.object members).item "name" = .ok name) :
    IsFieldRecord members := by
  cases schema with
  | object own =>
    exact .numbered (Json.item_object_iff.1 hschema) (Json.item_object_iff.1 hid)
      (Json.item_object_iff.1 hname)
  | null | bool | int | float | text | list => cases hid

theorem endsWell_addField_iff {field : Json} :
    EndsWell (addField table field) ↔ ∃ members, field = .object members ∧ IsFieldRecord members := by
  cases field with
  | null | bool | int | float | text | list =>
    exact iff_of_false (not_endsWell_error _) (by rintro ⟨members, h, -⟩; cases h)
  | object members =>
    rw [addField_object]
    constructor
    · intro h
      refine ⟨members, rfl, ?_⟩
      split at h
      · next hvoid => exact .plain hvoid
      · obtain ⟨found, hfound, h⟩ := endsWell_bind_iff.1 h
        cases found with
        | false => exact .unnumbered (Json.contains_eq_false_iff.1 hfound)
        | true =>
          obtain ⟨name, hname, h⟩ := endsWell_bind_iff.1 h
          obtain ⟨schema, hschema, h⟩ := endsWell_bind_iff.1 h
          obtain ⟨id, hid, -⟩ := endsWell_bind_iff.1 h
          exact .of_item hschema hid hname
    · rintro ⟨_, ⟨⟩, hrecord⟩
      split
      · exact endsWell_ok table
      · next hcustom =>
        cases hrecord with
        | plain hvoid => exact absurd hvoid hcustom
        | unnumbered hlacks =>
          exact endsWell_bind_iff.2 ⟨false, Json.contains_eq_false_iff.2 hlacks, endsWell_ok table⟩
        | @numbered schema id name hschema hid hname =>
          have hfound : (Json.object schema).contains "customId" = .ok true := by
            rw [Json.contains, hid, Option.isSome_some]
          rw [hschema, Option.getD_some]
          refine endsWell_bind_iff.2 ⟨true, hfound, endsWell_bind_iff.2
            ⟨name, Json.item_object_iff.2 hname, ?_⟩⟩
          exact endsWell_bind_iff.2 ⟨_, Json.item_object_iff.2 hschema, endsWell_bind_iff.2
            ⟨id, Json.item_object_iff.2 hid, endsWell_ok _⟩⟩

/-- Whatever table it is added to, a field is taken or left out as its members tell. -/
theorem endsWell_foldlM_addField_iff {fields : List Json} :
    EndsWell (fields.foldlM addField []) ↔
      ∀ field ∈ fields, ∃ members, field = .object members ∧ IsFieldRecord members :=
  endsWell_foldlM_iff (f := addField) (fun _ _ _ => endsWell_addField_iff) []

theorem endsWell_fieldTable_iff {fields : Json} : EndsWell (fieldTable fields) ↔ IsFieldList fields := by
  -- the items of a text and the names of an object are texts, and no fields
  have htexts : ∀ {α : Type} (f : α → Text) (items : List α),
      EndsWell ((items.map fun a => Json.text (f a)).foldlM addField []) ↔ items = [] := by
    intro α f items
    rw [endsWell_foldlM_addField_iff]
    constructor
    · intro h
      cases items with
      | nil => rfl
      | cons a items =>
        obtain ⟨members, hobject, -⟩ := h _ List.mem_cons_self
        cases hobject
    · rintro rfl
      exact fun field hfield => absurd hfield List.not_mem_nil
  cases fields with
  | list fields => exact endsWell_foldlM_addField_iff
  | object members => exact htexts (·.1) members
  | text t => exact htexts (fun c => [c]) t
  | null | bool | int | float => exact iff_of_false (not_endsWell_error _) id

end Fields

/-- What the outcome of the request for the fields comes to. -/
def tableOf : Except SearchFailure Json → Except SearchFailure (Option FieldTable)
  | .ok fields =>
    match fieldTable fields with
    | .ok table => .ok (some table)
    | .error fault => .error (.fault fault)
  | .error (.fetch _) => .ok none
  | .error failure => .error failure

/-- A response to the request for the fields that tells them, or why it does not. -/
def IsFieldReply : Response → Prop
  | .answered status body =>
    if 200 ≤ status ∧ status < 300 then
      ∀ fields, Json.readBody body = .ok fields → IsFieldList fields
    else IsReadable (.answered status body)
  | response => IsReadable response

theorem endsWell_tableOf_ok_iff {fields : Json} :
    EndsWell (tableOf (.ok fields)) ↔ IsFieldList fields := by
  rw [← endsWell_fieldTable_iff, tableOf]
  cases fieldTable fields with
  | ok table => exact iff_of_true (endsWell_ok _) (endsWell_ok table)
  | error fault => exact iff_of_false (not_endsWell_error _) (not_endsWell_error fault)

/-- A failure leaves the settings as they are exactly where a search would go on to another account. -/
theorem endsWell_tableOf_error_iff {failure : SearchFailure} :
    EndsWell (tableOf (.error failure)) ↔ IsTryOutcome (.error failure) := by
  cases failure with
  | fetch message => exact iff_of_true (endsWell_ok _) (.inr ⟨message, rfl⟩)
  | invalidUrl | cookieConflict | fault | other =>
    exact iff_of_false (not_endsWell_error _) (not_isTryOutcome_error nofun)

theorem endsWell_tableOf_conclude_iff {account : Account} {response : Response} :
    EndsWell (tableOf (conclude account response)) ↔ IsFieldReply response := by
  cases response with
  | timedOut | failed => exact iff_of_true (endsWell_ok _) trivial
  | invalidUrl | cookieConflict => exact iff_of_false (not_endsWell_error _) id
  | answered status body =>
    rw [IsFieldReply]
    split
    · next hstatus =>
      rw [conclude, if_pos hstatus]
      cases Json.readBody body with
      | ok fields =>
        rw [endsWell_tableOf_ok_iff]
        exact ⟨fun h _ hread => Except.ok.inj hread ▸ h, fun h => h fields rfl⟩
      | error e =>
        refine iff_of_true (endsWell_ok _) ?_
        rintro _ ⟨⟩
    · next hstatus =>
      have htry : IsTryOutcome (conclude account (.answered status body)) ↔
          IsReadable (.answered status body) := isTryOutcome_conclude_iff _
      rw [← htry, conclude, if_neg hstatus]
      cases statusMessage status body with
      | ok message => exact endsWell_tableOf_error_iff
      | error fault => exact endsWell_tableOf_error_iff

section Requests

variable {ε : Type} {answer : (q : Action) → ε → q.Reply × ε} {c : Client} {account : Account}
  {path : Text} {parameters : List (Text × Text)} {world : ε}

/-- Whatever has been sent before, the last response to a request decides. -/
theorem run_get_of_getLast? {response : Response}
    (h : (responses answer (get c account path parameters) world).getLast? = some response) :
    ((get c account path parameters).run answer world).1 = conclude account response := by
  rw [get] at h ⊢
  split at h
  · next hcount =>
    rw [if_pos hcount]
    cases hleft : (c.maxRetries + 1).toNat with
    | zero =>
      rw [hleft] at h
      cases h
    | succ left =>
      rw [hleft] at h
      cases hr : request account path parameters with
      | ok r =>
        obtain ⟨-, last, hlast, hrun⟩ : EndsByLast answer account r
            (attempts c account path parameters (left + 1) 0) world :=
          attempts_endsByLast hr left 0 world
        rw [hrun, Option.some.inj (h.symm.trans hlast)]
      | error e =>
        rw [attempts, hr] at h
        cases e <;> cases h
  · cases h

end Requests

section Settings

variable {ε : Type} {answer : (q : Action) → ε → q.Reply × ε} {world : ε} {settings : Settings}
  {account : Account}

/-- Settings that name an account and no field are completed with what the first account lists. -/
theorem discover_eq (hempty : settings.customFields = [])
    (hfirst : (ranked settings.accounts).head? = some account) :
    discover settings = (get (Client.of settings usualBackoff) account fieldsPath []).andThen
      fun outcome => .done (tableOf outcome) := by
  obtain ⟨rest, hranked⟩ := List.head?_eq_some_iff.1 hfirst
  have hsome : settings.accounts.isEmpty = false := by
    have hmem : account ∈ settings.accounts :=
      (ranked_perm settings.accounts).mem_iff.1 (hranked ▸ List.mem_cons_self)
    rw [List.isEmpty_eq_false_iff]
    exact List.ne_nil_of_mem hmem
  rw [discover, hempty, hsome, if_pos (by rfl), customFields,
    show (Client.of settings usualBackoff).accounts = settings.accounts from rfl, hranked]
  dsimp only
  rw [Plan.andThen_assoc]
  congr 1
  funext outcome
  cases outcome with
  | ok fields =>
    rw [tableOf]
    dsimp only
    cases fieldTable fields <;> rfl
  | error failure => cases failure <;> rfl

theorem run_discover (hempty : settings.customFields = [])
    (hfirst : (ranked settings.accounts).head? = some account) :
    ((discover settings).run answer world).1 =
      tableOf ((get (Client.of settings usualBackoff) account fieldsPath []).run answer world).1 := by
  rw [discover_eq hempty hfirst, Plan.run_andThen]
  rfl

/-- The settings themselves, or the same with other custom fields. -/
def IsCompletion (settings completed : Settings) : Prop :=
  completed = settings ∨ ∃ table, completed = { settings with customFields := table }

theorem isCompletion_complete (settings : Settings) (found : Option FieldTable) :
    IsCompletion settings (complete settings found) := by
  cases found with
  | none => exact .inl rfl
  | some table => exact .inr ⟨table, rfl⟩

/-- Settings come back, whatever was found. -/
def ComesBack (settings : Settings) (answer : (q : Action) → ε → q.Reply × ε) (world : ε) : Prop :=
  ∃ found, ((discover settings).run answer world).1 = .ok found ∧
    IsCompletion settings (complete settings found)

theorem comesBack_iff :
    ComesBack settings answer world ↔ EndsWell ((discover settings).run answer world).1 :=
  ⟨fun ⟨found, h, _⟩ => ⟨found, h⟩, fun ⟨found, h⟩ => ⟨found, h, isCompletion_complete settings found⟩⟩

/-- The request for the fields cannot be written, or the last response to it can be read. -/
def AreFieldsTold (c : Client) (answer : (q : Action) → ε → q.Reply × ε) (world : ε)
    (account : Account) : Prop :=
  match request account fieldsPath [] with
  | .ok _ => ∀ response,
      (responses answer (get c account fieldsPath []) world).getLast? = some response →
        IsFieldReply response
  | .error (.unwritable _) => True
  | .error (.invalidUrl _) => False

theorem endsWell_tableOf_get_iff {c : Client} (h : 0 ≤ c.maxRetries)
    (hcount : c.maxRetries < countLimit) :
    EndsWell (tableOf ((get c account fieldsPath []).run answer world).1) ↔
      AreFieldsTold c answer world account := by
  rw [AreFieldsTold]
  cases hr : request account fieldsPath [] with
  | ok r =>
    obtain ⟨-, last, hlast, hrun⟩ : EndsByLast answer account r (get c account fieldsPath []) world :=
      get_endsByLast hr h hcount world
    rw [hrun, endsWell_tableOf_conclude_iff]
    dsimp only
    rw [hlast]
    exact ⟨fun hread _ hsame => Option.some.inj hsame ▸ hread, fun hread => hread last rfl⟩
  | error e =>
    obtain ⟨left, hleft⟩ : ∃ left, (c.maxRetries + 1).toNat = left + 1 :=
      ⟨c.maxRetries.toNat, by omega⟩
    rw [get, if_pos ⟨by omega, by omega⟩, hleft, attempts, hr]
    cases e with
    | unwritable message => exact iff_of_true (endsWell_ok _) trivial
    | invalidUrl message => exact iff_of_false (not_endsWell_error _) id

/-- Settings without custom fields come back exactly where the first account can be asked for its fields
and what it answers can be read. -/
theorem comesBack_iff_areFieldsTold (hempty : settings.customFields = [])
    (hsome : settings.accounts ≠ []) (hretries : 0 ≤ settings.maxRetries) :
    ComesBack settings answer world ↔ settings.maxRetries < countLimit ∧
      ∃ account, (ranked settings.accounts).head? = some account ∧
        AreFieldsTold (Client.of settings usualBackoff) answer world account := by
  obtain ⟨account, hfirst⟩ : ∃ account, (ranked settings.accounts).head? = some account := by
    cases hranked : ranked settings.accounts with
    | nil => exact absurd (hranked ▸ ranked_perm settings.accounts).nil_eq.symm hsome
    | cons account rest => exact ⟨account, rfl⟩
  rw [comesBack_iff, run_discover hempty hfirst]
  by_cases hcount : settings.maxRetries < countLimit
  · rw [endsWell_tableOf_get_iff (c := Client.of settings usualBackoff) hretries hcount]
    constructor
    · exact fun htold => ⟨hcount, account, hfirst, htold⟩
    · rintro ⟨-, other, hother, htold⟩
      rwa [Option.some.inj (hfirst.symm.trans hother)]
  · -- no attempt is made, so no failure that would leave the settings as they are
    have hget : get (Client.of settings usualBackoff) account fieldsPath [] =
        .done (.error (.fault (countFault (settings.maxRetries + 1)))) :=
      if_neg fun hin => hcount (by have := hin.2; simp only [Client.of] at this; omega)
    rw [hget]
    exact iff_of_false (not_endsWell_error _) fun h => hcount h.1

end Settings

/-- Settings with one account and nothing else. -/
def oneAccount : Settings :=
  { Settings.standard with accounts := [⟨"Default", "http://h", .none, [], [], [], 1, "#000000"⟩] }

/-- A world in which every request is answered with the same body. -/
def answeredBy (body : Text) : (q : Action) → Unit → q.Reply × Unit
  | .pause _, _ => ((), ())
  | .send _, _ => (.answered 200 body, ())

/-- A service that answers with null, which is no list. -/
theorem not_comesBack_of_null_fields :
    oneAccount.customFields = [] ∧ oneAccount.accounts ≠ [] ∧ 0 ≤ oneAccount.maxRetries ∧
      ¬ ComesBack oneAccount (answeredBy "null") () := by
  refine ⟨rfl, List.cons_ne_nil _ _, by decide, fun hback => ?_⟩
  obtain ⟨-, account, hfirst, htold⟩ :=
    (comesBack_iff_areFieldsTold rfl (List.cons_ne_nil _ _) (by decide)).1 hback
  have haccount : account = ⟨"Default", "http://h", .none, [], [], [], 1, "#000000"⟩ := by
    rw [oneAccount, ranked, List.mergeSort_singleton] at hfirst
    exact (Option.some.inj hfirst).symm
  subst haccount
  obtain ⟨r, hr⟩ : ∃ r, request ⟨"Default", "http://h", .none, [], [], [], 1, "#000000"⟩ fieldsPath [] =
      .ok r := ⟨⟨⟨"http", [], "h", none, fieldsPath, none, none⟩, "h", "application/json", none⟩,
        by decide +kernel⟩
  rw [AreFieldsTold, hr] at htold
  have hlist := htold (.answered 200 "null") (by decide +kernel)
  exact hlist .null rfl

end Jira

end QueryFence
