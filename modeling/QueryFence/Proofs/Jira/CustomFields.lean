import QueryFence.Proofs.Assoc
import QueryFence.Proofs.Jira.Discovery
import QueryFence.Proofs.Json.RoundTrip
import QueryFence.Proofs.Spec.Column
import QueryFence.View

/-!
Custom fields from the list of the service to the cells of a table. A field is found by its name and by
its id, its column is written and read back, and header and cells are those of the same field.
-/

namespace QueryFence

namespace FieldTable

/-- The table of fields that have numbers for ids and texts for names. -/
def ofNumbered (fields : List (Nat × Text)) : FieldTable :=
  fields.map fun field => (Text.ofNat field.1, .text field.2)

/-- The ids of such fields by their names. -/
def idsOfNumbered (fields : List (Nat × Text)) : List (Json × Text) :=
  fields.map fun field => (.text field.2, Text.ofNat field.1)

variable {fields : List (Nat × Text)} {n : Nat} {name : Text}

theorem ofNat_injective : Function.Injective Text.ofNat :=
  Function.LeftInverse.injective Text.numeralValue_ofNat

theorem same_text (a b : Text) : (Json.text a).same (.text b) = (a == b) := by
  simp only [Json.same, Json.sameScalar, Json.worth?]

theorem hasDistinctKeys_ofNumbered (h : (fields.map Prod.fst).Nodup) :
    Assoc.HasDistinctKeys (ofNumbered fields) := by
  rw [Assoc.HasDistinctKeys, ofNumbered, List.map_map]
  have hkeys : (fields.map Prod.fst).map Text.ofNat =
      fields.map (Prod.fst ∘ fun field => (Text.ofNat field.1, Json.text field.2)) := List.map_map
  rw [← hkeys]
  exact h.map ofNat_injective

theorem nameOf?_ofNumbered (h : (fields.map Prod.fst).Nodup) (hm : (n, name) ∈ fields) :
    (ofNumbered fields).nameOf? (Text.ofNat n) = some (.text name) :=
  (hasDistinctKeys_ofNumbered h).lookup_eq_some
    (List.mem_map_of_mem (f := fun field : Nat × Text => (Text.ofNat field.1, Json.text field.2)) hm)

/-- A name that is not there yet comes behind all others. -/
theorem insertName_of_fresh {v : Json} {id : Text} {ids : List (Json × Text)}
    (h : ∀ entry ∈ ids, entry.1.same v = false) : insertName v id ids = ids ++ [(v, id)] := by
  induction ids with
  | nil => rfl
  | cons entry ids ih =>
    obtain ⟨hfirst, hrest⟩ := List.forall_mem_cons.1 h
    rw [insertName, if_neg (Bool.eq_false_iff.1 hfirst), ih hrest, List.cons_append]

theorem idsByName_ofNumbered (h : (fields.map Prod.snd).Nodup) :
    (ofNumbered fields).idsByName = .ok (idsOfNumbered fields) := by
  induction fields using List.reverseRecOn with
  | nil => rfl
  | append_singleton fields field ih =>
    rw [List.map_append, List.map_singleton, List.nodup_append] at h
    obtain ⟨hbefore, -, hfresh⟩ := h
    have hlast : insertName (.text field.2) (Text.ofNat field.1) (idsOfNumbered fields) =
        idsOfNumbered fields ++ [(.text field.2, Text.ofNat field.1)] := by
      refine insertName_of_fresh fun entry hentry => ?_
      obtain ⟨other, hother, rfl⟩ := List.mem_map.1 hentry
      rw [same_text, beq_eq_false_iff_ne]
      exact hfresh _ (List.mem_map_of_mem hother) _ (List.mem_singleton_self _)
    have hsplit : ofNumbered (fields ++ [field]) =
        ofNumbered fields ++ [(Text.ofNat field.1, .text field.2)] := List.map_append
    have hids : idsOfNumbered (fields ++ [field]) =
        idsOfNumbered fields ++ [(.text field.2, Text.ofNat field.1)] := List.map_append
    have hfold := ih hbefore
    rw [idsByName] at hfold ⊢
    rw [hsplit, List.foldlM_append, hfold, hids, ← hlast]
    rfl

theorem find?_idsOfNumbered (h : (fields.map Prod.snd).Nodup) (hm : (n, name) ∈ fields) :
    (idsOfNumbered fields).find? (fun entry => entry.1.same (.text name)) =
      some (.text name, Text.ofNat n) := by
  induction fields with
  | nil => exact absurd hm List.not_mem_nil
  | cons field fields ih =>
    obtain ⟨hfirst, hrest⟩ := List.nodup_cons.1 h
    rw [idsOfNumbered, List.map_cons, List.find?_cons, same_text]
    rcases List.mem_cons.1 hm with rfl | hm
    · rw [beq_self_eq_true]
    · have hne : (field.2 == name) = false := by
        rw [beq_eq_false_iff_ne]
        rintro rfl
        exact hfirst (List.mem_map.2 ⟨_, hm, rfl⟩)
      rw [hne]
      exact ih hrest hm

/-- Fields with different names are found by them. -/
theorem idOf?_ofNumbered (h : (fields.map Prod.snd).Nodup) (hm : (n, name) ∈ fields) :
    (ofNumbered fields).idOf? name = .ok (some (Text.ofNat n)) := by
  rw [idOf?, idsByName_ofNumbered h]
  dsimp only
  rw [find?_idsOfNumbered h hm]
  rfl

end FieldTable

namespace Column

variable {settings : Settings} {selector id : Text} {n : Nat} {name : Text}

theorem isTight_selector (h : Text.trimEnd selector = selector) : Text.IsTight ('$' :: selector) := by
  cases selector with
  | nil => exact ⟨⟨'$', rfl, by decide⟩, by decide⟩
  | cons c rest => exact .append (s := ['$']) ⟨'$', rfl, by decide⟩ (List.cons_ne_nil c rest) h

/-- A selector is read as the column of the field that it comes to, compact behind the symbol. -/
theorem read_selector (hs : settings.HasPlainSymbol) (h : Text.trimEnd selector = selector)
    (hr : resolve settings.customFields selector = .ok id) (compact : Bool) :
    read settings ((if compact then settings.compactSymbol else []) ++ '$' :: selector) =
      .ok ⟨compact, .custom id⟩ := by
  have htight := isTight_selector h
  have hcontent : readContent settings ('$' :: selector) = .ok (.custom id) := by
    rw [readContent_custom, hr]
  cases compact with
  | false =>
    have hbare : settings.compactSymbol.isPrefixOf ('$' :: selector) = false :=
      not_isPrefixOf_write hs (.custom selector)
    rw [if_neg Bool.false_ne_true, List.nil_append, read, htight.trim]
    simp only [hbare, Bool.false_eq_true, if_false, hcontent]
  | true =>
    obtain ⟨d, hd, hb, -⟩ := hs.starts
    have htoken : Text.IsTight (settings.compactSymbol ++ '$' :: selector) :=
      .append ⟨d, hd, hb⟩ htight.ne_nil htight.trimEnd
    have hsymbol : settings.compactSymbol.isPrefixOf (settings.compactSymbol ++ '$' :: selector) =
        true := List.isPrefixOf_iff_prefix.2 (List.prefix_append _ _)
    rw [if_pos rfl, read, htoken.trim]
    simp only [hsymbol, if_true, List.drop_left, hcontent]

theorem isDigits_ofNat (n : Nat) : Text.isDigits (Text.ofNat n) = true := by
  obtain ⟨hne, hdigits⟩ := Text.isNumeral_iff.1 (Text.isNumeral_ofNat n)
  rw [Text.isDigits, Bool.and_eq_true, Bool.not_eq_true', List.isEmpty_eq_false_iff, List.all_eq_true]
  refine ⟨hne, fun c hc => List.any_eq_true.2 ⟨(0x30, 0x39), List.mem_cons_self, ?_⟩⟩
  obtain ⟨hlow, hhigh⟩ := Char.isDigit_iff_toNat.1 (hdigits c hc)
  rw [Bool.and_eq_true, decide_eq_true_eq, decide_eq_true_eq]
  exact ⟨hlow, hhigh⟩

end Column

namespace Jira

/-- A record of a custom field with its number and its name. -/
def IsCustomField (n : Nat) (name : Text) (record : Json) : Prop :=
  ∃ members schema, record = .object members ∧
    ((members.lookup ("custom" : Text)).getD .null).isVoid = false ∧
    members.lookup ("schema" : Text) = some (.object schema) ∧
    schema.lookup ("customId" : Text) = some (.int n) ∧
    members.lookup ("name" : Text) = some (.text name)

/-- A record of any other field. -/
def IsPlainField (record : Json) : Prop :=
  ∃ members, record = .object members ∧
    ((members.lookup ("custom" : Text)).getD .null).isVoid = true

/-- Records that tell custom fields in some order, with other fields between them. -/
inductive ListsFields : List Json → List (Nat × Text) → Prop
  | nil : ListsFields [] []
  | plain {record : Json} {records : List Json} {fields : List (Nat × Text)}
      (h : IsPlainField record) (rest : ListsFields records fields) :
      ListsFields (record :: records) fields
  | custom {record : Json} {records : List Json} {n : Nat} {name : Text}
      {fields : List (Nat × Text)} (h : IsCustomField n name record)
      (rest : ListsFields records fields) : ListsFields (record :: records) ((n, name) :: fields)

section Table

variable {table : FieldTable} {record : Json} {records : List Json} {fields : List (Nat × Text)}
  {n : Nat} {name : Text}

theorem addField_plain (h : IsPlainField record) : addField table record = .ok table := by
  obtain ⟨members, rfl, hvoid⟩ := h
  rw [addField_object, if_pos hvoid]

theorem addField_custom (h : IsCustomField n name record) :
    addField table record = .ok (Assoc.put (Text.ofNat n) (.text name) table) := by
  obtain ⟨members, schema, rfl, hcustom, hschema, hid, hname⟩ := h
  have hfound : (Json.object schema).contains "customId" = .ok true := by
    rw [Json.contains, hid, Option.isSome_some]
  rw [addField_object, if_neg (Bool.eq_false_iff.1 hcustom), Json.item_object_iff.2 hname,
    Json.item_object_iff.2 hschema, hschema, Option.getD_some, hfound]
  change ((Json.object schema).item "customId" >>= fun id : Json =>
    .ok (Assoc.put id.display (.text name) table)) = _
  rw [Json.item_object_iff.2 hid]
  rfl

/-- Fields with different numbers are added to a table one behind the other. -/
theorem foldlM_addField_listsFields (h : ListsFields records fields) (before : List (Nat × Text))
    (hids : ((before ++ fields).map Prod.fst).Nodup) :
    records.foldlM addField (FieldTable.ofNumbered before) =
      .ok (FieldTable.ofNumbered (before ++ fields)) := by
  induction h generalizing before with
  | nil =>
    rw [List.append_nil]
    rfl
  | plain hplain _ ih =>
    rw [List.foldlM_cons, addField_plain hplain]
    exact ih before hids
  | @custom record records n name fields hcustom _ ih =>
    rw [List.append_cons] at hids ⊢
    have hput : Assoc.put (Text.ofNat n) (.text name) (FieldTable.ofNumbered before) =
        FieldTable.ofNumbered (before ++ [(n, name)]) := by
      have hkeys : Assoc.HasDistinctKeys (FieldTable.ofNumbered (before ++ [(n, name)])) :=
        FieldTable.hasDistinctKeys_ofNumbered
          (hids.sublist ((List.sublist_append_left _ fields).map Prod.fst))
      have hsplit : FieldTable.ofNumbered (before ++ [(n, name)]) =
          FieldTable.ofNumbered before ++ [(Text.ofNat n, .text name)] := List.map_append
      rw [hsplit] at hkeys ⊢
      rw [Assoc.HasDistinctKeys, List.map_append, List.nodup_append] at hkeys
      refine Assoc.put_of_not_mem (fun hmem => ?_) _
      exact hkeys.2.2 _ hmem _ (List.mem_singleton_self _) rfl
    rw [List.foldlM_cons, addField_custom hcustom, hput]
    exact ih (before ++ [(n, name)]) hids

theorem fieldTable_listsFields (h : ListsFields records fields)
    (hids : (fields.map Prod.fst).Nodup) :
    fieldTable (.list records) = .ok (FieldTable.ofNumbered fields) :=
  foldlM_addField_listsFields h [] hids

end Table

/-- The custom field of a number and a name is reached in a block by both, and its cells show what an
issue holds of it. -/
structure ReachesCells (settings : Settings) (n : Nat) (name : Text) : Prop where
  by_name : Text.isDigits name = false → Text.trimEnd name = name → ∀ compact : Bool,
    Column.read settings ((if compact then settings.compactSymbol else []) ++ '$' :: name) =
      .ok ⟨compact, .custom (Text.ofNat n)⟩
  by_id : ∀ compact : Bool,
    Column.read settings ((if compact then settings.compactSymbol else []) ++ '$' :: Text.ofNat n) =
      .ok ⟨compact, .custom (Text.ofNat n)⟩
  back : ∀ compact : Bool,
    Column.read settings (Column.write settings ⟨compact, .custom (Text.ofNat n)⟩) =
      .ok ⟨compact, .custom (Text.ofNat n)⟩
  header : Column.header settings ⟨false, .custom (Text.ofNat n)⟩ = .ok (Cell.escape name)
  cell : ∀ (compact : Bool) (members fields : List (Text × Json)),
    members.lookup ("fields" : Text) = some (.object fields) →
      Cell.write settings ⟨compact, .custom (Text.ofNat n)⟩ (.object members) =
        .ok (Cell.ofValue ((fields.lookup (Cell.customName (Text.ofNat n))).getD .null))

section Reach

variable {settings : Settings} {fields : List (Nat × Text)} {n : Nat} {name : Text}

/-- What a column of a custom field shows depends on its id only. -/
theorem write_custom {members own : List (Text × Json)} {compact : Bool} {id : Text}
    (h : members.lookup ("fields" : Text) = some (.object own)) :
    Cell.write settings ⟨compact, .custom id⟩ (.object members) =
      .ok (Cell.ofValue ((own.lookup (Cell.customName id)).getD .null)) := by
  have hfields : (Json.object members).getD "fields" (.object []) = .ok (.object own) := by
    rw [Json.getD, Json.get, h]
    rfl
  rw [Cell.write, hfields]
  rfl

/-- In settings with such a table every one of its fields is reached. -/
theorem reachesCells_of_mem (hs : settings.HasPlainSymbol)
    (htable : settings.customFields = FieldTable.ofNumbered fields)
    (hids : (fields.map Prod.fst).Nodup) (hnames : (fields.map Prod.snd).Nodup)
    (hm : (n, name) ∈ fields) : ReachesCells settings n name := by
  have hname : settings.customFields.nameOf? (Text.ofNat n) = some (.text name) := by
    rw [htable]
    exact FieldTable.nameOf?_ofNumbered hids hm
  have hdigits := Column.isDigits_ofNat n
  have hsome : (settings.customFields.nameOf? (Text.ofNat n)).isSome = true := by
    rw [hname, Option.isSome_some]
  have hresolve := Column.resolve_of_isDigits hdigits hsome
  have hback : ∀ compact : Bool,
      Column.read settings (Column.write settings ⟨compact, .custom (Text.ofNat n)⟩) =
        .ok ⟨compact, .custom (Text.ofNat n)⟩ := fun compact =>
    Column.read_write (c := ⟨compact, .custom (Text.ofNat n)⟩) hs ⟨hdigits, hsome⟩
  refine ⟨fun hd ht compact => Column.read_selector hs ht ?_ compact, hback, hback, ?_,
    fun _ _ _ h => write_custom h⟩
  · have hne : (Text.ofNat n).isEmpty = false := by
      rw [Text.isDigits, Bool.and_eq_true, Bool.not_eq_true'] at hdigits
      exact hdigits.1
    rw [Column.resolve, if_neg (Bool.eq_false_iff.1 hd), htable,
      FieldTable.idOf?_ofNumbered hnames hm]
    dsimp only
    rw [if_neg (Bool.eq_false_iff.1 hne)]
  · rw [Column.header, if_neg Bool.false_ne_true, Column.name]
    dsimp only
    rw [hname]
    rfl

end Reach

section Settings

variable {ε : Type} {answer : (q : Action) → ε → q.Reply × ε} {world : ε} {settings : Settings}
  {account : Account} {status : Nat} {body : Text} {records : List Json} {fields : List (Nat × Text)}

/-- Settings without custom fields are completed with all that the service lists, and every field is
reached in them. -/
theorem discover_reachesCells (hempty : settings.customFields = [])
    (hsymbol : settings.compactSymbol = "-")
    (hfirst : (ranked settings.accounts).head? = some account)
    (hlast : (responses answer (get (Client.of settings usualBackoff) account fieldsPath [])
      world).getLast? = some (.answered status body))
    (hstatus : 200 ≤ status ∧ status < 300) (hbody : Json.readBody body = .ok (.list records))
    (hlists : ListsFields records fields) (hids : (fields.map Prod.fst).Nodup)
    (hnames : (fields.map Prod.snd).Nodup) :
    ∃ table, ((discover settings).run answer world).1 = .ok (some table) ∧
      ∀ field ∈ fields, ReachesCells (complete settings (some table)) field.1 field.2 := by
  have hconclude : conclude account (.answered status body) = .ok (.list records) := by
    rw [conclude, if_pos hstatus, hbody]
  have hfound : ((discover settings).run answer world).1 =
      .ok (some (FieldTable.ofNumbered fields)) := by
    rw [run_discover hempty hfirst, run_get_of_getLast? hlast, hconclude, tableOf,
      fieldTable_listsFields hlists hids]
  have hplain : (complete settings (some (FieldTable.ofNumbered fields))).HasPlainSymbol := by
    have hsame : (complete settings (some (FieldTable.ofNumbered fields))).compactSymbol = "-" :=
      hsymbol
    refine ⟨?_, ?_, ?_⟩ <;> rw [hsame]
    · exact ⟨'-', rfl, by decide⟩
    · decide
    · decide
  exact ⟨_, hfound, fun field hfield => reachesCells_of_mem hplain rfl hids hnames hfield⟩

end Settings

/-- Two fields, of which one is a custom field with the sign of custom fields in its name. -/
def twoFields : List Json :=
  [.object [("custom", .bool false)],
    .object [("custom", .bool true), ("name", .text "$|a"), ("schema", .object [("customId", .int 7)])]]

/-- The column, the header and the cells of the custom field in such a list. -/
theorem discover_reachesCells_twoFields :
    ∃ table, ((discover oneAccount).run (answeredBy (Json.list twoFields).writeIndented) ()).1 =
        .ok (some table) ∧
      ReachesCells (complete oneAccount (some table)) 7 "$|a" := by
  have hfirst : (ranked oneAccount.accounts).head? =
      some ⟨"Default", "http://h", .none, [], [], [], 1, "#000000"⟩ := by
    rw [oneAccount, ranked, List.mergeSort_singleton]
    rfl
  have hlast : (responses (answeredBy (Json.list twoFields).writeIndented)
      (get (Client.of oneAccount usualBackoff) ⟨"Default", "http://h", .none, [], [], [], 1, "#000000"⟩
        fieldsPath []) ()).getLast? = some (.answered 200 (Json.list twoFields).writeIndented) := by
    decide +kernel
  have hbody : Json.readBody (Json.list twoFields).writeIndented = .ok (.list twoFields) := by
    have hlayout : Json.layout? (Text.utf8 ((Json.list twoFields).writeIndented.take 4)) = none := by
      decide +kernel
    have hread : Json.read (Json.list twoFields).writeIndented = .ok (.list twoFields) :=
      Json.read_writeIndented (by decide)
    have hstart : (Json.list twoFields).writeIndented.head? = some '[' := by decide +kernel
    rw [Json.readBody, hlayout]
    dsimp only
    · rw [hread]
      rfl
    · intro rest hmark
      rw [hmark] at hstart
      exact absurd (Option.some.inj hstart) (by decide)
  have hlists : ListsFields twoFields [(7, "$|a")] :=
    .plain ⟨_, rfl, rfl⟩ (.custom ⟨_, _, rfl, rfl, rfl, rfl, rfl⟩ .nil)
  obtain ⟨table, hfound, hreach⟩ := discover_reachesCells rfl rfl hfirst hlast
    (by decide) hbody hlists (by decide) (by decide)
  exact ⟨table, hfound, hreach (7, "$|a") List.mem_cons_self⟩

end Jira

end QueryFence
