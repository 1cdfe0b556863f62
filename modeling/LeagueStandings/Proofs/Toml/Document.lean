import LeagueStandings.Proofs.Lookup
import LeagueStandings.Toml.Document

/-!
# A document says a thing only once

No table of a document has a key twice, at any depth, whichever way the table came about. So a key
stands for one value, in whatever order the document was filled.

While statements are taken in, `TomlNode.Fields.Distinct` says this of the tables that may still
grow. A statement changes one of them, somewhere below, and all it ever does to a table is to add a
field under a new key or to put another node under a key that is there. Both keep the invariant, and
so does doing them in a table below (`Distinct.alter`); hence each statement keeps it
(`distinct_of_apply`), and a run of them (`distinct_of_ofStatements?`).
-/

namespace LeagueStandings

/-- No table in the value has a key twice. -/
inductive Toml.Distinct : Toml → Prop
  | string (s : String) : Distinct (.string s)
  | integer (n : Int64) : Distinct (.integer n)
  | float (x : Binary64) : Distinct (.float x)
  | boolean (b : Bool) : Distinct (.boolean b)
  | dateTime : Distinct .dateTime
  | array {items : List Toml} (values : ∀ item ∈ items, Distinct item) : Distinct (.array items)
  | table {fields : List (String × Toml)} (nodup : (fields.map Prod.fst).Nodup)
      (values : ∀ field ∈ fields, Distinct field.2) : Distinct (.table fields)

namespace TomlNode

/-- No table in the node has a key twice. -/
inductive Distinct : TomlNode → Prop
  | value {v : Toml} (value : v.Distinct) : Distinct (.value v)
  | table {passedThrough dotted : Bool} {fields : List (String × TomlNode)}
      (nodup : (fields.map Prod.fst).Nodup) (nodes : ∀ field ∈ fields, Distinct field.2) :
      Distinct (.table passedThrough dotted fields)
  | tables {items : List (List (String × TomlNode))}
      (nodup : ∀ fields ∈ items, (fields.map Prod.fst).Nodup)
      (nodes : ∀ fields ∈ items, ∀ field ∈ fields, Distinct field.2) : Distinct (.tables items)

namespace Fields

/-- The fields have different keys, and so has every table below them. -/
structure Distinct (fields : Fields) : Prop where
  nodup : (fields.map Prod.fst).Nodup
  nodes : ∀ field ∈ fields, field.2.Distinct

variable {fields after : Fields} {key : String} {node : TomlNode}

theorem distinct_nil : Distinct [] := ⟨List.nodup_nil, fun _ h ↦ absurd h List.not_mem_nil⟩

theorem Distinct.table (h : fields.Distinct) (passedThrough dotted : Bool) :
    (TomlNode.table passedThrough dotted fields).Distinct := .table h.nodup h.nodes

theorem distinct_of_lookup_table {passedThrough dotted : Bool} {inner : Fields}
    (h : fields.Distinct) (hlookup : fields.lookup key = some (.table passedThrough dotted inner)) :
    inner.Distinct := by
  cases h.nodes _ ((lookup_eq_some_iff_mem h.nodup).mp hlookup) with
  | table nodup nodes => exact ⟨nodup, nodes⟩

theorem distinct_of_lookup_tables {items : List Fields} (h : fields.Distinct)
    (hlookup : fields.lookup key = some (.tables items)) : ∀ item ∈ items, Distinct item := by
  cases h.nodes _ ((lookup_eq_some_iff_mem h.nodup).mp hlookup) with
  | tables nodup nodes => exact fun item hitem ↦ ⟨nodup item hitem, nodes item hitem⟩

theorem distinct_tables {items : List Fields} (h : ∀ item ∈ items, Distinct item) :
    (TomlNode.tables items).Distinct :=
  .tables (fun item hitem ↦ (h item hitem).nodup) fun item hitem ↦ (h item hitem).nodes

/-! ## Changing a table -/

theorem Distinct.append (h : fields.Distinct) (hnew : fields.lookup key = none)
    (hnode : node.Distinct) : Distinct (fields ++ [(key, node)]) := by
  constructor
  · rw [List.map_append, List.map_singleton, ← List.concat_eq_append]
    exact h.nodup.concat (lookup_eq_none_iff_not_mem.mp hnew)
  · intro field hfield
    rcases List.mem_append.mp hfield with hfield | hfield
    · exact h.nodes field hfield
    · obtain rfl := List.mem_singleton.mp hfield
      exact hnode

theorem Distinct.replace (h : fields.Distinct) (hnode : node.Distinct) :
    (fields.replace key node).Distinct := by
  constructor
  · have hkeys : (fields.replace key node).map Prod.fst = fields.map Prod.fst := by
      rw [Fields.replace, List.map_map]
      refine List.map_congr_left fun field _ ↦ ?_
      rw [Function.comp_apply]
      split
      · next heq => exact (eq_of_beq heq).symm
      · rfl
    rw [hkeys]
    exact h.nodup
  · intro field hfield
    obtain ⟨original, horiginal, rfl⟩ := List.mem_map.mp hfield
    split
    · exact hnode
    · exact h.nodes original horiginal

/-- A change that keeps keys distinct in the table where it is made keeps them distinct in every
table above. -/
theorem Distinct.alter {change : Bool → Fields → Option Fields}
    (hchange : ∀ {isDotted before result}, change isDotted before = some result →
      before.Distinct → result.Distinct) {dotted selfDotted : Bool} {keys : List String}
    (h : fields.Distinct) (halter : fields.alter dotted change selfDotted keys = some after) :
    after.Distinct := by
  induction keys generalizing fields after selfDotted with
  | nil => exact hchange halter h
  | cons key rest ih =>
    rw [Fields.alter] at halter
    cases hlookup : fields.lookup key with
    | none =>
      rw [hlookup] at halter
      obtain ⟨inner, hinner, halter⟩ := Option.bind_eq_some_iff.mp halter
      obtain rfl := Option.some.inj halter
      exact h.append hlookup ((ih distinct_nil hinner).table true dotted)
    | some node =>
      rw [hlookup] at halter
      cases node with
      | value v => cases halter
      | table passedThrough innerDotted inner =>
        dsimp only at halter
        split at halter
        · cases halter
        · obtain ⟨result, hresult, halter⟩ := Option.bind_eq_some_iff.mp halter
          obtain rfl := Option.some.inj halter
          exact h.replace ((ih (distinct_of_lookup_table h hlookup) hresult).table _ _)
      | tables items =>
        cases items with
        | nil => cases halter
        | cons last before =>
          obtain ⟨result, hresult, halter⟩ := Option.bind_eq_some_iff.mp halter
          obtain rfl := Option.some.inj halter
          have hitems := List.forall_mem_cons.mp (distinct_of_lookup_tables h hlookup)
          exact h.replace
            (distinct_tables (List.forall_mem_cons.mpr ⟨ih hitems.1 hresult, hitems.2⟩))

theorem Distinct.assign {keys : List String} {value : Toml} {selfDotted : Bool}
    (h : fields.Distinct) (hvalue : value.Distinct)
    (hassign : Fields.assign keys value selfDotted fields = some after) : after.Distinct := by
  rw [Fields.assign] at hassign
  split at hassign
  · cases hassign
  · next key _ =>
    refine h.alter (fun {isDotted before result} hchange hbefore ↦ ?_) hassign
    split at hchange
    · cases hchange
    · next hnew =>
      obtain rfl := Option.some.inj hchange
      rw [Bool.or_eq_true, not_or, Option.not_isSome_iff_eq_none] at hnew
      exact hbefore.append hnew.2 (.value hvalue)

theorem Distinct.openTable {keys : List String} (h : fields.Distinct)
    (hopen : fields.openTable keys = some after) : after.Distinct := by
  rw [Fields.openTable] at hopen
  split at hopen
  · cases hopen
  · next key _ =>
    refine h.alter (fun {isDotted before result} hchange hbefore ↦ ?_) hopen
    split at hchange
    · next hnew =>
      obtain rfl := Option.some.inj hchange
      exact hbefore.append hnew (distinct_nil.table false false)
    · next inner hlookup =>
      obtain rfl := Option.some.inj hchange
      exact hbefore.replace ((distinct_of_lookup_table hbefore hlookup).table false false)
    · cases hchange

theorem Distinct.openNext {keys : List String} (h : fields.Distinct)
    (hopen : fields.openNext keys = some after) : after.Distinct := by
  rw [Fields.openNext] at hopen
  split at hopen
  · cases hopen
  · next key _ =>
    refine h.alter (fun {isDotted before result} hchange hbefore ↦ ?_) hopen
    split at hchange
    · next hnew =>
      obtain rfl := Option.some.inj hchange
      exact hbefore.append hnew
        (distinct_tables (List.forall_mem_cons.mpr ⟨distinct_nil, List.forall_mem_nil _⟩))
    · next items hlookup =>
      obtain rfl := Option.some.inj hchange
      exact hbefore.replace (distinct_tables
        (List.forall_mem_cons.mpr ⟨distinct_nil, distinct_of_lookup_tables hbefore hlookup⟩))
    · cases hchange

end Fields

/-! ## Finished values -/

theorem fieldsToToml_eq (fields : Fields) :
    fieldsToToml fields = fields.map fun field ↦ (field.1, toToml field.2) := by
  induction fields with
  | nil => rw [fieldsToToml, List.map_nil]
  | cons field fields ih => rw [fieldsToToml, ih, List.map_cons]

theorem itemsToToml_eq (items : List Fields) :
    itemsToToml items = items.map fun fields ↦ .table (fieldsToToml fields) := by
  induction items with
  | nil => rw [itemsToToml, List.map_nil]
  | cons fields items ih => rw [itemsToToml, ih, List.map_cons]

theorem distinct_fieldsToToml {fields : Fields} (hnodup : (fields.map Prod.fst).Nodup)
    (hnodes : ∀ field ∈ fields, (toToml field.2).Distinct) :
    (Toml.table (fieldsToToml fields)).Distinct := by
  rw [fieldsToToml_eq]
  refine .table ?_ fun field hfield ↦ ?_
  · rw [List.map_map]
    exact hnodup
  · obtain ⟨original, horiginal, rfl⟩ := List.mem_map.mp hfield
    exact hnodes original horiginal

theorem Distinct.toToml {node : TomlNode} (h : node.Distinct) : node.toToml.Distinct := by
  induction h with
  | value hvalue =>
    rw [TomlNode.toToml]
    exact hvalue
  | table hnodup _ ih =>
    rw [TomlNode.toToml]
    exact distinct_fieldsToToml hnodup ih
  | tables hnodup _ ih =>
    rw [TomlNode.toToml, itemsToToml_eq]
    refine .array fun item hitem ↦ ?_
    obtain ⟨fields, hfields, rfl⟩ := List.mem_map.mp (List.mem_reverse.mp hitem)
    exact distinct_fieldsToToml (hnodup fields hfields) (ih fields hfields)

theorem Fields.Distinct.toToml {fields : Fields} (h : fields.Distinct) :
    (Toml.table (fieldsToToml fields)).Distinct :=
  distinct_fieldsToToml h.nodup fun field hfield ↦ (h.nodes field hfield).toToml

end TomlNode

/-! ## Runs of statements -/

private theorem of_foldlM {α σ : Type} {P : σ → Prop} {f : σ → α → Option σ} {l : List α}
    (hstep : ∀ a ∈ l, ∀ s s', P s → f s a = some s' → P s') {s s' : σ} (h : P s)
    (hrun : l.foldlM f s = some s') : P s' := by
  induction l generalizing s with
  | nil => exact Option.some.inj hrun ▸ h
  | cons a l ih =>
    rw [List.foldlM_cons] at hrun
    obtain ⟨next, hnext, hrun⟩ := Option.bind_eq_some_iff.mp hrun
    exact ih (fun b hb ↦ hstep b (List.mem_cons_of_mem a hb))
      (hstep a List.mem_cons_self s next h hnext) hrun

namespace TomlStatement

/-- What the statement assigns, if it does, has distinct keys. -/
def Distinct : TomlStatement → Prop
  | header _ | arrayHeader _ => True
  | assignment _ value => value.Distinct

/-- **One statement.** -/
theorem distinct_of_apply {r after : Reading} {statement : TomlStatement}
    (hstatement : statement.Distinct) (h : r.fields.Distinct)
    (happly : statement.apply r = some after) : after.fields.Distinct := by
  cases statement with
  | header keys =>
    obtain ⟨fields, hfields, rfl⟩ := Option.map_eq_some_iff.mp happly
    exact h.openTable hfields
  | arrayHeader keys =>
    obtain ⟨fields, hfields, rfl⟩ := Option.map_eq_some_iff.mp happly
    exact h.openNext hfields
  | assignment keys value =>
    obtain ⟨fields, hfields, rfl⟩ := Option.map_eq_some_iff.mp happly
    exact h.alter (fun hchange hbefore ↦ hbefore.assign hstatement hchange) hfields

end TomlStatement

namespace Toml

/-- **All statements.** -/
theorem distinct_of_ofStatements? {statements : List TomlStatement}
    {document : List (String × Toml)} (hstatements : ∀ s ∈ statements, s.Distinct)
    (h : ofStatements? statements = some document) : (Toml.table document).Distinct := by
  obtain ⟨after, hrun, rfl⟩ := Option.map_eq_some_iff.mp h
  refine TomlNode.Fields.Distinct.toToml (of_foldlM (P := fun r ↦ r.fields.Distinct) ?_
    TomlNode.Fields.distinct_nil hrun)
  exact fun s hs r r' hr happly ↦ TomlStatement.distinct_of_apply (hstatements s hs) hr happly

theorem distinct_of_ofAssignments? {assignments : List (List String × Toml)} {value : Toml}
    (hassignments : ∀ a ∈ assignments, a.2.Distinct)
    (h : ofAssignments? assignments = some value) : value.Distinct := by
  obtain ⟨fields, hrun, rfl⟩ := Option.map_eq_some_iff.mp h
  refine TomlNode.Fields.Distinct.toToml (of_foldlM (P := TomlNode.Fields.Distinct) ?_
    TomlNode.Fields.distinct_nil hrun)
  exact fun a ha before after hbefore hassign ↦ hbefore.assign (hassignments a ha) hassign

/-! ## Comparing values

The type of the values is nested, so that its equality is decided here by hand. -/

mutual

/-- Whether the values are the same. -/
def same : Toml → Toml → Bool
  | string s, string t => s == t
  | integer m, integer n => m == n
  | float x, float y => x == y
  | boolean b, boolean c => b == c
  | dateTime, dateTime => true
  | array items, array items' => sameItems items items'
  | table fields, table fields' => sameFields fields fields'
  | _, _ => false

def sameItems : List Toml → List Toml → Bool
  | [], [] => true
  | v :: items, w :: items' => v.same w && sameItems items items'
  | _, _ => false

def sameFields : List (String × Toml) → List (String × Toml) → Bool
  | [], [] => true
  | (k, v) :: fields, (l, w) :: fields' => k == l && v.same w && sameFields fields fields'
  | _, _ => false

end

mutual

theorem eq_of_same : (v w : Toml) → v.same w = true → v = w
  | string _, w, h => by
    cases w with
    | string => exact congrArg string (eq_of_beq h)
    | _ => cases h
  | integer _, w, h => by
    cases w with
    | integer => exact congrArg integer (eq_of_beq h)
    | _ => cases h
  | float _, w, h => by
    cases w with
    | float => exact congrArg float (eq_of_beq h)
    | _ => cases h
  | boolean _, w, h => by
    cases w with
    | boolean => exact congrArg boolean (eq_of_beq h)
    | _ => cases h
  | dateTime, w, h => by
    cases w with
    | dateTime => rfl
    | _ => cases h
  | array items, w, h => by
    cases w with
    | array items' => exact congrArg array (eq_of_sameItems items items' h)
    | _ => cases h
  | table fields, w, h => by
    cases w with
    | table fields' => exact congrArg table (eq_of_sameFields fields fields' h)
    | _ => cases h

theorem eq_of_sameItems : (items items' : List Toml) → sameItems items items' = true →
    items = items'
  | [], items', h => by
    cases items' with
    | nil => rfl
    | cons => cases h
  | v :: items, items', h => by
    cases items' with
    | nil => cases h
    | cons w items' =>
      obtain ⟨hvalue, hitems⟩ := Bool.and_eq_true_iff.mp h
      rw [eq_of_same v w hvalue, eq_of_sameItems items items' hitems]

theorem eq_of_sameFields : (fields fields' : List (String × Toml)) →
    sameFields fields fields' = true → fields = fields'
  | [], fields', h => by
    cases fields' with
    | nil => rfl
    | cons => cases h
  | (k, v) :: fields, fields', h => by
    cases fields' with
    | nil => cases h
    | cons field fields' =>
      obtain ⟨hfield, hfields⟩ := Bool.and_eq_true_iff.mp h
      obtain ⟨hkey, hvalue⟩ := Bool.and_eq_true_iff.mp hfield
      rw [eq_of_beq hkey, eq_of_same v field.2 hvalue, eq_of_sameFields fields fields' hfields]

end

theorem eq_some_of_any_sameFields {result : Option (List (String × Toml))}
    {fields : List (String × Toml)} (h : result.any (sameFields · fields) = true) :
    result = some fields := by
  obtain ⟨read, hread, hsame⟩ := (Option.any_eq_true _ result).mp h
  rw [hread, eq_of_sameFields read fields hsame]

end Toml

end LeagueStandings
