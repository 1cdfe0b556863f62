import LeagueStandings.Proofs.Json.Values
import LeagueStandings.StatsReply

/-!
# Replies read back

The body of a reply is written by another program, and there are many bodies for the same tables.
The fields of an object may stand in any order, and any fields that nobody asks for may stand
between them (`Json.Shows`). An empty name may be left out. The tables may be given in a list, or
one of them alone, or in both ways (`StatsReply.IsBody`).

All of these bodies are read as the tables that they give, with the numbers that are read from the
digits of their numbers (`tables?_compact`). What is asked of the tables is asked of their cells
only: the keys of objects are sorted, since the decoder sorts them, and containers are nested no
deeper than it follows them (`Table.Fits`).
-/

namespace LeagueStandings

open JsonTree

/-! ## Objects -/

/-- The value is an object with these fields under the keys, in any order, and with any fields under
other keys between them. -/
def Json.Shows (keys : List String) (known : List (String × Json)) (value : Json) : Prop :=
  ∃ fields, value = .obj fields ∧ (fields.filter fun field ↦ keys.contains field.1).Perm known

theorem Json.Shows.exists_record? {keys : List String} {known : List (String × Json)}
    {value : Json} (h : value.Shows keys known) (hnodup : (known.map Prod.fst).Nodup) :
    ∃ read : List (String × JsonTree), (∀ key, read.lookup key = (known.lookup key).map tree) ∧
      ∀ {α : Type} (decoder : (depth : Nat) → List (String × JsonTree) → Option α) (depth : Nat),
        record? keys decoder (depth + 1) value.tree = decoder depth read := by
  obtain ⟨fields, rfl, hperm⟩ := h
  obtain ⟨read, hread, hlookup⟩ := exists_fields?_obj hperm hnodup
  refine ⟨read, hlookup, fun decoder depth ↦ ?_⟩
  rw [record?, hread, Option.bind_some]

/-! ## Result sets -/

theorem JsonTree.list?_of_forall₂ {α : Type} {decoder : Decoder α} {depth : Nat} {items : List Json}
    {results : List α}
    (h : List.Forall₂ (fun item a ↦ decoder depth item.tree = some a) items results) :
    list? decoder (depth + 1) (Json.arr items).tree = some results := by
  rw [list?_arr]
  exact mapM_eq_some_of_forall₂ h

namespace Table

/-- The fields of a table in a reply. -/
def fields (t : Table) : List (String × Json) :=
  [("name", .str t.name), ("headers", .arr (t.headers.map .str)),
    ("rowSet", .arr (t.rows.map .arr))]

/-- The keys of a table in a reply. -/
def keys : List String := ["name", "headers", "rowSet"]

/-- The value gives the table. An empty name may be missing. -/
def IsGivenBy (t : Table) (value : Json) : Prop :=
  value.Shows keys t.fields ∨ t.name = "" ∧ value.Shows keys t.fields.tail

/-- The cells of the table can be read back where as many containers may still be opened. -/
def Fits (t : Table) (depth : Nat) : Prop :=
  ∀ row ∈ t.rows, ∀ cell ∈ row, cell.HasSortedKeys ∧ cell.nesting ≤ depth

/-- The table with the numbers that are read from the digits of its numbers. -/
def reread (t : Table) : Table :=
  { t with rows := t.rows.map fun row ↦ row.map Json.reread }

variable {t : Table} {value : Json} {depth : Nat}

private theorem list?_headers (t : Table) (depth : Nat) :
    list? string? (depth + 1) (Json.arr (t.headers.map .str)).tree = some t.headers := by
  refine list?_of_forall₂ (List.forall₂_map_left_iff.mpr (List.forall₂_same.mpr ?_))
  exact fun header _ ↦ reads_string?.read depth header rfl

private theorem list?_rows (hfits : t.Fits depth) :
    list? (list? value?) (depth + 2) (Json.arr (t.rows.map .arr)).tree = some t.reread.rows := by
  refine list?_of_forall₂ (List.forall₂_map_left_iff.mpr (List.forall₂_map_right_iff.mpr ?_))
  refine List.forall₂_same.mpr fun row hrow ↦ ?_
  refine list?_of_forall₂ (List.forall₂_map_right_iff.mpr ?_)
  refine List.forall₂_same.mpr fun cell hcell ↦ ?_
  obtain ⟨hsorted, hnesting⟩ := hfits row hrow cell hcell
  exact value?_tree hsorted hnesting

/-- **A table is read back** but for its numbers from every value that gives it. Between the value
and the cells three containers are opened: its own, the list of rows and a row. -/
theorem decoder?_of_isGivenBy (h : t.IsGivenBy value) (hfits : t.Fits depth) :
    decoder? (depth + 3) value.tree = some t.reread := by
  -- The two spellings differ in the field of the name only.
  have hread : ∃ read : List (String × JsonTree),
      decoder? (depth + 3) value.tree = (do
        let name ← defaulted? "" string? (depth + 2) read "name"
        let headers ← required? (list? string?) (depth + 2) read "headers"
        let rows ← required? (list? (list? value?)) (depth + 2) read "rowSet"
        return { name, headers, rows }) ∧
      defaulted? "" string? (depth + 2) read "name" = some t.name ∧
      read.lookup "headers" = some (Json.arr (t.headers.map .str)).tree ∧
      read.lookup "rowSet" = some (Json.arr (t.rows.map .arr)).tree := by
    rcases h with h | ⟨hname, h⟩
    · obtain ⟨read, hlookup, hrecord⟩ := h.exists_record? (show keys.Nodup by decide)
      refine ⟨read, hrecord _ _, ?_, hlookup _, hlookup _⟩
      have hfield : read.lookup "name" = some (Json.str t.name).tree := hlookup _
      rw [defaulted?, hfield]
      exact reads_string?.read _ t.name rfl
    · obtain ⟨read, hlookup, hrecord⟩ := h.exists_record? (show keys.tail.Nodup by decide)
      refine ⟨read, hrecord _ _, ?_, hlookup _, hlookup _⟩
      have hfield : read.lookup "name" = none := hlookup _
      rw [defaulted?, hfield, hname]
  obtain ⟨read, heq, hname, hheaders, hrows⟩ := hread
  rw [heq, hname, required?, hheaders, required?, hrows]
  simp only [Option.bind_some, Option.bind_eq_bind]
  rw [list?_headers, list?_rows hfits]
  rfl

end Table

/-! ## Bodies -/

namespace StatsReply

/-- What stands in the place of the list of tables, if anything does. -/
inductive GivesList : Option (List Table) → Option Json → Prop
  | missing : GivesList none none
  | list {tables : List Table} {items : List Json} :
      List.Forall₂ Table.IsGivenBy tables items → GivesList (some tables) (some (.arr items))

/-- What stands in the place of the single table, if anything does. -/
inductive GivesTable : Option Table → Option Json → Prop
  | missing : GivesTable none none
  | null : GivesTable none (some .null)
  | table {t : Table} {value : Json} : t.IsGivenBy value → GivesTable (some t) (some value)

/-- The two places for tables in the body of a reply. -/
def slots (list? single? : Option Json) : List (String × Option Json) :=
  [("resultSets", list?), ("resultSet", single?)]

/-- The value is the body of a reply with these tables, those in the list and the single one. -/
def IsBody (resultSets : Option (List Table)) (resultSet : Option Table) (body : Json) : Prop :=
  ∃ list? single?, GivesList resultSets list? ∧ GivesTable resultSet single? ∧
    body.Shows ["resultSets", "resultSet"] (filled (slots list? single?))

variable {resultSets : Option (List Table)} {resultSet : Option Table} {body : Json}
  {list? single? : Option Json} {depth : Nat} {read : List (String × JsonTree)}

private theorem defaulted?_of_givesList (h : GivesList resultSets list?)
    (hfits : ∀ t ∈ resultSets.getD [], t.Fits depth)
    (hlookup : read.lookup "resultSets" = list?.map Json.tree) :
    defaulted? [] (JsonTree.list? Table.decoder?) (depth + 4) read "resultSets" =
      some ((resultSets.getD []).map Table.reread) := by
  rw [defaulted?, hlookup]
  cases h with
  | missing => rfl
  | @list tables items h =>
    refine list?_of_forall₂ (List.forall₂_map_right_iff.mpr (List.Forall₂.flip ?_))
    rw [Option.getD_some] at hfits
    clear hlookup
    induction h with
    | nil => exact .nil
    | cons hfirst _ ih =>
      obtain ⟨hfits, hrest⟩ := List.forall_mem_cons.mp hfits
      exact .cons (Table.decoder?_of_isGivenBy hfirst hfits) (ih hrest)

private theorem optional?_of_givesTable (h : GivesTable resultSet single?)
    (hfits : ∀ t ∈ resultSet, t.Fits depth)
    (hlookup : read.lookup "resultSet" = single?.map Json.tree) :
    optional? Table.decoder? (depth + 3) read "resultSet" = some (resultSet.map Table.reread) := by
  cases h with
  | missing => exact optional?_of_lookup_eq_none hlookup
  | null =>
    rw [optional?_of_lookup_eq_some hlookup]
    rfl
  | @table t value h =>
    have hnull : value.tree.isNull = false := by
      rcases h with ⟨fields, rfl, -⟩ | ⟨-, fields, rfl, -⟩ <;> rfl
    rw [optional?_of_lookup_eq_some hlookup, nullable?, hnull,
      Table.decoder?_of_isGivenBy h (hfits t rfl)]
    rfl

theorem decode?_compact (h : IsBody resultSets resultSet body)
    (hlist : ∀ t ∈ resultSets.getD [], t.Fits (depthLimit - 5))
    (hsingle : ∀ t ∈ resultSet, t.Fits (depthLimit - 4)) :
    decode? decoder? (Utf8.encode body.compact) =
      some ⟨(resultSets.getD []).map Table.reread, resultSet.map Table.reread⟩ := by
  obtain ⟨list?, single?, hgives, hgives', hshows⟩ := h
  have hnodup : ((slots list? single?).map Prod.fst).Nodup :=
    show ["resultSets", "resultSet"].Nodup by decide
  obtain ⟨read, hlookup, hrecord⟩ :=
    hshows.exists_record? (hnodup.sublist (sublist_map_filled _))
  have hfound : ∀ {key : String} {value? : Option Json}, (key, value?) ∈ slots list? single? →
      read.lookup key = value?.map Json.tree := by
    intro key value? hslot
    rw [hlookup, lookup_filled hnodup hslot]
  have hlist? := defaulted?_of_givesList hgives hlist (hfound List.mem_cons_self)
  have hsingle? :=
    optional?_of_givesTable hgives' hsingle (hfound (List.mem_cons_of_mem _ List.mem_cons_self))
  -- The body itself is one more container.
  have hdepth : depthLimit = depthLimit - 5 + 4 + 1 := rfl
  have hdepth' : depthLimit - 5 + 4 = depthLimit - 4 + 3 := rfl
  rw [decode?, Json.ofBytes?_compact, Option.bind_some, hdepth, decoder?, hrecord, hlist?,
    hdepth', hsingle?]
  rfl

/-- The list is the answer unless it is empty. -/
private theorem tables?_of_decode? {bytes : List UInt8} {list : List Table} {single : Option Table}
    (h : decode? decoder? bytes = some ⟨list, single⟩) :
    (list ≠ [] → tables? bytes = some list) ∧ (list = [] → tables? bytes = some single.toList) := by
  rw [tables?, h, Option.map_some, tables]
  constructor
  · intro hne
    rw [if_neg (by simpa using hne)]
  · intro hnil
    rw [if_pos (by simpa using hnil)]

/-- **The tables of a reply.** Every body that gives tables is read as these tables, in their
order: those in the list, and the single one only if it is all there is. Around a cell of the list
five containers are open, and four around a cell of the single table. The tables have the numbers
that are read from the digits of their numbers; where these are the same numbers, they are the
tables that were given. -/
theorem tables?_compact (h : IsBody resultSets resultSet body)
    (hlist : ∀ t ∈ resultSets.getD [], t.Fits (depthLimit - 5))
    (hsingle : ∀ t ∈ resultSet, t.Fits (depthLimit - 4)) :
    (resultSets.getD [] ≠ [] →
      tables? (Utf8.encode body.compact) = some ((resultSets.getD []).map Table.reread) ∧
      ((resultSets.getD []).map Table.reread = resultSets.getD [] →
        tables? (Utf8.encode body.compact) = some (resultSets.getD []))) ∧
    (resultSets.getD [] = [] →
      tables? (Utf8.encode body.compact) = some (resultSet.map Table.reread).toList ∧
      (resultSet.map Table.reread = resultSet →
        tables? (Utf8.encode body.compact) = some resultSet.toList)) := by
  obtain ⟨hfirst, hsecond⟩ := tables?_of_decode? (decode?_compact h hlist hsingle)
  constructor
  · intro hne
    have htables := hfirst (mt List.map_eq_nil_iff.mp hne)
    exact ⟨htables, fun hreread ↦ htables.trans (congrArg some hreread)⟩
  · intro hnil
    have htables := hsecond (List.map_eq_nil_iff.mpr hnil)
    exact ⟨htables, fun hreread ↦ htables.trans (by rw [hreread])⟩

/-- The number 112.5. -/
def fractionCell : Json := .num (.real false { significand := 7916483719987200, exponent := 1028 })

/-- A ragged table with a record and a number with a fraction in its cells. -/
def cellsTable : Table where
  name := "Standings"
  headers := ["TEAM_ID", "WINS"]
  rows := [[.obj [("note", .arr []), ("rank", .int64 1)], .null, .str "\"East\"", fractionCell], []]

/-- A body with a list of two tables, the second without its name, and with a single table that
does not count. The fields are out of order, and there are some that nobody asks for. -/
def shuffledBody : Json :=
  .obj [("resource", .arr [.str "standings"]),
    ("resultSet", .obj cellsTable.fields),
    ("resultSets", .arr
      [.obj [("rowSet", .arr (cellsTable.rows.map .arr)), ("name", .str "Standings"),
        ("types", .null), ("headers", .arr (cellsTable.headers.map .str))],
      .obj [("rowSet", .arr []), ("headers", .arr [.str "CITY"])]]),
    ("resource", .null)]

theorem tables?_compact_shuffled :
    IsBody (some [cellsTable, ⟨"", ["CITY"], []⟩]) (some cellsTable) shuffledBody ∧
    tables? (Utf8.encode shuffledBody.compact) = some [cellsTable, ⟨"", ["CITY"], []⟩] := by
  have hbody : IsBody (some [cellsTable, ⟨"", ["CITY"], []⟩]) (some cellsTable) shuffledBody := by
    refine ⟨_, _, .list (.cons (.inl ⟨_, rfl, ?_⟩) (.cons (.inr ⟨rfl, _, rfl, ?_⟩) .nil)),
      .table (.inl ⟨_, rfl, .refl _⟩), _, rfl, .swap _ _ _⟩
    -- The fields of the first table stand in the order 3, 1, 2.
    · exact (List.Perm.swap _ _ _).trans (.cons _ (.swap _ _ _))
    · exact .swap _ _ _
  have hsorted : Json.HasSortedKeys (.obj [("note", .arr []), ("rank", .int64 1)]) := by
    refine .obj (List.pairwise_pair.mpr (by decide)) (List.forall_mem_cons.mpr ⟨?_, ?_⟩)
    · exact .arr (List.forall_mem_nil _)
    · exact List.forall_mem_singleton.mpr (.num _)
  have hcells : ∀ depth, 2 ≤ depth → cellsTable.Fits depth := by
    intro depth hdepth
    refine List.forall_mem_cons.mpr ⟨?_, List.forall_mem_singleton.mpr (List.forall_mem_nil _)⟩
    refine List.forall_mem_cons.mpr ⟨⟨hsorted, hdepth⟩, List.forall_mem_cons.mpr ⟨?_, ?_⟩⟩
    · exact ⟨.null, Nat.zero_le _⟩
    · refine List.forall_mem_cons.mpr ⟨⟨.str _, Nat.zero_le _⟩, ?_⟩
      exact List.forall_mem_singleton.mpr ⟨.num _, Nat.zero_le _⟩
  have hfraction : fractionCell.reread = fractionCell := congrArg Json.num (by decide +kernel)
  have hreread : cellsTable.reread = cellsTable := by
    simp [Table.reread, cellsTable, hfraction, Json.reread, Json.rereadFields, Json.rereadItems,
      Json.int64, JsonNumber.ofInt64]
  have hlist : ∀ t ∈ [cellsTable, ⟨"", ["CITY"], []⟩], t.Fits (depthLimit - 5) :=
    List.forall_mem_cons.mpr
      ⟨hcells _ (by decide), List.forall_mem_singleton.mpr (List.forall_mem_nil _)⟩
  have hsingle : ∀ t ∈ some cellsTable, t.Fits (depthLimit - 4) := by
    intro t ht
    obtain rfl := Option.some.inj ht
    exact hcells _ (by decide)
  have hreread' : [cellsTable, ⟨"", ["CITY"], []⟩].map Table.reread =
      [cellsTable, ⟨"", ["CITY"], []⟩] := by
    rw [List.map_cons, hreread]
    rfl
  exact ⟨hbody, ((tables?_compact hbody hlist hsingle).1 (List.cons_ne_nil _ _)).2 hreread'⟩

end StatsReply

end LeagueStandings
