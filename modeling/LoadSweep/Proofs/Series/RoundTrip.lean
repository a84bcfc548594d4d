import LoadSweep.Proofs.Document.Fields
import LoadSweep.Proofs.Document.Presentation
import LoadSweep.Proofs.Json.RoundTrip
import LoadSweep.Proofs.Series.Projections
import LoadSweep.Proofs.Storage.Texts
import LoadSweep.Report.Artifacts

/-!
# A dataset keeps a series

The tree of a series is legible if the numerals of its values are wellformed, so its text is read as
the same tree (`Series.legible_toJson`).  From the tree every part is decoded as it was: numbers of
32 and 64 bits, texts, commands and axes, points and rows in their order.  A sample is decoded
metric by metric; a value without a numeral was written as null and comes back as missing, and
nothing else changes (`Sample.recorded`).

The numeral of a finite value is made of digits (`Numeral.digital_ofFloat`).  That it is read back
as the same value is a matter of rounding, and a hypothesis here: `Number.ReadsBack`.

The main statement is `dataset_keeps_series`.
-/

namespace LoadSweep

set_option autoImplicit false

open Json Document

/-! ## Numbers -/

/-- The printed form of a number is read back as that number. -/
def Number.ReadsBack (x : Float) : Prop :=
  (Document.ofJsonText? (Json.ofFloat x).compact).bind Document.number? = some x

/-- A numeral with a leading zero is refused. -/
theorem Json.read?_padded {n : Numeral} (digital : n.Digital) (padded : n.isPadded = true) :
    read? (Json.number n).compact = none := by
  obtain ⟨first, others, written, starts⟩ := written_eq_cons digital
  have refused := readNumber?_digital digital ends_nil
  rw [List.append_nil, written, padded] at refused
  have whole : writeValue .tight 0 (.number n) = first :: others := written
  rw [read?, compact, String.toList_ofList, whole, readValue?_numeral starts, refused]
  rfl

/-- The numeral of a number that reads back is wellformed, and it amounts to that number. -/
theorem Number.ReadsBack.numeral {x : Float} {n : Numeral} (reads : ReadsBack x)
    (has : Numeral.ofFloat? x = some n) :
    n.Wellformed ∧ Document.number? (Document.ofJson (.number n)) = some x := by
  have digital := Numeral.digital_ofFloat has
  have tree : Json.ofFloat x = .number n := by rw [Json.ofFloat, has]
  rw [ReadsBack, tree, Document.ofJsonText?] at reads
  cases padded : n.isPadded with
  | true =>
    rw [read?_padded digital padded] at reads
    cases reads
  | false =>
    have wellformed : n.Wellformed := ⟨digital, padded⟩
    rw [(Legible.number n wellformed).read_compact] at reads
    exact ⟨wellformed, reads⟩

/-! ## Documents of trees -/

namespace Document

theorem ofJson_array (items : List Json) :
    ofJson (.array items) = .list true (items.map ofJson) := by
  have each : ofJsonItems items = items.map ofJson := by
    induction items with
    | nil => rfl
    | cons item items ih => rw [ofJsonItems, ih, List.map_cons]
  rw [ofJson, each]

theorem ofJson_ofMembers (members : List (String × Json)) :
    ofJson (ofMembers members) =
      .record true (members.map fun member => (.text member.1, ofJson member.2)) := by
  have each : ofJsonMembers (members.map fun member => (some member.1, member.2)) =
      members.map fun member => (.text member.1, ofJson member.2) := by
    induction members with
    | nil => rfl
    | cons member members ih => rw [List.map_cons, ofJsonMembers, ih]; rfl
  rw [ofMembers, ofJson, each]

theorem word32?_ofNat (n : UInt32) : word32? (ofJson (Json.ofNat n.toNat)) = some n := by
  have small : n.toNat < UInt64.size := Nat.lt_trans n.toNat_lt_size (by decide)
  simp [ofJson_ofNat small, word32?, natural?, n.toNat_lt_size]

theorem word64?_ofNat (n : UInt64) : word64? (ofJson (Json.ofNat n.toNat)) = some n := by
  simp [ofJson_ofNat n.toNat_lt_size, word64?, natural?, n.toNat_lt_size]

/-- The fields of a tree whose members are known and distinct are its members. -/
theorem fields?_ofMembers (names : List String) (members : List (String × Json))
    (known : ∀ member ∈ members, member.1 ∈ names) (distinct : (members.map Prod.fst).Nodup) :
    fields? names (ofJson (ofMembers members)) =
      some (members.map fun member => (member.1, ofJson member.2)) := by
  have all : Document.known names (members.map fun member => (member.1, ofJson member.2)) =
      members.map fun member => (member.1, ofJson member.2) := by
    rw [Document.known, List.filter_eq_self]
    intro field member
    obtain ⟨original, within, rfl⟩ := List.mem_map.mp member
    exact List.contains_iff_mem.mpr (known original within)
  have named : Named names (members.map fun member => (.text member.1, ofJson member.2))
      (members.map fun member => (member.1, ofJson member.2)) := by
    rw [Named, List.forall₂_map_left_iff, List.forall₂_map_right_iff]
    exact List.forall₂_same.mpr fun _ _ => ⟨rfl, rfl⟩
  have names : ((members.map fun member => (member.1, ofJson member.2)).map Prod.fst).Nodup := by
    rwa [List.map_map]
  rw [← all] at names
  rw [ofJson_ofMembers, fields?_record true named names, all]

/-- Items that are read one by one are read as a list. -/
theorem listOf?_array {α β : Type} {read? : Document → Option β} {tree : α → Json} {view : α → β}
    {items : List α} (each : ∀ item ∈ items, read? (ofJson (tree item)) = some (view item)) :
    listOf? read? (ofJson (.array (items.map tree))) = some (items.map view) := by
  rw [ofJson_array, listOf?, items?, Option.bind_some, List.map_map, List.mapM_map]
  exact mapM_of_reads each

theorem text?_ofString (text : String) : text? (ofJson (ofString text)) = some text := rfl

end Document

/-! ## The sweep of a series -/

theorem Operation.ofDocument?_key (operation : Operation) :
    Operation.ofDocument? (ofJson (ofString operation.key)) = some operation := by
  cases operation <;> rfl

theorem Axis.ofDocument?_key (axis : Axis) :
    Axis.ofDocument? (ofJson (ofString axis.key)) = some axis := by
  cases axis <;> rfl

theorem Point.ofDocument?_toJson (point : Point) :
    Point.ofDocument? (ofJson point.toJson) = some point := by
  have fields := fields?_ofMembers ["clients", "pipeline", "requests"]
    [("clients", ofNat point.clients.toNat), ("pipeline", ofNat point.pipeline.toNat),
      ("requests", ofNat point.requests.toNat)] (by simp) (by simp)
  rw [Point.ofDocument?, Point.toJson, fields]
  simp [Fields.required?, List.lookup_cons, word32?_ofNat, word64?_ofNat]

theorem Sweep.ofDocument?_toJson (sweep : Sweep) :
    Sweep.ofDocument? (ofJson sweep.toJson) = some sweep := by
  have fields := fields?_ofMembers ["name", "title", "operation", "axis", "points"]
    [("name", ofString sweep.name), ("title", ofString sweep.title),
      ("operation", ofString sweep.operation.key), ("axis", ofString sweep.axis.key),
      ("points", .array (sweep.points.map Point.toJson))] (by simp) (by simp)
  have points : listOf? Point.ofDocument? (ofJson (.array (sweep.points.map Point.toJson))) =
      some (sweep.points.map id) :=
    listOf?_array fun point _ => point.ofDocument?_toJson
  rw [Sweep.ofDocument?, Sweep.toJson, fields]
  simp [Fields.required?, List.lookup_cons, text?_ofString, Operation.ofDocument?_key,
    Axis.ofDocument?_key, points]

/-! ## Samples -/

namespace Sample

/-- What a dataset keeps of a sample: a value that is not finite is missing, and everything else is
as it was. -/
def recorded (sample : Sample) : Sample :=
  ⟨fun metric => (sample.slot metric).map fun value => value.filter Number.isFinite⟩

/-- A dataset keeps the finite values, and nothing else is found in it. -/
theorem get_recorded (sample : Sample) (metric : Metric) :
    sample.recorded.get metric = (sample.get metric).filter Number.isFinite := by
  cases slot : sample.slot metric <;> simp [get, recorded, slot]

/-- Every finite value of a sample reads back. -/
def ReadsBack (sample : Sample) : Prop :=
  ∀ metric value, sample.get metric = some value → Number.isFinite value = true →
    Number.ReadsBack value

variable {sample : Sample}

/-- A value that is read back is kept; any other one is missing. -/
theorem valueOfDocument?_ofJson {value : Option Float}
    (reads : ∀ number, value = some number → Number.isFinite number = true →
      Number.ReadsBack number) :
    (valueToJson value).Legible ∧
      valueOfDocument? (ofJson (valueToJson value)) = some (value.filter Number.isFinite) := by
  cases value with
  | none => exact ⟨.null, rfl⟩
  | some number =>
    have finite := Numeral.isSome_ofFloat? number
    cases has : Numeral.ofFloat? number with
    | none =>
      rw [has] at finite
      have tree : valueToJson (some number) = .null := by rw [valueToJson, ofFloat, has]
      rw [tree, Option.filter_some, ← finite]
      exact ⟨.null, rfl⟩
    | some numeral =>
      rw [has] at finite
      have tree : valueToJson (some number) = .number numeral := by
        rw [valueToJson, ofFloat, has]
      obtain ⟨wellformed, amounts⟩ := (reads number rfl finite.symm).numeral has
      rw [tree, Option.filter_some, ← finite]
      refine ⟨.number numeral wellformed, ?_⟩
      unfold valueOfDocument?
      split
      · rename_i null
        rw [null] at amounts
        cases amounts
      · rw [amounts]
        rfl

theorem ReadsBack.withValue (reads : sample.ReadsBack) {value : Float} (metric : Metric)
    (back : Number.isFinite value = true → Number.ReadsBack value) :
    (sample.withValue metric value).ReadsBack := by
  intro other found held finite
  rw [Sample.withValue, get_set] at held
  split at held
  · cases held
    exact back finite
  · exact reads other found held finite

/-- A metric with its value is added as it was, but for a value that is not finite. -/
theorem addEntry?_entry (reads : sample.ReadsBack) (given : Sample) {metric : Metric}
    {value : Option Float} (slot : sample.slot metric = some value) :
    Sample.addEntry? given (.text metric.key, ofJson (valueToJson value)) =
      some (given.set metric (value.filter Number.isFinite)) := by
  have kept := (@valueOfDocument?_ofJson value fun number same =>
    reads metric number (by rw [get, slot, same]; rfl)).2
  unfold addEntry?
  simp [text?, Metric.ofKey?_key, kept]

/-- The entries of metrics are added one after the other. -/
theorem foldlM_entries (reads : sample.ReadsBack) (metrics : List Metric) (given : Sample) :
    ((metrics.filterMap fun metric => (sample.slot metric).map fun value => (metric, value)).map
        fun entry => (Document.text entry.1.key, ofJson (valueToJson entry.2))).foldlM
          addEntry? given =
      some ⟨fun metric =>
        if metric ∈ metrics then (sample.recorded.slot metric).or (given.slot metric)
        else given.slot metric⟩ := by
  -- Over the metrics that are left; those before are in the sample given.
  induction metrics generalizing given with
  | nil => simp
  | cons first metrics ih =>
    cases slot : sample.slot first with
    | none =>
      rw [List.filterMap_cons_none (by rw [slot]; rfl), ih]
      congr 2
      funext metric
      by_cases same : metric = first
      · subst same
        simp [recorded, slot]
      · simp [same]
    | some value =>
      rw [List.filterMap_cons_some (by rw [slot]; rfl), List.map_cons, List.foldlM_cons,
        addEntry?_entry reads given slot]
      refine (ih _).trans ?_
      congr 2
      funext metric
      by_cases same : metric = first
      · subst same
        simp [recorded, set, slot]
      · simp [same, set]

theorem valuesOfDocument?_toJson (reads : sample.ReadsBack) :
    valuesOfDocument? (ofJson sample.valuesToJson) = some sample.recorded := by
  have each := foldlM_entries reads Metric.all blank
  rw [valuesToJson, ofJson_ofMembers, List.map_map, valuesOfDocument?]
  refine each.trans ?_
  congr 2
  funext metric
  rw [if_pos (Metric.mem_all metric), blank, Option.or_none]
  rfl

/-- A sample is decoded as a dataset keeps it. -/
theorem ofDocument?_toJson (reads : sample.ReadsBack) :
    Sample.ofDocument? (ofJson sample.toJson) = some sample.recorded := by
  have fields := fields?_ofMembers ["values"]
    [("values", sample.valuesToJson)] (by simp) (by simp)
  rw [Sample.ofDocument?, toJson, fields]
  simp [Fields.required?, valuesOfDocument?_toJson reads]

end Sample

/-! ## Legible trees -/

theorem Point.legible_toJson (point : Point) : point.toJson.Legible := by
  apply legible_ofMembers
  simp [legible_ofNat]

theorem Sweep.legible_toJson (sweep : Sweep) : sweep.toJson.Legible := by
  apply legible_ofMembers
  have points : (Json.array (sweep.points.map Point.toJson)).Legible :=
    legible_items fun point _ => point.legible_toJson
  simp [legible_ofString, points]

theorem Sample.legible_toJson {sample : Sample} (reads : sample.ReadsBack) :
    sample.toJson.Legible := by
  have values : sample.valuesToJson.Legible := by
    apply legible_ofMembers
    rw [List.forall_mem_map]
    intro entry within
    obtain ⟨metric, -, mentioned⟩ := List.mem_filterMap.mp within
    obtain ⟨value, slot, rfl⟩ := Option.map_eq_some_iff.mp mentioned
    exact (valueOfDocument?_ofJson fun number held =>
      reads metric number (by rw [get, slot, held]; rfl)).1
  apply legible_ofMembers
  simp [values]

namespace Series

variable {series : Series}

/-- A series whose finite values read back.  The values that are not finite are free. -/
def ReadsBack (series : Series) : Prop :=
  ∀ row ∈ series.rows, ∀ sample ∈ row, sample.ReadsBack

/-- The tree of a series is legible, so its text is read as this tree. -/
theorem legible_toJson (reads : series.ReadsBack) : series.toJson.Legible := by
  have endpoints : (Json.array (series.endpoints.map ofString)).Legible :=
    legible_items fun name _ => legible_ofString name
  have rows : (Json.array
      (series.rows.map fun row => .array (row.map Sample.toJson))).Legible :=
    legible_items fun row within =>
      legible_items fun sample inRow => Sample.legible_toJson (reads row within sample inRow)
  apply legible_ofMembers
  simp [Sweep.legible_toJson, endpoints, rows]

/-- What a dataset keeps of a series: the sweep, the endpoints and the rows, with each sample as a
dataset keeps it. -/
def recorded (series : Series) : Series :=
  { series with rows := series.rows.map fun row => row.map Sample.recorded }

/-- A series is decoded as a dataset keeps it. -/
theorem ofDocument?_toJson (reads : series.ReadsBack) :
    Series.ofDocument? (ofJson series.toJson) = some series.recorded := by
  have fields := fields?_ofMembers ["sweep", "endpoints", "rows"]
    [("sweep", series.sweep.toJson), ("endpoints", .array (series.endpoints.map ofString)),
      ("rows", .array (series.rows.map fun row => .array (row.map Sample.toJson)))] (by simp)
    (by simp)
  have endpoints : listOf? text? (ofJson (.array (series.endpoints.map ofString))) =
      some (series.endpoints.map id) :=
    listOf?_array fun name _ => text?_ofString name
  have rows : listOf? (listOf? Sample.ofDocument?)
      (ofJson (.array (series.rows.map fun row => .array (row.map Sample.toJson)))) =
        some (series.rows.map fun row => row.map Sample.recorded) :=
    listOf?_array fun row within =>
      listOf?_array fun sample inRow => Sample.ofDocument?_toJson (reads row within sample inRow)
  rw [Series.ofDocument?, toJson, fields]
  simp [Fields.required?, List.lookup_cons, Sweep.ofDocument?_toJson, endpoints, rows, recorded]

end Series

/-- How a series and what is read of it agree: in the sweep, in the endpoints and row by row.  A
sample mentions the metrics that it mentioned; a finite value is the same value, and one that was
missing or not finite is missing. -/
structure Series.KeptAs (series kept : Series) : Prop where
  sweep : kept.sweep = series.sweep
  endpoints : kept.endpoints = series.endpoints
  rows : List.Forall₂ (List.Forall₂ fun given read : Sample => ∀ metric,
    read.get metric = (given.get metric).filter Number.isFinite ∧
      ((read.slot metric).isSome ↔ (given.slot metric).isSome)) series.rows kept.rows

theorem Series.keptAs_recorded (series : Series) : series.KeptAs series.recorded := by
  refine ⟨rfl, rfl, ?_⟩
  rw [recorded, List.forall₂_map_right_iff, List.forall₂_same]
  intro row _
  rw [List.forall₂_map_right_iff, List.forall₂_same]
  intro sample _ metric
  exact ⟨sample.get_recorded metric, by rw [Sample.recorded, Option.isSome_map]⟩

/-- **A dataset keeps a series.** A series whose finite values read back is written and read again,
directly or through a file, and what is read agrees with it. -/
theorem dataset_keeps_series (series : Series) (reads : series.ReadsBack) :
    ∃ kept, Series.ofDataset series.dataset = .ok kept ∧
      (∀ before path after, FileTree.writeReport before path series.dataset = .ok after →
        ∃ text, after.read path = .ok text ∧ Series.ofDataset text = .ok kept) ∧
      series.KeptAs kept := by
  have read : Series.ofDataset series.dataset = .ok series.recorded := by
    rw [Series.ofDataset, Series.dataset, ofJsonText?,
      (Series.legible_toJson reads).read_pretty, Option.map_some, Option.bind_some,
      Series.ofDocument?_toJson reads]
  refine ⟨series.recorded, read, ?_, series.keptAs_recorded⟩
  intro before path after written
  refine ⟨series.dataset, ?_, read⟩
  rw [FileTree.writeReport] at written
  cases wrote : before.write path series.dataset with
  | error error =>
    rw [wrote] at written
    cases written
  | ok tree =>
    rw [wrote] at written
    cases written
    exact FileTree.read_of_write wrote

/-- A series with all that is difficult to write: quotes, backslashes, control characters and
characters beyond the basic plane, the largest parameters, and samples with a value, without one
and with one that is not finite. -/
def trickySeries : Series where
  sweep :=
    { name := "a\"b\\c", title := "\x00\n\t\x7f 😀é", operation := .get, axis := .clients
      points := [⟨4294967295, 1, 18446744073709551615⟩, ⟨1, 4294967295, 0⟩] }
  endpoints := ["", "/\"\\"]
  rows :=
    [[Sample.blank.withValue .throughput 1.5, Sample.empty],
      [Sample.empty.withValue .latencyMax Number.notANumber, Sample.blank]]

/-- The series that is difficult to write comes back from a file. -/
theorem tricky_series_kept :
    trickySeries.ReadsBack ∧
      ∃ after text kept,
        FileTree.writeReport .empty "/out.json" trickySeries.dataset = .ok after ∧
        after.read "/out.json" = .ok text ∧ Series.ofDataset text = .ok kept ∧
        trickySeries.KeptAs kept := by
  have blank : Sample.blank.ReadsBack := by
    intro metric value held
    cases held
  have empty : Sample.empty.ReadsBack := by
    intro metric value held
    cases held
  have finite : (Sample.blank.withValue .throughput 1.5).ReadsBack := by
    apply blank.withValue
    intro _
    show (Document.ofJsonText? (Json.ofFloat 1.5).compact).bind Document.number? = some 1.5
    decide +kernel
  have infinite : (Sample.empty.withValue .latencyMax Number.notANumber).ReadsBack := by
    apply empty.withValue
    intro held
    exact absurd held (by decide +kernel)
  have reads : trickySeries.ReadsBack := by
    simp [Series.ReadsBack, trickySeries, blank, empty, finite, infinite]
  obtain ⟨kept, -, throughFile, same⟩ := dataset_keeps_series trickySeries reads
  obtain ⟨after, written⟩ :
      ∃ after, FileTree.writeReport .empty "/out.json" trickySeries.dataset = .ok after :=
    ⟨_, rfl⟩
  obtain ⟨text, read, decoded⟩ := throughFile _ _ _ written
  exact ⟨reads, after, text, kept, written, read, decoded, same⟩

end LoadSweep
