import LoadSweep.Proofs.Number.Ordering
import LoadSweep.Scrape

/-!
# Samples stay whole

A sample may lack metrics, since a dataset may leave them out.  One that is built here never does:
it starts whole (`whole_empty`, `whole_ofOutput`), and a change keeps what it mentions
(`Whole.changed`).  A whole sample is its view: `get` decides the entries (`Whole.entries_eq`), how
many metrics were found (`foundCount_eq`) and which samples are equal to it (`Whole.beq_iff`).

The view of a changed sample needs the changes of one metric only (`get_changed_filter`), and of
those the last.  The entries are what an ordered map holds after the same insertions, for samples
that are not whole as well (`entries_changed`).

Wholeness is what makes equality a matter of the view: a blank sample and an empty one have the same
view and are not equal (`blank_bne_empty`).  The values are compared as numbers, so a sample with a
NaN is not equal to itself (`Whole.beq_self_iff`).

The main statement is `built_samples_are_whole`.
-/

namespace LoadSweep

set_option autoImplicit false

/-! ## Changes of a sample -/

/-- A call that changes one metric of a sample. -/
inductive Change where
  | set (metric : Metric) (value : Option Float)
  | withValue (metric : Metric) (value : Float)

namespace Change

/-- The metric that is changed. -/
def metric : Change → Metric
  | set metric _ => metric
  | withValue metric _ => metric

/-- The value that the metric has then. -/
def value : Change → Option Float
  | set _ value => value
  | withValue _ value => some value

end Change

namespace Sample

/-- A sample after one call. -/
def change (sample : Sample) : Change → Sample
  | .set metric value => sample.set metric value
  | .withValue metric value => sample.withValue metric value

/-- A sample after several calls. -/
def changed (sample : Sample) (changes : List Change) : Sample :=
  changes.foldl change sample

variable {sample other : Sample}

theorem change_eq_set (sample : Sample) (change : Change) :
    sample.change change = sample.set change.metric change.value := by
  cases change <;> rfl

theorem get_change (sample : Sample) (change : Change) (metric : Metric) :
    (sample.change change).get metric =
      if metric = change.metric then change.value else sample.get metric := by
  rw [change_eq_set, get_set]

/-- The value of a metric needs the changes of this metric only, and of the sample before them only
its value. -/
theorem get_changed_filter {metric : Metric} (alike : sample.get metric = other.get metric)
    (changes : List Change) :
    (sample.changed changes).get metric =
      (other.changed (changes.filter fun change => change.metric = metric)).get metric := by
  induction changes generalizing sample other with
  | nil => exact alike
  | cons first changes ih =>
    by_cases own : first.metric = metric
    · rw [List.filter_cons_of_pos (by simpa using own)]
      apply ih
      rw [get_change, get_change, if_pos own.symm, if_pos own.symm]
    · rw [List.filter_cons_of_neg (by simpa using own)]
      apply ih
      rw [get_change, if_neg (Ne.symm own), alike]

/-- A metric that no call changes has the value it had. -/
theorem get_changed_of_untouched {metric : Metric} {changes : List Change}
    (untouched : ∀ change ∈ changes, change.metric ≠ metric) :
    (sample.changed changes).get metric = sample.get metric := by
  have none : (changes.filter fun change => change.metric = metric) = [] := by
    rw [List.filter_eq_nil_iff]
    intro change within
    simpa using untouched change within
  rw [get_changed_filter rfl, none]
  rfl

/-- The last call that changes a metric gives it its value. -/
theorem get_changed_of_last (earlier : List Change) (change : Change) {later : List Change}
    (last : ∀ other ∈ later, other.metric ≠ change.metric) :
    (sample.changed (earlier ++ change :: later)).get change.metric = change.value := by
  have parted : sample.changed (earlier ++ change :: later) =
      ((sample.changed earlier).change change).changed later :=
    List.foldl_append
  rw [parted, get_changed_of_untouched last, get_change, if_pos rfl]

/-! ## Whole samples -/

/-- Whether a sample mentions every metric. -/
def Whole (sample : Sample) : Prop :=
  ∀ metric, (sample.slot metric).isSome

theorem whole_empty : empty.Whole := fun _ => rfl

/-- A change keeps what a sample mentions. -/
theorem Whole.change (whole : sample.Whole) (change : Change) : (sample.change change).Whole := by
  intro metric
  rw [change_eq_set]
  by_cases same : metric = change.metric
  · rw [same, slot_set_self]
    rfl
  · rw [slot_set_of_ne same]
    exact whole metric

theorem Whole.changed (whole : sample.Whole) (changes : List Change) :
    (sample.changed changes).Whole := by
  induction changes generalizing sample with
  | nil => exact whole
  | cons first changes ih => exact ih (whole.change first)

/-- The sample of an output is the empty one with one call for every metric. -/
theorem ofOutput_eq_changed (output : String) :
    ofOutput output =
      let text := unifyLineEnds output.toList
      empty.changed (Metric.all.map fun metric =>
        .set metric (findMetric? text (Scrape.latencyColumns? text) metric)) := by
  rw [ofOutput, scrape, changed, List.foldl_map]
  rfl

theorem whole_ofOutput (output : String) : (ofOutput output).Whole := by
  rw [ofOutput_eq_changed]
  exact whole_empty.changed _

theorem Whole.slot_eq (whole : sample.Whole) (metric : Metric) :
    sample.slot metric = some (sample.get metric) := by
  obtain ⟨value, mentioned⟩ := Option.isSome_iff_exists.mp (whole metric)
  rw [get, mentioned]
  rfl

/-- A whole sample lists every metric with its value, in report order. -/
theorem Whole.entries_eq (whole : sample.Whole) :
    sample.entries = Metric.all.map fun metric => (metric, sample.get metric) := by
  rw [entries, ← List.filterMap_eq_map]
  congr 1
  funext metric
  rw [whole.slot_eq]
  rfl

/-! ## What the view decides -/

/-- A metric that is not mentioned counts like one that was not found. -/
theorem foundCount_eq (sample : Sample) :
    sample.foundCount = Metric.all.countP fun metric => (sample.get metric).isSome := by
  rw [foundCount, ← List.countP_eq_length_filter, entries, List.countP_filterMap]
  congr 1
  funext metric
  rw [get]
  rcases sample.slot metric with _ | _ | _ <;> rfl

theorem isEmpty_iff (sample : Sample) :
    sample.isEmpty = true ↔ ∀ metric, sample.get metric = none := by
  rw [isEmpty, beq_iff_eq, foundCount_eq, List.countP_eq_zero]
  constructor
  · intro missing metric
    simpa using missing metric (Metric.mem_all metric)
  · intro missing metric _
    simp [missing metric]

/-- Listings of the same metrics are equal if the values of every metric are. -/
theorem beq_map_iff (metrics : List Metric) (values others : Metric → Option Float) :
    ((metrics.map fun metric => (metric, values metric)) ==
        metrics.map fun metric => (metric, others metric)) = true ↔
      ∀ metric ∈ metrics, (values metric == others metric) = true := by
  induction metrics with
  | nil => simp
  | cons first metrics ih =>
    have pair : ((first, values first) == (first, others first)) =
        (values first == others first) := by
      change (first == first && _) = _
      rw [beq_self_eq_true, Bool.true_and]
    rw [List.map_cons, List.map_cons, List.cons_beq_cons, Bool.and_eq_true, ih, pair,
      List.forall_mem_cons]

/-- Whole samples are equal if their views are, value by value. -/
theorem Whole.beq_iff (whole : sample.Whole) (otherWhole : other.Whole) :
    (sample == other) = true ↔ ∀ metric, (sample.get metric == other.get metric) = true := by
  change (sample.entries == other.entries) = true ↔ _
  rw [whole.entries_eq, otherWhole.entries_eq, beq_map_iff]
  constructor
  · intro alike metric
    exact alike metric (Metric.mem_all metric)
  · intro alike metric _
    exact alike metric

/-- A blank sample has the view of the empty one and is not equal to it. -/
theorem blank_bne_empty :
    (∀ metric, blank.get metric = empty.get metric) ∧ (blank == empty) = false :=
  ⟨fun _ => rfl, rfl⟩

/-- A whole sample is equal to itself unless it has a NaN. -/
theorem Whole.beq_self_iff (whole : sample.Whole) :
    (sample == sample) = true ↔
      ∀ metric value, sample.get metric = some value → value.isNaN = false := by
  rw [whole.beq_iff whole]
  refine forall_congr' fun metric => ?_
  cases sample.get metric with
  | none => simp
  | some value =>
    have numbers : (some value == some value) = (value == value) := rfl
    rw [numbers, Number.beq_self_iff]
    simp

end Sample

/-! ## Report order -/

namespace Metric

theorem nodup_all : all.Nodup := by decide

/-- Report order is the order in which the metrics are declared. -/
theorem ascending_all : all.Pairwise fun metric other => metric.ctorIdx < other.ctorIdx := by
  decide

/-- Counting along the report counts every metric once. -/
theorem countP_all (holds : Metric → Bool) :
    all.countP holds = {metric | holds metric = true}.ncard := by
  have listed : {metric | holds metric = true} = ((all.filter holds).toFinset : Set Metric) := by
    ext metric
    simp [mem_all]
  rw [listed, Set.ncard_coe_finset, List.toFinset_card_of_nodup (nodup_all.filter _),
    List.countP_eq_length_filter]

end Metric

/-! ## Entries of an ordered map -/

namespace Sample

/-- The entries of an ordered map after an insertion.  The new entry takes the place of the old
one, and without an old one it stands before the first entry of a later metric. -/
def inserted (metric : Metric) (value : Option Float) :
    List (Metric × Option Float) → List (Metric × Option Float)
  | [] => [(metric, value)]
  | entry :: entries =>
    if metric.ctorIdx < entry.1.ctorIdx then (metric, value) :: entry :: entries
    else if metric = entry.1 then (metric, value) :: entries
    else entry :: inserted metric value entries

/-- The entries of some metrics. -/
def entriesOf (sample : Sample) (metrics : List Metric) : List (Metric × Option Float) :=
  metrics.filterMap fun metric => (sample.slot metric).map fun value => (metric, value)

variable {sample : Sample} {metric : Metric} {value : Option Float} {metrics : List Metric}

theorem entriesOf_cons_none (missing : sample.slot metric = none) :
    sample.entriesOf (metric :: metrics) = sample.entriesOf metrics :=
  List.filterMap_cons_none (by rw [missing]; rfl)

theorem entriesOf_cons_some (mentioned : sample.slot metric = some value) :
    sample.entriesOf (metric :: metrics) = (metric, value) :: sample.entriesOf metrics :=
  List.filterMap_cons_some (by rw [mentioned]; rfl)

theorem mem_of_mem_entriesOf {entry : Metric × Option Float}
    (within : entry ∈ sample.entriesOf metrics) : entry.1 ∈ metrics := by
  obtain ⟨metric, listed, mentioned⟩ := List.mem_filterMap.mp within
  obtain ⟨value, -, rfl⟩ := Option.map_eq_some_iff.mp mentioned
  exact listed

theorem entriesOf_set_of_not_mem (absent : metric ∉ metrics) :
    (sample.set metric value).entriesOf metrics = sample.entriesOf metrics := by
  apply List.filterMap_congr
  intro other within
  have different : other ≠ metric := fun same => absent (same ▸ within)
  rw [slot_set_of_ne different]

theorem inserted_of_earlier {entries : List (Metric × Option Float)}
    (earlier : ∀ entry ∈ entries, metric.ctorIdx < entry.1.ctorIdx) :
    inserted metric value entries = (metric, value) :: entries := by
  cases entries with
  | nil => rfl
  | cons entry entries => rw [inserted, if_pos (earlier entry List.mem_cons_self)]

/-- Setting a metric inserts its entry among those of ascending metrics. -/
theorem entriesOf_set
    (ascending : metrics.Pairwise fun metric other => metric.ctorIdx < other.ctorIdx)
    (listed : metric ∈ metrics) :
    (sample.set metric value).entriesOf metrics =
      inserted metric value (sample.entriesOf metrics) := by
  -- Along the metrics, up to the one that is set: those before it are earlier and stay.
  induction metrics with
  | nil => cases listed
  | cons first rest ih =>
    obtain ⟨earlier, ascending⟩ := List.pairwise_cons.mp ascending
    by_cases here : metric = first
    · subst here
      have absent : metric ∉ rest := fun within => Nat.lt_irrefl _ (earlier metric within)
      rw [entriesOf_cons_some slot_set_self, entriesOf_set_of_not_mem absent]
      cases slot : sample.slot metric with
      | none =>
        rw [entriesOf_cons_none slot, inserted_of_earlier]
        intro entry within
        exact earlier _ (mem_of_mem_entriesOf within)
      | some before =>
        rw [entriesOf_cons_some slot, inserted, if_neg (Nat.lt_irrefl _), if_pos rfl]
    · have within : metric ∈ rest := (List.mem_cons.mp listed).resolve_left here
      have kept : (sample.set metric value).slot first = sample.slot first :=
        slot_set_of_ne (Ne.symm here)
      cases slot : sample.slot first with
      | none =>
        rw [entriesOf_cons_none slot, entriesOf_cons_none (kept.trans slot), ih ascending within]
      | some before =>
        rw [entriesOf_cons_some slot, entriesOf_cons_some (kept.trans slot), ih ascending within,
          inserted, if_neg (Nat.lt_asymm (earlier metric within)), if_neg here]

theorem entries_change (sample : Sample) (change : Change) :
    (sample.change change).entries = inserted change.metric change.value sample.entries := by
  rw [change_eq_set]
  exact entriesOf_set Metric.ascending_all (Metric.mem_all _)

/-- The entries of a changed sample are those of an ordered map with the same insertions. -/
theorem entries_changed (sample : Sample) (changes : List Change) :
    (sample.changed changes).entries =
      changes.foldl (fun entries change => inserted change.metric change.value entries)
        sample.entries := by
  induction changes generalizing sample with
  | nil => rfl
  | cons first changes ih => rw [List.foldl_cons, ← entries_change, ← ih]; rfl

end Sample

/-! ## Samples that are built -/

/-- What a sample starts from. -/
inductive Origin where
  | empty
  | default
  | output (text : String)

/-- The sample before any change. -/
def Origin.sample : Origin → Sample
  | empty => .empty
  | default => Inhabited.default
  | output text => .ofOutput text

theorem Origin.whole_sample (origin : Origin) : origin.sample.Whole := by
  cases origin with
  | empty | default => exact Sample.whole_empty
  | output text => exact Sample.whole_ofOutput text

/-- What the calls that changed a sample decide about it: what it lists, also as an ordered map
would; the value of each metric, which calls for other metrics leave alone; and the counts. -/
structure Sample.Reflects (sample start : Sample) (changes : List Change) : Prop where
  listed : sample.entries = Metric.all.map fun metric => (metric, sample.get metric)
  once : ∀ metric, (sample.entries.map Prod.fst).count metric = 1
  ordered : sample.entries =
    changes.foldl (fun entries change => Sample.inserted change.metric change.value entries)
      start.entries
  last : ∀ earlier change later, changes = earlier ++ change :: later →
    (∀ other ∈ later, other.metric ≠ change.metric) → sample.get change.metric = change.value
  untouched : ∀ metric, (∀ change ∈ changes, change.metric ≠ metric) →
    sample.get metric = start.get metric
  own : ∀ metric, sample.get metric =
    (start.changed (changes.filter fun change => change.metric = metric)).get metric
  found : sample.foundCount = {metric | (sample.get metric).isSome = true}.ncard
  missing : sample.isEmpty = true ↔ ∀ metric, sample.get metric = none

theorem Sample.Whole.reflects {start : Sample} (whole : start.Whole) (changes : List Change) :
    (start.changed changes).Reflects start changes where
  listed := (whole.changed changes).entries_eq
  once metric := by
    rw [(whole.changed changes).entries_eq, List.map_map]
    exact (congrArg (List.count metric) (List.map_id _)).trans
      (List.count_eq_one_of_mem Metric.nodup_all (Metric.mem_all metric))
  ordered := entries_changed start changes
  last := by
    rintro earlier change later rfl last
    exact get_changed_of_last earlier change last
  untouched _ untouched := get_changed_of_untouched untouched
  own _ := get_changed_filter rfl changes
  found := by rw [foundCount_eq, Metric.countP_all]
  missing := isEmpty_iff _

/-- **A built sample is whole.** Whatever a sample starts from and whatever calls change it, it
lists all six metrics, each with the value of its last change, and equality of such samples is
equality of the values; only a NaN keeps a sample from being equal to itself. -/
theorem built_samples_are_whole (origin : Origin) (changes : List Change) :
    let sample := origin.sample.changed changes
    sample.Reflects origin.sample changes ∧
      (∀ otherOrigin otherChanges,
        let other := (Origin.sample otherOrigin).changed otherChanges
        (sample == other) = true ↔
          ∀ metric, (sample.get metric == other.get metric) = true) ∧
      ((sample == sample) = true ↔
        ∀ metric value, sample.get metric = some value → value.isNaN = false) := by
  have whole (origin : Origin) (changes : List Change) : (origin.sample.changed changes).Whole :=
    origin.whole_sample.changed changes
  exact ⟨origin.whole_sample.reflects changes,
    fun _ _ => (whole origin changes).beq_iff (whole _ _), (whole origin changes).beq_self_iff⟩

end LoadSweep
