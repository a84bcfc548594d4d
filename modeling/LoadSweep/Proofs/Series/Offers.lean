import LoadSweep.Endpoint
import LoadSweep.Proofs.Series.Projections

/-!
# Offers

A series comes about by offering samples for its next point; samples that it refuses leave it as it
was.  Any offers leave the samples of the right number, as far as there are points for them
(`afterOffers_eq`).  Such a series is aligned, so all its projections have values, and they show
every sample at its place (`offered_series_projects`).
-/

namespace LoadSweep

set_option autoImplicit false

namespace Series

/-- A series after samples were offered for its next point. -/
def offer (series : Series) (samples : List Sample) : Series :=
  match series.push samples with
  | .ok next => next
  | .error _ => series

/-- A series after offers in order. -/
def afterOffers (series : Series) (offers : List (List Sample)) : Series :=
  offers.foldl offer series

/-- Samples that a series takes: one for each endpoint, while points are left. -/
def Takes (series : Series) (samples : List Sample) : Prop :=
  samples.length = series.endpoints.length ∧ series.length < series.sweep.length

theorem push_of_takes {series : Series} {samples : List Sample} (takes : series.Takes samples) :
    series.push samples = .ok { series with rows := series.rows ++ [samples] } := by
  obtain ⟨width, room⟩ := takes
  rw [push, if_neg (not_not_intro width), if_neg (Nat.not_le.mpr room)]

theorem push_of_not_takes {series : Series} {samples : List Sample}
    (refuses : ¬ series.Takes samples) : ∃ fault, series.push samples = .error fault := by
  by_cases width : samples.length = series.endpoints.length
  · have full : series.sweep.length ≤ series.length :=
      Nat.not_lt.mp fun room => refuses ⟨width, room⟩
    rw [push, if_neg (not_not_intro width), if_pos full]
    exact ⟨_, rfl⟩
  · rw [push, if_pos width]
    exact ⟨_, rfl⟩

theorem push_ok_iff (series : Series) (samples : List Sample) :
    (∃ next, series.push samples = .ok next) ↔ series.Takes samples := by
  constructor
  · rintro ⟨next, pushed⟩
    by_cases takes : series.Takes samples
    · exact takes
    · obtain ⟨fault, refused⟩ := push_of_not_takes takes
      cases refused.symm.trans pushed
  · intro takes
    exact ⟨_, push_of_takes takes⟩

theorem offer_of_takes {series : Series} {samples : List Sample} (takes : series.Takes samples) :
    series.offer samples = { series with rows := series.rows ++ [samples] } := by
  rw [offer, push_of_takes takes]

theorem offer_of_not_takes {series : Series} {samples : List Sample}
    (refuses : ¬ series.Takes samples) : series.offer samples = series := by
  obtain ⟨fault, refused⟩ := push_of_not_takes refuses
  rw [offer, refused]

/-- Any offers leave the samples of the right number, as far as there are points for them. -/
theorem afterOffers_eq (series : Series) (offers : List (List Sample)) :
    series.afterOffers offers =
      { series with
        rows := series.rows ++
          (offers.filter fun samples => samples.length = series.endpoints.length).take
            (series.sweep.length - series.length) } := by
  induction offers generalizing series with
  | nil => simp [afterOffers]
  | cons samples offers ih =>
    change (series.offer samples).afterOffers offers = _
    rw [ih]
    by_cases width : samples.length = series.endpoints.length
    · by_cases room : series.length < series.sweep.length
      · have left : series.sweep.length - series.length =
            series.sweep.length - (series.length + 1) + 1 := by omega
        have longer : length { series with rows := series.rows ++ [samples] } =
            series.length + 1 := List.length_append
        rw [offer_of_takes ⟨width, room⟩, longer, left]
        simp [width]
      · have none : series.sweep.length - series.length = 0 := by omega
        rw [offer_of_not_takes fun takes => room takes.2, none]
        simp
    · rw [offer_of_not_takes fun takes => width takes.1]
      simp [width]

/-- Offers to a series without rows leave it aligned. -/
theorem aligned_afterOffers (sweep : Sweep) (endpoints : List String)
    (offers : List (List Sample)) : ((start sweep endpoints).afterOffers offers).Aligned := by
  rw [afterOffers_eq]
  constructor
  · exact List.length_take_le _ _
  · intro row member
    have kept := List.mem_of_mem_take member
    simpa using (List.mem_filter.mp kept).2

end Series

/-- **Whatever is offered to a series, its projections show it whole.** A series takes samples
exactly if there is one for each endpoint and a point for them, and is as it was if it refuses
them.  After any offers the points and labels are the first ones of the sweep, as many as there are
rows; the columns of a metric, and of its report, are those of the endpoints in order, each with one
value for every row, which is the value of the sample at its place; and a name that only one
endpoint has finds its column. -/
theorem offered_series_projects (sweep : Sweep) (endpoints : List Endpoint)
    (offers : List (List Sample)) :
    let names := endpoints.map Endpoint.name
    let series := (Series.start sweep names).afterOffers offers
    let count := series.length
    (∀ samples,
      ((∃ next, series.push samples = .ok next) ↔
        samples.length = endpoints.length ∧ count < sweep.length) ∧
      series.offer samples =
        if samples.length = endpoints.length ∧ count < sweep.length then
          { series with rows := series.rows ++ [samples] }
        else series) ∧
    series = ⟨sweep, names,
      (offers.filter fun samples => samples.length = endpoints.length).take sweep.length⟩ ∧
    (∀ point position, (∃ sample, series.sample? point position = some sample) ↔
      point < count ∧ position < endpoints.length) ∧
    series.points? = some (sweep.points.take count) ∧
    series.categories? = some (sweep.categories.take count) ∧
    (sweep.categories.take count).length = count ∧
    ∀ metric, ∃ columns report,
      series.metric? metric = some columns ∧ series.report? metric = some report ∧
      columns.categories = sweep.categories.take count ∧
      report.categories = sweep.categories.take count ∧
      series.Shows columns.columns (fun sample => sample.get metric) ∧
      series.Shows report.table (fun sample => (sample.get metric).map metric.display) ∧
      (names.Nodup → ∀ position name, names[position]? = some name →
        series.endpointIndex? name = some position ∧
        columns.values? name = (columns.columns[position]?).map Prod.snd) := by
  intro names series count
  have aligned : series.Aligned := Series.aligned_afterOffers sweep names offers
  have whole : series = ⟨sweep, names,
      (offers.filter fun samples => samples.length = endpoints.length).take sweep.length⟩ := by
    change (Series.start sweep names).afterOffers offers = _
    rw [Series.afterOffers_eq]
    simp [Series.start, Series.length, names]
  have declared : series.sweep = sweep := congrArg Series.sweep whole
  have named : series.endpoints = names := congrArg Series.endpoints whole
  have width : series.endpoints.length = endpoints.length := by
    rw [named]
    exact List.length_map ..
  have room : count ≤ sweep.length := declared ▸ aligned.points
  have takes : ∀ samples, series.Takes samples ↔
      samples.length = endpoints.length ∧ count < sweep.length := by
    intro samples
    rw [Series.Takes, declared, width]
  refine ⟨fun samples => ⟨?_, ?_⟩, whole, fun point position => ?_, ?_, ?_, ?_, ?_⟩
  · rw [series.push_ok_iff, takes]
  · split
    · rename_i taken
      exact Series.offer_of_takes ((takes samples).mpr taken)
    · rename_i refused
      exact Series.offer_of_not_takes fun taken => refused ((takes samples).mp taken)
  · rw [aligned.sample?_iff, width]
  · rw [← declared]
    exact Series.points?_of_le aligned.points
  · rw [← declared]
    exact Series.categories?_of_le aligned.points
  · rw [List.length_take, Sweep.categories, List.length_map]
    exact Nat.min_eq_left room
  · intro metric
    have projects := aligned.projects metric
    rw [named, declared] at projects
    exact projects

/-- One of two offers at two endpoints is taken, and the second endpoint has its column. -/
theorem second_column_after_offers :
    let endpoints : List Endpoint :=
      [⟨"redis", "127.0.0.1", 6378⟩, ⟨"valkey", "127.0.0.1", 6379⟩]
    let sweep : Sweep := ⟨"get", "GET sweep", .get, .clients, [⟨1, 1, 10⟩, ⟨8, 1, 10⟩]⟩
    let series := (Series.start sweep (endpoints.map Endpoint.name)).afterOffers
      [[.blank], [.blank, .blank]]
    (endpoints.map Endpoint.name).Nodup ∧ series.length = 1 ∧
      ∃ columns values, series.metric? .throughput = some columns ∧
        columns.columns[1]? = some ("valkey", values) ∧ columns.values? "valkey" = some values ∧
        values.length = 1 := by
  intro endpoints sweep series
  have distinct : (endpoints.map Endpoint.name).Nodup := by decide
  obtain ⟨-, -, -, -, -, -, projects⟩ :=
    offered_series_projects sweep endpoints [[.blank], [.blank, .blank]]
  obtain ⟨columns, report, projected, -, -, -, shows, -, byName⟩ := projects .throughput
  have second : (columns.columns.map Prod.fst)[1]? = some "valkey" := by
    rw [shows.names]
    rfl
  rw [List.getElem?_map] at second
  obtain ⟨⟨name, values⟩, atSecond, rfl⟩ := Option.map_eq_some_iff.mp second
  refine ⟨distinct, rfl, columns, values, projected, atSecond, ?_, ?_⟩
  · rw [(byName distinct 1 _ rfl).2, atSecond]
    rfl
  · exact shows.lengths _ (List.mem_of_getElem? atSecond)

end LoadSweep
