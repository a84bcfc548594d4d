import LoadSweep.Campaign
import LoadSweep.Proofs.Recording.Actions

/-!
# Visits

A visit is one run of the client, for a point at an endpoint.  A sweep makes its visits point by
point and at each point endpoint by endpoint (`Visit.grid`).  What a visit does to the bench and
what it yields depends on the state in which it finds the bench (`Campaign.attend`), so the outcomes
of visits are those of the bench as each visit leaves it to the next.

The visits of a sweep leave a trace in the journal, with the lines of the log in between.  A trace
consists of its lines, which are all that it adds to the log, and of its deeds.
-/

namespace LoadSweep

set_option autoImplicit false

/-- The measuring of a point at an endpoint. -/
structure Visit where
  point : Point
  endpoint : Endpoint

namespace Visit

/-- The visits of one point. -/
def atPoint (endpoints : List Endpoint) (point : Point) : List Visit :=
  endpoints.map fun endpoint => ⟨point, endpoint⟩

/-- The visits of points in order. -/
def grid (points : List Point) (endpoints : List Endpoint) : List Visit :=
  points.flatMap (atPoint endpoints)

end Visit

namespace Campaign

variable {σ : Type} (campaign : Campaign σ) (operation : Operation)

/-- The command of a visit. -/
def command (visit : Visit) : Command :=
  .forRun campaign.client visit.endpoint operation visit.point

/-- The bench as the run of a visit finds it: seeded, if the settings ask for it. -/
def warmed (visit : Visit) (world : σ) : σ :=
  if campaign.client.warmup then (campaign.bench.seed visit.endpoint world).2 else world

/-- What a visit yields, and the bench after it. -/
def attend (visit : Visit) (world : σ) : RunOutcome × σ :=
  campaign.bench.execute (campaign.command operation visit) campaign.limit
    (campaign.warmed visit world)

/-- The bench after visits in order. -/
def after (world : σ) (visits : List Visit) : σ :=
  visits.foldl (fun world visit => (campaign.attend operation visit world).2) world

/-- What visits in order yield. -/
def outcomes (world : σ) : List Visit → List RunOutcome
  | [] => []
  | visit :: visits =>
    (campaign.attend operation visit world).1 ::
      outcomes (campaign.attend operation visit world).2 visits

/-- What is scraped from visits in order. -/
def samples (world : σ) (visits : List Visit) : List Sample :=
  (campaign.outcomes operation world visits).map fun outcome => .ofOutput outcome.output

/-- The rows that points in order yield. -/
def rows (endpoints : List Endpoint) (world : σ) : List Point → List (List Sample)
  | [] => []
  | point :: points =>
    campaign.samples operation world (Visit.atPoint endpoints point) ::
      rows endpoints (campaign.after operation world (Visit.atPoint endpoints point)) points

/-- What a visit does to the outside. -/
def visitEvents (visit : Visit) : List Event :=
  (if campaign.client.warmup then [.seeded visit.endpoint] else []) ++
    [.executed (campaign.command operation visit) campaign.limit]

end Campaign

/-- The events other than lines of the log. -/
def Event.deeds (events : List Event) : List Event :=
  events.filter fun event =>
    match event with
    | .logged .. => false
    | _ => true

/-! ## Numbered visits -/

/-- In rows of one width the item at a row and a column has its number in the whole. -/
theorem getElem?_flatten_of_width {α : Type} {width : Nat} {rows : List (List α)}
    (widths : ∀ row ∈ rows, row.length = width) (row : Nat) {column : Nat}
    (inside : column < width) :
    rows.flatten[row * width + column]? = (rows[row]?).bind (·[column]?) := by
  induction rows generalizing row with
  | nil => rfl
  | cons first others ih =>
    have here : first.length = width := widths first List.mem_cons_self
    have rest := ih fun other member => widths other (List.mem_cons_of_mem _ member)
    cases row with
    | zero =>
      have short : 0 * width + column < first.length := by omega
      rw [List.flatten_cons, List.getElem?_append_left short]
      simp
    | succ row =>
      have long : first.length ≤ (row + 1) * width + column := by
        rw [here, Nat.succ_mul]
        omega
      have number : (row + 1) * width + column - first.length = row * width + column := by
        rw [here, Nat.succ_mul]
        omega
      rw [List.flatten_cons, List.getElem?_append_right long, number, rest]
      simp

namespace Visit

theorem length_atPoint (endpoints : List Endpoint) (point : Point) :
    (atPoint endpoints point).length = endpoints.length :=
  List.length_map ..

theorem grid_cons (point : Point) (points : List Point) (endpoints : List Endpoint) :
    grid (point :: points) endpoints = atPoint endpoints point ++ grid points endpoints :=
  List.flatMap_cons

theorem length_grid (points : List Point) (endpoints : List Endpoint) :
    (grid points endpoints).length = points.length * endpoints.length := by
  simp [grid, atPoint, List.length_flatMap, List.map_const']

/-- The visits are numbered point by point. -/
theorem getElem?_grid {points : List Point} {endpoints : List Endpoint} {row column : Nat}
    {point : Point} {endpoint : Endpoint} (atRow : points[row]? = some point)
    (atColumn : endpoints[column]? = some endpoint) :
    (grid points endpoints)[row * endpoints.length + column]? = some ⟨point, endpoint⟩ := by
  have inside : column < endpoints.length := (List.getElem?_eq_some_iff.mp atColumn).1
  have widths : ∀ visits ∈ points.map (atPoint endpoints), visits.length = endpoints.length := by
    intro visits member
    obtain ⟨point, -, rfl⟩ := List.mem_map.mp member
    exact length_atPoint endpoints point
  rw [grid, List.flatMap_def, getElem?_flatten_of_width widths row inside, List.getElem?_map,
    atRow]
  simp [atPoint, atColumn]

end Visit

/-! ## Outcomes of visits -/

namespace Campaign

variable {σ : Type} (campaign : Campaign σ) (operation : Operation)

theorem after_append (world : σ) (earlier later : List Visit) :
    campaign.after operation world (earlier ++ later) =
      campaign.after operation (campaign.after operation world earlier) later :=
  List.foldl_append

theorem outcomes_append (world : σ) (earlier later : List Visit) :
    campaign.outcomes operation world (earlier ++ later) =
      campaign.outcomes operation world earlier ++
        campaign.outcomes operation (campaign.after operation world earlier) later := by
  induction earlier generalizing world with
  | nil => rfl
  | cons visit visits ih =>
    rw [List.cons_append, outcomes, outcomes, ih]
    rfl

theorem length_outcomes (world : σ) (visits : List Visit) :
    (campaign.outcomes operation world visits).length = visits.length := by
  induction visits generalizing world with
  | nil => rfl
  | cons visit visits ih => rw [outcomes, List.length_cons, List.length_cons, ih]

/-- A visit yields what the bench gives once the visits before it are made. -/
theorem getElem?_outcomes (world : σ) (visits : List Visit) (number : Nat) :
    (campaign.outcomes operation world visits)[number]? =
      (visits[number]?).map fun visit =>
        (campaign.attend operation visit
          (campaign.after operation world (visits.take number))).1 := by
  induction visits generalizing world number with
  | nil => rfl
  | cons visit visits ih =>
    cases number with
    | zero => rfl
    | succ number =>
      rw [outcomes, List.getElem?_cons_succ, List.getElem?_cons_succ, ih, List.take_succ_cons]
      rfl

theorem samples_append (world : σ) (earlier later : List Visit) :
    campaign.samples operation world (earlier ++ later) =
      campaign.samples operation world earlier ++
        campaign.samples operation (campaign.after operation world earlier) later := by
  rw [samples, outcomes_append, List.map_append]
  rfl

theorem length_samples (world : σ) (visits : List Visit) :
    (campaign.samples operation world visits).length = visits.length := by
  rw [samples, List.length_map, length_outcomes]

theorem length_rows (endpoints : List Endpoint) (world : σ) (points : List Point) :
    (campaign.rows operation endpoints world points).length = points.length := by
  induction points generalizing world with
  | nil => rfl
  | cons point points ih => rw [rows, List.length_cons, List.length_cons, ih]

theorem width_rows (endpoints : List Endpoint) (world : σ) (points : List Point) :
    ∀ row ∈ campaign.rows operation endpoints world points, row.length = endpoints.length := by
  induction points generalizing world with
  | nil => exact nofun
  | cons point points ih =>
    intro row member
    rcases List.mem_cons.mp member with rfl | later
    · rw [length_samples, Visit.length_atPoint]
    · exact ih _ row later

/-- Row by row, the samples are those of the grid. -/
theorem flatten_rows (endpoints : List Endpoint) (world : σ) (points : List Point) :
    (campaign.rows operation endpoints world points).flatten =
      campaign.samples operation world (Visit.grid points endpoints) := by
  induction points generalizing world with
  | nil => rfl
  | cons point points ih =>
    rw [rows, List.flatten_cons, ih, Visit.grid_cons, samples_append]

/-- The sample of a point at an endpoint is scraped from the visit with its number. -/
theorem sample_of_rows {endpoints : List Endpoint} {points : List Point} {row column : Nat}
    {point : Point} {endpoint : Endpoint} (atRow : points[row]? = some point)
    (atColumn : endpoints[column]? = some endpoint) (world : σ) :
    ((campaign.rows operation endpoints world points)[row]?).bind (·[column]?) =
      some (.ofOutput (campaign.attend operation ⟨point, endpoint⟩
        (campaign.after operation world
          ((Visit.grid points endpoints).take (row * endpoints.length + column)))).1.output) := by
  have inside : column < endpoints.length := (List.getElem?_eq_some_iff.mp atColumn).1
  rw [← getElem?_flatten_of_width (campaign.width_rows operation endpoints world points) row inside,
    flatten_rows, samples, List.getElem?_map, getElem?_outcomes, Visit.getElem?_grid atRow atColumn]
  rfl

end Campaign

/-! ## Deeds -/

namespace Event

theorem deeds_append (earlier later : List Event) :
    deeds (earlier ++ later) = deeds earlier ++ deeds later :=
  List.filter_append earlier later

/-- A view that does not look at lines of the log sees the deeds. -/
theorem filterMap_deeds {α : Type} (view : Event → Option α)
    (blind : ∀ path line, view (.logged path line) = none) (events : List Event) :
    (deeds events).filterMap view = events.filterMap view := by
  rw [deeds, List.filterMap_filter]
  congr 1
  funext event
  cases event with
  | logged path line => exact (blind path line).symm
  | _ => rfl

/-- The run that an event is. -/
def execution? : Event → Option (Command × Duration)
  | .executed command limit => some (command, limit)
  | _ => none

theorem executions_reverse (events : List Event) :
    executions events.reverse = events.filterMap execution? := by
  rw [executions, List.reverse_reverse]
  rfl

/-- Deeds write nothing. -/
theorem written_deeds (events : List Event) : written (deeds events) = "" := by
  induction events with
  | nil => rfl
  | cons event events ih =>
    cases event with
    | logged path line => exact ih
    | _ => simpa [deeds, written, lineText] using ih

end Event

/-! ## Lines -/

namespace Event

/-- The lines of the log in a trace. -/
def lines (events : List Event) : List String :=
  events.filterMap fun event =>
    match event with
    | .logged _ line => some line
    | _ => none

theorem lines_append (earlier later : List Event) :
    lines (earlier ++ later) = lines earlier ++ lines later :=
  List.filterMap_append

/-- What a trace adds to the log is its lines. -/
theorem written_eq_lines (events : List Event) :
    written events = String.join ((lines events).map (· ++ "\n")) := by
  induction events with
  | nil => rfl
  | cons event events ih =>
    cases event with
    | logged path line => simpa [written, lineText, lines] using ih
    | _ => simpa [written, lineText, lines] using ih

/-- Deeds are not lines. -/
theorem lines_deeds (events : List Event) : lines (deeds events) = [] := by
  rw [lines, deeds, List.filterMap_filter, List.filterMap_eq_nil_iff]
  intro event _
  cases event <;> rfl

end Event

namespace Campaign

variable {σ : Type} (campaign : Campaign σ) (operation : Operation)

/-- Visits are deeds. -/
theorem deeds_visitEvents (visits : List Visit) :
    Event.deeds (visits.flatMap (campaign.visitEvents operation)) =
      visits.flatMap (campaign.visitEvents operation) := by
  induction visits with
  | nil => rfl
  | cons visit visits ih =>
    rw [List.flatMap_cons, Event.deeds_append, ih, visitEvents]
    cases campaign.client.warmup <;> rfl

/-- Visits write no lines. -/
theorem lines_visitEvents (visits : List Visit) :
    Event.lines (visits.flatMap (campaign.visitEvents operation)) = [] := by
  rw [← deeds_visitEvents]
  exact Event.lines_deeds _

/-- The runs of visits are those of their commands. -/
theorem executions_visits (visits : List Visit) :
    (visits.flatMap (campaign.visitEvents operation)).filterMap Event.execution? =
      visits.map fun visit => (campaign.command operation visit, campaign.limit) := by
  rw [List.filterMap_flatMap, List.map_eq_flatMap]
  congr 1
  funext visit
  rw [visitEvents]
  cases campaign.client.warmup <;> rfl

variable {campaign operation} {events : List Event} {visits : List Visit}

/-- After pings, the runs of visits are all that is run. -/
theorem executions_of_deeds {asked : List Endpoint}
    (deeds : Event.deeds events =
      asked.map .pinged ++ visits.flatMap (campaign.visitEvents operation)) :
    Event.executions events.reverse =
      visits.map fun visit => (campaign.command operation visit, campaign.limit) := by
  have pings : (asked.map Event.pinged).filterMap Event.execution? = [] := by
    rw [List.filterMap_map, List.filterMap_eq_nil_iff]
    exact fun _ _ => rfl
  rw [Event.executions_reverse, ← Event.filterMap_deeds _ fun _ _ => rfl, deeds,
    List.filterMap_append, pings, List.nil_append, executions_visits]

/-- No visit pings. -/
theorem pings_of_deeds
    (deeds : Event.deeds events = visits.flatMap (campaign.visitEvents operation)) :
    Event.pings events.reverse = [] := by
  rw [Event.pings, List.reverse_reverse, ← Event.filterMap_deeds _ fun _ _ => rfl, deeds,
    List.filterMap_flatMap, List.flatMap_eq_nil_iff]
  intro visit _
  rw [visitEvents]
  cases campaign.client.warmup <;> rfl

end Campaign

end LoadSweep
