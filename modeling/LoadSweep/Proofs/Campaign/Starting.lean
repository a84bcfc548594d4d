import LoadSweep.Campaign.Rehearsal
import LoadSweep.Proofs.Campaign.Measuring
import LoadSweep.Proofs.Recording.Calls

/-!
# How a sweep starts

A sweep starts behind gates: it must have points, its endpoints must be comparable, every endpoint
must answer a ping, and the header of its section must reach the log.  Pings go up to the first
endpoint that does not answer.  Once the header is written, no fault is possible but the loss of a
line, and that only where the room is limited (`Campaign.start`).  So where every line can be
appended, a sweep that fails has made pings and nothing else (`sweep_starts_whole`).
-/

namespace LoadSweep

set_option autoImplicit false

namespace Bench

variable {σ : Type} (bench : Bench σ)

/-- The bench after pings in order. -/
def afterPings (world : σ) (endpoints : List Endpoint) : σ :=
  endpoints.foldl (fun world endpoint => (bench.ping endpoint world).2) world

/-- Every endpoint answers, each one asked after those before it. -/
def AllAnswer (world : σ) : List Endpoint → Prop
  | [] => True
  | endpoint :: endpoints =>
    (bench.ping endpoint world).1 = .ok () ∧ AllAnswer (bench.ping endpoint world).2 endpoints

/-- Endpoints are asked up to the first that does not answer: it and those before it. -/
structure SilentAfter (world : σ) (endpoints answered : List Endpoint) (silent : Endpoint)
    (fault : Fault) : Prop where
  order : answered ++ [silent] <+: endpoints
  answer : bench.AllAnswer world answered
  silence : (bench.ping silent (bench.afterPings world answered)).1 = .error fault

end Bench

/-! ## Pings -/

namespace Event

/-- Pings are deeds. -/
theorem deeds_pings (endpoints : List Endpoint) :
    deeds (endpoints.map .pinged) = endpoints.map .pinged := by
  simp [deeds]

/-- Pings write no lines. -/
theorem lines_pings (endpoints : List Endpoint) : lines (endpoints.map .pinged) = [] := by
  rw [← deeds_pings]
  exact lines_deeds _

/-- Pings write nothing. -/
theorem written_pings (endpoints : List Endpoint) : written (endpoints.map .pinged) = "" := by
  rw [← deeds_pings]
  exact written_deeds _

end Event

namespace Campaign

variable {σ : Type}

/-- A stage after pings. -/
def pinged (campaign : Campaign σ) (stage : Stage σ) (endpoints : List Endpoint) : Stage σ :=
  mark stage (endpoints.map .pinged) (campaign.bench.afterPings stage.world endpoints)

theorem pinged_cons (campaign : Campaign σ) (stage : Stage σ) (endpoint : Endpoint)
    (endpoints : List Endpoint) :
    campaign.pinged (mark stage [.pinged endpoint] (campaign.bench.ping endpoint stage.world).2)
        endpoints =
      campaign.pinged stage (endpoint :: endpoints) := by
  simp [pinged, mark, Bench.afterPings]

/-- All endpoints are pinged if all answer, and else those up to the first that does not. -/
theorem run_pingAll (campaign : Campaign σ) (endpoints : List Endpoint) (stage : Stage σ) :
    (campaign.bench.AllAnswer stage.world endpoints ∧
        (campaign.pingAll endpoints).run stage = .ok () (campaign.pinged stage endpoints)) ∨
      ∃ answered silent fault,
        campaign.bench.SilentAfter stage.world endpoints answered silent fault ∧
          (campaign.pingAll endpoints).run stage =
            .error fault (campaign.pinged stage (answered ++ [silent])) := by
  induction endpoints generalizing stage with
  | nil => exact .inl ⟨trivial, rfl⟩
  | cons endpoint endpoints ih =>
    -- The others are asked in the stage that the first ping leaves.
    simp only [pingAll, EStateM.run_bind, run_onBench]
    cases answer : (campaign.bench.ping endpoint stage.world).1 with
    | error fault =>
      exact .inr ⟨[], endpoint, fault, ⟨by simp, trivial, answer⟩, rfl⟩
    | ok =>
      rcases ih (mark stage [.pinged endpoint] (campaign.bench.ping endpoint stage.world).2) with
          ⟨others, ran⟩ | ⟨answered, silent, fault, stops, ran⟩
      · rw [pinged_cons] at ran
        exact .inl ⟨⟨answer, others⟩, ran⟩
      · rw [pinged_cons] at ran
        refine .inr ⟨endpoint :: answered, silent, fault, ⟨?_, ⟨answer, stops.answer⟩, ?_⟩, ran⟩
        · exact List.cons_prefix_cons.mpr ⟨rfl, stops.order⟩
        · exact stops.silence

/-! ## The gates -/

theorem run_timestamp (campaign : Campaign σ) (stage : Stage σ) :
    campaign.timestamp.run stage = .ok (campaign.bench.timestamp stage.world) stage := rfl

theorem run_checkEndpoints (campaign : Campaign σ) {endpoints : List Endpoint}
    (valid : Endpoint.validate endpoints = .ok ()) (stage : Stage σ) :
    (campaign.checkEndpoints endpoints).run stage = (campaign.pingAll endpoints).run stage := by
  simp only [checkEndpoints, valid]

theorem run_checkEndpoints_invalid (campaign : Campaign σ) {endpoints : List Endpoint}
    {fault : Fault} (invalid : Endpoint.validate endpoints = .error fault) (stage : Stage σ) :
    (campaign.checkEndpoints endpoints).run stage = .error fault stage := by
  simp only [checkEndpoints, invalid]
  rfl

theorem run_runSweep_empty (campaign : Campaign σ) {sweep : Sweep} (nothing : sweep.points = [])
    (endpoints : List Endpoint) (stage : Stage σ) :
    (campaign.runSweep sweep endpoints).run stage =
      .error (.setting s!"sweeps.{sweep.name}.values" "a sweep needs at least one point")
        stage := by
  simp only [runSweep, nothing]
  rfl

theorem run_runSweep (campaign : Campaign σ) {sweep : Sweep} (points : sweep.points ≠ [])
    (endpoints : List Endpoint) (stage : Stage σ) :
    (campaign.runSweep sweep endpoints).run stage =
      match (campaign.checkEndpoints endpoints).run stage with
      | .error fault failed => .error fault failed
      | .ok _ ready =>
        match (Notebook.begin (campaign.bench.timestamp ready.world) sweep endpoints).run
            ready.notebook with
        | .error fault notebook => .error fault { ready with notebook }
        | .ok _ notebook =>
          (campaign.measurePoints sweep.operation endpoints 0 sweep.points).run
            { ready with notebook } := by
  have more : sweep.points.isEmpty = false := by simpa using points
  simp only [runSweep, more, Bool.false_eq_true, if_false, EStateM.run_bind, run_timestamp,
    run_inNotebook]
  cases (campaign.checkEndpoints endpoints).run stage with
  | error fault failed => rfl
  | ok value ready =>
    dsimp only
    cases (Notebook.begin (campaign.bench.timestamp ready.world) sweep endpoints).run
      ready.notebook <;> rfl

/-- How a sweep passes its gates: it is held back at one of them, or it is begun in the stage after
its pings. -/
inductive Gates (campaign : Campaign σ) (sweep : Sweep) (endpoints : List Endpoint)
    (stage : Stage σ) : EStateM.Result Fault (Stage σ) Series → Prop where
  | pointless (fault : Fault) (nothing : sweep.points = []) :
      Gates campaign sweep endpoints stage (.error fault stage)
  | incomparable (fault : Fault) (points : sweep.points ≠ [])
      (invalid : Endpoint.validate endpoints = .error fault) :
      Gates campaign sweep endpoints stage (.error fault stage)
  | silent (answered : List Endpoint) (silent : Endpoint) (fault : Fault)
      (points : sweep.points ≠ []) (valid : Endpoint.validate endpoints = .ok ())
      (stops : campaign.bench.SilentAfter stage.world endpoints answered silent fault) :
      Gates campaign sweep endpoints stage
        (.error fault (campaign.pinged stage (answered ++ [silent])))
  | unheaded (fault : Fault) (notebook : Notebook) (points : sweep.points ≠ [])
      (valid : Endpoint.validate endpoints = .ok ())
      (answer : campaign.bench.AllAnswer stage.world endpoints)
      (blocked : (Notebook.begin (campaign.bench.timestamp (campaign.pinged stage endpoints).world)
          sweep endpoints).run (campaign.pinged stage endpoints).notebook =
        .error fault notebook) :
      Gates campaign sweep endpoints stage
        (.error fault { campaign.pinged stage endpoints with notebook })
  | begun (notebook : Notebook) (points : sweep.points ≠ [])
      (valid : Endpoint.validate endpoints = .ok ())
      (answer : campaign.bench.AllAnswer stage.world endpoints)
      (headed : (Notebook.begin (campaign.bench.timestamp (campaign.pinged stage endpoints).world)
          sweep endpoints).run (campaign.pinged stage endpoints).notebook = .ok () notebook) :
      Gates campaign sweep endpoints stage
        ((campaign.measurePoints sweep.operation endpoints 0 sweep.points).run
          { campaign.pinged stage endpoints with notebook })

/-- Every sweep comes to its gates. -/
theorem gates (campaign : Campaign σ) (sweep : Sweep) (endpoints : List Endpoint)
    (stage : Stage σ) :
    Gates campaign sweep endpoints stage ((campaign.runSweep sweep endpoints).run stage) := by
  by_cases points : sweep.points = []
  · rw [campaign.run_runSweep_empty points]
    exact .pointless _ points
  rw [campaign.run_runSweep points]
  cases valid : Endpoint.validate endpoints with
  | error fault =>
    rw [campaign.run_checkEndpoints_invalid valid]
    exact .incomparable fault points valid
  | ok =>
    rw [campaign.run_checkEndpoints valid]
    rcases campaign.run_pingAll endpoints stage with
        ⟨answer, pinged⟩ | ⟨answered, silent, fault, stops, pinged⟩
    · rw [pinged]
      dsimp only
      cases headed : (Notebook.begin (campaign.bench.timestamp
          (campaign.pinged stage endpoints).world) sweep endpoints).run
          (campaign.pinged stage endpoints).notebook with
      | error fault notebook => exact .unheaded fault notebook points valid answer headed
      | ok _ notebook => exact .begun notebook points valid answer headed
    · rw [pinged]
      exact .silent answered silent fault points valid stops

/-- What measuring a sweep can lead to, gate by gate. -/
inductive Start (campaign : Campaign σ) (sweep : Sweep) (endpoints : List Endpoint)
    (stage : Stage σ) : EStateM.Result Fault (Stage σ) Series → Prop where
  | pointless (fault : Fault) (nothing : sweep.points = []) :
      Start campaign sweep endpoints stage (.error fault stage)
  | incomparable (fault : Fault) (points : sweep.points ≠ [])
      (invalid : Endpoint.validate endpoints = .error fault) :
      Start campaign sweep endpoints stage (.error fault stage)
  | silent (answered : List Endpoint) (silent : Endpoint) (fault : Fault)
      (points : sweep.points ≠ []) (valid : Endpoint.validate endpoints = .ok ())
      (stops : campaign.bench.SilentAfter stage.world endpoints answered silent fault) :
      Start campaign sweep endpoints stage
        (.error fault (campaign.pinged stage (answered ++ [silent])))
  /-- A sweep is in progress already, or the log loses the header. -/
  | unheaded (fault : Fault) (files : FileTree) (isOpen : Bool) (points : sweep.points ≠ [])
      (valid : Endpoint.validate endpoints = .ok ())
      (answer : campaign.bench.AllAnswer stage.world endpoints)
      (blocked : ∃ timestamp, (Notebook.begin timestamp sweep endpoints).run
          (campaign.pinged stage endpoints).notebook =
        .error fault
          { (campaign.pinged stage endpoints).notebook with files, logOpen := isOpen })
      (unbegun : (campaign.pinged stage endpoints).notebook.Unbegun
        (sectionHeader (campaign.bench.timestamp (campaign.pinged stage endpoints).world)
          sweep.title endpoints) files isOpen) :
      Start campaign sweep endpoints stage
        (.error fault { campaign.pinged stage endpoints with
          notebook :=
            { (campaign.pinged stage endpoints).notebook with files, logOpen := isOpen } })
  /-- The log loses a line of the sweep, although it has taken the header. -/
  | broken (begun final : Stage σ) (count visited : Nat) (events : List Event) (torn : String)
      (fault : Fault) (points : sweep.points ≠ []) (valid : Endpoint.validate endpoints = .ok ())
      (answer : campaign.bench.AllAnswer stage.world endpoints)
      (world : begun.world = campaign.bench.afterPings stage.world endpoints)
      (headed : stage.notebook.Extends
        (endpoints.map .pinged ++ [.logged stage.notebook.logPath
          (sectionHeader (campaign.bench.timestamp begun.world) sweep.title endpoints)])
        begun.notebook)
      (limited : ∃ free, stage.notebook.files.room = some free ∧ 0 < free)
      (broken : Broken campaign sweep.operation endpoints begun
        (.start sweep (endpoints.map Endpoint.name)) sweep.points count visited events torn fault
        final) :
      Start campaign sweep endpoints stage (.error fault final)
  | measured (begun final : Stage σ) (count : Nat) (events : List Event)
      (points : sweep.points ≠ []) (valid : Endpoint.validate endpoints = .ok ())
      (answer : campaign.bench.AllAnswer stage.world endpoints)
      (world : begun.world = campaign.bench.afterPings stage.world endpoints)
      (headed : stage.notebook.Extends
        (endpoints.map .pinged ++ [.logged stage.notebook.logPath
          (sectionHeader (campaign.bench.timestamp begun.world) sweep.title endpoints)])
        begun.notebook)
      (measured : Measured campaign sweep.operation endpoints begun sweep.points count events
        final)
      (lines : Event.lines events = addedLines (.start sweep (endpoints.map Endpoint.name))
        sweep.points
        (campaign.rows sweep.operation endpoints begun.world (sweep.points.take count)))
      (opened : begun.notebook.logOpen = true) :
      Start campaign sweep endpoints stage
        (.ok ⟨sweep, endpoints.map Endpoint.name,
          campaign.rows sweep.operation endpoints begun.world (sweep.points.take count)⟩ final)

theorem extends_pinged (campaign : Campaign σ) (stage : Stage σ) (endpoints : List Endpoint) :
    stage.notebook.Extends (endpoints.map .pinged) (campaign.pinged stage endpoints).notebook :=
  .quiet rfl rfl rfl id (Event.written_pings endpoints)

/-- Measuring a sweep leads to one of the listed ends. -/
theorem start (campaign : Campaign σ) (sweep : Sweep) (endpoints : List Endpoint)
    (stage : Stage σ) :
    Start campaign sweep endpoints stage ((campaign.runSweep sweep endpoints).run stage) := by
  have begins := (campaign.pinged stage endpoints).notebook.begin_cases
    (campaign.bench.timestamp (campaign.pinged stage endpoints).world) sweep endpoints
  have passes := campaign.gates sweep endpoints stage
  generalize (campaign.runSweep sweep endpoints).run stage = result at passes ⊢
  cases passes with
  | pointless fault nothing => exact .pointless fault nothing
  | incomparable fault points invalid => exact .incomparable fault points invalid
  | silent answered silent fault points valid stops =>
    exact .silent answered silent fault points valid stops
  | unheaded fault notebook points valid answer blocked =>
    rcases begins with ⟨_, files, isOpen, held, unbegun⟩ | ⟨_, headed, -⟩
    · cases blocked.symm.trans held
      exact .unheaded fault files isOpen points valid answer ⟨_, held⟩ unbegun
    · cases blocked.symm.trans headed
  | begun next points valid answer headed =>
    rcases begins with ⟨_, _, _, held, -⟩ | ⟨_, started, extended, current, pending, opened⟩
    · cases held.symm.trans headed
    · cases headed.symm.trans started
      have all := (campaign.extends_pinged stage endpoints).trans extended
      have ready : Ready { campaign.pinged stage endpoints with notebook := next }
          (.start sweep (endpoints.map Endpoint.name)) endpoints sweep.points :=
        ⟨current, pending, opened, rfl, rfl⟩
      rcases campaign.run_measurePoints sweep.operation ready with
          ⟨count, events, final, measured, ran, lines⟩ |
          ⟨count, visited, events, torn, fault, final, broken, ran⟩
      · change (campaign.measurePoints sweep.operation endpoints 0 sweep.points).run _ = _ at ran
        rw [ran]
        exact .measured _ final count events points valid answer rfl all measured lines opened
      · change (campaign.measurePoints sweep.operation endpoints 0 sweep.points).run _ = _ at ran
        rw [ran]
        -- A reliable notebook would have lost no line.
        have limited := (Notebook.takes_of_begin headed).reliable_or_limited.resolve_left
          fun reliable => broken.unreliable (extended.reliable reliable)
        exact .broken { campaign.pinged stage endpoints with notebook := next } final count visited
          events torn fault points valid answer rfl all limited broken

end Campaign

/-- The pings that measuring a sweep makes: none if the sweep has no points or the endpoints cannot
be compared, and else those up to the first endpoint that does not answer. -/
structure Asked {σ : Type} (bench : Bench σ) (sweep : Sweep) (endpoints : List Endpoint) (world : σ)
    (asked : List Endpoint) : Prop where
  pointless : sweep.points = [] → asked = []
  incomparable : ∀ fault, Endpoint.validate endpoints = .error fault → asked = []
  pings : sweep.points ≠ [] → Endpoint.validate endpoints = .ok () →
    bench.AllAnswer world endpoints ∧ asked = endpoints ∨
      ∃ answered silent fault, bench.SilentAfter world endpoints answered silent fault ∧
        asked = answered ++ [silent]

namespace Asked

variable {σ : Type} {bench : Bench σ} {sweep : Sweep} {endpoints asked : List Endpoint} {world : σ}

theorem of_pointless (nothing : sweep.points = []) : Asked bench sweep endpoints world [] :=
  ⟨fun _ => rfl, fun _ _ => rfl, fun points => absurd nothing points⟩

theorem of_incomparable {fault : Fault} (invalid : Endpoint.validate endpoints = .error fault) :
    Asked bench sweep endpoints world [] := by
  refine ⟨fun _ => rfl, fun _ _ => rfl, fun _ valid => ?_⟩
  cases invalid.symm.trans valid

/-- Behind the first two gates pings are made. -/
theorem of_pings (points : sweep.points ≠ []) (valid : Endpoint.validate endpoints = .ok ())
    (pings : bench.AllAnswer world endpoints ∧ asked = endpoints ∨
      ∃ answered silent fault, bench.SilentAfter world endpoints answered silent fault ∧
        asked = answered ++ [silent]) :
    Asked bench sweep endpoints world asked where
  pointless := fun nothing => absurd nothing points
  incomparable := by
    intro fault invalid
    cases invalid.symm.trans valid
  pings := fun _ _ => pings

end Asked

/-- What a sweep that fails leaves alone. -/
structure Spared {σ : Type} (before after : Stage σ) (asked : List Endpoint) : Prop where
  extended : before.notebook.Extends (asked.map .pinged) after.notebook
  opened : after.notebook.logOpen = before.notebook.logOpen
  current : after.notebook.current = before.notebook.current
  pending : after.notebook.pending = before.notebook.pending

namespace Spared

variable {σ : Type} {before after : Stage σ} {asked : List Endpoint}

theorem executions (spared : Spared before after asked) :
    Event.executions after.notebook.journal = Event.executions before.notebook.journal := by
  rw [spared.extended.journal]
  simp [Event.executions]

theorem seeds (spared : Spared before after asked) :
    Event.seeds after.notebook.journal = Event.seeds before.notebook.journal := by
  rw [spared.extended.journal]
  simp [Event.seeds]

theorem text (spared : Spared before after asked) :
    after.notebook.logText = before.notebook.logText := by
  rw [spared.extended.text, Event.written_pings, String.append_empty]

end Spared

/-- A sweep that fails in a reliable notebook has done no more than ask. -/
theorem Campaign.Start.spared {σ : Type} {campaign : Campaign σ} {sweep : Sweep}
    {endpoints : List Endpoint} {stage after : Stage σ} {fault : Fault}
    (starts : Campaign.Start campaign sweep endpoints stage (.error fault after))
    (reliable : stage.notebook.Reliable) :
    ∃ asked, Asked campaign.bench sweep endpoints stage.world asked ∧
      Spared stage after asked := by
  cases starts with
  | pointless _ nothing => exact ⟨[], .of_pointless nothing, .refl _, rfl, rfl, rfl⟩
  | incomparable _ _ invalid => exact ⟨[], .of_incomparable invalid, .refl _, rfl, rfl, rfl⟩
  | silent answered silent _ points valid stops =>
    have asked := Asked.of_pings points valid (.inr ⟨answered, silent, fault, stops, rfl⟩)
    exact ⟨_, asked, campaign.extends_pinged stage _, rfl, rfl, rfl⟩
  | unheaded _ files isOpen points valid answer _ unbegun =>
    have asked := Asked.of_pings points valid (.inl ⟨answer, rfl⟩)
    have pings := campaign.extends_pinged stage endpoints
    obtain ⟨opened, extended⟩ := unbegun.kept (pings.reliable reliable)
    have all := pings.trans extended
    rw [List.append_nil] at all
    exact ⟨endpoints, asked, all, opened, rfl, rfl⟩
  | broken _ _ _ _ _ _ _ _ _ _ _ headed _ broken =>
    exact absurd (headed.reliable reliable) broken.unreliable

/-- **A sweep starts as a whole or not at all.** Nothing but pings is done by a sweep that fails: no
run and no seed is made, and the log and the notebook are as before.  A sweep that does not fail has
pinged every endpoint once, in order, before its header was written and before anything was run, and
leaves the notebook ready for the next one. -/
theorem sweep_starts_whole {σ : Type} (campaign : Campaign σ) (sweep : Sweep)
    (endpoints : List Endpoint) (stage : Stage σ) (reached : stage.notebook.Reached) :
    (∀ fault after, (campaign.runSweep sweep endpoints).run stage = .error fault after →
      ∃ asked, Asked campaign.bench sweep endpoints stage.world asked ∧
        after.notebook.journal = (asked.map Event.pinged).reverse ++ stage.notebook.journal ∧
        Event.executions after.notebook.journal = Event.executions stage.notebook.journal ∧
        Event.seeds after.notebook.journal = Event.seeds stage.notebook.journal ∧
        after.notebook.logText = stage.notebook.logText ∧
        after.notebook.logPath = stage.notebook.logPath ∧
        after.notebook.logOpen = stage.notebook.logOpen ∧
        after.notebook.current = stage.notebook.current ∧
        after.notebook.pending = stage.notebook.pending) ∧
      ∀ series after, (campaign.runSweep sweep endpoints).run stage = .ok series after →
        campaign.bench.AllAnswer stage.world endpoints ∧
          (∃ header later,
            header = sectionHeader
              (campaign.bench.timestamp (campaign.bench.afterPings stage.world endpoints))
              sweep.title endpoints ∧
            after.notebook.journal =
              (endpoints.map Event.pinged ++
                Event.logged stage.notebook.logPath header :: later).reverse ++
                stage.notebook.journal ∧
            Event.pings later.reverse = []) ∧
          after.notebook.Closed ∧ after.notebook.Reliable := by
  have starts := campaign.start sweep endpoints stage
  constructor
  · intro fault after failed
    rw [failed] at starts
    obtain ⟨asked, pings, spared⟩ := starts.spared reached.reliable.2
    exact ⟨asked, pings, spared.extended.journal, spared.executions, spared.seeds, spared.text,
      spared.extended.path, spared.opened, spared.current, spared.pending⟩
  · intro series after measured
    rw [measured] at starts
    cases starts with
    | measured begun final count events points valid answer world headed measured =>
      have all := headed.trans measured.extended
      refine ⟨answer, ⟨_, events, rfl, ?_, ?_⟩, measured.closed,
        all.reliable reached.reliable.2⟩
      · rw [all.journal, world]
        simp
      · exact Campaign.pings_of_deeds measured.deeds

/-- The endpoints of a rehearsal. -/
def rehearsedPair : List Endpoint :=
  [⟨"redis", "127.0.0.1", 6378⟩, ⟨"valkey", "127.0.0.1", 6379⟩]

/-- The sweep of a rehearsal. -/
def rehearsedSweep : Sweep :=
  ⟨"get", "GET sweep", .get, .clients, [⟨1, 1, 10⟩, ⟨8, 1, 10⟩]⟩

/-- When the second endpoint of a rehearsal is down, nothing is run and nothing is logged. -/
theorem rehearsal_with_dead_endpoint :
    let campaign : Campaign Rehearsal := .ofClient {} (Script.bench { down := ["valkey"] })
    let stage : Stage Rehearsal := ⟨.fresh "log.txt" .empty, {}⟩
    stage.notebook.Reached ∧
      ∃ fault after,
        (campaign.runSweep rehearsedSweep rehearsedPair).run stage = .error fault after ∧
          Event.executions after.notebook.journal = [] ∧ after.notebook.logText = "" := by
  intro campaign stage
  have reached : stage.notebook.Reached := .fresh "log.txt" .empty rfl
  obtain ⟨asked, -, -, executions, -, text, -⟩ :=
    (sweep_starts_whole campaign rehearsedSweep rehearsedPair stage reached).1 _ _ rfl
  have nothing : (Notebook.fresh "log.txt" .empty).logText = "" := by decide
  exact ⟨reached, _, _, rfl, executions, text.trans nothing⟩

end LoadSweep
