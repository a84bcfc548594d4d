import LoadSweep.Plan
import LoadSweep.Proofs.Campaign.Faults

/-!
# Plans and what is run

A plan and a campaign go through the sweeps on their own: the plan maps over points and endpoints,
the campaign measures visit after visit.  The visits of a sweep make the commands that a plan lists
for it (`Campaign.commands_eq_grid`).  So whatever happens in a campaign, its runs are the first
commands of the plan (`Campaign.Course.executions`).

On a calm bench every ping is answered and nobody asks to stop.  A sweep then begins, is measured to
its end and leaves a log that can be opened for the next one (`Campaign.calm_sweep`), so all
commands of the plan are run (`plan_lists_what_runs`).
-/

namespace LoadSweep

set_option autoImplicit false

/-! ## Commands -/

namespace Event

/-- The runs of a journal that goes on are those before and those after. -/
theorem executions_after (events journal : List Event) :
    executions (events.reverse ++ journal) = executions journal ++ executions events.reverse := by
  simp [executions]

end Event

/-- Every endpoint has one command at every point. -/
theorem Sweep.length_commands (sweep : Sweep) (client : ClientSettings)
    (endpoints : List Endpoint) :
    (sweep.commands client endpoints).length = sweep.length * endpoints.length := by
  simp [commands, Sweep.length, List.length_flatMap, List.map_const']

namespace Campaign

variable {σ : Type} (campaign : Campaign σ)

/-- The commands of a sweep are those of its visits. -/
theorem commands_eq_grid (sweep : Sweep) (endpoints : List Endpoint) :
    sweep.commands campaign.client endpoints =
      (Visit.grid sweep.points endpoints).map (campaign.command sweep.operation) := by
  simp only [Sweep.commands, Visit.grid, Visit.atPoint, List.map_flatMap, List.map_map]
  rfl

/-- The visits of the first points make the first commands. -/
theorem grid_take_prefix (sweep : Sweep) (endpoints : List Endpoint) (count : Nat) :
    (Visit.grid (sweep.points.take count) endpoints).map (campaign.command sweep.operation) <+:
      sweep.commands campaign.client endpoints := by
  have parts : Visit.grid sweep.points endpoints =
      Visit.grid (sweep.points.take count) endpoints ++
        Visit.grid (sweep.points.drop count) endpoints := by
    rw [Visit.grid, Visit.grid, Visit.grid, ← List.flatMap_append, List.take_append_drop]
  rw [commands_eq_grid, parts, List.map_append]
  exact List.prefix_append ..

/-- Commands as they are run: each with the limit of the campaign. -/
def limited (commands : List Command) : List (Command × Duration) :=
  commands.map fun command => (command, campaign.limit)

theorem limited_append (earlier later : List Command) :
    campaign.limited (earlier ++ later) = campaign.limited earlier ++ campaign.limited later :=
  List.map_append

end Campaign

namespace Delivery

variable {σ : Type} {campaign : Campaign σ} {endpoints : List Endpoint}
  {receive : Series → CampaignM σ Unit} {delivery : Delivery σ}

/-- The commands that are run for a sweep: those of the points that its series has. -/
def commands (campaign : Campaign σ) (endpoints : List Endpoint) (delivery : Delivery σ) :
    List Command :=
  (Visit.grid (delivery.sweep.points.take delivery.series.length) endpoints).map
    (campaign.command delivery.sweep.operation)

/-- A complete series has all commands of its sweep. -/
theorem Sound.commands_of_complete (sound : delivery.Sound campaign endpoints)
    (whole : delivery.series.isComplete = true) :
    delivery.commands campaign endpoints = delivery.sweep.commands campaign.client endpoints := by
  have length : delivery.series.length = delivery.series.sweep.length := beq_iff_eq.mp whole
  have sweep : delivery.series.sweep = delivery.sweep := sound.fits.sweep
  rw [sweep] at length
  rw [commands, length, Sweep.length, List.take_length, Campaign.commands_eq_grid]

/-- The runs of a journal after a sweep was measured and received. -/
theorem Sound.executions_received (sound : delivery.Sound campaign endpoints)
    (aside : Campaign.Aside receive) :
    Event.executions
        (Campaign.left ((receive delivery.series).run delivery.handed)).notebook.journal =
      Event.executions delivery.begun.notebook.journal ++
        campaign.limited (delivery.commands campaign endpoints) := by
  have handover : Event.executions [Event.handedOver delivery.series].reverse = [] := rfl
  rw [sound.journal_received aside, Event.executions_after, trace, List.reverse_append,
    Event.executions_after, handover, List.append_nil, Campaign.executions_of_deeds sound.deeds,
    Campaign.limited, commands, List.map_map]
  rfl

end Delivery

namespace Campaign

variable {σ : Type} {campaign : Campaign σ} {endpoints : List Endpoint}
  {receive : Series → CampaignM σ Unit}

/-- A campaign that has gone through its sweeps: there was no fault, and every sweep has a complete
series. -/
structure Through (sweeps : List Sweep) (all : List Series) : Prop where
  number : all.length = sweeps.length
  whole : ∀ series ∈ all, series.isComplete = true

/-- Whatever course a campaign takes, it runs the first commands of its sweeps, and all of them if
it goes through them. -/
theorem Course.executions {sweeps : List Sweep} {stage final : Stage σ}
    {deliveries : List (Delivery σ)} {rest : List Event} {torn : String} {fault : Option Fault}
    (course : Course campaign endpoints receive sweeps stage deliveries rest torn fault final)
    (aside : Aside receive) :
    let planned := sweeps.flatMap (·.commands campaign.client endpoints)
    ∃ made, made <+: planned ∧
      Event.executions final.notebook.journal =
        Event.executions stage.notebook.journal ++ campaign.limited made ∧
      (fault = none → Through sweeps (deliveries.map Delivery.series) → made = planned) := by
  induction course with
  | finished =>
    exact ⟨[], List.nil_prefix, (List.append_nil _).symm, fun _ _ => rfl⟩
  | stopped =>
    refine ⟨[], List.nil_prefix, (List.append_nil _).symm, ?_⟩
    rintro - ⟨number, -⟩
    cases number
  | failed sweep sweeps _ _ _ _ _ _ failure =>
    obtain ⟨asked, visited, deeds⟩ := failure.deeds
    refine ⟨_, (campaign.grid_take_prefix sweep endpoints visited).trans ?_, ?_, nofun⟩
    · rw [List.flatMap_cons]
      exact List.prefix_append ..
    · rw [failure.tears.journal, Event.executions_after, executions_of_deeds deeds, limited,
        List.map_map]
      rfl
  | refused delivery sweeps _ _ sound reception =>
    have received := sound.executions_received aside
    rw [reception] at received
    refine ⟨_, ?_, received, nofun⟩
    rw [List.flatMap_cons]
    exact (campaign.grid_take_prefix delivery.sweep endpoints _).trans (List.prefix_append ..)
  | interrupted delivery sweeps _ sound partly reception =>
    have received := sound.executions_received aside
    rw [reception] at received
    refine ⟨_, ?_, received, ?_⟩
    · rw [List.flatMap_cons]
      exact (campaign.grid_take_prefix delivery.sweep endpoints _).trans (List.prefix_append ..)
    · rintro - ⟨-, whole⟩
      cases partly.symm.trans (whole delivery.series List.mem_cons_self)
  | onward delivery sweeps _ _ _ _ _ _ sound whole reception _ ih =>
    obtain ⟨made, first, later, all⟩ := ih
    have received := sound.executions_received aside
    rw [reception, left, sound.commands_of_complete whole] at received
    refine ⟨delivery.sweep.commands campaign.client endpoints ++ made, ?_, ?_, ?_⟩
    · rw [List.flatMap_cons]
      exact (List.prefix_append_right_inj _).mpr first
    · rw [later, received, limited_append, List.append_assoc]
    · rintro well ⟨number, complete⟩
      have others := all well
        ⟨Nat.succ.inj number, fun series member => complete series (List.mem_cons_of_mem _ member)⟩
      rw [others, List.flatMap_cons]

end Campaign

/-! ## Calm campaigns -/

namespace Bench

variable {σ : Type} {bench : Bench σ} {calm : σ → Prop}

/-- In a calm state of the bench every ping is answered and nobody asks to stop, and whatever is
done leaves it calm. -/
structure Calm (bench : Bench σ) (calm : σ → Prop) : Prop where
  answers : ∀ endpoint world, calm world → (bench.ping endpoint world).1 = .ok ()
  unstopped : ∀ world, calm world → bench.stopRequested world = false
  ping : ∀ endpoint world, calm world → calm (bench.ping endpoint world).2
  seed : ∀ endpoint world, calm world → calm (bench.seed endpoint world).2
  execute : ∀ command limit world, calm world → calm (bench.execute command limit world).2

/-- In a calm state all endpoints answer, and the pings leave it calm. -/
theorem Calm.pings (keeps : bench.Calm calm) {world : σ} (start : calm world)
    (endpoints : List Endpoint) :
    bench.AllAnswer world endpoints ∧ calm (bench.afterPings world endpoints) := by
  induction endpoints generalizing world with
  | nil => exact ⟨trivial, start⟩
  | cons endpoint endpoints ih =>
    obtain ⟨others, later⟩ := ih (keeps.ping endpoint world start)
    exact ⟨⟨keeps.answers endpoint world start, others⟩, later⟩

end Bench

namespace Campaign

variable {σ : Type} {campaign : Campaign σ} {endpoints : List Endpoint}
  {receive : Series → CampaignM σ Unit} {calm : σ → Prop}

/-- Visits leave a calm bench calm. -/
theorem calm_after (keeps : campaign.bench.Calm calm) (operation : Operation) {world : σ}
    (start : calm world) (visits : List Visit) : calm (campaign.after operation world visits) := by
  induction visits generalizing world with
  | nil => exact start
  | cons visit visits ih =>
    apply ih
    apply keeps.execute
    rw [warmed]
    split
    · exact keeps.seed visit.endpoint world start
    · exact start

/-- While the bench is calm every series is received; the bench stays calm, and a log that takes
lines still does so. -/
def Accepting (calm : σ → Prop) (receive : Series → CampaignM σ Unit) : Prop :=
  ∀ series stage, calm stage.world → stage.notebook.Writable →
    ∃ after, (receive series).run stage = .ok () after ∧ calm after.world ∧
      after.notebook.Writable

/-- On a calm bench a sweep is measured to its end, and leaves its log. -/
theorem calm_sweep (keeps : campaign.bench.Calm calm) {sweep : Sweep} {stage : Stage σ}
    (start : calm stage.world) (points : sweep.points ≠ [])
    (valid : Endpoint.validate endpoints = .ok ()) (idle : stage.notebook.current = none)
    (writable : stage.notebook.Writable) :
    ∃ series final, (campaign.runSweep sweep endpoints).run stage = .ok series final ∧
      series.isComplete = true ∧ calm final.world ∧ final.notebook.HasLog := by
  obtain ⟨reliable, -⟩ := Notebook.writable_iff.mp writable
  have starts := campaign.start sweep endpoints stage
  obtain ⟨answer, ready⟩ := keeps.pings start endpoints
  obtain ⟨series, final, ran⟩ := starts.of_writable points valid answer idle writable
  rw [ran] at starts
  cases starts with
  | measured begun _ count events _ _ _ world headed measured _ opened =>
    rw [← world] at ready
    have within := measured.stops.within
    have all : ¬ count < sweep.points.length := by
      intro fewer
      have stop := measured.stops.stops fewer
      rw [keeps.unstopped _ (calm_after keeps sweep.operation ready _)] at stop
      cases stop
    have has := (headed.reliable reliable).hasLog opened
    refine ⟨_, final, ran, beq_iff_eq.mpr ?_, ?_, measured.extended.hasLog has⟩
    · rw [Series.length, campaign.length_rows, List.length_take_of_le within]
      exact Nat.le_antisymm within (Nat.not_lt.mp all)
    · rw [measured.world]
      exact calm_after keeps sweep.operation ready _

/-- A calm campaign goes through its sweeps. -/
theorem Course.through {sweeps : List Sweep} {stage final : Stage σ}
    {deliveries : List (Delivery σ)} {rest : List Event} {torn : String} {fault : Option Fault}
    (course : Course campaign endpoints receive sweeps stage deliveries rest torn fault final)
    (keeps : campaign.bench.Calm calm) (aside : Aside receive) (accepting : Accepting calm receive)
    (points : ∀ sweep ∈ sweeps, sweep.points ≠ []) (valid : Endpoint.validate endpoints = .ok ())
    (start : calm stage.world) (idle : stage.notebook.current = none)
    (writable : stage.notebook.Writable) :
    fault = none ∧ Through sweeps (deliveries.map Delivery.series) := by
  induction course with
  | finished => exact ⟨rfl, rfl, nofun⟩
  | stopped _ _ stage stop =>
    rw [keeps.unstopped _ start] at stop
    cases stop
  | failed sweep _ _ _ _ _ _ ran =>
    obtain ⟨series, ended, measured, -⟩ :=
      calm_sweep keeps start (points sweep List.mem_cons_self) valid idle writable
    cases measured.symm.trans ran
  | refused delivery _ _ _ sound reception =>
    obtain ⟨series, ended, measured, -, quiet, has⟩ :=
      calm_sweep keeps start (points delivery.sweep List.mem_cons_self) valid idle writable
    cases measured.symm.trans sound.measured
    have handed : delivery.handed.notebook.Writable := has.writable.journal _
    obtain ⟨after, received, -⟩ := accepting delivery.series delivery.handed quiet handed
    cases received.symm.trans reception
  | interrupted delivery _ _ sound partly =>
    obtain ⟨series, ended, measured, whole, -⟩ :=
      calm_sweep keeps start (points delivery.sweep List.mem_cons_self) valid idle writable
    cases measured.symm.trans sound.measured
    cases partly.symm.trans whole
  | onward delivery sweeps _ _ _ _ after _ sound whole reception _ ih =>
    obtain ⟨series, ended, measured, -, quiet, has⟩ :=
      calm_sweep keeps start (points delivery.sweep List.mem_cons_self) valid idle writable
    cases measured.symm.trans sound.measured
    have handed : delivery.handed.notebook.Writable := has.writable.journal _
    obtain ⟨next, received, still, takes⟩ :=
      accepting delivery.series delivery.handed quiet handed
    cases received.symm.trans reception
    obtain ⟨again, -⟩ := aside.idle_received sound reception
    obtain ⟨well, number, complete⟩ :=
      ih (fun sweep member => points sweep (List.mem_cons_of_mem _ member)) still again takes
    exact ⟨well, congrArg Nat.succ number, List.forall_mem_cons.mpr ⟨whole, complete⟩⟩

end Campaign

/-- **A plan lists what is run.** For valid settings and any selection, the plan fails as the
selection fails.  Otherwise it has the note on warming up, if the settings ask for that, and then
for each chosen sweep, in the order of the settings, one heading and the lines of its commands; the
numbers in the heading multiply to the number of commands.

Whatever happens in a campaign over these sweeps, the commands it runs are the first ones of the
plan, and all of them, in the same order, if it goes through the sweeps.  It does so on a calm
bench, where every ping is answered and nobody asks to stop, when the log and the receptions have no
fault. -/
theorem plan_lists_what_runs {σ : Type} (settings : Settings)
    (valid : settings.validate = .ok ()) (selected : List String) :
    (∀ fault, settings.planLines selected = .error fault ↔
      settings.resolveSweeps selected = .error fault) ∧
    ∀ sweeps, settings.resolveSweeps selected = .ok sweeps →
      let commands (sweep : Sweep) := sweep.commands settings.client settings.endpoints
      List.Forall₂ (fun declaration sweep => declaration.resolve = .ok sweep)
        (settings.sweeps.filter fun declaration =>
          selected.isEmpty || selected.contains declaration.name) sweeps ∧
      settings.planLines selected = .ok
        ((if settings.client.warmup then [warmupNote] else []) ++
          sweeps.flatMap fun sweep =>
            sweep.planHeading settings.endpoints :: (commands sweep).map Command.line) ∧
      (∀ sweep ∈ sweeps, ∃ points endpoints : Nat,
        sweep.planHeading settings.endpoints =
            s!"# {sweep.name} ({points} points x {endpoints} endpoints): {sweep.title}" ∧
          points * endpoints = (commands sweep).length) ∧
      ∀ (campaign : Campaign σ) (receive : Series → CampaignM σ Unit) (stage : Stage σ),
        campaign.client = settings.client → Campaign.Aside receive →
        let ended := (campaign.runAll settings.endpoints receive sweeps).run stage
        let runs (stage : Stage σ) := Event.executions stage.notebook.journal
        (∃ made, made <+: sweeps.flatMap commands ∧
          runs (Campaign.left ended) = runs stage ++ campaign.limited made ∧
          ∀ all final, ended = .ok all final → Campaign.Through sweeps all →
            made = sweeps.flatMap commands) ∧
        (∀ calm : σ → Prop, campaign.bench.Calm calm → Campaign.Accepting calm receive →
          calm stage.world → stage.notebook.current = none → stage.notebook.Writable →
          ∃ all final, ended = .ok all final ∧ Campaign.Through sweeps all ∧
            runs final = runs stage ++ campaign.limited (sweeps.flatMap commands)) := by
  have checked := Settings.validate_ok_iff.mp valid
  refine ⟨?_, ?_⟩
  · intro fault
    rw [Settings.planLines]
    cases settings.resolveSweeps selected <;> simp [Except.map]
  intro sweeps resolved commands
  obtain ⟨known, chosen⟩ := Settings.resolveSweeps_ok_iff.mp resolved
  obtain ⟨others, again, -, points⟩ := checked.selected known
  cases again.symm.trans resolved
  refine ⟨chosen, ?_, ?_, ?_⟩
  · rw [Settings.planLines, resolved]
    rfl
  · intro sweep _
    exact ⟨sweep.length, settings.endpoints.length, rfl, (sweep.length_commands ..).symm⟩
  intro campaign receive stage client aside ended runs
  obtain ⟨deliveries, rest, torn, fault, final, course, ran⟩ :=
    campaign.course settings.endpoints receive sweeps stage
  obtain ⟨made, first, executed, all⟩ := course.executions aside
  simp only [client] at first all
  simp only [ended, ran, Campaign.left_conclusion]
  constructor
  · refine ⟨made, first, executed, ?_⟩
    intro series after well through
    cases fault with
    | some fault => cases well
    | none =>
      cases well
      exact all rfl through
  · intro calm keeps accepting start idle writable
    obtain ⟨rfl, through⟩ :=
      course.through keeps aside accepting points checked.endpoints start idle writable
    rw [all rfl through] at executed
    exact ⟨_, final, rfl, through, executed⟩

/-- A rehearsal without disturbances. -/
def calmScript : Script := {}

/-- The undisturbed rehearsal stays calm while it is not told to stop. -/
theorem calmScript_calm : calmScript.bench.Calm fun world => world.stopped = false where
  answers := fun _ _ _ => rfl
  unstopped := fun _ calm => calm
  ping := fun _ _ calm => calm
  seed := fun _ _ calm => calm
  execute := by
    intro command limit world calm
    change (world.stopped || false) = false
    rw [calm]
    rfl

/-- The undisturbed rehearsal receives every series. -/
theorem calmScript_accepting :
    Campaign.Accepting (fun world => world.stopped = false) calmScript.receive :=
  fun _ stage calm writable =>
    ⟨{ stage with world.receptions := stage.world.receptions + 1 }, rfl, calm, writable⟩

/-- The undisturbed rehearsal runs the sixteen commands that the plan lists after its note and a
heading. -/
theorem rehearsal_runs_its_plan :
    let selected := ["client_set"]
    let campaign : Campaign Rehearsal := .ofClient pairedSettings.client calmScript.bench
    let stage : Stage Rehearsal := ⟨.fresh "log.txt" .empty, {}⟩
    pairedSettings.validate = .ok () ∧ stage.notebook.Writable ∧
      ∃ sweeps lines all final,
        pairedSettings.resolveSweeps selected = .ok sweeps ∧
          pairedSettings.planLines selected = .ok lines ∧ lines.length = 18 ∧
          (campaign.runAll pairedSettings.endpoints calmScript.receive sweeps).run stage =
            .ok all final ∧
          (Event.executions final.notebook.journal).map (fun run => run.1.line) =
            lines.drop 2 := by
  intro selected campaign stage
  have valid : pairedSettings.validate = .ok () := by decide +kernel
  have aside : Campaign.Aside calmScript.receive := fun series stage =>
    ⟨stage.notebook.files, calmScript.notebook_receive series stage⟩
  have writable : stage.notebook.Writable := writable_in_home
  have one : ((pairedSettings.resolveSweeps selected).toOption.getD []).length = 1 := by
    decide +kernel
  have number : ((pairedSettings.planLines selected).toOption.getD []).length = 18 := by
    decide +kernel
  cases resolved : pairedSettings.resolveSweeps selected with
  | error fault =>
    rw [resolved] at one
    cases one
  | ok sweeps =>
    obtain ⟨-, planned, -, runs⟩ :=
      (plan_lists_what_runs pairedSettings valid selected).2 sweeps resolved
    obtain ⟨-, goes⟩ := runs campaign calmScript.receive stage rfl aside
    obtain ⟨all, final, ran, -, executed⟩ :=
      goes _ calmScript_calm calmScript_accepting rfl rfl writable
    rw [resolved] at one
    obtain ⟨sweep, rfl⟩ := List.length_eq_one_iff.mp one
    rw [planned] at number
    have first : Event.executions final.notebook.journal = campaign.limited
        (sweep.commands pairedSettings.client pairedSettings.endpoints) := by
      simpa [show Event.executions stage.notebook.journal = [] from rfl] using executed
    have warmup : pairedSettings.client.warmup = true := rfl
    refine ⟨valid, writable, _, _, all, final, rfl, planned, number, ran, ?_⟩
    rw [first, Campaign.limited, warmup]
    simp

end LoadSweep
