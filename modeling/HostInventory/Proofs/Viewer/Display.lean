import HostInventory.Proofs.Number.TimeText
import HostInventory.Proofs.Viewer.DrillDown

/-!
What is on screen after a snapshot has been displayed, and what keys and the cursor leave of it. All
parts of the screen come from one snapshot, and this stays so until another one is displayed.
-/
namespace HostInventory

open HostInventory.Action

variable {snapshot : Snapshot}

def Snapshot.servicesIn (snapshot : Snapshot) (state : ServiceState) : List ServiceRecord :=
  snapshot.services.filter fun service => service.state = state

namespace Header

variable {header after : Header} {text : String}

/-- The texts of a header give the times and the numbers of a snapshot. -/
structure Tells (header : Header) (snapshot : Snapshot) : Prop where
  time : ∃ uptime booted, header.time = "Uptime: " ++ uptime ++ "\nBooted: " ++ booted ∧
    Duration.Tells uptime snapshot.uptime ∧ Date.Tells booted snapshot.bootTime
  counts : header.counts = "Processes: " ++ toString snapshot.processes.length ++
    "  Threads: " ++ toString snapshot.threadCount ++
    "\nServices: " ++ toString (snapshot.servicesIn .running).length ++ " running, " ++
    toString (snapshot.servicesIn .stopped).length ++ " stopped"

theorem time_of_timeText (made : timeText (some snapshot) = .ok text) :
    ∃ uptime booted, text = "Uptime: " ++ uptime ++ "\nBooted: " ++ booted ∧
      Duration.Tells uptime snapshot.uptime ∧ Date.Tells booted snapshot.bootTime := by
  obtain ⟨booted, dated, made⟩ := outcome_bind_eq_ok.mp made
  obtain ⟨uptime, timed, made⟩ := outcome_bind_eq_ok.mp made
  cases made
  exact ⟨uptime, booted, rfl, Duration.tells_of_format timed, Date.tells_of_format dated⟩

theorem length_services_sub (services : List ServiceRecord) :
    services.length - services.countP (fun service => service.state == .running) =
      (services.filter fun service => service.state = .stopped).length := by
  induction services with
  | nil => rfl
  | cons service rest ih =>
    have most := rest.countP_le_length (p := fun service => service.state == .running)
    rw [List.countP_cons, List.filter_cons, List.length_cons]
    cases state : service.state with
    | running => simpa using ih
    | stopped =>
      simp only [reduceCtorEq, beq_iff_eq, if_false, decide_true, if_true, List.length_cons]
      omega

theorem counts_of_countText (made : countText (some snapshot) = .ok text) :
    text = "Processes: " ++ toString snapshot.processes.length ++
      "  Threads: " ++ toString snapshot.threadCount ++
      "\nServices: " ++ toString (snapshot.servicesIn .running).length ++ " running, " ++
      toString (snapshot.servicesIn .stopped).length ++ " stopped" := by
  have running : snapshot.services.countP (fun service => service.state == .running) =
      (snapshot.servicesIn .running).length := List.countP_eq_length_filter
  have stopped := length_services_sub snapshot.services
  obtain ⟨threads, written, made⟩ := outcome_bind_eq_ok.mp made
  obtain ⟨_, rfl⟩ := Numeral.text?_eq_ok_iff.mp written
  rw [stopped, running] at made
  exact (Except.ok.inj made).symm

theorem perform_update :
    (update snapshot).perform header = (.ok (), after) ↔
      ∃ time counts, timeText (some snapshot) = .ok time ∧
        countText (some snapshot) = .ok counts ∧
        after = ⟨some snapshot, time, counts⟩ := by
  simp only [update, perform_bind, perform_modify, perform_ofExcept]
  cases timeText (some snapshot) with
  | error failure => simp
  | ok time =>
    cases countText (some snapshot) with
    | error failure => simp
    | ok counts => simp [eq_comm]

theorem tells_of_update (done : (update snapshot).perform header = (.ok (), after)) :
    after.Tells snapshot := by
  obtain ⟨time, counts, timed, counted, rfl⟩ := perform_update.1 done
  exact ⟨time_of_timeText timed, counts_of_countText counted⟩

end Header

namespace ServiceTable

variable {service : ServiceRecord} {services : List ServiceRecord} {rows after : ServiceTable}

def cells (service : ServiceRecord) : List String :=
  [service.name, if service.processId = 0 then "-" else toString service.processId,
    match service.state with
    | .running => "running"
    | .stopped => "stopped"]

theorem rowOf_eq_ok {row : List String} (made : rowOf service = .ok row) : row = cells service := by
  have state : service.state.name = match service.state with
      | .running => "running"
      | .stopped => "stopped" := by
    cases service.state with
    | running | stopped => rfl
  unfold rowOf at made
  rw [cells, ← state]
  by_cases unknown : service.processId = 0
  · rw [if_pos unknown] at made ⊢
    exact (Except.ok.inj made).symm
  · rw [if_neg unknown] at made ⊢
    obtain ⟨pid, written, made⟩ := outcome_bind_eq_ok.mp made
    obtain ⟨_, rfl⟩ := Numeral.text?_eq_ok_iff.mp written
    exact (Except.ok.inj made).symm

theorem perform_addRow :
    (addRow service).perform rows = (.ok (), after) ↔
      ∃ row, rowOf service = .ok row ∧ after = rows ++ [row] := by
  simp only [addRow, perform_bind, perform_ofExcept]
  cases rowOf service <;> simp [eq_comm]

theorem perform_addRows :
    (services.forM addRow).perform rows = (.ok (), after) ↔
      ∃ added, services.mapM rowOf = .ok added ∧ after = rows ++ added := by
  induction services generalizing rows with
  | nil =>
    rw [perform_forM_nil]
    simp [pure, Except.pure, eq_comm]
  | cons service rest ih =>
    simp only [perform_forM_cons, perform_addRow, ih, mapM_cons_eq_ok]
    constructor
    · rintro ⟨_, ⟨row, written, rfl⟩, others, later, rfl⟩
      exact ⟨row :: others, ⟨row, others, written, later, rfl⟩, by simp⟩
    · rintro ⟨_, ⟨row, others, written, later, rfl⟩, rfl⟩
      exact ⟨rows ++ [row], ⟨row, written, rfl⟩, others, later, by simp⟩

theorem eq_map_cells (made : services.mapM rowOf = .ok rows) : rows = services.map cells := by
  induction services generalizing rows with
  | nil =>
    cases made
    rfl
  | cons service rest ih =>
    obtain ⟨row, others, first, later, rfl⟩ := mapM_cons_eq_ok.1 made
    rw [rowOf_eq_ok first, ih later, List.map_cons]

theorem perform_update :
    (update services).perform rows = (.ok (), after) ↔ services.mapM rowOf = .ok after := by
  have cleared : (update services).perform rows = (services.forM addRow).perform [] := rfl
  rw [cleared, perform_addRows]
  simp

theorem exists_mapM_iff :
    (∃ rows, services.mapM rowOf = .ok rows) ↔
      ∀ service ∈ services, (rowOf service).isOk = true := by
  induction services with
  | nil => simp [pure, Except.pure]
  | cons service rest ih =>
    rw [List.forall_mem_cons, ← ih, isOk_iff]
    simp only [mapM_cons_eq_ok]
    constructor
    · rintro ⟨_, row, others, first, later, rfl⟩
      exact ⟨⟨row, first⟩, others, later⟩
    · rintro ⟨⟨row, first⟩, others, later⟩
      exact ⟨_, row, others, first, later, rfl⟩

end ServiceTable

namespace Screen

variable {screen after : Screen}

theorem perform_onHeader {a : Action Header Unit} :
    (onHeader a).perform screen = (.ok (), after) ↔
      ∃ header, a.perform screen.header = (.ok (), header) ∧ after = { screen with header } := by
  have run : (onHeader a).perform screen =
      ((a.perform screen.header).1, { screen with header := (a.perform screen.header).2 }) := rfl
  rw [run]
  rcases a.perform screen.header with ⟨outcome, header⟩
  simp [eq_comm]

theorem perform_onServices {a : Action ServiceTable Unit} :
    (onServices a).perform screen = (.ok (), after) ↔
      ∃ services, a.perform screen.services = (.ok (), services) ∧
        after = { screen with services } := by
  have run : (onServices a).perform screen =
      ((a.perform screen.services).1, { screen with services := (a.perform screen.services).2 }) :=
    rfl
  rw [run]
  rcases a.perform screen.services with ⟨outcome, services⟩
  simp [eq_comm]

theorem perform_display :
    (display snapshot).perform screen = (.ok (), after) ↔
      ∃ header processes services,
        (Header.update snapshot).perform screen.header = (.ok (), header) ∧
        (ProcessTable.update snapshot.processes).perform screen.processes = (.ok (), processes) ∧
        (ServiceTable.update snapshot.services).perform screen.services = (.ok (), services) ∧
        after = { screen with header, processes, services } := by
  simp only [display, perform_then_eq_ok, perform_onHeader, perform_onProcesses,
    perform_onServices]
  constructor
  · rintro ⟨_, ⟨header, titled, rfl⟩, _, ⟨processes, listed, rfl⟩, services, served, rfl⟩
    exact ⟨header, processes, services, titled, listed, served, rfl⟩
  · rintro ⟨header, processes, services, titled, listed, served, rfl⟩
    exact ⟨_, ⟨header, titled, rfl⟩, _, ⟨processes, listed, rfl⟩, services, served, rfl⟩

/-- Everything that a screen would show of a snapshot has a text. -/
structure CanShow (screen : Screen) (snapshot : Snapshot) : Prop where
  time : (Header.timeText (some snapshot)).isOk = true
  counts : (Header.countText (some snapshot)).isOk = true
  processes : ∀ process ∈
    { screen.processes.selection with processes := snapshot.processes : Selection }.visible,
    ProcessTable.IsWritable process
  services : ∀ service ∈ snapshot.services, (ServiceTable.rowOf service).isOk = true

/-- Header, services and process table show one snapshot. The rows of the process table are those of
the processes that the filter lets through. -/
structure Portrays (screen : Screen) (snapshot : Snapshot) : Prop where
  header : screen.header.Tells snapshot
  services : screen.services = snapshot.services.map ServiceTable.cells
  processes : screen.processes.selection.processes = snapshot.processes
  rows : screen.processes.Mirrors screen.processes.selection

/-- A snapshot gets on screen exactly if all that is to be shown of it has a text. -/
theorem exists_perform_display_iff (coherent : screen.processes.Coherent) :
    (∃ after, (display snapshot).perform screen = (.ok (), after)) ↔ screen.CanShow snapshot := by
  have listed : (∃ processes, (ProcessTable.carryOut (.update snapshot.processes)).perform
      screen.processes = (.ok (), processes)) ↔ _ :=
    ProcessTable.exists_perform_carryOut_iff coherent
  constructor
  · rintro ⟨_, done⟩
    obtain ⟨_, processes, services, titled, updated, served, _⟩ := perform_display.1 done
    obtain ⟨time, counts, dated, counted, _⟩ := Header.perform_update.1 titled
    exact ⟨isOk_iff.2 ⟨time, dated⟩, isOk_iff.2 ⟨counts, counted⟩, listed.1 ⟨processes, updated⟩,
      ServiceTable.exists_mapM_iff.1 ⟨services, ServiceTable.perform_update.1 served⟩⟩
  · rintro ⟨dated, counted, writable, named⟩
    obtain ⟨time, dated⟩ := isOk_iff.1 dated
    obtain ⟨counts, counted⟩ := isOk_iff.1 counted
    obtain ⟨processes, updated⟩ := listed.2 writable
    obtain ⟨services, served⟩ := ServiceTable.exists_mapM_iff.2 named
    exact ⟨_, perform_display.2 ⟨_, processes, services,
      Header.perform_update.2 ⟨time, counts, dated, counted, rfl⟩, updated,
      ServiceTable.perform_update.2 served, rfl⟩⟩

theorem portrays_of_display (coherent : screen.processes.Coherent)
    (done : (display snapshot).perform screen = (.ok (), after)) :
    after.processes.Faithful ∧ after.Portrays snapshot := by
  obtain ⟨header, processes, _, titled, updated, served, rfl⟩ := perform_display.1 done
  have rows := ServiceTable.eq_map_cells (ServiceTable.perform_update.1 served)
  have listed : (ProcessTable.carryOut (.update snapshot.processes)).perform screen.processes =
      (.ok (), processes) := updated
  obtain ⟨faithful, selected⟩ := ProcessTable.faithful_carryOut coherent listed
  have same : processes.selection.processes = snapshot.processes := by
    rw [selected]
    rfl
  exact ⟨faithful, Header.tells_of_update titled, rows, same, faithful.mirrors⟩

/-- What keys and the cursor leave of a screen: at most the process table is drawn afresh, from the
same processes. -/
structure Rearranges (screen after : Screen) : Prop where
  header : after.header = screen.header
  services : after.services = screen.services
  processes : after.processes.selection.processes = screen.processes.selection.processes
  faithful : after.processes.Faithful

theorem Rearranges.portrays (same : screen.Rearranges after) (portrays : screen.Portrays snapshot) :
    after.Portrays snapshot where
  header := by rw [same.header]; exact portrays.header
  services := by rw [same.services]; exact portrays.services
  processes := same.processes.trans portrays.processes
  rows := same.faithful.mirrors

variable (faithful : screen.processes.Faithful)

include faithful

theorem rearranges_self : screen.Rearranges screen := ⟨rfl, rfl, rfl, faithful⟩

theorem rearranges_redraw {operation : ProcessTable.Operation} {processes : ProcessTable}
    (redraw : operation.IsRedraw)
    (done : (ProcessTable.carryOut operation).perform screen.processes = (.ok (), processes))
    (notices : List String) : screen.Rearranges { screen with processes, notices } := by
  obtain ⟨kept, selected⟩ := ProcessTable.faithful_carryOut faithful.coherent done
  refine ⟨rfl, rfl, ?_, kept⟩
  change processes.selection.processes = _
  rw [selected]
  cases operation with
  | update processes => cases redraw
  | cycleSort | setFilter => rfl

theorem rearranges_sort (done : sort.perform screen = (.ok (), after)) :
    screen.Rearranges after := by
  obtain ⟨key, between, sorted, noticed⟩ := perform_bind_eq_ok.1 done
  obtain ⟨processes, cycled, rfl⟩ := perform_onProcesses.1 sorted
  have operation : (ProcessTable.carryOut .cycleSort).perform screen.processes =
      (.ok (), processes) := by
    rw [ProcessTable.carryOut, perform_discard, cycled]
    rfl
  have redraw : ProcessTable.Operation.cycleSort.IsRedraw := trivial
  cases noticed
  exact rearranges_redraw faithful redraw operation _

theorem rearranges_setFilter {filter : Option PidSet}
    (done : (onProcesses (ProcessTable.setFilter filter)).perform screen = (.ok (), after))
    (notices : List String) : screen.Rearranges { after with notices } := by
  obtain ⟨processes, filtered, rfl⟩ := perform_onProcesses.1 done
  have operation : (ProcessTable.carryOut (.setFilter filter)).perform screen.processes =
      (.ok (), processes) := filtered
  have redraw : (ProcessTable.Operation.setFilter filter).IsRedraw := trivial
  exact rearranges_redraw faithful redraw operation notices

theorem rearranges_drillDown (done : drillDown.perform screen = (.ok (), after)) :
    screen.Rearranges after := by
  rw [drillDown, perform_bind, perform_get] at done
  cases lit : screen.highlighted? with
  | none =>
    simp only [lit] at done
    cases done
    exact rearranges_self faithful
  | some pid =>
    simp only [lit] at done
    obtain ⟨between, narrowed, rest⟩ := perform_then_eq_ok.1 done
    obtain ⟨text, _, written, noticed⟩ := perform_bind_eq_ok.1 rest
    obtain ⟨_, rfl⟩ := Prod.mk.inj written
    cases noticed
    exact rearranges_setFilter faithful narrowed _

theorem rearranges_press {key : String} (done : (press key).perform screen = (.ok (), after)) :
    screen.Rearranges after := by
  unfold press at done
  split at done
  · exact rearranges_sort faithful done
  · exact rearranges_drillDown faithful done
  · exact rearranges_setFilter faithful done after.notices
  · cases done
    exact rearranges_self faithful

theorem rearranges_moveCursor (place : Nat) :
    ∃ after, (moveCursor place).perform screen = (.ok (), after) ∧ screen.Rearranges after :=
  ⟨_, rfl, rfl, rfl, rfl, faithful.rows, faithful.shown⟩

end Screen

end HostInventory
