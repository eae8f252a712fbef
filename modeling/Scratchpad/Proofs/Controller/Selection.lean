import Scratchpad.Host.Basic
import Scratchpad.Proofs.Controller.FirstExample

/-!
# The selection and its program

A catalog is loaded once, and meanwhile examples are chosen, programs edited and run, all in any
order. Because an example is chosen from the catalog of the session, and the catalog is replaced
only by the load that everyone waited for, every example on its way is one of the catalog, and so
is the one that is selected. What the editor shows is the text that was fetched for it, or what was
typed since.
-/

set_option autoImplicit false

namespace Scratchpad.Controller

open Catalog (Example)
open Session (Event Placement)

variable {μ : Type}

/-! ## The catalog of an action -/

theorem examples_step (controller : Controller μ) (action : Action μ) :
    (controller.step action).session.examples =
      ((controller.event? action).bind Event.catalog?).getD controller.session.examples := by
  cases told : controller.event? action with
  | none => exact (editor_step_of_silent told).2.2
  | some event =>
    rw [session_step told]
    exact controller.session.examples_apply event

/-- A catalog reaches the session by the answer to the fetch of its manifest. -/
theorem manifest_of_catalog {controller : Controller μ} {action : Action μ}
    {examples : List Example}
    (told : (controller.event? action).bind Event.catalog? = some examples) :
    ∃ place text, action = .answer place (.fetched (.ok text)) ∧
      controller.phase? place = some .manifest ∧ Catalog.readManifest text = .ok examples := by
  obtain ⟨event, told, brings⟩ := Option.bind_eq_some_iff.mp told
  cases action with
  | answer place answer =>
    obtain ⟨phase, found, meant⟩ := Option.bind_eq_some_iff.mp told
    cases Phase.tells_of_eventOn place meant with
    | @manifest result =>
      cases result with
      | error error => cases brings
      | ok text =>
        refine ⟨place, text, rfl, found, ?_⟩
        simp only [Catalog.ofManifest, bind, Except.bind] at brings
        cases read : Catalog.readManifest text with
        | error fault =>
          rw [read] at brings
          cases brings
        | ok listed =>
          rw [read] at brings
          exact congrArg Except.ok (Option.some.inj brings)
    | _ => cases brings
  | proceed place =>
    obtain ⟨phase, _, due⟩ := Option.bind_eq_some_iff.mp told
    cases Phase.tells_of_eventDue place due <;> cases brings
  | edit program => cases told; cases brings
  | clear => cases told; cases brings
  | begin operation => cases told
  | grant => cases told

theorem not_manifest_after {controller : Controller μ} {place : Nat} {text : String}
    (found : controller.phase? place = some .manifest) :
    (controller.step (.answer place (.fetched (.ok text)))).phase? place ≠ some .manifest := by
  intro still
  simp only [step, answer, found, Phase.eventOn, conclude] at still
  rw [phase?_enter_self (controller.apply _) found] at still
  generalize manifestEvent (Catalog.ofManifest (.ok text)) = event at still
  rcases Phase.manifest.afterEvent_cases (controller.noticeOf event) event with
    ⟨_, _, next⟩ | ⟨turn, _⟩ | next
  · rw [next] at still
    cases still
  · cases turn
  · rw [next] at still
    cases still

/-! ## Examples on their way -/

/-- The example that an activity in a phase is about to fetch, or is fetching. -/
def Phase.subject? : Phase μ → Option Example
  | .listed entry | .firstExample entry _ | .chosenExample entry => some entry
  | _ => none

theorem Phase.catalog_of_afterEvent {notice : Option Session.Notice} {phase : Phase μ}
    {event : Event μ} {entry : Example}
    (about : (phase.afterEvent notice event).subject? = some entry) :
    ∃ others, event = .catalogLoaded (entry :: others) := by
  unfold Phase.afterEvent at about
  split at about
  · cases about
    exact ⟨_, rfl⟩
  all_goals cases about

theorem Phase.Tells.event? {controller : Controller μ} {place : Nat} {phase : Phase μ}
    {action : Action μ} {event : Event μ} (tells : phase.Tells place action event)
    (found : controller.phase? place = some phase) : controller.event? action = some event := by
  cases tells <;> simp [Controller.event?, found, Phase.eventOn, Phase.eventDue]

/-- An example is on its way because it was before, because it is the first of a catalog that just
arrived, or because it was chosen: from the catalog, or by itself. -/
theorem entry_of_step {controller : Controller μ} {action : Action μ} {place : Nat}
    {phase : Phase μ} {entry : Example}
    (reached : (controller.step action).phase? place = some phase)
    (about : phase.subject? = some entry) :
    (∃ previous, controller.phase? place = some previous ∧ previous.subject? = some entry) ∨
      entry ∈ (controller.step action).session.examples ∨
      (∃ file, controller.session.entry file = .ok entry) ∨
      action = .begin (.loadExample entry) := by
  have stepped := step_phase controller action place
  generalize found : controller.phase? place = before at stepped
  rw [reached] at stepped
  cases stepped with
  | same => exact .inl ⟨phase, rfl, about⟩
  | first _ =>
    obtain ⟨operation, rfl, first⟩ := begun_of_step found reached
    cases operation with
    | loadExample chosen =>
      cases List.mem_singleton.mp first
      cases about
      exact .inr (.inr (.inr rfl))
    | _ => cases Operation.isFirst first <;> simp_all [Operation.phases, Phase.subject?]
  | told tells =>
    obtain ⟨others, rfl⟩ := Phase.catalog_of_afterEvent about
    refine .inr (.inl ?_)
    rw [examples_step, tells.event? found]
    exact List.mem_cons_self
  | moved moved =>
    cases moved with
    | listed => exact .inl ⟨_, rfl, about⟩
    | found listed =>
      cases about
      exact .inr (.inr (.inl ⟨_, listed⟩))
    | _ => cases about

theorem mem_of_entry {session : Session μ} {file : String} {entry : Example}
    (found : session.entry file = .ok entry) : entry ∈ session.examples := by
  unfold Session.entry at found
  split at found
  · next listed =>
    cases found
    exact List.mem_of_find?_eq_some listed
  · cases found

/-! ## The invariant -/

/-- The catalog is empty while its manifest is being fetched, which happens at one place at most.
Every example on its way is in the catalog, and so is the one that is selected. -/
structure CatalogInvariant (controller : Controller μ) : Prop where
  single : ∀ {place other}, controller.phase? place = some .manifest →
    controller.phase? other = some .manifest → place = other
  empty : ∀ {place}, controller.phase? place = some .manifest → controller.session.examples = []
  pending : ∀ {place phase entry}, controller.phase? place = some phase →
    phase.subject? = some entry → entry ∈ controller.session.examples
  selected : ∀ {file}, controller.session.selected = some file →
    ∃ entry ∈ controller.session.examples, entry.file = file

/-- No catalog was loaded, and none is on its way. -/
structure Unlisted (controller : Controller μ) : Prop where
  empty : controller.session.examples = []
  idle : ∀ place, controller.phase? place ≠ some .manifest

/-- The operation loads a catalog. -/
def Operation.listsCatalog : Operation → Bool
  | .start | .loadCatalog => true
  | _ => false

/-- The action begins to load a catalog. -/
def Action.listsCatalog : Action μ → Bool
  | .begin operation => operation.listsCatalog
  | _ => false

theorem Operation.listsCatalog_of_manifest {operation : Operation}
    (first : (.manifest : Phase μ) ∈ operation.phases) : operation.listsCatalog = true := by
  cases operation with
  | start => rfl
  | loadCatalog => rfl
  | _ => cases List.mem_singleton.mp first

theorem Phase.closed_manifest : Phase.Closed fun phase : Phase μ => phase = .manifest := by
  constructor
  · intro notice phase event same
    rcases phase.afterEvent_cases notice event with ⟨_, _, next⟩ | ⟨_, next⟩ | next <;>
    · rw [next] at same
      cases same
  · intro controller place action phase between next moved same
    cases moved <;> cases same

/-- A manifest is being fetched because it was before, or because that has just begun. -/
theorem manifest_of_step {controller : Controller μ} {action : Action μ} {place : Nat}
    (fetching : (controller.step action).phase? place = some .manifest) :
    controller.phase? place = some .manifest ∨
      controller.phase? place = none ∧ ∃ operation : Operation, action = .begin operation ∧
        (.manifest : Phase μ) ∈ operation.phases := by
  rcases Phase.closed_manifest.before fetching rfl with ⟨_, before, rfl⟩ | begun
  · exact .inl before
  · exact .inr begun

theorem place_of_begun {controller : Controller μ} {operation : Operation} {place : Nat}
    (new : controller.phase? place = none)
    (fetching : (controller.begin operation).phase? place = some .manifest) :
    place = controller.activities.length := by
  have beyond : controller.activities.length ≤ place := by
    simpa [phase?] using new
  obtain ⟨offset, rfl⟩ := Nat.exists_eq_add_of_le beyond
  simp only [phase?, begin, List.getElem?_append_right beyond, Nat.add_sub_cancel_left] at fetching
  -- A manifest is the first of the phases in which an operation begins.
  cases offset with
  | zero => rfl
  | succ offset =>
    cases operation <;> simp [Operation.phases] at fetching
    cases offset <;> simp at fetching

/-- A catalog on its way finds no catalog in its place, so nothing that was in one is lost. -/
theorem CatalogInvariant.kept {controller : Controller μ} (valid : CatalogInvariant controller)
    {entry : Example} (listed : entry ∈ controller.session.examples) (action : Action μ) :
    entry ∈ (controller.step action).session.examples := by
  rw [examples_step]
  cases told : (controller.event? action).bind Event.catalog? with
  | none => exact listed
  | some examples =>
    obtain ⟨place, _, _, fetching, _⟩ := manifest_of_catalog told
    rw [valid.empty fetching] at listed
    cases listed

theorem CatalogInvariant.step {controller : Controller μ} (valid : CatalogInvariant controller)
    {action : Action μ} (once : action.listsCatalog = true → Unlisted controller)
    (listed : ∀ entry, action ≠ .begin (.loadExample entry)) :
    CatalogInvariant (controller.step action) := by
  have begun : ∀ {place}, (controller.step action).phase? place = some .manifest →
      controller.phase? place = some .manifest ∨
        Unlisted controller ∧ place = controller.activities.length := by
    intro place fetching
    rcases manifest_of_step fetching with before | ⟨new, operation, rfl, first⟩
    · exact .inl before
    · exact .inr ⟨once (Operation.listsCatalog_of_manifest first), place_of_begun new fetching⟩
  constructor
  case single =>
    intro place other first second
    rcases begun first with before | ⟨unlisted, new⟩
    · rcases begun second with also | ⟨unlisted, _⟩
      · exact valid.single before also
      · exact absurd before (unlisted.idle place)
    · rcases begun second with before | ⟨_, also⟩
      · exact absurd before (unlisted.idle other)
      · exact new.trans also.symm
  case empty =>
    intro place fetching
    rw [examples_step]
    cases told : (controller.event? action).bind Event.catalog? with
    | none =>
      rcases begun fetching with before | ⟨unlisted, _⟩
      · exact valid.empty before
      · exact unlisted.empty
    | some examples =>
      -- The catalog came from the only place where a manifest was being fetched.
      obtain ⟨source, text, rfl, before, _⟩ := manifest_of_catalog told
      rcases begun fetching with same | ⟨unlisted, _⟩
      · rw [valid.single same before] at fetching
        exact absurd fetching (not_manifest_after before)
      · exact absurd before (unlisted.idle source)
  case pending =>
    intro place phase entry reached about
    rcases entry_of_step reached about with ⟨previous, before, same⟩ | first | ⟨_, found⟩ | chosen
    · exact valid.kept (valid.pending before same) action
    · exact first
    · exact valid.kept (mem_of_entry found) action
    · exact absurd chosen (listed entry)
  case selected =>
    intro file chosen
    rw [selected_step] at chosen
    cases placed : controller.placement? action with
    | none =>
      rw [placed] at chosen
      obtain ⟨entry, member, same⟩ := valid.selected chosen
      exact ⟨entry, valid.kept member action, same⟩
    | some placement =>
      rw [placed] at chosen
      cases chosen
      obtain ⟨place, entry, _, same, chosen | ⟨fetching, _⟩⟩ := of_placement? placed
      · exact ⟨entry, valid.kept (valid.pending chosen rfl) action, same⟩
      · exact ⟨entry, valid.kept (valid.pending fetching rfl) action, same⟩

theorem Unlisted.step {controller : Controller μ} (unlisted : Unlisted controller)
    {action : Action μ} (other : action.listsCatalog = false) :
    Unlisted (controller.step action) := by
  constructor
  · rw [examples_step]
    cases told : (controller.event? action).bind Event.catalog? with
    | none => exact unlisted.empty
    | some examples =>
      obtain ⟨place, _, _, fetching, _⟩ := manifest_of_catalog told
      exact absurd fetching (unlisted.idle place)
  · intro place fetching
    rcases manifest_of_step fetching with before | ⟨_, operation, rfl, first⟩
    · exact unlisted.idle place before
    · simp [Action.listsCatalog, Operation.listsCatalog_of_manifest first] at other

/-! ## Runs -/

/-- A catalog is loaded once at most, and examples are chosen from it alone. -/
structure OneCatalog (actions : List (Action μ)) : Prop where
  once : (actions.filter Action.listsCatalog).length ≤ 1
  listed : ∀ entry, .begin (.loadExample entry) ∉ actions

theorem CatalogInvariant.run {controller : Controller μ} (valid : CatalogInvariant controller)
    {actions : List (Action μ)} (one : OneCatalog actions)
    (fresh : (∃ action ∈ actions, action.listsCatalog = true) → Unlisted controller) :
    CatalogInvariant (controller.run actions) := by
  induction actions generalizing controller with
  | nil => exact valid
  | cons action actions ih =>
    have stepped : CatalogInvariant (controller.step action) :=
      valid.step (fun lists => fresh ⟨action, .head _, lists⟩)
        (fun entry same => one.listed entry (same ▸ .head _))
    have rest : OneCatalog actions :=
      ⟨Nat.le_trans (List.Sublist.length_le ((List.sublist_cons_self action actions).filter _))
        one.once, fun entry member => one.listed entry (.tail _ member)⟩
    refine ih stepped rest ?_
    rintro ⟨later, member, lists⟩
    -- Of two loads of a catalog one was too many.
    cases other : action.listsCatalog with
    | false => exact (fresh ⟨later, .tail _ member, lists⟩).step other
    | true =>
      have again : 0 < (actions.filter Action.listsCatalog).length :=
        List.length_pos_of_mem (List.mem_filter.mpr ⟨member, lists⟩)
      have single := one.once
      rw [List.filter_cons_of_pos other, List.length_cons] at single
      omega

theorem CatalogInvariant.fresh (id program : String) :
    CatalogInvariant ({ session := Session.new id program } : Controller μ) := by
  constructor <;> simp [phase?, Session.new]

theorem Unlisted.fresh (id program : String) :
    Unlisted ({ session := Session.new id program } : Controller μ) := by
  constructor <;> simp [phase?, Session.new]

/-! ## What the editor shows -/

theorem isSome_selected_run {controller : Controller μ}
    (selected : controller.session.selected.isSome = true) (actions : List (Action μ)) :
    (controller.run actions).session.selected.isSome = true := by
  induction actions generalizing controller with
  | nil => exact selected
  | cons action actions ih =>
    apply ih
    rw [selected_step, Option.isSome_or, selected, Bool.or_true]

theorem catalog_fetched {session : Session μ} (empty : session.examples = [])
    (actions : List (Action μ)) :
    (({ session } : Controller μ).run actions).session.examples = [] ∨
      ∃ earlier place text later,
        actions = earlier ++ .answer place (.fetched (.ok text)) :: later ∧
        (({ session } : Controller μ).run earlier).phase? place = some .manifest ∧
        Catalog.readManifest text =
          .ok (({ session } : Controller μ).run actions).session.examples := by
  generalize reached : (({ session } : Controller μ).run actions).session.examples = examples
  by_cases none : examples = []
  · exact .inl none
  · have before : ¬ ({ session } : Controller μ).session.examples = examples := by
      intro same
      exact none (same.symm.trans empty)
    obtain ⟨earlier, action, later, rfl, unlike, like⟩ :=
      run_reaches (·.session.examples = examples) before reached
    rw [examples_step] at like
    cases told : ((({ session } : Controller μ).run earlier).event? action).bind Event.catalog? with
    | none =>
      rw [told] at like
      exact absurd like unlike
    | some brought =>
      rw [told] at like
      cases like
      obtain ⟨place, text, rfl, fetching, read⟩ := manifest_of_catalog told
      exact .inr ⟨earlier, place, text, later, rfl, fetching, read⟩

theorem superseded_session {controller : Controller μ} {place : Nat} {entry : Example}
    {base : String} (fetching : controller.phase? place = some (.firstExample entry base))
    (replaced : controller.session.selected.isSome = true ∨ controller.session.program ≠ base)
    (result : Except Catalog.Error String) :
    (controller.step (.answer place (.fetched result))).session = controller.session := by
  have refused : controller.session.acceptsDefault base = false := by
    rw [← Bool.not_eq_true, Session.acceptsDefault_iff]
    rintro ⟨free, same⟩
    rcases replaced with chosen | other
    · simp [free] at chosen
    · exact other same
  cases result with
  | error error =>
    have told : controller.event? (.answer place (.fetched (.error error))) =
        some (.exampleLoadFailed entry.file error.message) := by
      simp [event?, fetching, Phase.eventOn]
    rw [session_step told]
    rfl
  | ok program =>
    have told : controller.event? (.answer place (.fetched (.ok program))) =
        some (.defaultExampleLoaded entry.file program base) := by
      simp [event?, fetching, Phase.eventOn]
    rw [session_step told]
    simp [Session.apply, refused]

/-- The action answers the fetch of a file, and puts its text into the editor. -/
structure Loads (controller : Controller μ) (action : Action μ) (file text : String) : Prop where
  answered : ∃ place, action = .answer place (.fetched (.ok text)) ∧
    (controller.phase? place).bind (·.call?) = some (.fetch file)
  selected : (controller.step action).session.selected = some file
  program : (controller.step action).session.program = text

theorem loads_of_placement? {controller : Controller μ} {action : Action μ} {file text : String}
    (placed : controller.placement? action = some ⟨file, text⟩) :
    Loads controller action file text := by
  obtain ⟨place, entry, rfl, same, way⟩ := of_placement? placed
  cases same
  constructor
  · refine ⟨place, rfl, ?_⟩
    rcases way with chosen | ⟨fetching, _⟩
    · rw [chosen]
      rfl
    · rw [fetching]
      rfl
  · rw [selected_step, placed]
    rfl
  · rw [program_step, placed]
    rfl

/-- Whatever is selected was loaded, and what was loaded last is what is selected. -/
theorem loaded_last {session : Session μ} (unselected : session.selected = none)
    {actions : List (Action μ)} {file : String}
    (selected : (({ session } : Controller μ).run actions).session.selected = some file) :
    ∃ earlier action later text, actions = earlier ++ action :: later ∧
      Loads (({ session } : Controller μ).run earlier) action file text ∧
      ((({ session } : Controller μ).run earlier).step action).placements later = [] ∧
      (({ session } : Controller μ).run actions).session.program =
        (lastEdit? later).getD text := by
  have placed : ({ session } : Controller μ).placements actions ≠ [] := by
    intro none
    rw [(editor_of_unplaced none).2] at selected
    cases selected.symm.trans unselected
  obtain ⟨earlier, action, later, ⟨loaded, text⟩, rfl, puts, none⟩ := exists_last_placement placed
  have loads := loads_of_placement? puts
  obtain ⟨program, kept⟩ := editor_of_unplaced none
  rw [run_append, run_cons, kept, loads.selected] at selected
  cases selected
  refine ⟨earlier, action, later, text, rfl, loads, none, ?_⟩
  rw [run_append, run_cons, program, loads.program]

theorem map_entry_listing (snapshot : Session.Snapshot) :
    (Host.listing snapshot).map (·.entry) = snapshot.examples := by
  simp [Host.listing, Function.comp_def]

theorem selected_iff_of_mem_listing {snapshot : Session.Snapshot} {item : Host.Listed}
    (listed : item ∈ Host.listing snapshot) :
    item.selected = true ↔ snapshot.selected = some item.entry.file := by
  obtain ⟨entry, _, rfl⟩ := List.mem_map.mp listed
  simp

/-- What holds of the catalog, the selection and the program after actions. -/
structure SelectionKept (start : Controller μ) (actions : List (Action μ)) : Prop where
  /-- The catalog is empty, or is the one of the manifest that was fetched, in its order. -/
  catalog : (start.run actions).session.examples = [] ∨
    ∃ earlier place text later, actions = earlier ++ .answer place (.fetched (.ok text)) :: later ∧
      (start.run earlier).phase? place = some .manifest ∧
      Catalog.readManifest text = .ok (start.run actions).session.examples
  /-- The selection is a file of the catalog. -/
  listed : ∀ {file}, (start.run actions).session.selected = some file →
    ∃ entry ∈ (start.run actions).session.examples, entry.file = file
  /-- A selection may change, but does not go away. -/
  stays : (start.run actions).session.selected.isSome = true → ∀ later,
    (start.run (actions ++ later)).session.selected.isSome = true
  /-- The program is the text that was fetched for the selected file, by the load that selected it
  and has been the last one since, or what was typed after that load. -/
  shown : ∀ {file}, (start.run actions).session.selected = some file →
    ∃ earlier action later text, actions = earlier ++ action :: later ∧
      Loads (start.run earlier) action file text ∧
      ((start.run earlier).step action).placements later = [] ∧
      (start.run actions).session.program = (lastEdit? later).getD text
  /-- The fetch of the first example remembers the program as it was when the fetch began. Its
  answer changes nothing once something is selected or the program is another one. -/
  superseded : ∀ {place entry base},
    (start.run actions).phase? place = some (.firstExample entry base) →
    (∃ earlier later, actions = earlier ++ .proceed place :: later ∧
      (start.run earlier).phase? place = some (.listed entry) ∧
      (start.run earlier).session.program = base) ∧
    ((start.run actions).session.selected.isSome = true ∨
      (start.run actions).session.program ≠ base → ∀ result,
        (start.run (actions ++ [.answer place (.fetched result)])).session =
          (start.run actions).session)
  /-- The listing has the entries of the catalog in their order. Those with the selected file are
  marked, and one is as soon as there is a selection. -/
  listing : ∀ notice, ∃ listed,
    Host.Request.reply (start.run actions).session.snapshot notice .listExamples =
      .done (.examples listed) ∧
    listed.map (·.entry) = (start.run actions).session.examples ∧
    (∀ item ∈ listed, item.selected = true ↔
      (start.run actions).session.selected = some item.entry.file) ∧
    ((start.run actions).session.selected.isSome = true → ∃ item ∈ listed, item.selected = true)

/-- In every interleaving of one load of a catalog with choices from it and anything else, the
selection is one of the catalog, and the program is what was loaded for it or typed since. -/
theorem selection_kept (id program : String) {actions : List (Action μ)}
    (one : OneCatalog actions) :
    SelectionKept { session := Session.new id program } actions := by
  have valid : CatalogInvariant
      (({ session := Session.new id program } : Controller μ).run actions) :=
    (CatalogInvariant.fresh id program).run one fun _ => .fresh id program
  constructor
  case catalog => exact catalog_fetched rfl actions
  case listed => exact valid.selected
  case stays =>
    intro selected later
    rw [run_append]
    exact isSome_selected_run selected later
  case shown => exact loaded_last rfl
  case superseded =>
    intro place entry base fetching
    refine ⟨firstExample_begun fetching, fun replaced result => ?_⟩
    rw [run_append]
    exact superseded_session fetching replaced result
  case listing =>
    intro notice
    refine ⟨_, rfl, map_entry_listing _, fun item => selected_iff_of_mem_listing, ?_⟩
    intro selected
    obtain ⟨file, chosen⟩ := Option.isSome_iff_exists.mp selected
    obtain ⟨entry, member, rfl⟩ := valid.selected chosen
    refine ⟨⟨entry, _⟩, List.mem_map.mpr ⟨entry, member, rfl⟩, ?_⟩
    simp [Session.snapshot, chosen]

/-- An example is chosen and arrives while the first one of the catalog is still being fetched. -/
theorem selection_kept_over_first_example :
    let actions : List (Action String) :=
      [.begin .loadCatalog, .answer 0 (.fetched (.ok
          "[\x7b\"name\":\"I\",\"file\":\"id\"\x7d, \x7b\"name\":\"T\",\"file\":\"twice\"\x7d]")),
        .proceed 0, .begin (.selectExample "twice"), .proceed 1, .edit "typed",
        .answer 1 (.fetched (.ok "twice inc 0")), .answer 0 (.fetched (.ok "fun x -> x"))]
    ((({ session := Session.new "id" "program" } : Controller String).run
        actions).session.selected = some "twice" ∧
      (({ session := Session.new "id" "program" } : Controller String).run
        actions).session.program = "twice inc 0") ∧
    SelectionKept { session := Session.new "id" "program" } actions :=
  ⟨by decide +kernel, selection_kept "id" "program" ⟨by decide, by simp⟩⟩

end Scratchpad.Controller
