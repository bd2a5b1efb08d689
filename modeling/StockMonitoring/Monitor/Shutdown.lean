import StockMonitoring.Foundation.Run
import StockMonitoring.Infrastructure.Providers.Browsers

set_option autoImplicit false

/-!
# Monitor: the browsers and the shutdown

The checks of a tick share the one instance of a provider, and `initialize` awaits twice
between its test of `_browser` and the assignment: two first checks both start a driver and a
browser, and the instance keeps one of each.  A driver that was started before a failed
`launch` is overwritten by the next `initialize`.  `main` cancels the scheduler task and
closes the providers without waiting for the checks to end.

Where a driver comes up only while its provider holds none, no failed call leaves a process
behind and no `close` raises, every process is held or stopped, and all are stopped once
`main` has closed the providers (`none_leaked_run`).
-/

namespace StockMonitoring.Monitor

open StockMonitoring.Foundation StockMonitoring.Domain StockMonitoring.Infrastructure.Providers

/-! ## The process -/

/-- A check of a retailer, up to the end of `initialize`. -/
def initializeProvider (slug : String) (location : LocationContext) : Browsing Unit := do
  let provider ← browse (.registryGet slug)
  initializeInstance provider location

/-- The loop of `main` over the active providers. -/
def closeProviders : List String → Browsing Unit
  | [] => pure ()
  | slug :: rest => do
      let provider ← browse (.registryGet slug)
      close provider
      closeProviders rest

/-- `main` after the cancellation of its scheduler task, up to the last provider. -/
def shutdown : Browsing Unit := do
  let slugs ← browse .listActiveSlugs
  closeProviders slugs

/-- What runs in the event loop of the monitor. -/
inductive BrowserTask where
  /-- the `initialize` of a check -/
  | check (slug : String) (location : LocationContext)
  /-- the end of `main` -/
  | shutdown
  deriving DecidableEq

/-- The tasks of the monitor that touch a browser. -/
def browserTasks (config : BrowserConfig) :
    TaskSpec BrowserTask browserPort BrowsingError Unit BrowserStore Ending where
  effects := ⟨awaits, respond config⟩
  calm := .returns
  program
    | .check slug location => initializeProvider slug location
    | .shutdown => shutdown
  cancels := Ending.cancels

/-- A task of the monitor. -/
abbrev ProviderTask : Type := Task BrowserTask browserPort BrowsingError Unit

/-- The tasks and the providers. -/
abbrev BrowserSystem : Type := TaskSystem BrowserTask browserPort BrowsingError Unit BrowserStore

/-- What happens next. -/
inductive BrowserMove where
  /-- a check calls `initialize` -/
  | check (slug : String) (location : LocationContext)
  /-- the awaited call of task `index` ends -/
  | resume (index : Nat) (ending : Ending)
  /-- the stop event: `main` cancels the scheduler task, and with it the checks of its tick,
  and begins to close the providers -/
  | stop

/-- `main` has left its wait. -/
def stopping (system : BrowserSystem) : Bool :=
  system.tasks.any fun task => task.key == .shutdown

/-- One step; `none` when it is not possible. -/
def browserStep (config : BrowserConfig) (system : BrowserSystem) :
    BrowserMove → Option BrowserSystem
  | .check slug location =>
      if stopping system then none
      else some ((browserTasks config).start (.check slug location) system)
  | .resume index ending => (browserTasks config).resume index ending system
  | .stop =>
      if stopping system then none
      else some ((browserTasks config).start .shutdown (TaskSpec.cancelAll system))

/-- The monitor has begun. -/
def BrowserSystem.start : BrowserSystem := ⟨[], .empty⟩

/-! ## What is leaked -/

/-- The provider holds the process. -/
def Held (store : BrowserStore) (slug : String) : Process → Prop
  | .driver playwright => store.playwright slug = some playwright
  | .browser browser => store.browser slug = some browser

/-- Every process is held by its provider or has been stopped. -/
def Accounted (store : BrowserStore) : Prop :=
  ∀ slug process, (slug, process) ∈ store.started →
    Held store slug process ∨ process ∈ store.stopped

/-- `main` has come to the end of the shutdown. -/
def HasShutDown (system : BrowserSystem) : Prop :=
  ∃ task ∈ system.tasks, task.key = .shutdown ∧ task.program.inProgress = false

/-- Every process is held or stopped, and after the shutdown all are stopped. -/
structure NoneLeaked (system : BrowserSystem) : Prop where
  accounted : Accounted system.store
  stopped : HasShutDown system → ∀ entry ∈ system.store.started, entry.2 ∈ system.store.stopped

/-- The end of a call that leaves nothing behind: a driver comes up while its provider holds
none, a call that raises has started nothing, and the calls of `close` return. -/
def OrderlyEnd (store : BrowserStore) : Ending → BrowserOp → Prop
  | .returns, .start slug => store.playwright slug = none
  | .raisesAfter _, .start _ | .raisesAfter _, .launch _ _ => False
  | .raises _, .closeBrowser _ | .raisesAfter _, .closeBrowser _ => False
  | .raises _, .stopPlaywright _ | .raisesAfter _, .stopPlaywright _ => False
  | _, _ => True

instance (store : BrowserStore) (ending : Ending) (op : BrowserOp) :
    Decidable (OrderlyEnd store ending op) := by
  cases ending <;> cases op <;> unfold OrderlyEnd <;> infer_instance

/-- The call a program waits for. -/
def awaited : Browsing Unit → Option BrowserOp
  | .call op _ => some op
  | .ret _ | .raise _ => none

/-- The awaited call ends in order. -/
def Orderly (system : BrowserSystem) : BrowserMove → Prop
  | .resume index ending => ∀ task ∈ system.tasks[index]?, ∀ op ∈ awaited task.program,
      OrderlyEnd system.store ending op
  | .check _ _ | .stop => True

instance (system : BrowserSystem) : (move : BrowserMove) → Decidable (Orderly system move)
  | .resume index ending => inferInstanceAs (Decidable (∀ task ∈ system.tasks[index]?,
      ∀ op ∈ awaited task.program, OrderlyEnd system.store ending op))
  | .check _ _ | .stop => isTrue trivial

instance (system : BrowserSystem) : Decidable (HasShutDown system) :=
  inferInstanceAs (Decidable (∃ task ∈ system.tasks, _))

/-! ## How far a task has come -/

/-- The calls that touch the page of a check only. -/
def onPage : BrowserOp → Prop
  | .newPage _ | .goto _ | .click _ | .fill _ _ | .closePage => True
  | _ => False

theorem awaits_of_onPage (op : BrowserOp) (hop : onPage op) : awaits op = true := by
  cases op <;> first | rfl | cases hop

/-- They start and stop nothing. -/
theorem respond_onPage {config : BrowserConfig} {op : BrowserOp} (hop : onPage op)
    (ending : Ending) (store : BrowserStore) : (respond config op ending store).2 = store := by
  cases ending <;> cases op <;> first | rfl | cases hop

theorem setLocation_onPage (site : RetailSite) (location : LocationContext) :
    (setLocation site location).CallsOnly onPage :=
  (Co.callsOnly_perform (by trivial)).bind fun _ =>
    (Co.callsOnly_perform (by trivial)).bind fun _ => Co.callsOnly_perform (by trivial)

theorem finallyClosePage_onPage (result : Except BrowsingError Unit) :
    (finallyClosePage result).CallsOnly onPage := by
  refine (Co.callsOnly_perform (by trivial)).bind fun _ => ?_
  cases result <;> trivial

/-- Once there is a browser, `initialize` touches its page only. -/
theorem visit_onPage (site : RetailSite) (location : LocationContext) (browser : Browser) :
    (visit site location browser).CallsOnly onPage := by
  have hpass : ∀ result, (passTimeout result).CallsOnly onPage := by
    intro result
    unfold passTimeout
    split <;> trivial
  refine (Co.callsOnly_perform (by trivial)).bind fun _ => ?_
  refine Co.CallsOnly.attempt ?_ finallyClosePage_onPage
  exact (Co.callsOnly_perform (by trivial)).bind fun _ =>
    (setLocation_onPage site location).attempt hpass

/-- What remains of a check. -/
inductive CheckRemains (store : BrowserStore) (cancelled : Bool) : Browsing Unit → Prop
  | starting (site : RetailSite) (location : LocationContext)
      (hactive : site.slug ∈ store.instances) :
      CheckRemains store cancelled (startPlaywright site location)
  | launching (site : RetailSite) (location : LocationContext) (playwright : Nat)
      (hactive : site.slug ∈ store.instances)
      (hheld : cancelled = false → store.playwright site.slug = some playwright ∧
        store.browser site.slug = none) :
      CheckRemains store cancelled (launchBrowser site location playwright)
  | visiting (program : Browsing Unit) (hpage : program.CallsOnly onPage) :
      CheckRemains store cancelled program

/-- The provider holds nothing. -/
def Idle (store : BrowserStore) (slug : String) : Prop :=
  store.playwright slug = none ∧ store.browser slug = none

/-- What remains of the shutdown. -/
inductive ClosingRemains (store : BrowserStore) : Browsing Unit → Prop
  | browser (site : RetailSite) (browser : Browser) (rest : List String)
      (hheld : store.browser site.slug = some browser)
      (hrest : ∀ slug ∈ rest, slug ∈ store.instances)
      (hdone : ∀ slug, slug ∉ site.slug :: rest → Idle store slug) :
      ClosingRemains store (closeBrowser site browser >>= fun _ => closeProviders rest)
  | driver (site : RetailSite) (playwright : Nat) (rest : List String)
      (hheld : store.playwright site.slug = some playwright)
      (hbrowser : store.browser site.slug = none)
      (hrest : ∀ slug ∈ rest, slug ∈ store.instances)
      (hdone : ∀ slug, slug ∉ site.slug :: rest → Idle store slug) :
      ClosingRemains store (stopPlaywright site playwright >>= fun _ => closeProviders rest)
  | done (hdone : ∀ slug, Idle store slug) : ClosingRemains store (.ret ())

/-- A check that leaves the provider to `main`: it is cancelled, or past the browser. -/
def Settled (task : ProviderTask) : Prop :=
  task.key ≠ .shutdown ∧ (task.cancelled = true ∨ task.program.CallsOnly onPage)

/-- A check waits for a browser of this provider. -/
def Launching (slug : String) (task : ProviderTask) : Prop :=
  task.cancelled = false ∧ ∃ site location playwright, site.slug = slug ∧
    task.program = launchBrowser site location playwright

/-- What holds of a task. -/
def TaskSound (store : BrowserStore) (task : ProviderTask) : Prop :=
  match task.key with
  | .check _ _ => CheckRemains store task.cancelled task.program
  | .shutdown => task.cancelled = false ∧ ClosingRemains store task.program

/-- What holds of two tasks. -/
def TasksApart (task other : ProviderTask) : Prop :=
  (∀ slug, Launching slug task → ¬ Launching slug other) ∧ (task.key = .shutdown → Settled other)

/-- What holds of the providers. -/
structure StoreSound (config : BrowserConfig) (store : BrowserStore) : Prop where
  accounted : Accounted store
  registered : ∀ slug ∈ store.instances,
    (config.factories.find? fun site => site.slug == slug).isSome
  active : ∀ slug, slug ∉ store.instances → Idle store slug
  /-- a browser has its driver beside it -/
  driven : ∀ slug, store.playwright slug = none → store.browser slug = none

/-- The invariant. -/
structure BrowsersSound (config : BrowserConfig) (system : BrowserSystem) : Prop where
  store : StoreSound config system.store
  tasks : Placed (TaskSound system.store) TasksApart system.tasks

/-! ## The tasks beside the one that moves -/

section Beside

variable {store next : BrowserStore} {cancelled : Bool} {program : Browsing Unit} {slug : String}
  {task : ProviderTask}

/-- Who waits for a browser waits for one of one provider. -/
theorem slug_of_launchBrowser {site other : RetailSite} {location elsewhere : LocationContext}
    {playwright held : Nat}
    (hprogram : launchBrowser site location playwright = launchBrowser other elsewhere held) :
    site.slug = other.slug ∧ playwright = held := by
  have hop : some (BrowserOp.launch site.slug playwright) = some (.launch other.slug held) :=
    congrArg awaited hprogram
  exact BrowserOp.launch.inj (Option.some.inj hop)

/-- A task on its page does not wait for a browser. -/
theorem not_launching_of_onPage (hpage : task.program.CallsOnly onPage) :
    ¬ Launching slug task := by
  rintro ⟨_, site, location, playwright, _, hprogram⟩
  rw [hprogram] at hpage
  exact hpage.1

theorem not_launching_starting {site : RetailSite} {location : LocationContext}
    (hprogram : task.program = startPlaywright site location) : ¬ Launching slug task := by
  rintro ⟨_, other, _, _, _, hother⟩
  cases hprogram.symm.trans hother

/-- A check depends on what is held by the provider it waits for a browser of. -/
theorem CheckRemains.move (hremains : CheckRemains store cancelled program)
    (hinstances : ∀ slug ∈ store.instances, slug ∈ next.instances)
    (hheld : ∀ site location playwright, program = launchBrowser site location playwright →
      cancelled = false → next.playwright site.slug = store.playwright site.slug ∧
        next.browser site.slug = store.browser site.slug) :
    CheckRemains next cancelled program := by
  cases hremains with
  | starting site location hactive => exact .starting site location (hinstances _ hactive)
  | launching site location playwright hactive hholds =>
      refine .launching site location playwright (hinstances _ hactive) ?_
      intro hgoes
      obtain ⟨hplaywright, hbrowser⟩ := hheld site location playwright rfl hgoes
      rw [hplaywright, hbrowser]
      exact hholds hgoes
  | visiting program hpage => exact .visiting program hpage

/-- A check whose provider holds what it held stays sound. -/
theorem TaskSound.beside (hsound : TaskSound store task) (hkey : task.key ≠ .shutdown)
    (hinstances : next.instances = store.instances)
    (hheld : ∀ slug, Launching slug task → next.playwright slug = store.playwright slug ∧
      next.browser slug = store.browser slug) : TaskSound next task := by
  obtain ⟨key, program, cancelled⟩ := task
  cases key with
  | shutdown => exact absurd rfl hkey
  | check slug location =>
      refine CheckRemains.move hsound (fun slug hslug => hinstances ▸ hslug) ?_
      intro site location playwright hprogram hgoes
      exact hheld site.slug ⟨hgoes, site, location, playwright, rfl, hprogram⟩

theorem not_launching_of_settled (hsettled : Settled task) : ¬ Launching slug task := by
  intro hlaunching
  rcases hsettled.2 with hcancelled | hpage
  · cases hlaunching.1.symm.trans hcancelled
  · exact not_launching_of_onPage hpage hlaunching

/-- A settled check is apart from every task. -/
theorem tasksApart_of_settled {other : ProviderTask} (hother : Settled other) :
    TasksApart task other ∧ TasksApart other task :=
  ⟨⟨fun _ _ => not_launching_of_settled hother, fun _ => hother⟩,
    fun _ hlaunching => absurd hlaunching (not_launching_of_settled hother),
    fun hkey => absurd hkey hother.1⟩

/-- A check that waits for a browser has its driver. -/
theorem Launching.held (hlaunching : Launching slug task) (hsound : TaskSound store task)
    (hkey : task.key ≠ .shutdown) : ∃ playwright, store.playwright slug = some playwright := by
  obtain ⟨key, program, cancelled⟩ := task
  obtain ⟨hgoes, site, location, playwright, rfl, hprogram⟩ := hlaunching
  cases key with
  | shutdown => exact absurd rfl hkey
  | check slug location =>
      have hremains : CheckRemains store cancelled program := hsound
      cases hremains with
      | starting other location hactive => cases hprogram
      | launching other elsewhere held hactive hheld =>
          obtain ⟨hslug, _⟩ := slug_of_launchBrowser hprogram
          exact ⟨held, hslug ▸ (hheld hgoes).1⟩
      | visiting program hpage =>
          cases hprogram
          exact absurd hpage.1 id

/-- New instances change nothing for `main`. -/
theorem TaskSound.mono (hsound : TaskSound store task)
    (hinstances : ∀ slug ∈ store.instances, slug ∈ next.instances)
    (hplaywright : next.playwright = store.playwright) (hbrowser : next.browser = store.browser) :
    TaskSound next task := by
  obtain ⟨key, program, cancelled⟩ := task
  have hidle : ∀ slug, Idle store slug → Idle next slug := by
    intro slug hidle
    unfold Idle
    rw [hplaywright, hbrowser]
    exact hidle
  cases key with
  | check slug location =>
      exact CheckRemains.move hsound hinstances fun site _ _ _ _ =>
        ⟨congrFun hplaywright site.slug, congrFun hbrowser site.slug⟩
  | shutdown =>
      obtain ⟨hgoes, hremains⟩ := hsound
      refine ⟨hgoes, ?_⟩
      change ClosingRemains next program
      cases hremains with
      | browser site browser rest hheld hrest hdone =>
          exact .browser site browser rest (hbrowser ▸ hheld)
            (fun slug hslug => hinstances slug (hrest slug hslug))
            (fun slug hslug => hidle slug (hdone slug hslug))
      | driver site playwright rest hheld hnone hrest hdone =>
          exact .driver site playwright rest (hplaywright ▸ hheld) (hbrowser ▸ hnone)
            (fun slug hslug => hinstances slug (hrest slug hslug))
            (fun slug hslug => hidle slug (hdone slug hslug))
      | done hdone => exact .done fun slug => hidle slug (hdone slug)

end Beside

/-! ## What a task does -/

section Moves

variable {config : BrowserConfig} {store next : BrowserStore} {ending : Ending} {key : BrowserTask}
  {program : Browsing Unit} {cancelled : Bool} {after : ProviderTask}

/-- A check that goes on has its driver, has its browser, or is on its page. -/
theorem check_moves (hremains : CheckRemains store cancelled program)
    (horderly : ∀ op ∈ awaited program, OrderlyEnd store ending op)
    (hproceed : (browserTasks config).proceed ⟨key, program, cancelled⟩ ending store =
      some (after, next)) :
    (∃ site location, program = startPlaywright site location ∧ cancelled = false ∧
        site.slug ∈ store.instances ∧ store.playwright site.slug = none ∧
        after = ⟨key, launchBrowser site location store.started.length, false⟩ ∧
        next = { store.note site.slug (.driver store.started.length) with
          playwright := Function.update store.playwright site.slug (some store.started.length) }) ∨
      (∃ site location playwright, program = launchBrowser site location playwright ∧
        cancelled = false ∧ store.playwright site.slug = some playwright ∧
        store.browser site.slug = none ∧ site.slug ∈ store.instances ∧
        after.key = key ∧ after.program.CallsOnly onPage ∧
        next = { store.note site.slug (.browser ⟨store.started.length, playwright⟩) with
          browser := Function.update store.browser site.slug
            (some ⟨store.started.length, playwright⟩) }) ∨
      after.key = key ∧ after.program.CallsOnly onPage ∧ next = store := by
  obtain ⟨op, resume, hprogram, hcancels, rfl, rfl⟩ := TaskSpec.proceed_cases hproceed
  change program = .call op resume at hprogram
  have hend : OrderlyEnd store ending op := horderly op (by rw [hprogram]; rfl)
  have hgoes : ending = .returns → cancelled = false := by
    rintro rfl
    exact Bool.eq_false_iff.mpr fun hcancelled => Bool.false_ne_true (hcancels hcancelled)
  cases hremains with
  | starting site location hactive =>
      cases hprogram
      cases ending with
      | returns => exact Or.inl ⟨site, location, rfl, hgoes rfl, hactive, hend, rfl, rfl⟩
      | raises error => exact Or.inr (Or.inr ⟨rfl, trivial, rfl⟩)
      | raisesAfter error => exact absurd hend id
  | launching site location playwright hactive hheld =>
      cases hprogram
      cases ending with
      | returns =>
          obtain ⟨hplaywright, hbrowser⟩ := hheld (hgoes rfl)
          exact Or.inr (Or.inl ⟨site, location, playwright, rfl, hgoes rfl, hplaywright, hbrowser,
            hactive, rfl, visit_onPage site location _, rfl⟩)
      | raises error => exact Or.inr (Or.inr ⟨rfl, trivial, rfl⟩)
      | raisesAfter error => exact absurd hend id
  | visiting program hpage =>
      rw [hprogram] at hpage
      have hsettle : settle (browserTasks config).effects (browserTasks config).calm
          (resume (respond config op ending store).1) (respond config op ending store).2 =
            (resume (respond config op ending store).1, (respond config op ending store).2) :=
        settle_of_callsOnly awaits_of_onPage (hpage.2 _) _
      refine Or.inr (Or.inr ⟨rfl, ?_, ?_⟩)
      · exact (congrArg (fun reached => reached.1.CallsOnly onPage) hsettle).mpr (hpage.2 _)
      · exact (congrArg Prod.snd hsettle).trans (respond_onPage hpage.1 ending store)

/-- The program up to its next await. -/
abbrev settled (config : BrowserConfig) (program : Browsing Unit) (store : BrowserStore) :
    Browsing Unit × BrowserStore :=
  settle (browserTasks config).effects (browserTasks config).calm program store

theorem settled_getBrowser (slug : String) (rest : Option Browser → Browsing Unit) :
    settled config (browse (.getBrowser slug) >>= rest) store =
      settled config (rest (store.browser slug)) store := settle_perform rfl rfl

theorem settled_getPlaywright (slug : String) (rest : Option Nat → Browsing Unit) :
    settled config (browse (.getPlaywright slug) >>= rest) store =
      settled config (rest (store.playwright slug)) store := settle_perform rfl rfl

theorem settled_setBrowser (slug : String) (browser : Option Browser)
    (rest : Unit → Browsing Unit) :
    settled config (browse (.setBrowser slug browser) >>= rest) store =
      settled config (rest ())
        { store with browser := Function.update store.browser slug browser } :=
  settle_perform rfl rfl

theorem settled_setPlaywright (slug : String) (playwright : Option Nat)
    (rest : Unit → Browsing Unit) :
    settled config (browse (.setPlaywright slug playwright) >>= rest) store =
      settled config (rest ())
        { store with playwright := Function.update store.playwright slug playwright } :=
  settle_perform rfl rfl

/-- The registry answers with the provider of an instance, which is there. -/
theorem settled_registryGet (hstore : StoreSound config store) {slug : String}
    (hslug : slug ∈ store.instances) : ∃ site, site.slug = slug ∧
      ∀ rest : RetailSite → Browsing Unit,
        settled config (browse (.registryGet slug) >>= rest) store =
          settled config (rest site) store := by
  obtain ⟨site, hfind⟩ := Option.isSome_iff_exists.mp (hstore.registered slug hslug)
  have hsite : site.slug = slug := by simpa using List.find?_some hfind
  refine ⟨site, hsite, fun rest => settle_perform rfl ?_⟩
  change work config (.registryGet slug) store = _
  simp only [work, hfind, if_pos hslug]

/-- The shutdown waits for a call of a provider that holds something, or is done. -/
def Closes (store : BrowserStore) (reached : Browsing Unit × BrowserStore) : Prop :=
  reached.2 = store ∧ ClosingRemains store reached.1

/-- The second half of a `close`, with what follows it. -/
theorem closes_closePlaywright {site : RetailSite} {rest : List String}
    (hbrowser : store.browser site.slug = none) (hrest : ∀ slug ∈ rest, slug ∈ store.instances)
    (hdone : ∀ slug, slug ∉ site.slug :: rest → Idle store slug)
    (hnext : (∀ slug, slug ∉ rest → Idle store slug) →
      Closes store (settled config (closeProviders rest) store)) :
    Closes store
      (settled config (closePlaywright site >>= fun _ => closeProviders rest) store) := by
  unfold closePlaywright
  rw [Co.bind_assoc, settled_getPlaywright]
  cases hplaywright : store.playwright site.slug with
  | some playwright => exact ⟨rfl, .driver site playwright rest hplaywright hbrowser hrest hdone⟩
  | none =>
      refine hnext fun slug hslug => ?_
      by_cases hsame : slug = site.slug
      · rw [hsame]
        exact ⟨hplaywright, hbrowser⟩
      · exact hdone slug (List.not_mem_cons_of_ne_of_not_mem hsame hslug)

/-- The loop over the providers. -/
theorem closes_closeProviders (hstore : StoreSound config store) {slugs : List String}
    (hslugs : ∀ slug ∈ slugs, slug ∈ store.instances)
    (hdone : ∀ slug, slug ∉ slugs → Idle store slug) :
    Closes store (settled config (closeProviders slugs) store) := by
  induction slugs with
  | nil => exact ⟨rfl, .done fun slug => hdone slug List.not_mem_nil⟩
  | cons slug rest ih =>
      obtain ⟨site, rfl, hget⟩ := settled_registryGet hstore (hslugs slug List.mem_cons_self)
      have hrest : ∀ other ∈ rest, other ∈ store.instances := fun other hother =>
        hslugs other (List.mem_cons_of_mem _ hother)
      unfold closeProviders
      rw [hget]
      unfold close
      rw [Co.bind_assoc, settled_getBrowser]
      cases hbrowser : store.browser site.slug with
      | some browser => exact ⟨rfl, .browser site browser rest hbrowser hrest hdone⟩
      | none => exact closes_closePlaywright hbrowser hrest hdone (ih hrest)

/-- A process that is started and held is accounted for, beside those that stay so. -/
theorem Accounted.note {up : BrowserStore} {slug : String} {process : Process}
    (haccounted : Accounted store) (hstarted : up.started = store.started ++ [(slug, process)])
    (hstopped : up.stopped = store.stopped) (hnew : Held up slug process)
    (hkeeps : ∀ other held, Held store other held → Held up other held) : Accounted up := by
  intro other held hmem
  rw [hstarted] at hmem
  rw [hstopped]
  rcases List.mem_append.mp hmem with hold | hlast
  · exact (haccounted other held hold).imp_left (hkeeps other held)
  · cases List.mem_singleton.mp hlast
    exact Or.inl hnew

/-- What is none stays none where one entry is set to none. -/
theorem update_none {Value : Type} {held : String → Option Value} {slug other : String}
    (hnone : held other = none) : Function.update held slug none other = none := by
  rw [Function.update_apply, hnone, ite_self]

/-- A driver comes up where the provider holds none. -/
theorem StoreSound.driverUp (hstore : StoreSound config store) {slug : String} (playwright : Nat)
    (hactive : slug ∈ store.instances) (hnone : store.playwright slug = none) :
    StoreSound config { store.note slug (.driver playwright) with
      playwright := Function.update store.playwright slug (some playwright) } where
  accounted := by
    refine hstore.accounted.note rfl rfl (Function.update_self ..) ?_
    intro other process hholds
    cases process with
    | browser browser => exact hholds
    | driver held =>
        have hother : other ≠ slug := by
          rintro rfl
          cases hnone.symm.trans hholds
        exact (Function.update_of_ne hother _ _).trans hholds
  registered := hstore.registered
  active := by
    intro other hother
    have hne : other ≠ slug := fun hsame => hother (hsame ▸ hactive)
    exact ⟨(Function.update_of_ne hne _ _).trans (hstore.active other hother).1,
      (hstore.active other hother).2⟩
  driven := by
    intro other hother
    by_cases hsame : other = slug
    · subst hsame
      cases (Function.update_self other (some playwright) store.playwright).symm.trans hother
    · exact hstore.driven other ((Function.update_of_ne hsame _ _).symm.trans hother)

/-- A browser comes up where the provider holds a driver and no browser. -/
theorem StoreSound.browserUp (hstore : StoreSound config store) {slug : String} {playwright : Nat}
    (browser : Browser) (hactive : slug ∈ store.instances)
    (hdriver : store.playwright slug = some playwright) (hnone : store.browser slug = none) :
    StoreSound config { store.note slug (.browser browser) with
      browser := Function.update store.browser slug (some browser) } where
  accounted := by
    refine hstore.accounted.note rfl rfl (Function.update_self ..) ?_
    intro other process hholds
    cases process with
    | driver held => exact hholds
    | browser held =>
        have hother : other ≠ slug := by
          rintro rfl
          cases hnone.symm.trans hholds
        exact (Function.update_of_ne hother _ _).trans hholds
  registered := hstore.registered
  active := by
    intro other hother
    have hne : other ≠ slug := fun hsame => hother (hsame ▸ hactive)
    exact ⟨(hstore.active other hother).1,
      (Function.update_of_ne hne _ _).trans (hstore.active other hother).2⟩
  driven := by
    intro other hother
    have hne : other ≠ slug := by
      rintro rfl
      cases hdriver.symm.trans hother
    exact (Function.update_of_ne hne _ _).trans (hstore.driven other hother)

/-- A browser of the provider is closed. -/
theorem StoreSound.closeBrowser (hstore : StoreSound config store) {slug : String}
    {browser : Browser} (hheld : store.browser slug = some browser) :
    StoreSound config { store with
      stopped := .browser browser :: store.stopped
      browser := Function.update store.browser slug none } where
  accounted := by
    intro other process hstarted
    rcases hstore.accounted other process hstarted with hholds | hstopped
    · cases process with
      | driver playwright => exact Or.inl hholds
      | browser held =>
          by_cases hother : other = slug
          · subst hother
            obtain rfl : browser = held := Option.some.inj (hheld.symm.trans hholds)
            exact Or.inr List.mem_cons_self
          · exact Or.inl ((Function.update_of_ne hother _ _).trans hholds)
    · exact Or.inr (List.mem_cons_of_mem _ hstopped)
  registered := hstore.registered
  active := by
    intro other hother
    obtain ⟨hplaywright, hbrowser⟩ := hstore.active other hother
    exact ⟨hplaywright, update_none hbrowser⟩
  driven := by
    intro other hnone
    exact update_none (hstore.driven other hnone)

/-- The driver of the provider is stopped, after its browser. -/
theorem StoreSound.stopPlaywright (hstore : StoreSound config store) {slug : String}
    {playwright : Nat} {stopped : List Process} (hheld : store.playwright slug = some playwright)
    (hbrowser : store.browser slug = none)
    (hstopped : ∀ process, process = .driver playwright ∨ process ∈ store.stopped →
      process ∈ stopped) :
    StoreSound config { store with
      stopped := stopped
      playwright := Function.update store.playwright slug none } where
  accounted := by
    intro other process hstarted
    rcases hstore.accounted other process hstarted with hholds | hstops
    · cases process with
      | browser browser => exact Or.inl hholds
      | driver held =>
          by_cases hother : other = slug
          · subst hother
            obtain rfl : playwright = held := Option.some.inj (hheld.symm.trans hholds)
            exact Or.inr (hstopped _ (Or.inl rfl))
          · exact Or.inl ((Function.update_of_ne hother _ _).trans hholds)
    · exact Or.inr (hstopped _ (Or.inr hstops))
  registered := hstore.registered
  active := by
    intro other hother
    obtain ⟨hplaywright, hnobrowser⟩ := hstore.active other hother
    exact ⟨update_none hplaywright, hnobrowser⟩
  driven := by
    intro other hnone
    by_cases hsame : other = slug
    · rw [hsame]
      exact hbrowser
    · exact hstore.driven other ((Function.update_of_ne hsame _ _).symm.trans hnone)

/-- The shutdown goes on. -/
theorem shutdown_moves (hstore : StoreSound config store) (hremains : ClosingRemains store program)
    (horderly : ∀ op ∈ awaited program, OrderlyEnd store ending op)
    (hproceed : (browserTasks config).proceed ⟨key, program, cancelled⟩ ending store =
      some (after, next)) :
    after.key = key ∧ after.cancelled = false ∧ next.instances = store.instances ∧
      StoreSound config next ∧ ClosingRemains next after.program := by
  obtain ⟨op, resume, hprogram, hcancels, rfl, rfl⟩ := TaskSpec.proceed_cases hproceed
  change program = .call op resume at hprogram
  have hend : OrderlyEnd store ending op := horderly op (by rw [hprogram]; rfl)
  have hclosed : ∀ (reached : Browsing Unit × BrowserStore) store', StoreSound config store' →
      store'.instances = store.instances → Closes store' reached →
        reached.2.instances = store.instances ∧ StoreSound config reached.2 ∧
          ClosingRemains reached.2 reached.1 := by
    rintro ⟨program, last⟩ store' hsound hinstances ⟨rfl, hlast⟩
    exact ⟨hinstances, hsound, hlast⟩
  cases hremains with
  | browser site browser rest hheld hrest hdone =>
      cases hprogram
      cases ending with
      | raises error => exact absurd hend id
      | raisesAfter error => exact absurd hend id
      | returns =>
          have hsound := hstore.closeBrowser hheld
          refine ⟨rfl, rfl, hclosed _ _ hsound rfl ?_⟩
          change Closes _ (settled config ((browse (.setBrowser site.slug none) >>= fun _ =>
            closePlaywright site) >>= fun _ => closeProviders rest)
              { store with stopped := .browser browser :: store.stopped })
          rw [Co.bind_assoc, settled_setBrowser]
          refine closes_closePlaywright (Function.update_self ..) hrest ?_
            (closes_closeProviders hsound hrest)
          intro slug hslug
          obtain ⟨hplaywright, hbrowser⟩ := hdone slug hslug
          exact ⟨hplaywright, (Function.update_of_ne (List.ne_of_not_mem_cons hslug) _ _).trans
            hbrowser⟩
  | driver site playwright rest hheld hnone hrest hdone =>
      cases hprogram
      cases ending with
      | raises error => exact absurd hend id
      | raisesAfter error => exact absurd hend id
      | returns =>
          let others := if config.stopsBrowsers then browsersOf store playwright else []
          have hsound : StoreSound config { store with
              stopped := .driver playwright :: (others ++ store.stopped)
              playwright := Function.update store.playwright site.slug none } := by
            refine hstore.stopPlaywright hheld hnone ?_
            rintro process (rfl | hstopped)
            · exact List.mem_cons_self
            · exact List.mem_cons_of_mem _ (List.mem_append_right _ hstopped)
          refine ⟨rfl, rfl, hclosed _ _ hsound rfl ?_⟩
          change Closes _ (settled config (browse (.setPlaywright site.slug none) >>= fun _ =>
            closeProviders rest) _)
          rw [settled_setPlaywright]
          refine closes_closeProviders hsound hrest ?_
          intro slug hslug
          by_cases hsame : slug = site.slug
          · rw [hsame]
            exact ⟨Function.update_self .., hnone⟩
          · obtain ⟨hplaywright, hbrowser⟩ := hdone slug
              (List.not_mem_cons_of_ne_of_not_mem hsame hslug)
            exact ⟨(Function.update_of_ne hsame _ _).trans hplaywright, hbrowser⟩
  | done hdone => cases hprogram

end Moves

/-! ## One step -/

section Steps

variable {config : BrowserConfig} {system next : BrowserSystem}

/-- Before the stop event no task belongs to `main`. -/
theorem key_ne_shutdown (hwaits : stopping system = false) {task : ProviderTask}
    (htask : task ∈ system.tasks) : task.key ≠ .shutdown := by
  intro hkey
  have hstops : stopping system = true := List.any_eq_true.mpr ⟨task, htask, by simp [hkey]⟩
  cases hwaits.symm.trans hstops

/-- More instances, and nothing else. -/
structure Registers (store next : BrowserStore) : Prop where
  instances : ∀ slug ∈ store.instances, slug ∈ next.instances
  playwright : next.playwright = store.playwright
  browser : next.browser = store.browser

/-- The registry keeps the providers sound. -/
theorem registryGet_sound {store : BrowserStore} (hstore : StoreSound config store)
    (slug : String) :
    StoreSound config (work config (.registryGet slug) store).2 ∧
      Registers store (work config (.registryGet slug) store).2 := by
  cases hfind : config.factories.find? fun site => site.slug == slug with
  | none =>
      simp only [work, hfind]
      exact ⟨hstore, fun other hother => hother, rfl, rfl⟩
  | some site =>
      simp only [work, hfind]
      split
      · exact ⟨hstore, fun other hother => hother, rfl, rfl⟩
      · refine ⟨⟨hstore.accounted, ?_, ?_, hstore.driven⟩,
          fun other hother => List.mem_append_left _ hother, rfl, rfl⟩
        · intro other hother
          rcases List.mem_append.mp hother with hold | hnew
          · exact hstore.registered other hold
          · rw [List.mem_singleton.mp hnew, hfind]
            rfl
        · exact fun other hother => hstore.active other fun hold =>
            hother (List.mem_append_left _ hold)

/-- Where a provider is registered, the registry has its instance. -/
theorem mem_instances_registryGet (store : BrowserStore) {slug : String} {site : RetailSite}
    (hfind : config.factories.find? (fun site => site.slug == slug) = some site) :
    slug ∈ (work config (.registryGet slug) store).2.instances := by
  simp only [work, hfind]
  split
  · assumption
  · exact List.mem_append_right _ List.mem_cons_self

/-- A check that begins: the registry, and the test of the browser. -/
theorem settled_initializeProvider (config : BrowserConfig) (store : BrowserStore)
    (slug : String) (location : LocationContext) :
    (settled config (initializeProvider slug location) store).2 =
        (work config (.registryGet slug) store).2 ∧
      ((∃ site, site.slug ∈ (work config (.registryGet slug) store).2.instances ∧
          (settled config (initializeProvider slug location) store).1 =
            startPlaywright site location) ∨
        (settled config (initializeProvider slug location) store).1.CallsOnly onPage) := by
  cases hfind : config.factories.find? fun site => site.slug == slug with
  | none =>
      have hget : work config (.registryGet slug) store =
          (.error (.keyError s!"No provider registered for '{slug}'"), store) := by
        simp only [work, hfind]
      have hsettled : settled config (initializeProvider slug location) store =
          (.raise (.keyError s!"No provider registered for '{slug}'"), store) :=
        settle_perform_error rfl hget
      rw [hsettled, hget]
      exact ⟨rfl, Or.inr trivial⟩
  | some site =>
      have hactive := mem_instances_registryGet store hfind
      obtain rfl : site.slug = slug := by simpa using List.find?_some hfind
      have hget : work config (.registryGet site.slug) store =
          (.ok site, (work config (.registryGet site.slug) store).2) := by
        simp only [work, hfind]
      have hsettled : settled config (initializeProvider site.slug location) store =
          settled config (initializeInstance site location)
            (work config (.registryGet site.slug) store).2 := settle_perform rfl hget
      rw [hsettled]
      unfold initializeInstance
      rw [settled_getBrowser]
      split
      · exact ⟨rfl, Or.inl ⟨site, hactive, rfl⟩⟩
      · exact ⟨rfl, Or.inr (visit_onPage site location _)⟩

/-- A check calls `initialize`. -/
theorem BrowsersSound.check (hsound : BrowsersSound config system) (slug : String)
    (location : LocationContext) (hwaits : stopping system = false) :
    BrowsersSound config ((browserTasks config).start (.check slug location) system) := by
  obtain ⟨hstore, hregisters⟩ := registryGet_sound hsound.store slug
  obtain ⟨hnext, hprogram⟩ := settled_initializeProvider config system.store slug location
  refine ⟨?_, ?_⟩
  · change StoreSound config (settled config (initializeProvider slug location) system.store).2
    rw [hnext]
    exact hstore
  · change Placed (TaskSound (settled config (initializeProvider slug location) system.store).2)
      TasksApart (system.tasks ++ [⟨.check slug location, _, false⟩])
    rw [hnext]
    have hnot : ∀ other, ¬ Launching other ⟨.check slug location,
        (settled config (initializeProvider slug location) system.store).1, false⟩ := by
      intro other
      rcases hprogram with ⟨site, _, hstarting⟩ | hpage
      · exact not_launching_starting hstarting
      · exact not_launching_of_onPage hpage
    refine hsound.tasks.concat ?_ ?_
    · rcases hprogram with ⟨site, hactive, hstarting⟩ | hpage
      · change CheckRemains _ false (settled config (initializeProvider slug location) _).1
        rw [hstarting]
        exact .starting site location hactive
      · exact .visiting _ hpage
    · intro other hother hother_sound
      have hkey := key_ne_shutdown hwaits hother
      exact ⟨hother_sound.mono hregisters.instances hregisters.playwright hregisters.browser,
        ⟨fun slug hlaunching => absurd hlaunching (hnot slug), fun h => (by cases h)⟩,
        ⟨fun slug _ => hnot slug, fun h => absurd h hkey⟩⟩

/-- A check that is cancelled is settled. -/
theorem settled_cancel {store : BrowserStore} {task : ProviderTask} (hkey : task.key ≠ .shutdown)
    (hsound : TaskSound store task) :
    TaskSound store { task with cancelled := task.program.inProgress } ∧
      Settled { task with cancelled := task.program.inProgress } := by
  obtain ⟨key, program, cancelled⟩ := task
  cases key with
  | shutdown => exact absurd rfl hkey
  | check slug location =>
      have hremains : CheckRemains store cancelled program := hsound
      cases hremains with
      | starting site location hactive =>
          exact ⟨.starting site location hactive, hkey, Or.inl rfl⟩
      | launching site location playwright hactive hheld =>
          exact ⟨.launching site location playwright hactive fun h => (by cases h), hkey,
            Or.inl rfl⟩
      | visiting program hpage => exact ⟨.visiting program hpage, hkey, Or.inr hpage⟩

/-- The stop event. -/
theorem BrowsersSound.stop (hsound : BrowsersSound config system)
    (hwaits : stopping system = false) :
    BrowsersSound config ((browserTasks config).start .shutdown (TaskSpec.cancelAll system)) := by
  have hcancelled : ∀ task ∈ (TaskSpec.cancelAll system).tasks,
      TaskSound system.store task ∧ Settled task := by
    intro task htask
    obtain ⟨before, hbefore, rfl⟩ := List.mem_map.mp htask
    exact settled_cancel (key_ne_shutdown hwaits hbefore) (hsound.tasks.single before hbefore)
  have hplaced : Placed (TaskSound system.store) TasksApart (TaskSpec.cancelAll system).tasks := by
    refine ⟨fun task htask => (hcancelled task htask).1, ?_⟩
    intro left right task other _ _ hother
    exact (tasksApart_of_settled (hcancelled other (List.mem_of_getElem? hother)).2).1
  have hsettled : settled config shutdown system.store =
      settled config (closeProviders system.store.instances) system.store :=
    settle_perform rfl rfl
  obtain ⟨hnext, hremains⟩ : Closes system.store (settled config shutdown system.store) := by
    rw [hsettled]
    exact closes_closeProviders hsound.store (fun _ hslug => hslug) hsound.store.active
  refine ⟨?_, ?_⟩
  · change StoreSound config (settled config shutdown system.store).2
    rw [hnext]
    exact hsound.store
  · change Placed (TaskSound (settled config shutdown system.store).2) TasksApart
      ((TaskSpec.cancelAll system).tasks ++
        [⟨.shutdown, (settled config shutdown system.store).1, false⟩])
    rw [hnext]
    refine hplaced.concat ⟨rfl, hremains⟩ ?_
    intro other hother hother_sound
    exact ⟨hother_sound, tasksApart_of_settled (hcancelled other hother).2⟩

/-- An awaited call ends. -/
theorem BrowsersSound.resume (hsound : BrowsersSound config system) {index : Nat}
    {ending : Ending} (horderly : Orderly system (.resume index ending))
    (hresume : (browserTasks config).resume index ending system = some next) :
    BrowsersSound config next := by
  obtain ⟨⟨key, program, cancelled⟩, after, store, htask, hproceed, rfl⟩ :=
    TaskSpec.resume_cases hresume
  have htask_sound := hsound.tasks.single _ (List.mem_of_getElem? htask)
  have hends : ∀ op ∈ awaited program, OrderlyEnd system.store ending op := horderly _ htask
  cases key with
  | shutdown =>
      obtain ⟨hkey, hgoes, hinstances, hstore, hremains⟩ :=
        shutdown_moves hsound.store htask_sound.2 hends hproceed
      obtain ⟨_, rest, _⟩ := after
      obtain rfl : _ = BrowserTask.shutdown := hkey
      refine ⟨hstore, hsound.tasks.set htask ⟨hgoes, hremains⟩ ?_⟩
      intro position other _ _ hother_sound hpair _
      have hsettled : Settled other := hpair.2 rfl
      refine ⟨hother_sound.beside hsettled.1 hinstances ?_, tasksApart_of_settled hsettled⟩
      exact fun slug hlaunching => absurd hlaunching (not_launching_of_settled hsettled)
  | check slug location =>
      have hsettled : ∀ (program : Browsing Unit) cancelled, program.CallsOnly onPage →
          Settled ⟨.check slug location, program, cancelled⟩ := fun program cancelled hpage =>
        ⟨fun h => (by cases h), Or.inr hpage⟩
      rcases check_moves htask_sound hends hproceed with
        ⟨site, location', rfl, rfl, hactive, hnone, rfl, rfl⟩ |
        ⟨site, location', playwright, rfl, rfl, hdriver, hnone, hactive, hkey, hpage, rfl⟩ |
        ⟨hkey, hpage, rfl⟩
      · -- the driver comes up: no other check has one, and `main` is still waiting
        refine ⟨hsound.store.driverUp _ hactive hnone, hsound.tasks.set htask ?_ ?_⟩
        · exact .launching site location' _ hactive fun _ =>
            ⟨Function.update_self .., hsound.store.driven _ hnone⟩
        · intro position other _ _ hother_sound _ hreverse
          have hother : other.key ≠ .shutdown := by
            intro hshut
            rcases (hreverse.2 hshut).2 with hcancelled | hpage
            · cases hcancelled
            · exact absurd hpage.1 id
          have hothers : ∀ slug, Launching slug other → slug ≠ site.slug := by
            rintro slug hlaunching rfl
            obtain ⟨playwright, hheld⟩ := hlaunching.held hother_sound hother
            cases hnone.symm.trans hheld
          refine ⟨hother_sound.beside hother rfl ?_, ⟨?_, fun h => (by cases h)⟩, ?_⟩
          · intro slug hlaunching
            exact ⟨Function.update_of_ne (hothers slug hlaunching) _ _, rfl⟩
          · rintro slug ⟨_, _, _, _, rfl, hprogram⟩ hlaunching
            exact hothers _ hlaunching (slug_of_launchBrowser hprogram).1.symm
          · refine ⟨?_, fun hshut => absurd hshut hother⟩
            rintro slug hlaunching ⟨_, _, _, _, rfl, hprogram⟩
            exact hothers _ hlaunching (slug_of_launchBrowser hprogram).1.symm
      · -- the browser comes up: this is the only check that waits for it
        have hthis : Launching site.slug ⟨.check slug location,
            launchBrowser site location' playwright, false⟩ :=
          ⟨rfl, site, location', playwright, rfl, rfl⟩
        obtain ⟨_, program, _⟩ := after
        obtain rfl : _ = BrowserTask.check slug location := hkey
        refine ⟨hsound.store.browserUp _ hactive hdriver hnone,
          hsound.tasks.set htask (.visiting program hpage) ?_⟩
        · intro position other _ _ hother_sound hpair hreverse
          have hother : other.key ≠ .shutdown := fun hshut =>
            not_launching_of_settled (hreverse.2 hshut) hthis
          refine ⟨hother_sound.beside hother rfl ?_,
            (tasksApart_of_settled (hsettled program _ hpage)).symm⟩
          intro slug hlaunching
          have hne : slug ≠ site.slug := by
            rintro rfl
            exact hpair.1 _ hthis hlaunching
          exact ⟨rfl, Function.update_of_ne hne _ _⟩
      · -- a call of the page
        obtain ⟨_, program, _⟩ := after
        obtain rfl : _ = BrowserTask.check slug location := hkey
        refine ⟨hsound.store, hsound.tasks.set htask (.visiting program hpage) ?_⟩
        exact fun _ _ _ _ hother_sound _ _ =>
          ⟨hother_sound, (tasksApart_of_settled (hsettled program _ hpage)).symm⟩

/-- The step lemma. -/
theorem browsersSound_step {move : BrowserMove} (hsound : BrowsersSound config system)
    (horderly : Orderly system move) (hstep : browserStep config system move = some next) :
    BrowsersSound config next := by
  cases move with
  | check slug location =>
      simp only [browserStep] at hstep
      split at hstep
      · cases hstep
      · rename_i hwaits
        cases hstep
        exact hsound.check slug location (Bool.eq_false_iff.mpr hwaits)
  | resume index ending => exact hsound.resume horderly hstep
  | stop =>
      simp only [browserStep] at hstep
      split at hstep
      · cases hstep
      · rename_i hwaits
        cases hstep
        exact hsound.stop (Bool.eq_false_iff.mpr hwaits)

/-- Nothing is leaked from a sound state. -/
theorem BrowsersSound.noneLeaked (hsound : BrowsersSound config system) : NoneLeaked system := by
  refine ⟨hsound.store.accounted, ?_⟩
  rintro ⟨task, htask, hkey, hended⟩ ⟨slug, process⟩ hstarted
  obtain ⟨_, program, _⟩ := task
  obtain rfl : _ = BrowserTask.shutdown := hkey
  obtain ⟨_, hremains⟩ := hsound.tasks.single _ htask
  have hremains : ClosingRemains system.store program := hremains
  have hidle : Idle system.store slug := by
    cases hremains with
    | browser site browser rest hheld hrest hdone => cases hended
    | driver site playwright rest hheld hbrowser hrest hdone => cases hended
    | done hdone => exact hdone slug
  rcases hsound.store.accounted slug process hstarted with hheld | hstopped
  · cases process with
    | driver playwright => cases hidle.1.symm.trans hheld
    | browser browser => cases hidle.2.symm.trans hheld
  · exact hstopped

end Steps

/-- If every awaited call ends in order, every process is held by its provider or has been
stopped, and after the shutdown all are stopped. -/
theorem none_leaked_run (config : BrowserConfig) (moves : List BrowserMove) (last : BrowserSystem)
    (horderly : Along (browserStep config) Orderly .start moves)
    (hrun : runFrom (browserStep config) .start moves = some last) : NoneLeaked last := by
  have hstart : BrowsersSound config .start := by
    refine ⟨⟨?_, ?_, fun _ _ => ⟨rfl, rfl⟩, fun _ _ => rfl⟩, placed_nil _ _⟩
    · exact fun slug process hstarted => absurd hstarted List.not_mem_nil
    · exact fun slug hslug => absurd hslug List.not_mem_nil
  exact (along_invariant (BrowsersSound config) (fun system move next hsound horderly hstep =>
    browsersSound_step hsound horderly hstep) horderly hrun hstart).noneLeaked

/-- The monitor as `main` builds it. -/
def monitorBrowsers : BrowserConfig := ⟨providerFactories, true⟩

/-- A check of a retailer begins. -/
def checkOf (slug : String) : BrowserMove := .check slug ⟨"Delhi", "110001"⟩

/-- The shutdown cancels a check on its page and another one before its driver. -/
theorem shutdown_amid_checks :
    let moves : List BrowserMove := [checkOf "blinkit", .resume 0 .returns, checkOf "zepto",
      .resume 0 .returns, checkOf "blinkit", .resume 0 .returns, .stop,
      .resume 1 (.raises .cancelled), .resume 0 (.raises .cancelled), .resume 3 .returns,
      .resume 0 .returns, .resume 2 (.raises .cancelled), .resume 3 .returns]
    ∃ last, runFrom (browserStep monitorBrowsers) .start moves = some last ∧ HasShutDown last ∧
      last.store.started.length = 2 ∧ NoneLeaked last := by
  intro moves
  have hreached : ((runFrom (browserStep monitorBrowsers) .start moves).map fun last =>
      decide (HasShutDown last ∧ last.store.started.length = 2)) = some true := by
    decide +kernel
  obtain ⟨last, hrun, hlast⟩ := Option.map_eq_some_iff.mp hreached
  obtain ⟨hshut, hstarted⟩ := of_decide_eq_true hlast
  exact ⟨last, hrun, hshut, hstarted,
    none_leaked_run monitorBrowsers moves last (by decide +kernel) hrun⟩

/-- Two first checks of a retailer start two drivers; the instance keeps the second, and the
first runs on after the shutdown. -/
theorem racing_checks_leak_a_driver :
    let moves : List BrowserMove := [checkOf "blinkit", checkOf "blinkit", .resume 0 .returns,
      .resume 1 .returns, .resume 0 .returns, .resume 1 .returns, .stop,
      .resume 0 (.raises .cancelled), .resume 1 (.raises .cancelled), .resume 2 .returns,
      .resume 2 .returns]
    ∃ last, runFrom (browserStep monitorBrowsers) .start moves = some last ∧ HasShutDown last ∧
      ¬ NoneLeaked last := by
  intro moves
  have hreached : ((runFrom (browserStep monitorBrowsers) .start moves).map fun last =>
      decide (HasShutDown last ∧ ("blinkit", Process.driver 0) ∈ last.store.started ∧
        Process.driver 0 ∉ last.store.stopped)) = some true := by
    decide +kernel
  obtain ⟨last, hrun, hlast⟩ := Option.map_eq_some_iff.mp hreached
  obtain ⟨hshut, hstarted, hrunning⟩ := of_decide_eq_true hlast
  exact ⟨last, hrun, hshut, fun hnone => hrunning (hnone.stopped hshut _ hstarted)⟩

end StockMonitoring.Monitor
