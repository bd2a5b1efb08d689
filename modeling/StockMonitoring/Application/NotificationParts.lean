import StockMonitoring.Application.NotificationRun

set_option autoImplicit false

/-!
# Application: which users a run reaches

`process_event` serves the subscribed users in turn, and the first lookup or send that
raises ends the run.  A run makes the calls for a user exactly if it has served all the
users before (`exists_part_of_mem_trace`, `exists_part_of_reached`).
-/

namespace StockMonitoring.Application

open StockMonitoring.Foundation StockMonitoring.Domain StockMonitoring.Infrastructure.Db

section Parts

variable (config : NotificationConfig) (turns : NotifyOp → NotifyTurn) (event : DetectionEvent)
  (context : NotificationContext)

/-- The lookup for a user answers and all sends the user is owed return. -/
def Served (db : Database) (userId : Nat) : Prop :=
  (recentOf config turns event db userId).length ≤ 1 ∧
    ∀ channel ∈ dueOf config turns event db userId, SendReturns config turns event context channel

/-- A run reaches a user: every user before is served. -/
def Reaches (db : Database) (users : List Nat) (userId : Nat) : Prop :=
  ∃ before after, users = before ++ userId :: after ∧
    ∀ earlier ∈ before, Served config turns event context db earlier

/-- The calls of a run for a user, from a state with the rows of the users before. -/
def partOf (next : Database) (userId : Nat) : List (Event notifyPort Raised) :=
  ((notifyUser config event context userId).exec (notifyHandler config turns) next).trace

end Parts

section Parts

variable {config : NotificationConfig} {turns : NotifyOp → NotifyTurn} {event : DetectionEvent}
  {context : NotificationContext} {db : Database} {userId : Nat}

/-- A user is reached first, or after another who is served. -/
theorem reaches_cons_iff {user : Nat} {users : List Nat} :
    Reaches config turns event context db (user :: users) userId ↔
      userId = user ∨
        (Served config turns event context db user ∧
          Reaches config turns event context db users userId) := by
  constructor
  · rintro ⟨before, after, husers, hserved⟩
    cases before with
    | nil => exact Or.inl (List.cons.inj husers).1.symm
    | cons first before =>
        obtain ⟨rfl, hrest⟩ := List.cons.inj husers
        exact Or.inr ⟨hserved user List.mem_cons_self, before, after, hrest,
          fun earlier hearlier => hserved earlier (List.mem_cons_of_mem _ hearlier)⟩
  · rintro (rfl | ⟨huser, before, after, rfl, hserved⟩)
    · exact ⟨[], users, rfl, fun earlier hearlier => by cases hearlier⟩
    · exact ⟨user :: before, after, rfl, List.forall_mem_cons.mpr ⟨huser, hserved⟩⟩

theorem Reaches.mem {users : List Nat}
    (hreaches : Reaches config turns event context db users userId) : userId ∈ users := by
  obtain ⟨before, after, rfl, _⟩ := hreaches
  exact List.mem_append_right _ List.mem_cons_self

/-- Two states in which the part of a user makes the same calls, but for the rows of the
log it is answered with. -/
structure SameUser (config : NotificationConfig) (turns : NotifyOp → NotifyTurn)
    (event : DetectionEvent) (db next : Database) (userId : Nat) : Prop where
  recent : recentOf config turns event next userId = recentOf config turns event db userId
  due : dueOf config turns event next userId = dueOf config turns event db userId
  channels : next.notificationChannels = db.notificationChannels

theorem SameUser.refl : SameUser config turns event db db userId := ⟨rfl, rfl, rfl⟩

theorem SameUser.trans {mid next : Database} (hfirst : SameUser config turns event db mid userId)
    (hsecond : SameUser config turns event mid next userId) :
    SameUser config turns event db next userId :=
  ⟨hsecond.recent.trans hfirst.recent, hsecond.due.trans hfirst.due,
    hsecond.channels.trans hfirst.channels⟩

/-- States that are the same for the users reach the same ones. -/
theorem reaches_congr {next : Database} {users : List Nat}
    (hsame : ∀ user ∈ users, SameUser config turns event db next user) :
    Reaches config turns event context next users userId ↔
      Reaches config turns event context db users userId := by
  unfold Reaches
  refine exists_congr fun before => exists_congr fun after => and_congr_right fun husers => ?_
  refine forall₂_congr fun earlier hearlier => ?_
  have hfound := hsame earlier (husers ▸ List.mem_append_left _ hearlier)
  unfold Served
  rw [hfound.recent, hfound.due]

/-- The rows logged for others do not matter to a user. -/
theorem sameUser_of_logged {channels : List NotificationChannel} {next : Database}
    (hlogged : Logged config turns event context channels db next)
    (hother : ∀ channel ∈ channels, channel.userId ≠ userId) :
    SameUser config turns event db next userId := by
  refine ⟨hlogged.recentOf_eq hother, hlogged.dueOf_eq hother, ?_⟩
  obtain ⟨logs, rfl, _⟩ := hlogged
  rfl

/-- After the first of the users has been served, the others find what they found before. -/
theorem sameUser_rest {watches : List Watch} {seenUsers : List Nat} {first : Nat} {next : Database}
    (hlogged : Logged config turns event context (dueOf config turns event db first) db next)
    {user : Nat} (huser : user ∈ newUsers watches (first :: seenUsers)) :
    SameUser config turns event db next user := by
  refine sameUser_of_logged hlogged ?_
  intro channel hchannel heq
  apply not_mem_seen_of_mem_newUsers huser
  rw [← heq, userId_of_mem_dueOf hchannel]
  exact List.mem_cons_self

/-- Every call of the loop over the watches is made for a user that is reached. -/
theorem exists_part_of_mem_loop {eventId : Nat} (hevent : event.id = some eventId)
    {watches : List Watch} {seenUsers : List Nat} {call : Event notifyPort Raised}
    (hcall : call ∈ ((notifyWatches config event context watches seenUsers).exec
      (notifyHandler config turns) db).trace) :
    ∃ userId next, Reaches config turns event context db (newUsers watches seenUsers) userId ∧
      SameUser config turns event db next userId ∧
      call ∈ partOf config turns event context next userId := by
  induction watches generalizing db seenUsers with
  | nil => cases hcall
  | cons watch rest ih =>
      unfold notifyWatches at hcall
      unfold newUsers
      split at hcall
      · rename_i hseen
        rw [if_pos hseen]
        exact ih hcall
      · rename_i hnew
        rw [if_neg hnew]
        have hnotified := @notifyUser_notified config turns event context db watch.userId eventId
          hevent
        rw [Co.exec_bind] at hcall
        by_cases hserved : Served config turns event context db watch.userId
        · obtain ⟨hresult, _, hlogged⟩ := hnotified.completes hserved.1 hserved.2
          simp only [hresult] at hcall
          rcases List.mem_append.mp hcall with hfirst | hlater
          · exact ⟨watch.userId, db, reaches_cons_iff.mpr (Or.inl rfl), SameUser.refl, hfirst⟩
          · obtain ⟨userId, next, hreaches, hsame, hpart⟩ := ih hlater
            refine ⟨userId, next, reaches_cons_iff.mpr (Or.inr ⟨hserved, ?_⟩),
              (sameUser_rest hlogged hreaches.mem).trans hsame, hpart⟩
            exact (reaches_congr fun user huser => sameUser_rest hlogged huser).mp hreaches
        · obtain ⟨error, hresult⟩ := hnotified.fails hserved
          simp only [hresult] at hcall
          exact ⟨watch.userId, db, reaches_cons_iff.mpr (Or.inl rfl), SameUser.refl, hcall⟩

/-- The calls for a user that is reached are made. -/
theorem exists_part_in_loop {eventId : Nat} (hevent : event.id = some eventId)
    {watches : List Watch} {seenUsers : List Nat}
    (hreaches : Reaches config turns event context db (newUsers watches seenUsers) userId) :
    ∃ next, SameUser config turns event db next userId ∧
      partOf config turns event context next userId ⊆
        ((notifyWatches config event context watches seenUsers).exec
          (notifyHandler config turns) db).trace := by
  induction watches generalizing db seenUsers with
  | nil => cases hreaches.mem
  | cons watch rest ih =>
      unfold newUsers at hreaches
      unfold notifyWatches
      split at hreaches
      · rename_i hseen
        rw [if_pos hseen]
        exact ih hreaches
      · rename_i hnew
        rw [if_neg hnew, Co.exec_bind]
        rcases reaches_cons_iff.mp hreaches with rfl | ⟨hserved, hlater⟩
        · refine ⟨db, SameUser.refl, ?_⟩
          intro call hcall
          simp only
          split
          · exact List.mem_append_left _ hcall
          · exact hcall
        · have hnotified := @notifyUser_notified config turns event context db watch.userId eventId
            hevent
          obtain ⟨hresult, _, hlogged⟩ := hnotified.completes hserved.1 hserved.2
          have hlater' := (reaches_congr fun user huser => sameUser_rest hlogged huser).mpr hlater
          obtain ⟨next, hsame, hpart⟩ := ih hlater'
          refine ⟨next, (sameUser_rest hlogged hlater.mem).trans hsame, ?_⟩
          intro call hcall
          simp only [hresult]
          exact List.mem_append_right _ (hpart hcall)

/-! ## The calls for a user -/

/-- The calls of the loop over the channels. -/
def NotifyOp.delivers : NotifyOp → Bool
  | .send _ _ _ | .createLog _ _ _ _ _ => true
  | _ => false

/-- The loop over the channels sends and logs. -/
theorem delivers_of_mem_channels {key : String} {channels : List NotificationChannel}
    {call : Event notifyPort Raised}
    (hcall : call ∈ ((notifyChannels config event context userId key channels).exec
      (notifyHandler config turns) db).trace) :
    call.op.delivers = true := by
  let delivering : Protocol notifyPort Raised Unit Unit :=
    ⟨fun op _ => op.delivers = true, fun _ _ _ => True, fun _ _ _ => (), fun _ _ => True⟩
  have hobeys : (notifyChannels config event context userId key channels).Obeys delivering () := by
    clear hcall
    induction channels with
    | nil => trivial
    | cons channel rest ih =>
        unfold notifyChannels
        split
        · exact ih
        · refine Co.obeys_perform rfl (fun success _ => ?_) (fun _ _ => trivial)
          split
          · exact Co.obeys_perform rfl (fun _ _ => ih) (fun _ _ => trivial)
          · trivial
  have hanswers : ∀ op reply ghost, delivering.answers op reply ghost := fun _ _ _ => trivial
  obtain ⟨_, hpre⟩ := Co.pre_of_mem_trace hanswers hobeys hcall
  exact hpre

/-- The lookup for a user and what it answers. -/
def lookupOf (config : NotificationConfig) (turns : NotifyOp → NotifyTurn) (event : DetectionEvent)
    (db : Database) (userId : Nat) : Event notifyPort Raised :=
  ⟨.existsRecent (dedupKey userId event.watchTargetId event.eventType) config.cooldownSeconds,
    (scalarOneOrNone (recentOf config turns event db userId)).map Option.isSome⟩

/-- The part of a user is the lookup; if there is no recent row, the user's channels and
their deliveries follow. -/
theorem partOf_cases {next : Database} (hsame : SameUser config turns event db next userId) :
    ∃ rest, partOf config turns event context next userId =
        lookupOf config turns event db userId :: rest ∧
      ((recentOf config turns event db userId = [] ∧ ∃ call deliveries, rest = call :: deliveries ∧
          call.op = .listForUser userId ∧ ∀ later ∈ deliveries, later.op.delivers = true) ∨
        (recentOf config turns event db userId ≠ [] ∧ rest = [])) := by
  have hlookup : notifyHandler config turns (.existsRecent
      (dedupKey userId event.watchTargetId event.eventType) config.cooldownSeconds) next =
      ((scalarOneOrNone (recentOf config turns event db userId)).map Option.isSome, next) := by
    rw [← hsame.recent]
    rfl
  unfold partOf lookupOf notifyUser
  match hrecent : recentOf config turns event db userId with
  | [] =>
      rw [hrecent] at hlookup
      rw [exec_askNotify hlookup]
      simp only [Option.isSome_none, Bool.false_eq_true, if_false]
      rw [exec_askNotify (answersAlike_notifyHandler (.listForUser userId) next nofun)]
      exact ⟨_, rfl, Or.inl ⟨trivial, _, _, rfl, rfl, fun later hlater =>
        delivers_of_mem_channels hlater⟩⟩
  | [row] =>
      rw [hrecent] at hlookup
      rw [exec_askNotify hlookup]
      exact ⟨[], rfl, Or.inr ⟨nofun, rfl⟩⟩
  | first :: second :: rows =>
      rw [hrecent] at hlookup
      rw [exec_askNotify_raises hlookup]
      exact ⟨[], rfl, Or.inr ⟨nofun, rfl⟩⟩

/-! ## The calls of a run -/

/-- The calls for the users of a run. -/
def NotifyOp.ofUser : NotifyOp → Bool
  | .existsRecent _ _ | .listForUser _ => true
  | _ => false

/-- A run that finds its event makes four calls and then the calls of the loop. -/
theorem trace_processEvent {eventId : Nat} (hfound : contextOf db eventId = some (event, context)) :
    ∃ first, (∀ call ∈ first, call.op.ofUser = false) ∧
      ((processEvent config eventId).exec (notifyHandler config turns) db).trace =
        first ++ ((notifyWatches config event context
          (SqlAlchemyWatchRepository.listByWatchTarget db event.watchTargetId) []).exec
            (notifyHandler config turns) db).trace := by
  obtain ⟨found, target, snapshot, watches, hexec⟩ :=
    exec_processEvent_found answersAlike_notifyHandler hfound
  rw [hexec]
  refine ⟨[_, _, _, _], ?_, rfl⟩
  simp [NotifyOp.ofUser]

/-- A call for a user is the lookup of a user the run reaches, or asks for the channels of
one who has no recent row. -/
theorem ofUser_of_mem_trace {eventId : Nat} (hfound : contextOf db eventId = some (event, context))
    {call : Event notifyPort Raised} (hof : call.op.ofUser = true)
    (hcall : call ∈ ((processEvent config eventId).exec (notifyHandler config turns) db).trace) :
    ∃ userId, Reaches config turns event context db (subscribers db event.watchTargetId) userId ∧
      (call = lookupOf config turns event db userId ∨
        (recentOf config turns event db userId = [] ∧ call.op = .listForUser userId)) := by
  obtain ⟨id, hevent⟩ := id_of_contextOf hfound
  obtain ⟨first, hfirst, htrace⟩ := @trace_processEvent config turns event context db eventId hfound
  rw [htrace, List.mem_append] at hcall
  rcases hcall with hearly | hloop
  · cases hof.symm.trans (hfirst call hearly)
  · obtain ⟨userId, next, hreaches, hsame, hpart⟩ := exists_part_of_mem_loop hevent hloop
    obtain ⟨rest, hsplit, hrest⟩ := partOf_cases hsame
    refine ⟨userId, hreaches, ?_⟩
    rw [hsplit] at hpart
    rcases List.mem_cons.mp hpart with heq | hlater
    · exact Or.inl heq
    · rcases hrest with ⟨hrecent, channels, deliveries, rfl, hop, hdelivers⟩ | ⟨_, rfl⟩
      · rcases List.mem_cons.mp hlater with rfl | hdelivery
        · exact Or.inr ⟨hrecent, hop⟩
        · have hboth := hdelivers call hdelivery
          revert hof hboth
          cases call.op <;> simp [NotifyOp.ofUser, NotifyOp.delivers]
      · cases hlater

/-- The lookups of a run are those for the users it reaches. -/
theorem mem_lookups_iff {eventId : Nat} (hfound : contextOf db eventId = some (event, context))
    {key : String} {cooldownSeconds : Int} {reply : Except Raised Bool} :
    ⟨.existsRecent key cooldownSeconds, reply⟩ ∈
        ((processEvent config eventId).exec (notifyHandler config turns) db).trace ↔
      ∃ userId, Reaches config turns event context db (subscribers db event.watchTargetId) userId ∧
        lookupOf config turns event db userId = ⟨.existsRecent key cooldownSeconds, reply⟩ := by
  obtain ⟨id, hevent⟩ := id_of_contextOf hfound
  constructor
  · intro hcall
    obtain ⟨userId, hreaches, heq | ⟨_, hop⟩⟩ := ofUser_of_mem_trace hfound rfl hcall
    · exact ⟨userId, hreaches, heq.symm⟩
    · cases hop
  · rintro ⟨userId, hreaches, heq⟩
    obtain ⟨first, _, htrace⟩ := @trace_processEvent config turns event context db eventId hfound
    obtain ⟨next, hsame, hpart⟩ := exists_part_in_loop hevent hreaches
    obtain ⟨rest, hsplit, _⟩ := partOf_cases hsame
    rw [← heq, htrace]
    exact List.mem_append_right _ (hpart (hsplit ▸ List.mem_cons_self))

/-- A run goes on to the channels of the users it reaches who have no recent row. -/
theorem mem_listForUser_iff {eventId : Nat}
    (hfound : contextOf db eventId = some (event, context)) :
    (∃ call ∈ ((processEvent config eventId).exec (notifyHandler config turns) db).trace,
        call.op = .listForUser userId) ↔
      Reaches config turns event context db (subscribers db event.watchTargetId) userId ∧
        recentOf config turns event db userId = [] := by
  obtain ⟨id, hevent⟩ := id_of_contextOf hfound
  constructor
  · rintro ⟨call, hcall, hop⟩
    have hof : call.op.ofUser = true := by rw [hop]; rfl
    obtain ⟨other, hreaches, rfl | ⟨hrecent, hother⟩⟩ := ofUser_of_mem_trace hfound hof hcall
    · cases hop
    · obtain rfl := NotifyOp.listForUser.inj (hop.symm.trans hother)
      exact ⟨hreaches, hrecent⟩
  · rintro ⟨hreaches, hrecent⟩
    obtain ⟨first, _, htrace⟩ := @trace_processEvent config turns event context db eventId hfound
    obtain ⟨next, hsame, hpart⟩ := exists_part_in_loop hevent hreaches
    obtain ⟨rest, hsplit, ⟨_, call, deliveries, rfl, hop, _⟩ | ⟨hother, _⟩⟩ := partOf_cases hsame
    · refine ⟨call, ?_, hop⟩
      rw [htrace]
      refine List.mem_append_right _ (hpart ?_)
      rw [hsplit]
      exact List.mem_cons_of_mem _ List.mem_cons_self
    · exact absurd hrecent hother

end Parts

end StockMonitoring.Application
