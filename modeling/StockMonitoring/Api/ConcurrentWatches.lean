import StockMonitoring.Api.ApiSessions

set_option autoImplicit false

/-!
# Api: subscriptions beside each other

`get_or_create` reads the target and then inserts a row or assigns an absolute interval;
nothing holds the target in between.  Two first subscriptions both insert and the unique
constraint refuses one of them; a subscription that lowers what it has read may raise what
another one has committed since.  Where every request commits while what it relies on still
holds, all subscriptions succeed, on one target, checked at least as often as each asks
(`subscriptions_share_targets`).
-/

namespace StockMonitoring.Api

open StockMonitoring.Foundation StockMonitoring.Domain StockMonitoring.Application
  StockMonitoring.Infrastructure.Db

/-- A `create_watch` request. -/
structure WatchRequest where
  userId : Nat
  body : WatchCreateSchema

/-- The requests, each in its own session. -/
def watchSessions (tie : Nat → Nat) :
    SessionSpec WatchRequest apiPort Raised WatchSchema Database (List ApiWrite) ApiTurn Empty :=
  apiSessions tie fun request => createWatch request.body request.userId

/-- The session of a request. -/
abbrev WatchSession : Type :=
  Session WatchRequest apiPort Raised WatchSchema (List ApiWrite) ApiTurn

/-- The committed database and the requests. -/
abbrev WatchSystem : Type :=
  SessionSystem WatchRequest apiPort Raised WatchSchema Database (List ApiWrite) ApiTurn

/-- What happens next. -/
abbrev WatchMove : Type := SessionMove WatchRequest ApiTurn Empty

/-- A request beside no other is served as the requests one after another are. -/
theorem createWatch_alone {tie : Nat → Nat} {request : WatchRequest} {turns : Nat → ApiTurn}
    {count : Nat} {db : Database} {last : WatchSystem} (hsound : Sound db)
    (hrun : runFrom (watchSessions tie).step ⟨db, []⟩
      (.start request :: ((List.range' 0 count).map fun turn => .call 0 (turns turn)) ++
        [.finish 0]) = some last) :
    let arrival : ApiArrival := ⟨request.userId, .createWatch request.body, turns⟩
    ∃ session, last.sessions = [session] ∧ session.response = some (arrival.serve tie db).1 ∧
      ∀ watch, session.response = some (.ok watch) →
        last.committed = (arrival.serve tie db).2 :=
  apiRequest_alone hrun (sound_serve tie ⟨request.userId, .createWatch request.body, turns⟩
    hsound).targetKeys

/-! ## What the subscriptions promise -/

/-- The product is there and its user asks. -/
def Owns (db : Database) (request : WatchRequest) (product : ProductModel) : Prop :=
  product ∈ db.products.rows ∧ product.id = request.body.productId ∧
    product.userId = request.userId

/-- The key of the target that a request is for. -/
def WatchRequest.key (request : WatchRequest) (product : ProductModel) :
    String × String × String × String :=
  (request.body.retailerSlug, request.body.city, request.body.pincode, product.keyword)

/-- The watch is there, on a target with this key that is checked at least as often. -/
structure SubscribedTo (db : Database) (request : WatchRequest)
    (key : String × String × String × String) (watch : WatchSchema) : Prop where
  created : ∃ row ∈ db.watches.rows, WatchSchema.of (toWatch row) = watch
  asked : watch.intervalSeconds = request.body.intervalSeconds
  target : ∃ target ∈ db.watchTargets.rows, target.id = watch.watchTargetId ∧
    targetKey target = key ∧ target.intervalSeconds ≤ watch.intervalSeconds

/-- Every undisturbed request for an own product succeeds, the watches of requests for one
target are on one target, and its interval is at most that of each of them. -/
structure SharesTargets (system : WatchSystem) : Prop where
  succeeds : ∀ session ∈ system.sessions, Undisturbed session →
    (∃ product, Owns system.committed session.key product) →
      ∀ error, session.response ≠ some (.error error)
  subscribed : ∀ session ∈ system.sessions, ∀ watch, session.response = some (.ok watch) →
    ∃ product, Owns system.committed session.key product ∧
      SubscribedTo system.committed session.key (session.key.key product) watch
  oneTarget : ∀ session ∈ system.sessions, ∀ other ∈ system.sessions,
    ∀ product second, Owns system.committed session.key product →
      Owns system.committed other.key second → session.key.key product = other.key.key second →
      ∀ watch, session.response = some (.ok watch) →
        ∀ watch', other.response = some (.ok watch') → watch.watchTargetId = watch'.watchTargetId

/-- What a request has read about targets still holds where its writes rely on it. -/
def StillRight (db : Database) : ApiWrite → Prop
  | .watchTarget row => ∀ target ∈ db.watchTargets.rows, targetKey target ≠ targetKey row
  | .intervalSet watchTargetId intervalSeconds => ∀ target ∈ db.watchTargets.rows,
      target.id = watchTargetId → intervalSeconds ≤ target.intervalSeconds
  | _ => True

/-- A request commits while there is still no target with the key of the one it inserts, and
while the target it lowers is not below its interval. -/
def CommitsInTime (system : WatchSystem) : WatchMove → Prop
  | .finish position => ∀ session ∈ system.sessions[position]?, ∀ write ∈ session.work,
      StillRight system.committed write
  | _ => True

instance (db : Database) : (write : ApiWrite) → Decidable (StillRight db write)
  | .watchTarget row => inferInstanceAs (Decidable
      (∀ target ∈ db.watchTargets.rows, targetKey target ≠ targetKey row))
  | .intervalSet watchTargetId intervalSeconds => inferInstanceAs (Decidable
      (∀ target ∈ db.watchTargets.rows, target.id = watchTargetId →
        intervalSeconds ≤ target.intervalSeconds))
  | .product _ | .watch _ | .channel _ | .setting _ | .valueSet _ _ | .deactivated _
  | .verified _ | .productGone _ | .channelGone _ => isTrue trivial

instance (system : WatchSystem) : (move : WatchMove) → Decidable (CommitsInTime system move)
  | .finish _ => @Option.decidableForallMem _ _ (fun session =>
      inferInstanceAs (Decidable (∀ write ∈ session.work, StillRight system.committed write))) _
  | .call _ _ | .start _ => isTrue trivial
  | .outside change => nomatch change

/-! ## How far a request has come -/

section Program

variable (request : WatchRequest)

/-- The end of `create_watch`, once the target is there. -/
def subscribe (product : Product) (watchTarget : WatchTarget) : Endpoint WatchSchema :=
  match product.id, watchTarget.id with
  | some productId, some watchTargetId => do
      let watch ← askApi (.createWatch request.userId productId watchTargetId
        request.body.intervalSeconds)
      pure (WatchSchema.of watch)
  | _, _ => .raise .assertionError

/-- `create_watch` after the `SELECT` of the target. -/
def selected (product : Product) : Option WatchTargetModel → Endpoint WatchSchema
  | some existing =>
      if request.body.intervalSeconds < existing.intervalSeconds then
        askApi (.setInterval existing.id request.body.intervalSeconds) >>= fun _ =>
          subscribe request product
            (toWatchTarget { existing with intervalSeconds := request.body.intervalSeconds })
      else subscribe request product (toWatchTarget existing)
  | none =>
      askApi (.insertWatchTarget request.body.retailerSlug request.body.city request.body.pincode
        product.keyword request.body.intervalSeconds) >>= subscribe request product

/-- `create_watch` after the lookup of the product. -/
def lookedUp : Option Product → Endpoint WatchSchema
  | none => notFound "Product not found"
  | some product =>
      if product.userId ≠ request.userId then notFound "Product not found"
      else askApi (.selectWatchTarget request.body.retailerSlug request.body.city
        request.body.pincode product.keyword) >>= selected request product

theorem createWatch_eq : createWatch request.body request.userId =
    askApi (.getProduct request.body.productId) >>= lookedUp request := by
  unfold createWatch
  congr 1
  funext found
  cases found with
  | none => rfl
  | some product =>
      unfold lookedUp getOrCreate
      simp only
      split
      · rfl
      · rw [Co.bind_assoc]
        congr 1
        funext existing
        cases existing with
        | none => rfl
        | some existing =>
            unfold selected
            simp only
            split
            · rw [Co.bind_assoc]
              rfl
            · rfl

end Program

/-- What a request has made sure of before it inserts its watch: the target, and what it has
written. -/
inductive Secured (db : Database) (request : WatchRequest)
    (key : String × String × String × String) : Nat → List ApiWrite → Prop
  | kept (target : WatchTargetModel) (hmem : target ∈ db.watchTargets.rows)
      (hkey : targetKey target = key)
      (hinterval : target.intervalSeconds ≤ request.body.intervalSeconds) :
      Secured db request key target.id []
  | lowered (target : WatchTargetModel) (hmem : target ∈ db.watchTargets.rows)
      (hkey : targetKey target = key) :
      Secured db request key target.id [.intervalSet target.id request.body.intervalSeconds]
  | inserted (row : WatchTargetModel) (hkey : targetKey row = key)
      (hinterval : row.intervalSeconds = request.body.intervalSeconds) :
      Secured db request key row.id [.watchTarget row]

/-- What remains of a request, and what it has written. -/
inductive Progress (db : Database) (request : WatchRequest) :
    Endpoint WatchSchema → List ApiWrite → Prop
  | start : Progress db request (createWatch request.body request.userId) []
  | found (product : ProductModel) (howns : Owns db request product) :
      Progress db request
        (askApi (.selectWatchTarget request.body.retailerSlug request.body.city
          request.body.pincode product.keyword) >>= selected request (toProduct product)) []
  | higher (product : ProductModel) (howns : Owns db request product) (existing : WatchTargetModel)
      (target : WatchTargetModel) (hmem : target ∈ db.watchTargets.rows)
      (hid : target.id = existing.id) (hkey : targetKey target = request.key product) :
      Progress db request
        (askApi (.setInterval existing.id request.body.intervalSeconds) >>= fun _ =>
          subscribe request (toProduct product)
            (toWatchTarget { existing with intervalSeconds := request.body.intervalSeconds })) []
  | missing (product : ProductModel) (howns : Owns db request product) :
      Progress db request
        (askApi (.insertWatchTarget request.body.retailerSlug request.body.city
          request.body.pincode product.keyword request.body.intervalSeconds) >>=
            subscribe request (toProduct product)) []
  | secured (product : ProductModel) (howns : Owns db request product) (watchTargetId : Nat)
      (work : List ApiWrite)
      (hsecured : Secured db request (request.key product) watchTargetId work) :
      Progress db request
        (askApi (.createWatch request.userId product.id watchTargetId
          request.body.intervalSeconds) >>= fun watch => pure (WatchSchema.of watch)) work
  | done (product : ProductModel) (howns : Owns db request product) (row : WatchModel)
      (huser : row.userId = request.userId) (hproduct : row.productId = product.id)
      (hasked : row.intervalSeconds = request.body.intervalSeconds) (work : List ApiWrite)
      (hsecured : Secured db request (request.key product) row.watchTargetId work) :
      Progress db request (.ret (WatchSchema.of (toWatch row))) (work ++ [.watch row])

/-- Why a request may end without a watch. -/
def Excused (db : Database) (session : WatchSession) : Prop :=
  ¬ Undisturbed session ∨ ¬ ∃ product, Owns db session.key product

/-- What holds of a request. -/
def Tracked (db : Database) (session : WatchSession) : Prop :=
  match session.response with
  | none => Progress db session.key session.program session.work ∨
      (∃ error, session.program = .raise error) ∧ Excused db session
  | some (.ok watch) => ∃ product, Owns db session.key product ∧
      SubscribedTo db session.key (session.key.key product) watch
  | some (.error _) => Excused db session

/-! ## What the others keep -/

/-- Products and watches stay, targets stay under their keys and their intervals do not
grow. -/
structure Keeps (db next : Database) : Prop where
  products : next.products.rows = db.products.rows
  watches : ∀ row ∈ db.watches.rows, row ∈ next.watches.rows
  targets : ∀ target ∈ db.watchTargets.rows, ∃ later ∈ next.watchTargets.rows,
    later.id = target.id ∧ targetKey later = targetKey target ∧
      later.intervalSeconds ≤ target.intervalSeconds

section Keeps

variable {db next : Database} {request : WatchRequest} {session : WatchSession}

theorem keeps_refl (db : Database) : Keeps db db :=
  ⟨rfl, fun _ hrow => hrow, fun target hmem => ⟨target, hmem, rfl, rfl, Int.le_refl _⟩⟩

theorem Keeps.owns_iff (hkeeps : Keeps db next) {product : ProductModel} :
    Owns next request product ↔ Owns db request product := by
  unfold Owns
  rw [hkeeps.products]

theorem Keeps.excused (hkeeps : Keeps db next) (hexcused : Excused db session) :
    Excused next session := by
  unfold Excused at *
  simpa only [hkeeps.owns_iff] using hexcused

theorem Keeps.secured (hkeeps : Keeps db next) {key : String × String × String × String}
    {watchTargetId : Nat} {work : List ApiWrite}
    (hsecured : Secured db request key watchTargetId work) :
    Secured next request key watchTargetId work := by
  cases hsecured with
  | kept target hmem hkey hinterval =>
      obtain ⟨later, hlater, hid, hlaterKey, hle⟩ := hkeeps.targets target hmem
      rw [← hid]
      exact .kept later hlater (hlaterKey.trans hkey) (Int.le_trans hle hinterval)
  | lowered target hmem hkey =>
      obtain ⟨later, hlater, hid, hlaterKey, _⟩ := hkeeps.targets target hmem
      rw [← hid]
      exact .lowered later hlater (hlaterKey.trans hkey)
  | inserted row hkey hinterval => exact .inserted row hkey hinterval

theorem Keeps.progress (hkeeps : Keeps db next) {program : Endpoint WatchSchema}
    {work : List ApiWrite} (hprogress : Progress db request program work) :
    Progress next request program work := by
  cases hprogress with
  | start => exact .start
  | found product howns => exact .found product (hkeeps.owns_iff.mpr howns)
  | higher product howns existing target hmem hid hkey =>
      obtain ⟨later, hlater, hlaterId, hlaterKey, _⟩ := hkeeps.targets target hmem
      exact .higher product (hkeeps.owns_iff.mpr howns) existing later hlater (hlaterId.trans hid)
        (hlaterKey.trans hkey)
  | missing product howns => exact .missing product (hkeeps.owns_iff.mpr howns)
  | secured product howns watchTargetId work hsecured =>
      exact .secured product (hkeeps.owns_iff.mpr howns) watchTargetId work
        (hkeeps.secured hsecured)
  | done product howns row huser hproduct hasked work hsecured =>
      exact .done product (hkeeps.owns_iff.mpr howns) row huser hproduct hasked work
        (hkeeps.secured hsecured)

theorem Keeps.subscribedTo (hkeeps : Keeps db next) {key : String × String × String × String}
    {watch : WatchSchema} (hsubscribed : SubscribedTo db request key watch) :
    SubscribedTo next request key watch := by
  obtain ⟨⟨row, hrow, hwatch⟩, hasked, target, hmem, hid, hkey, hle⟩ := hsubscribed
  obtain ⟨later, hlater, hlaterId, hlaterKey, hlaterLe⟩ := hkeeps.targets target hmem
  exact ⟨⟨row, hkeeps.watches row hrow, hwatch⟩, hasked, later, hlater, hlaterId.trans hid,
    hlaterKey.trans hkey, Int.le_trans hlaterLe hle⟩

theorem Keeps.tracked (hkeeps : Keeps db next) (htracked : Tracked db session) :
    Tracked next session := by
  unfold Tracked at *
  split at htracked
  · rcases htracked with hprogress | ⟨hraised, hexcused⟩
    · exact Or.inl (hkeeps.progress hprogress)
    · exact Or.inr ⟨hraised, hkeeps.excused hexcused⟩
  · obtain ⟨product, howns, hsubscribed⟩ := htracked
    exact ⟨product, hkeeps.owns_iff.mpr howns, hkeeps.subscribedTo hsubscribed⟩
  · exact hkeeps.excused htracked

end Keeps

/-! ## The calls -/

/-- What the schema keeps and the read of a target relies on. -/
structure Consistent (db : Database) : Prop where
  keys : ForeignKeys db
  unique : UniqueTargets db

section Calls

variable {tie : Nat → Nat} {committed next : Database} {turn : ApiTurn}
  {session after : WatchSession}

/-- A call draws keys at most. -/
theorem keeps_called (hcalled : (watchSessions tie).called committed turn session =
    some (next, after)) : Keeps committed next ∧ (Consistent committed → Consistent next) := by
  obtain ⟨writes, rfl⟩ := called_reserves hcalled
  refine ⟨?_, fun hconsistent => ⟨reserves_invariant (fun _ => foreignKeys_reserve) writes
    hconsistent.keys, reserves_invariant ?_ writes hconsistent.unique⟩⟩
  · refine @reserves_invariant (Keeps committed) (fun db write hkeeps => ?_) _ writes
      (keeps_refl committed)
    cases write <;> exact ⟨hkeeps.products, hkeeps.watches, hkeeps.targets⟩
  · intro db write hunique
    cases write <;> exact hunique

/-- A call that does not raise by itself answers, or its request is disturbed. -/
theorem called_watch {op : ApiOp} {rest : op.Answer → Endpoint WatchSchema}
    (hprogram : session.program = askApi op >>= rest) (hprogress : session.response = none)
    (hanswers : ∀ error, (apiWork tie turn op (shown committed session.work)).1 ≠ .error error)
    (hcalled : (watchSessions tie).called committed turn session = some (next, after)) :
    Tracked committed after ∨
      ∃ answer, (apiWork tie turn op (shown committed session.work)).1 = .ok answer ∧
        after = { session with
          program := rest answer
          work := session.work ++ apiWrites (shown committed session.work) op
          calls := session.calls ++ [(turn, ⟨op, .ok answer⟩)] } := by
  rcases called_undisturbed hprogram hanswers hcalled with ⟨error, hdisturbed, rfl⟩ | hok
  · refine Or.inl ?_
    unfold Tracked
    simp only [hprogress]
    exact Or.inr ⟨⟨error, rfl⟩, Or.inl hdisturbed⟩
  · exact Or.inr hok

variable (hprogress : session.response = none)
include hprogress

/-- The lookup of the product. -/
theorem tracked_start
    (hprogram : session.program = createWatch session.key.body session.key.userId)
    (hwork : session.work = [])
    (hcalled : (watchSessions tie).called committed turn session = some (next, after)) :
    Tracked committed after := by
  rw [createWatch_eq] at hprogram
  have hlookup : (apiWork tie turn (.getProduct session.key.body.productId) committed).1 =
      .ok ((committed.products.find? session.key.body.productId).map toProduct) :=
    SqlAlchemyProductRepository.getById_eq committed _
  have hanswers : ∀ error, (apiWork tie turn (.getProduct session.key.body.productId)
      (shown committed session.work)).1 ≠ .error error := by
    intro error herror
    rw [hwork] at herror
    cases hlookup.symm.trans herror
  rcases called_watch hprogram hprogress hanswers hcalled with hfailed | ⟨answer, hanswer, rfl⟩
  · exact hfailed
  · rw [hwork] at hanswer
    obtain rfl := Except.ok.inj (hlookup.symm.trans hanswer)
    unfold Tracked
    simp only [hprogress, hwork]
    cases hfind : committed.products.find? session.key.body.productId with
    | none =>
        refine Or.inr ⟨⟨_, rfl⟩, Or.inr ?_⟩
        rintro ⟨product, hmem, hid, _⟩
        rw [Table.find?_eq_some_iff.mpr ⟨hmem, hid⟩] at hfind
        cases hfind
    | some row =>
        obtain ⟨hmem, hid⟩ := Table.find?_eq_some_iff.mp hfind
        by_cases howner : row.userId = session.key.userId
        · have hfound : lookedUp session.key ((some row).map toProduct) = _ :=
            if_neg (not_not_intro howner)
          rw [hfound]
          exact Or.inl (.found row ⟨hmem, hid, howner⟩)
        · have hfound : lookedUp session.key ((some row).map toProduct) = _ := if_pos howner
          refine Or.inr ⟨⟨_, hfound⟩, Or.inr ?_⟩
          rintro ⟨product, hother, hotherId, hotherOwner⟩
          obtain rfl := committed.products.eq_of_key_eq hmem hother (hid.trans hotherId.symm)
          exact howner hotherOwner

variable {product : ProductModel} (howns : Owns committed session.key product)
include howns

/-- The `SELECT` of the target. -/
theorem tracked_found (hunique : UniqueTargets committed)
    (hprogram : session.program = askApi (.selectWatchTarget session.key.body.retailerSlug
      session.key.body.city session.key.body.pincode product.keyword) >>=
        selected session.key (toProduct product))
    (hwork : session.work = [])
    (hcalled : (watchSessions tie).called committed turn session = some (next, after)) :
    Tracked committed after := by
  obtain ⟨found, hselect⟩ := exists_select_eq_ok hunique session.key.body.retailerSlug
    session.key.body.city session.key.body.pincode product.keyword
  have hanswers : ∀ error, (apiWork tie turn (.selectWatchTarget session.key.body.retailerSlug
      session.key.body.city session.key.body.pincode product.keyword)
        (shown committed session.work)).1 ≠ .error error := by
    intro error herror
    rw [hwork] at herror
    cases hselect.symm.trans herror
  rcases called_watch hprogram hprogress hanswers hcalled with hfailed | ⟨answer, hanswer, rfl⟩
  · exact hfailed
  · rw [hwork] at hanswer
    obtain rfl := Except.ok.inj (hselect.symm.trans hanswer)
    unfold Tracked
    simp only [hprogress, hwork]
    refine Or.inl ?_
    cases found with
    | none => exact .missing product howns
    | some existing =>
        obtain ⟨hmem, hkey⟩ := List.mem_filter.mp (mem_of_scalarOneOrNone hselect)
        have hsame : targetKey existing = session.key.key product := by
          simp only [Bool.and_eq_true, beq_iff_eq] at hkey
          simp only [targetKey, WatchRequest.key, hkey]
        by_cases hlower : session.key.body.intervalSeconds < existing.intervalSeconds
        · have hselected : selected session.key (toProduct product) (some existing) = _ :=
            if_pos hlower
          rw [hselected]
          exact .higher product howns existing existing hmem rfl hsame
        · have hselected : selected session.key (toProduct product) (some existing) = _ :=
            if_neg hlower
          rw [hselected]
          exact .secured product howns existing.id []
            (.kept existing hmem hsame (Int.not_lt.mp hlower))

/-- The assignment to the interval. -/
theorem tracked_higher {existing target : WatchTargetModel}
    (hmem : target ∈ committed.watchTargets.rows) (hid : target.id = existing.id)
    (hkey : targetKey target = session.key.key product)
    (hprogram : session.program =
      askApi (.setInterval existing.id session.key.body.intervalSeconds) >>= fun _ =>
        subscribe session.key (toProduct product)
          (toWatchTarget { existing with intervalSeconds := session.key.body.intervalSeconds }))
    (hwork : session.work = [])
    (hcalled : (watchSessions tie).called committed turn session = some (next, after)) :
    Tracked committed after := by
  rcases called_watch hprogram hprogress (fun _ => nofun) hcalled with hfailed | ⟨answer, _, rfl⟩
  · exact hfailed
  · unfold Tracked
    simp only [hprogress, hwork]
    refine Or.inl (.secured product howns existing.id _ ?_)
    rw [← hid]
    exact .lowered target hmem hkey

/-- The `INSERT` of the target. -/
theorem tracked_missing
    (hprogram : session.program = askApi (.insertWatchTarget session.key.body.retailerSlug
      session.key.body.city session.key.body.pincode product.keyword
      session.key.body.intervalSeconds) >>= subscribe session.key (toProduct product))
    (hwork : session.work = [])
    (hcalled : (watchSessions tie).called committed turn session = some (next, after)) :
    Tracked committed after := by
  rcases called_watch hprogram hprogress (fun _ => nofun) hcalled with
    hfailed | ⟨answer, hanswer, rfl⟩
  · exact hfailed
  · obtain rfl := Except.ok.inj hanswer
    let row : WatchTargetModel := ⟨committed.watchTargets.nextId,
      session.key.body.retailerSlug, session.key.body.city, session.key.body.pincode,
      product.keyword, session.key.body.intervalSeconds, none⟩
    unfold Tracked
    simp only [hprogress, hwork]
    refine Or.inl ?_
    exact .secured product howns row.id [.watchTarget row] (.inserted row rfl rfl)

/-- The `INSERT` of the watch. -/
theorem tracked_secured {watchTargetId : Nat}
    (hsecured : Secured committed session.key (session.key.key product) watchTargetId session.work)
    (hprogram : session.program = askApi (.createWatch session.key.userId product.id
      watchTargetId session.key.body.intervalSeconds) >>= fun watch => pure (WatchSchema.of watch))
    (hcalled : (watchSessions tie).called committed turn session = some (next, after)) :
    Tracked committed after := by
  rcases called_watch hprogram hprogress (fun _ => nofun) hcalled with
    hfailed | ⟨answer, hanswer, rfl⟩
  · exact hfailed
  · obtain rfl := Except.ok.inj hanswer
    unfold Tracked
    simp only [hprogress]
    exact Or.inl (.done product howns ⟨_, _, _, _, _, true⟩ rfl rfl rfl session.work hsecured)

omit hprogress howns in
/-- The step lemma for the calls of a request. -/
theorem Tracked.called (hconsistent : Consistent committed) (htracked : Tracked committed session)
    (hcalled : (watchSessions tie).called committed turn session = some (next, after)) :
    Keeps committed next ∧ Consistent next ∧ Tracked next after := by
  obtain ⟨hkeeps, hnext⟩ := keeps_called hcalled
  refine ⟨hkeeps, hnext hconsistent, hkeeps.tracked ?_⟩
  obtain ⟨key, program, work, calls, response⟩ := session
  obtain ⟨op, resume, _, _, hprogress, hcall, _⟩ := SessionSpec.called_cases hcalled
  cases hprogress
  rcases htracked with hprogress | ⟨⟨error, hraised⟩, _⟩
  · change Progress committed key program work at hprogress
    cases hprogress with
    | start => exact tracked_start rfl rfl rfl hcalled
    | found product howns => exact tracked_found rfl howns hconsistent.unique rfl rfl hcalled
    | higher product howns existing target hmem hid hkey =>
        exact tracked_higher rfl howns hmem hid hkey rfl rfl hcalled
    | missing product howns => exact tracked_missing rfl howns rfl rfl hcalled
    | secured product howns watchTargetId work hsecured =>
        exact tracked_secured rfl howns hsecured rfl hcalled
    | done => cases hcall
  · cases hraised.symm.trans hcall

end Calls

/-! ## The commits -/

section Commits

variable {tie : Nat → Nat} {committed next : Database} {request : WatchRequest}
  {session after : WatchSession}

/-- What the writes about a target come to when they are still right. -/
structure TargetLeft (db next : Database) (request : WatchRequest)
    (key : String × String × String × String) (watchTargetId : Nat) : Prop where
  consistent : Consistent next
  keeps : Keeps db next
  users : next.users = db.users
  watches : next.watches = db.watches
  target : ∃ target ∈ next.watchTargets.rows, target.id = watchTargetId ∧
    targetKey target = key ∧ target.intervalSeconds ≤ request.body.intervalSeconds

/-- The lowered target, when nothing below its interval has been committed since. -/
theorem targetLeft_setInterval (hconsistent : Consistent committed) {target : WatchTargetModel}
    (hmem : target ∈ committed.watchTargets.rows)
    (hright : ∀ other ∈ committed.watchTargets.rows, other.id = target.id →
      request.body.intervalSeconds ≤ other.intervalSeconds) :
    TargetLeft committed (SqlAlchemyWatchTargetRepository.setInterval committed target.id
      request.body.intervalSeconds) request (targetKey target) target.id := by
  have himage : ∀ other ∈ committed.watchTargets.rows,
      (if Keyed.key other = target.id then
        { other with intervalSeconds := request.body.intervalSeconds } else other) ∈
        (SqlAlchemyWatchTargetRepository.setInterval committed target.id
          request.body.intervalSeconds).watchTargets.rows :=
    fun other hother => List.mem_map.mpr ⟨other, hother, rfl⟩
  refine ⟨⟨hconsistent.keys.withTargets fun _ => refers_modify (by intro _; rfl), ?_⟩,
    ⟨rfl, fun _ hrow => hrow, fun other hother => ⟨_, himage other hother, ?_⟩⟩, rfl, rfl,
    ⟨_, himage target hmem, ?_⟩⟩
  · unfold UniqueTargets
    rw [targetKeys_setInterval]
    exact hconsistent.unique
  · split
    · rename_i hid
      exact ⟨rfl, rfl, hright other hother hid⟩
    · exact ⟨rfl, rfl, Int.le_refl _⟩
  · rw [if_pos (show Keyed.key target = target.id from rfl)]
    exact ⟨rfl, rfl, Int.le_refl _⟩

/-- The inserted target, when none with its key has been committed since. -/
theorem targetLeft_place (hconsistent : Consistent committed) {row : WatchTargetModel}
    (hinterval : row.intervalSeconds = request.body.intervalSeconds)
    (hfree : ¬ Refers committed.watchTargets row.id)
    (hright : ∀ other ∈ committed.watchTargets.rows, targetKey other ≠ targetKey row) :
    TargetLeft committed { committed with watchTargets := committed.watchTargets.place row }
      request (targetKey row) row.id := by
  have hrows : (committed.watchTargets.place row).rows = committed.watchTargets.rows ++ [row] :=
    rows_place_of_free hfree
  refine ⟨⟨hconsistent.keys.withTargets fun _ => refers_place, ?_⟩,
    ⟨rfl, fun _ hrow => hrow, fun other hother =>
      ⟨other, Table.mem_place hother, rfl, rfl, Int.le_refl _⟩⟩, rfl, rfl, row, ?_, rfl, rfl,
    Int.le_of_eq hinterval⟩
  · change ((committed.watchTargets.place row).rows.map targetKey).Nodup
    rw [hrows, List.map_append, List.map_singleton]
    refine hconsistent.unique.append (List.nodup_singleton _) ?_
    intro key hold hnew
    obtain ⟨other, hother, rfl⟩ := List.mem_map.mp hold
    exact hright other hother (List.mem_singleton.mp hnew)
  · change row ∈ (committed.watchTargets.place row).rows
    rw [hrows]
    exact List.mem_append_right _ (List.mem_singleton_self _)

/-- The target of a request at its commit. -/
theorem targetLeft_of_secured (hconsistent : Consistent committed)
    {key : String × String × String × String} {watchTargetId : Nat} {work : List ApiWrite}
    (hsecured : Secured committed request key watchTargetId work)
    (hright : ∀ write ∈ work, StillRight committed write)
    (hfree : ∀ row, .watchTarget row ∈ work → ¬ Refers committed.watchTargets row.id) :
    AllFits committed work ∧
      TargetLeft committed (shown committed work) request key watchTargetId := by
  cases hsecured with
  | kept target hmem hkey hinterval =>
      exact ⟨trivial, hconsistent, keeps_refl _, rfl, rfl, target, hmem, rfl, hkey, hinterval⟩
  | lowered target hmem hkey =>
      rw [← hkey]
      exact ⟨⟨trivial, trivial⟩, targetLeft_setInterval hconsistent hmem
        (hright _ (List.mem_singleton_self _))⟩
  | inserted row hkey hinterval =>
      have hrow := hfree row (List.mem_singleton_self _)
      rw [← hkey]
      exact ⟨⟨hrow, trivial⟩, targetLeft_place hconsistent hinterval hrow
        (hright _ (List.mem_singleton_self _))⟩

/-- The commit of a request that has inserted its watch. -/
theorem left_of_done (hconsistent : Consistent committed) {product : ProductModel}
    (howns : Owns committed request product) {row : WatchModel}
    (huser : row.userId = request.userId) (hproduct : row.productId = product.id)
    (hasked : row.intervalSeconds = request.body.intervalSeconds) {work : List ApiWrite}
    (hsecured : Secured committed request (request.key product) row.watchTargetId work)
    (hright : ∀ write ∈ work, StillRight committed write)
    (hfree : ∀ row, .watchTarget row ∈ work → ¬ Refers committed.watchTargets row.id)
    (hwatch : ¬ Refers committed.watches row.id) :
    AllFits committed (work ++ [.watch row]) ∧
      Consistent (shown committed (work ++ [.watch row])) ∧
      Keeps committed (shown committed (work ++ [.watch row])) ∧
      SubscribedTo (shown committed (work ++ [.watch row])) request (request.key product)
        (WatchSchema.of (toWatch row)) := by
  obtain ⟨hfits, hleft⟩ := targetLeft_of_secured hconsistent hsecured hright hfree
  obtain ⟨target, hmem, hid, hkey, hle⟩ := hleft.target
  have hfresh : ¬ Refers (shown committed work).watches row.id := by
    rw [hleft.watches]
    exact hwatch
  have hrows : ((shown committed work).watches.place row).rows =
      (shown committed work).watches.rows ++ [row] := rows_place_of_free hfresh
  rw [allFits_append, shown_append]
  refine ⟨⟨hfits, hfresh, trivial⟩, ⟨?_, hleft.consistent.unique⟩, ⟨hleft.keeps.products, ?_,
    hleft.keeps.targets⟩, ⟨row, ?_, rfl⟩, hasked, target, hmem, hid, hkey, ?_⟩
  · have hown := hleft.keeps.owns_iff.mpr howns
    refine @ForeignKeys.withWatch _ _ row hleft.consistent.keys (fun other hother => ?_) ?_ ?_ ?_
    · rw [hrows] at hother
      exact (List.mem_append.mp hother).imp_right List.mem_singleton.mp
    · rw [huser, ← hown.2.2]
      exact hleft.consistent.keys.productUser product hown.1
    · rw [hproduct]
      exact refers_of_mem hown.1
    · rw [← hid]
      exact refers_of_mem hmem
  · intro other hother
    exact Table.mem_place (hleft.watches ▸ hother)
  · change row ∈ ((shown committed work).watches.place row).rows
    rw [hrows]
    exact List.mem_append_right _ (List.mem_singleton_self _)
  · exact hle.trans (Int.le_of_eq hasked.symm)

/-- The step lemma for the end of a request. -/
theorem Tracked.finished (hconsistent : Consistent committed) (htracked : Tracked committed session)
    (hright : ∀ write ∈ session.work, StillRight committed write)
    (hfree : ∀ row, .watchTarget row ∈ session.work → ¬ Refers committed.watchTargets row.id)
    (hwatch : ∀ row, .watch row ∈ session.work → ¬ Refers committed.watches row.id)
    (hfinished : (watchSessions tie).finished committed session = some (next, after)) :
    Keeps committed next ∧ Consistent next ∧ Tracked next after := by
  obtain ⟨key, program, work, calls, response⟩ := session
  have hcases := SessionSpec.finished_cases hfinished
  obtain ⟨hprogress, hends⟩ := hcases
  cases hprogress
  have hdone : ∀ value, program = .ret value → ∃ product, Owns committed key product ∧
      AllFits committed work ∧ Consistent (shown committed work) ∧
      Keeps committed (shown committed work) ∧
        SubscribedTo (shown committed work) key (key.key product) value := by
    intro value hprogram
    rcases htracked with hprogress | ⟨⟨error, hraised⟩, _⟩
    · change Progress committed key program work at hprogress
      cases hprogress with
      | done product howns row huser hproduct hasked work hsecured =>
          cases hprogram
          refine ⟨product, howns, left_of_done hconsistent howns huser hproduct hasked hsecured
            (fun write hwrite => hright write (List.mem_append_left _ hwrite))
            (fun row hrow => hfree row (List.mem_append_left _ hrow))
            (hwatch row (List.mem_append_right _ (List.mem_singleton_self _)))⟩
      | _ => cases hprogram
    · cases hraised.symm.trans hprogram
  rcases hends with ⟨value, hprogram, hcommit, rfl⟩ | ⟨error, hcause, rfl, rfl⟩
  · obtain ⟨product, howns, _, hleft, hkeeps, hsubscribed⟩ := hdone value hprogram
    simp only [watchSessions, apiSessions] at hcommit
    split at hcommit
    · cases hcommit
      exact ⟨hkeeps, hleft, product, hkeeps.owns_iff.mpr howns, hsubscribed⟩
    · cases hcommit
  · refine ⟨keeps_refl _, hconsistent, ?_⟩
    rcases hcause with hraised | ⟨value, hprogram, hcommit⟩
    · rcases htracked with hprogress | ⟨_, hexcused⟩
      · change Progress _ key program work at hprogress
        cases hprogress <;> cases hraised
      · exact hexcused
    · obtain ⟨_, _, hfits, hleft, _, _⟩ := hdone value hprogram
      simp only [watchSessions, apiSessions] at hcommit
      rw [if_pos ⟨hfits, hleft.unique, hleft.keys⟩] at hcommit
      cases hcommit

end Commits

/-! ## Whole runs -/

/-- The keys that requests have drawn for targets and for watches are free. -/
def KeysFree (tie : Nat → Nat) (system : WatchSystem) : Prop :=
  (watchTargetTable.sequence tie fun request : WatchRequest =>
      createWatch request.body request.userId).Free system ∧
    (watchTable.sequence tie fun request : WatchRequest =>
      createWatch request.body request.userId).Free system

/-- Why requests that commit in time share their targets. -/
def targetsShared (tie : Nat → Nat) : Guarantee (watchSessions tie) fun system move =>
    CommitsInTime system move ∧ KeysFree tie system where
  holds := Consistent
  single := Tracked
  pair _ _ := True
  outside change _ _ := nomatch change
  single_opened _ _ _ := Or.inl .start
  pair_opened _ _ := ⟨trivial, trivial⟩
  called := by
    intro system index turn session next after _ _ hconsistent htracked hcalled
    obtain ⟨hkeeps, hnext, hafter⟩ := htracked.called hconsistent hcalled
    exact ⟨hnext, hafter, fun _ _ _ _ hother _ _ => ⟨hkeeps.tracked hother, trivial, trivial⟩⟩
  finished := by
    intro system index session next after hcondition hsession hconsistent htracked hfinished
    obtain ⟨htime, htargets, hwatches⟩ := hcondition
    have hmem := List.mem_of_getElem? hsession
    have hprogress : session.InProgress := (SessionSpec.finished_cases hfinished).1
    obtain ⟨hkeeps, hnext, hafter⟩ := htracked.finished hconsistent (htime session hsession)
      (fun row hrow => htargets session hmem hprogress row.id
        (TableOf.mem_drawn.mpr ⟨_, hrow, row, rfl, rfl⟩))
      (fun row hrow => hwatches session hmem hprogress row.id
        (TableOf.mem_drawn.mpr ⟨_, hrow, row, rfl, rfl⟩)) hfinished
    exact ⟨hnext, hafter, fun _ _ _ _ hother _ _ => ⟨hkeeps.tracked hother, trivial, trivial⟩⟩

/-- If every request commits while what it has read about targets still holds where it
matters, undisturbed requests for own products succeed, on one target for each key, which is
checked at least as often as each of them asks. -/
theorem subscriptions_share_targets (tie : Nat → Nat) (committed : Database)
    (hconsistent : Consistent committed) (moves : List WatchMove) (last : WatchSystem)
    (htime : Along (watchSessions tie).step CommitsInTime ⟨committed, []⟩ moves)
    (hrun : runFrom (watchSessions tie).step ⟨committed, []⟩ moves = some last) :
    SharesTargets last := by
  have htargets := (watchTargetTable.sequence tie fun request : WatchRequest =>
    createWatch request.body request.userId).along_free
      (fun _ => TableOf.behind Database.watchTargets committed) htime
  have hfree := (watchTable.sequence tie fun request : WatchRequest =>
    createWatch request.body request.userId).along_free
      (fun _ => TableOf.behind Database.watches committed) htargets
  have hholds := (targetsShared tie).holds_run
    (hfree.imp fun _ _ hall => ⟨hall.1.1, hall.1.2, hall.2⟩) hrun
    ((targetsShared tie).holds_start hconsistent)
  have hsubscribed : ∀ session ∈ last.sessions, ∀ watch, session.response = some (.ok watch) →
      ∃ product, Owns last.committed session.key product ∧
        SubscribedTo last.committed session.key (session.key.key product) watch := by
    intro session hsession watch hresponse
    have htracked := hholds.single session hsession
    change Tracked last.committed session at htracked
    unfold Tracked at htracked
    rw [hresponse] at htracked
    exact htracked
  refine ⟨?_, hsubscribed, ?_⟩
  · intro session hsession hundisturbed hown error hresponse
    have htracked := hholds.single session hsession
    change Tracked last.committed session at htracked
    unfold Tracked at htracked
    rw [hresponse] at htracked
    rcases htracked with hdisturbed | hnone
    · exact hdisturbed hundisturbed
    · exact hnone hown
  · intro session hsession other hother product second hproduct hsecond hkey watch hwatch watch'
      hwatch'
    obtain ⟨product', hproduct', hleft⟩ := hsubscribed session hsession watch hwatch
    obtain ⟨second', hsecond', hright⟩ := hsubscribed other hother watch' hwatch'
    obtain rfl := last.committed.products.eq_of_key_eq hproduct.1 hproduct'.1
      (hproduct.2.1.trans hproduct'.2.1.symm)
    obtain rfl := last.committed.products.eq_of_key_eq hsecond.1 hsecond'.1
      (hsecond.2.1.trans hsecond'.2.1.symm)
    obtain ⟨target, hmem, hid, htarget, _⟩ := hleft.target
    obtain ⟨target', hmem', hid', htarget', _⟩ := hright.target
    obtain rfl := List.inj_on_of_nodup_map hholds.committed.unique hmem hmem'
      (htarget.trans (hkey.trans htarget'.symm))
    exact hid.symm.trans hid'

/-- A user with one product that nobody watches. -/
def pantryDb : Database :=
  { Database.empty with
    users := Table.empty.insert fun id => ⟨id, "+15550006666", none, 0⟩
    products := Table.empty.insert fun id => ⟨id, 1, "rolled oats", "oats", none⟩ }

/-- The user's requests for one target. -/
def oatsEvery (intervalSeconds : Int) : WatchRequest :=
  ⟨1, 1, "blinkit", "Pune", "411001", intervalSeconds⟩

/-- Calls of a request that all return. -/
def watchCalls (index count : Nat) : List WatchMove := List.replicate count (.call index ⟨0, none⟩)

/-- The second request reads the target after the first has ended. -/
theorem later_subscription_shares :
    let moves : List WatchMove := [.start (oatsEvery 300), .start (oatsEvery 60)] ++
      watchCalls 0 4 ++ [.finish 0] ++ watchCalls 1 4 ++ [.finish 1]
    ∃ last, runFrom (watchSessions fun key => key).step ⟨pantryDb, []⟩ moves = some last ∧
      last.sessions.map (fun session => session.response) =
        [some (.ok ⟨some 1, 1, 1, 300, true⟩), some (.ok ⟨some 2, 1, 1, 60, true⟩)] ∧
      SharesTargets last := by
  intro moves
  have hreached : ((runFrom (watchSessions fun key => key).step ⟨pantryDb, []⟩ moves).map
      fun last => last.sessions.map fun session => session.response) =
        some [some (.ok ⟨some 1, 1, 1, 300, true⟩), some (.ok ⟨some 2, 1, 1, 60, true⟩)] := by
    decide +kernel
  obtain ⟨last, hrun, hresponses⟩ := Option.map_eq_some_iff.mp hreached
  exact ⟨last, hrun, hresponses, subscriptions_share_targets (fun key => key) pantryDb
    ⟨by decide, by decide⟩ moves last (by decide +kernel) hrun⟩

/-- Both requests read before either commits. -/
def racing (first second : WatchRequest) : List WatchMove :=
  [.start first, .start second] ++ watchCalls 0 2 ++ watchCalls 1 2 ++ watchCalls 0 2 ++
    [.finish 0] ++ watchCalls 1 2 ++ [.finish 1]

/-- Of two racing first subscriptions one raises; of two that lower the interval, the one that
commits last undoes the other. -/
theorem racing_subscriptions_collide :
    (∃ last, runFrom (watchSessions fun key => key).step ⟨pantryDb, []⟩
        (racing (oatsEvery 300) (oatsEvery 60)) = some last ∧ ¬ SharesTargets last) ∧
      ∃ last, runFrom (watchSessions fun key => key).step
        ⟨(SqlAlchemyWatchTargetRepository.insert pantryDb "blinkit" "Pune" "411001" "oats" 300).2,
          []⟩ (racing (oatsEvery 60) (oatsEvery 120)) = some last ∧ ¬ SharesTargets last := by
  refine ⟨?_, ?_⟩
  · have hreached : ((runFrom (watchSessions fun key => key).step ⟨pantryDb, []⟩
        (racing (oatsEvery 300) (oatsEvery 60))).bind fun last =>
          last.sessions[1]?.map fun session =>
          (session.response, decide (Undisturbed session),
            decide (∃ product ∈ last.committed.products.rows,
              product.id = session.key.body.productId ∧ product.userId = session.key.userId))) =
        some (some (.error .integrityError), true, true) := by
      decide +kernel
    obtain ⟨last, hrun, hsecond⟩ := Option.bind_eq_some_iff.mp hreached
    obtain ⟨session, hsession, hfacts⟩ := Option.map_eq_some_iff.mp hsecond
    simp only [Prod.mk.injEq, decide_eq_true_eq] at hfacts
    obtain ⟨hresponse, hundisturbed, product, hproduct⟩ := hfacts
    refine ⟨last, hrun, fun hshares => ?_⟩
    exact hshares.succeeds session (List.mem_of_getElem? hsession) hundisturbed ⟨product, hproduct⟩
      _ hresponse
  · have hreached : ((runFrom (watchSessions fun key => key).step
        ⟨(SqlAlchemyWatchTargetRepository.insert pantryDb "blinkit" "Pune" "411001" "oats" 300).2,
          []⟩ (racing (oatsEvery 60) (oatsEvery 120))).bind fun last => last.sessions[0]?.map
            fun session => (session.response,
              last.committed.watchTargets.rows.map fun target => target.intervalSeconds)) =
        some (some (.ok ⟨some 1, 1, 1, 60, true⟩), [120]) := by
      decide +kernel
    obtain ⟨last, hrun, hfirst⟩ := Option.bind_eq_some_iff.mp hreached
    obtain ⟨session, hsession, hfacts⟩ := Option.map_eq_some_iff.mp hfirst
    simp only [Prod.mk.injEq] at hfacts
    obtain ⟨hresponse, hintervals⟩ := hfacts
    refine ⟨last, hrun, fun hshares => ?_⟩
    obtain ⟨_, _, hsubscribed⟩ :=
      hshares.subscribed session (List.mem_of_getElem? hsession) _ hresponse
    obtain ⟨target, hmem, _, _, hle⟩ := hsubscribed.target
    have hinterval := @List.mem_map_of_mem _ _ _ _ (fun row => row.intervalSeconds) hmem
    rw [hintervals] at hinterval
    rw [List.mem_singleton.mp hinterval] at hle
    exact absurd hle (by decide)

end StockMonitoring.Api
