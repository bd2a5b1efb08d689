import StockMonitoring.Api.ApiSessions
import StockMonitoring.Foundation.SessionFacts

set_option autoImplicit false

/-!
# Api: what a request relies on

All authenticated requests side by side, each in its own session.  A handler looks up a row
before it writes, and writes only to rows that it has found to be its user's
(`careful_program`).  What it has found, the owner of a row and its keyword, no request
changes, so it is still right when the session commits (`lastingValue`).
-/

namespace StockMonitoring.Api

open StockMonitoring.Foundation StockMonitoring.Domain StockMonitoring.Infrastructure.Db

/-! ## The requests beside each other -/

/-- A request of a user. -/
structure UserRequest where
  userId : Nat
  request : ApiRequest

/-- The handler of a request, with the request that its response belongs to. -/
def UserRequest.program (key : UserRequest) :
    Endpoint (Σ request : ApiRequest, request.Response) :=
  key.request.handler key.userId >>= fun response => pure ⟨key.request, response⟩

/-- The requests, each in its own session. -/
abbrev restSessions (tie : Nat → Nat) :
    SessionSpec UserRequest apiPort Raised (Σ request : ApiRequest, request.Response) Database
      (List ApiWrite) ApiTurn Empty :=
  apiSessions tie UserRequest.program

/-- The session of a request. -/
abbrev RestSession : Type :=
  Session UserRequest apiPort Raised (Σ request : ApiRequest, request.Response) (List ApiWrite)
    ApiTurn

/-- The committed database and the requests. -/
abbrev RestSystem : Type :=
  SessionSystem UserRequest apiPort Raised (Σ request : ApiRequest, request.Response) Database
    (List ApiWrite) ApiTurn

/-- What happens next. -/
abbrev RestMove : Type := SessionMove UserRequest ApiTurn Empty

/-! ## What calls tell -/

/-- The calls of a request so far, with their replies. -/
abbrev Heard : Type := List (Event apiPort Raised)

/-- The owner and the keyword of a product that was looked up. -/
def tellsProduct : Event apiPort Raised → Nat → Nat × String → Prop
  | ⟨.getProduct productId, .ok (some product)⟩, key, value =>
      productId = key ∧ (product.userId, product.keyword) = value
  | _, _, _ => False

/-- The owner of a watch that was looked up. -/
def tellsWatch : Event apiPort Raised → Nat → Nat → Prop
  | ⟨.getWatch watchId, .ok (some watch)⟩, key, value => watchId = key ∧ watch.userId = value
  | _, _, _ => False

/-- The owner of a channel that was looked up. -/
def tellsChannel : Event apiPort Raised → Nat → Nat → Prop
  | ⟨.getChannel channelId, .ok (some channel)⟩, key, value =>
      channelId = key ∧ channel.userId = value
  | _, _, _ => False

/-- The owner of a setting that was looked up. -/
def tellsSetting : Event apiPort Raised → Nat → Option Nat → Prop
  | ⟨.selectSetting _ _, .ok (some setting)⟩, key, value =>
      setting.id = key ∧ setting.userId = value
  | _, _, _ => False

/-- The keyword of a watch target that was looked up. -/
def tellsTarget : Event apiPort Raised → Nat → String → Prop
  | ⟨.selectWatchTarget _ _ _ _, .ok (some target)⟩, key, value =>
      target.id = key ∧ target.keyword = value
  | _, _, _ => False

/-- The keyword of a watch target that was inserted. -/
def tellsInserted : Event apiPort Raised → Nat → String → Prop
  | ⟨.insertWatchTarget _ _ _ keyword _, .ok target⟩, key, value =>
      target.id = some key ∧ keyword = value
  | _, _, _ => False

/-- One of the calls tells this. -/
def Told {A : Type} (tells : Event apiPort Raised → Nat → A → Prop) (heard : Heard) (key : Nat)
    (value : A) : Prop :=
  ∃ event ∈ heard, tells event key value

theorem Told.mono {A : Type} {tells : Event apiPort Raised → Nat → A → Prop} {heard : Heard}
    {key : Nat} {value : A} (htold : Told tells heard key value) (later : Heard) :
    Told tells (heard ++ later) key value := by
  obtain ⟨event, hevent, htells⟩ := htold
  exact ⟨event, List.mem_append_left _ hevent, htells⟩

/-! ## The protocol of the handlers -/

/-- The call only reads. -/
def ApiOp.reads : ApiOp → Bool
  | .createProduct _ _ _ _ | .insertWatchTarget _ _ _ _ _ | .createWatch _ _ _ _
  | .createChannel _ _ _ | .insertSetting _ _ _ | .setInterval _ _ | .setValue _ _
  | .deactivate _ | .markVerified _ | .deleteProduct _ | .deleteChannel _ => false
  | _ => true

/-- What a user's request must have heard before a call. -/
def Permitted (userId : Nat) : ApiOp → Heard → Prop
  | .getProduct _, heard | .getWatch _, heard | .getChannel _, heard | .selectSetting _ _, heard
  | .selectWatchTarget _ _ _ _, heard => ∀ event ∈ heard, event.op.reads = true
  | .createProduct owner _ _ _, _ | .createChannel owner _ _, _ | .insertSetting owner _ _, _ =>
      owner = userId
  | .createWatch owner productId watchTargetId _, heard => owner = userId ∧
      ∃ keyword, Told tellsProduct heard productId (userId, keyword) ∧
        (Told tellsTarget heard watchTargetId keyword ∨
          Told tellsInserted heard watchTargetId keyword)
  | .deleteProduct productId, heard =>
      ∃ keyword, Told tellsProduct heard productId (userId, keyword)
  | .deactivate watchId, heard => Told tellsWatch heard watchId userId
  | .markVerified channelId, heard | .deleteChannel channelId, heard =>
      Told tellsChannel heard channelId userId
  | .setValue settingId _, heard => Told tellsSetting heard settingId (some userId)
  | _, _ => True

/-- What is known of the reply to a lookup. -/
def Plausible : (op : ApiOp) → Reply apiPort Raised op → Prop
  | .getProduct productId, .ok (some product) => product.id = some productId
  | .selectSetting userId _, .ok (some setting) => setting.userId = some userId
  | .selectWatchTarget _ _ _ keyword, .ok (some target) => target.keyword = keyword
  | _, _ => True

/-- Look up first, and write only to what is the user's. -/
def careful {α : Type} (userId : Nat) : Protocol apiPort Raised α Heard where
  pre := Permitted userId
  answers op reply _ := Plausible op reply
  next op reply heard := heard ++ [⟨op, reply⟩]
  post _ _ := True

section Handlers

variable {α : Type} {userId : Nat} {heard : Heard}

/-- A call in front of a part of a handler. -/
theorem careful_ask {op : ApiOp} {rest : op.Answer → Endpoint α} (hpre : Permitted userId op heard)
    (hrest : ∀ answer : op.Answer, Plausible op (.ok answer) →
      (rest answer).Obeys (careful userId) (heard ++ [⟨op, .ok answer⟩])) :
    (askApi op >>= rest).Obeys (careful userId) heard :=
  Co.obeys_perform hpre hrest fun _ _ => trivial

/-- A result that needs no call. -/
theorem careful_ofExcept {β : Type} {result : Except Raised β} {rest : β → Endpoint α}
    (hrest : ∀ value, (rest value).Obeys (careful userId) heard) :
    (Co.ofExcept result >>= rest).Obeys (careful userId) heard := by
  cases result with
  | error error => trivial
  | ok value => exact hrest value

/-- A call at the end of a handler. -/
theorem careful_last {op : ApiOp} (hpre : Permitted userId op heard) :
    (askApi op).Obeys (careful userId) heard :=
  ⟨hpre, fun reply _ => by cases reply <;> trivial⟩

/-- A handler has called nothing before its first lookup. -/
theorem nothing_heard : ∀ event ∈ ([] : Heard), event.op.reads = true := by
  intro event hevent
  cases hevent

/-- A lookup of an own watch. -/
theorem careful_ownedWatch {watchId : Nat} {rest : Watch → Endpoint α}
    (hrest : ∀ watch : Watch, watch.userId = userId →
      (rest watch).Obeys (careful userId) [⟨.getWatch watchId, .ok (some watch)⟩]) :
    (ownedWatch watchId userId >>= rest).Obeys (careful userId) [] := by
  unfold ownedWatch
  rw [Co.bind_assoc]
  refine careful_ask nothing_heard fun found _ => ?_
  cases found with
  | none => trivial
  | some watch =>
      simp only
      split
      · trivial
      · rename_i howner
        exact hrest watch (not_not.mp howner)

/-- A lookup of an own channel. -/
theorem careful_ownedChannel {channelId : Nat} {rest : NotificationChannel → Endpoint α}
    (hrest : ∀ channel : NotificationChannel, channel.userId = userId →
      (rest channel).Obeys (careful userId) [⟨.getChannel channelId, .ok (some channel)⟩]) :
    (ownedChannel channelId userId >>= rest).Obeys (careful userId) [] := by
  unfold ownedChannel
  rw [Co.bind_assoc]
  refine careful_ask nothing_heard fun found _ => ?_
  cases found with
  | none => trivial
  | some channel =>
      simp only
      split
      · trivial
      · rename_i howner
        exact hrest channel (not_not.mp howner)

theorem careful_historyEntries (events : List DetectionEvent) (entries : List HistoryEntrySchema)
    (heard : Heard) : (historyEntries events entries).Obeys (careful userId) heard := by
  induction events generalizing entries heard with
  | nil => trivial
  | cons event rest ih =>
      unfold historyEntries
      refine careful_ask trivial fun found _ => ?_
      cases found with
      | none => exact ih entries _
      | some snapshot => exact ih _ _

/-- `create_watch` subscribes an own product to a target with its keyword. -/
theorem careful_createWatch (body : WatchCreateSchema) :
    (createWatch body userId).Obeys (careful userId) [] := by
  unfold createWatch
  refine careful_ask nothing_heard fun found hfound => ?_
  cases found with
  | none => trivial
  | some product =>
      simp only
      split
      · trivial
      · rename_i howner
        have hown : product.userId = userId := not_not.mp howner
        have hid : product.id = some body.productId := hfound
        have hproduct : ∀ later : Heard, Told tellsProduct
            ([⟨.getProduct body.productId, .ok (some product)⟩] ++ later) body.productId
              (userId, product.keyword) := by
          intro later
          have htold : Told tellsProduct [⟨.getProduct body.productId, .ok (some product)⟩]
              body.productId (userId, product.keyword) :=
            ⟨_, List.mem_singleton_self _, rfl, by rw [hown]⟩
          exact htold.mono later
        unfold getOrCreate
        rw [hid, Co.bind_assoc]
        have hlooked : ∀ event ∈
            ([⟨.getProduct body.productId, .ok (some product)⟩] : Heard),
              event.op.reads = true := by
          intro event hevent
          rw [List.mem_singleton.mp hevent]
          rfl
        refine careful_ask hlooked fun existing hexisting => ?_
        cases existing with
        | some target =>
            have hkeyword : target.keyword = product.keyword := hexisting
            have htarget : ∀ later : Heard, Told tellsTarget
                ([⟨.getProduct body.productId, .ok (some product)⟩] ++
                  ⟨.selectWatchTarget body.retailerSlug body.city body.pincode product.keyword,
                    .ok (some target)⟩ :: later) target.id product.keyword := by
              intro later
              exact ⟨_, List.mem_cons_of_mem _ List.mem_cons_self, rfl, hkeyword⟩
            simp only
            split
            · rw [Co.bind_assoc]
              refine careful_ask trivial fun _ _ => ?_
              exact careful_ask ⟨rfl, product.keyword, hproduct _, Or.inl (htarget _)⟩
                fun _ _ => trivial
            · exact careful_ask ⟨rfl, product.keyword, hproduct _, Or.inl (htarget _)⟩
                fun _ _ => trivial
        | none =>
            refine careful_ask trivial fun target _ => ?_
            cases htargetId : target.id with
            | none => trivial
            | some watchTargetId =>
                refine careful_ask ⟨rfl, product.keyword, hproduct _, Or.inr ?_⟩ fun _ _ => trivial
                exact ⟨_, List.mem_append_right _ List.mem_cons_self, htargetId, rfl⟩

/-- Every handler looks up before it writes, and writes only to what is its user's. -/
theorem careful_handler (userId : Nat) (request : ApiRequest) :
    (request.handler userId).Obeys (careful userId) [] := by
  cases request with
  | createProduct body => exact careful_ask rfl fun _ _ => trivial
  | listProducts | listWatches | listChannels | listNotificationLog =>
      exact careful_ask trivial fun _ _ => trivial
  | getSettings => exact careful_last trivial
  | deleteProduct productId =>
      refine careful_ask nothing_heard fun found _ => ?_
      cases found with
      | none => trivial
      | some product =>
          simp only
          split
          · trivial
          · rename_i howner
            refine careful_ask trivial fun watches _ => ?_
            split
            · have hown : product.userId = userId := not_not.mp howner
              exact careful_last ⟨product.keyword, _, List.mem_cons_self, rfl, by rw [hown]⟩
            · trivial
  | createWatch body => exact careful_createWatch body
  | deleteWatch watchId =>
      refine careful_ownedWatch fun watch howner => careful_last ?_
      exact ⟨_, List.mem_cons_self, rfl, howner⟩
  | createChannel body =>
      change (createChannel body userId).Obeys _ _
      unfold createChannel
      cases NotificationChannelType.ofValue body.type with
      | error error => trivial
      | ok type => exact careful_ask rfl fun _ _ => trivial
  | verifyChannel channelId =>
      refine careful_ownedChannel fun channel howner => careful_ask ?_ fun _ _ => trivial
      exact ⟨_, List.mem_cons_self, rfl, howner⟩
  | deleteChannel channelId =>
      refine careful_ownedChannel fun channel howner => careful_last ?_
      exact ⟨_, List.mem_cons_self, rfl, howner⟩
  | updateSetting body =>
      change (setForUser userId body.key body.value >>= _).Obeys _ _
      unfold setForUser
      rw [Co.bind_assoc]
      refine careful_ask nothing_heard fun found hfound => ?_
      cases found with
      | none => exact careful_ask rfl fun _ _ => careful_last trivial
      | some setting =>
          have howner : setting.userId = some userId := hfound
          refine careful_ask ?_ fun _ _ => careful_last trivial
          exact ⟨_, List.mem_cons_self, rfl, howner⟩
  | getHistory watchId =>
      refine careful_ownedWatch fun watch _ => careful_ask trivial fun events _ => ?_
      exact careful_historyEntries events [] _
  | priceHistory watchId days =>
      exact careful_ownedWatch fun watch _ => careful_ask trivial fun _ _ =>
        careful_ofExcept fun _ => careful_ask trivial fun _ _ => trivial
  | availabilitySummary watchId days =>
      exact careful_ownedWatch fun watch _ => careful_ask trivial fun _ _ =>
        careful_ofExcept fun _ => careful_ask trivial fun _ _ => trivial

/-- So does the program of its session. -/
theorem careful_program (key : UserRequest) : key.program.Obeys (careful key.userId) [] := by
  refine Co.obeys_bind (Co.obeys_of_obeys Eq ?_ ?_ ?_ ?_ rfl
    (careful_handler key.userId key.request))
  · rintro op heard _ rfl hpre
    exact hpre
  · intro op reply heard other _ hanswers
    exact hanswers
  · rintro op reply heard _ rfl _
    rfl
  · intro result heard other _ _
    cases result <;> trivial

end Handlers

/-! ## What a session writes -/

/-- What a session has written is on rows that it may write to. -/
def Justified (userId : Nat) (heard : Heard) (work : List ApiWrite) : ApiWrite → Prop
  | .product row => row.userId = userId
  | .channel row => row.userId = userId
  | .setting row => row.userId = some userId
  | .watch row => row.userId = userId ∧
      ∃ keyword, Told tellsProduct heard row.productId (userId, keyword) ∧
        (Told tellsTarget heard row.watchTargetId keyword ∨
          ∃ target, .watchTarget target ∈ work ∧ target.id = row.watchTargetId ∧
            target.keyword = keyword)
  | .productGone productId => ∃ keyword, Told tellsProduct heard productId (userId, keyword)
  | .deactivated watchId => Told tellsWatch heard watchId userId
  | .verified channelId | .channelGone channelId => Told tellsChannel heard channelId userId
  | .valueSet settingId _ => Told tellsSetting heard settingId (some userId)
  | .watchTarget _ | .intervalSet _ _ => True

theorem Justified.mono {userId : Nat} {heard : Heard} {work : List ApiWrite} {write : ApiWrite}
    (hjustified : Justified userId heard work write) (later : Heard) (writes : List ApiWrite) :
    Justified userId (heard ++ later) (work ++ writes) write := by
  cases write with
  | product | channel | setting => exact hjustified
  | watchTarget | intervalSet => trivial
  | watch row =>
      obtain ⟨huser, keyword, hproduct, htarget⟩ := hjustified
      refine ⟨huser, keyword, hproduct.mono later, ?_⟩
      rcases htarget with hread | ⟨target, hmem, hid, hkeyword⟩
      · exact Or.inl (hread.mono later)
      · exact Or.inr ⟨target, List.mem_append_left _ hmem, hid, hkeyword⟩
  | productGone productId =>
      obtain ⟨keyword, htold⟩ := hjustified
      exact ⟨keyword, htold.mono later⟩
  | deactivated | verified | channelGone | valueSet => exact Told.mono hjustified later

/-- What a session knows by itself, whatever the others do. -/
structure Responsible (userId : Nat) (program : Endpoint (Σ request : ApiRequest, request.Response))
    (heard : Heard) (work : List ApiWrite) : Prop where
  obeys : program.Obeys (careful userId) heard
  /-- nothing is written before the first call that writes -/
  clean : (∀ event ∈ heard, event.op.reads = true) → work = []
  inserted : ∀ key keyword, Told tellsInserted heard key keyword →
    ∃ target, .watchTarget target ∈ work ∧ target.id = key ∧ target.keyword = keyword
  justified : ∀ write ∈ work, Justified userId heard work write

/-- The calls of a session. -/
def heardOf (session : RestSession) : Heard := session.calls.map Prod.snd

/-- A session that is responsible for its user. -/
def ResponsibleSession (session : RestSession) : Prop :=
  Responsible session.key.userId session.program (heardOf session) session.work

section Calls

variable {tie : Nat → Nat} {turn : ApiTurn} {op : ApiOp} {db : Database} {heard : Heard}
  {work : List ApiWrite} {userId : Nat}

/-- A call that only reads writes nothing. -/
theorem apiWrites_of_reads (hreads : op.reads = true) : apiWrites db op = [] := by
  cases op <;> first | rfl | cases hreads

/-- The replies to lookups are as they should be. -/
theorem plausible_respond (tie : Nat → Nat) (turn : ApiTurn) (op : ApiOp) (db : Database) :
    Plausible op (apiRespond tie op turn db).1 := by
  cases hreply : (apiRespond tie op turn db).1 with
  | error error => cases op <;> trivial
  | ok answer =>
      rw [apiRespond_of_ok hreply] at hreply
      cases op with
      | getProduct productId =>
          cases answer with
          | none => trivial
          | some product =>
              change SqlAlchemyProductRepository.getById db productId = _ at hreply
              rw [SqlAlchemyProductRepository.getById_eq, Except.ok.injEq] at hreply
              obtain ⟨row, hfind, rfl⟩ := Option.map_eq_some_iff.mp hreply
              exact congrArg some (Table.key_of_find? hfind)
      | selectSetting owner name =>
          cases answer with
          | none => trivial
          | some setting =>
              change SqlAlchemySettingsRepository.select db owner name = _ at hreply
              have hmem := mem_of_scalarOneOrNone hreply
              have htest := (List.mem_filter.mp hmem).2
              simp only [Bool.and_eq_true, beq_iff_eq] at htest
              exact htest.1
      | selectWatchTarget retailerSlug city pincode keyword =>
          cases answer with
          | none => trivial
          | some target =>
              change SqlAlchemyWatchTargetRepository.select db _ _ _ _ = _ at hreply
              have hmem := mem_of_scalarOneOrNone hreply
              have htest := (List.mem_filter.mp hmem).2
              simp only [Bool.and_eq_true, beq_iff_eq] at htest
              exact htest.2
      | _ => trivial

/-- What a permitted call writes is justified by what was heard. -/
theorem justified_of_permitted {program : Endpoint (Σ request : ApiRequest, request.Response)}
    (hresponsible : Responsible userId program heard work) (hpre : Permitted userId op heard)
    {write : ApiWrite} (hwrite : write ∈ apiWrites db op) :
    Justified userId heard work write := by
  cases op with
  | createProduct | createChannel | insertSetting =>
      rw [List.mem_singleton.mp hwrite]
      first | exact hpre | exact congrArg some hpre
  | insertWatchTarget | setInterval =>
      rw [List.mem_singleton.mp hwrite]
      trivial
  | createWatch owner productId watchTargetId intervalSeconds =>
      obtain ⟨huser, keyword, hproduct, htarget⟩ := hpre
      rw [List.mem_singleton.mp hwrite]
      exact ⟨huser, keyword, hproduct, htarget.imp id (hresponsible.inserted watchTargetId keyword)⟩
  | setValue | deactivate | markVerified | deleteProduct | deleteChannel =>
      rw [List.mem_singleton.mp hwrite]
      exact hpre
  | _ => cases hwrite

/-- The key of an inserted watch target is in the reply and in the write. -/
theorem inserted_of_respond {answer : op.Answer} {key : Nat} {keyword : String}
    (hreply : (apiRespond tie op turn db).1 = .ok answer)
    (htells : tellsInserted ⟨op, .ok answer⟩ key keyword) :
    ∃ target, .watchTarget target ∈ apiWrites db op ∧ target.id = key ∧
      target.keyword = keyword := by
  rw [apiRespond_of_ok hreply] at hreply
  cases op with
  | insertWatchTarget retailerSlug city pincode word intervalSeconds =>
      obtain ⟨hid, rfl⟩ := htells
      cases hreply
      exact ⟨_, List.mem_singleton_self _, Option.some.inj hid, rfl⟩
  | _ => cases htells

/-- A session stays responsible. -/
theorem responsible_called {committed next : Database} {session after : RestSession}
    (hsession : ResponsibleSession session)
    (hcalled : (restSessions tie).called committed turn session = some (next, after)) :
    ResponsibleSession after := by
  obtain ⟨op, resume, reply, work, _, hprogram, hrespond, rfl⟩ := SessionSpec.called_cases hcalled
  have hobeys := hsession.obeys
  rw [hprogram] at hobeys
  have hheard : heardOf { session with
      program := resume reply
      work := work
      calls := session.calls ++ [(turn, ⟨op, reply⟩)] } = heardOf session ++ [⟨op, reply⟩] := by
    simp [heardOf]
  have hplausible := plausible_respond tie turn op (shown committed session.work)
  unfold ResponsibleSession
  rw [hheard]
  simp only [restSessions, apiSessions] at hrespond
  split at hrespond
  · rename_i answer hreply
    cases hrespond
    rw [hreply] at hplausible
    refine ⟨hobeys.2 _ hplausible, ?_, ?_, ?_⟩
    · intro hreads
      have hop := hreads _ (List.mem_append_right _ (List.mem_singleton_self _))
      rw [apiWrites_of_reads hop, List.append_nil]
      exact hsession.clean fun event hevent => hreads event (List.mem_append_left _ hevent)
    · rintro key keyword ⟨event, hevent, htells⟩
      rcases List.mem_append.mp hevent with hold | hnew
      · obtain ⟨target, hmem, hid, hkeyword⟩ := hsession.inserted key keyword ⟨event, hold, htells⟩
        exact ⟨target, List.mem_append_left _ hmem, hid, hkeyword⟩
      · rw [List.mem_singleton.mp hnew] at htells
        obtain ⟨target, hmem, hid, hkeyword⟩ := inserted_of_respond hreply htells
        exact ⟨target, List.mem_append_right _ hmem, hid, hkeyword⟩
    · intro write hwrite
      rcases List.mem_append.mp hwrite with hold | hnew
      · exact (hsession.justified write hold).mono _ _
      · exact (justified_of_permitted hsession hobeys.1 hnew).mono _ _
  · rename_i error hreply
    cases hrespond
    rw [hreply] at hplausible
    refine ⟨hobeys.2 _ hplausible, ?_, ?_, ?_⟩
    · intro hreads
      exact hsession.clean fun event hevent => hreads event (List.mem_append_left _ hevent)
    · rintro key keyword ⟨event, hevent, htells⟩
      rcases List.mem_append.mp hevent with hold | hnew
      · exact hsession.inserted key keyword ⟨event, hold, htells⟩
      · rw [List.mem_singleton.mp hnew] at htells
        cases op <;> cases htells
    · intro write hwrite
      have hsame := (hsession.justified write hwrite).mono [⟨op, .error error⟩] []
      rwa [List.append_nil] at hsame

/-- So does one that ends. -/
theorem responsible_finished {committed next : Database} {session after : RestSession}
    (hsession : ResponsibleSession session)
    (hfinished : (restSessions tie).finished committed session = some (next, after)) :
    ResponsibleSession after := by
  obtain ⟨_, ⟨value, _, _, rfl⟩ | ⟨error, _, _, rfl⟩⟩ := SessionSpec.finished_cases hfinished <;>
    exact hsession

theorem responsible_opened (key : UserRequest) :
    ResponsibleSession ((restSessions tie).opened key) := by
  refine ⟨careful_program key, fun _ => rfl, ?_, ?_⟩
  · rintro id keyword ⟨event, hevent, _⟩
    cases hevent
  · intro write hwrite
    cases hwrite

end Calls

/-! ## What was read is still so -/

section Lookups

variable {tie : Nat → Nat} {committed after : Database} {turn : ApiTurn} {session : RestSession}
  {op : ApiOp} {work : List ApiWrite}

/-- A lookup finds the session without writes. -/
theorem clean_of_lookup {resume : Reply apiPort Raised op →
      Endpoint (Σ request : ApiRequest, request.Response)} (hsession : ResponsibleSession session)
    (hprogram : session.program = .call op resume)
    (hlookup : Permitted session.key.userId op (heardOf session) →
      ∀ event ∈ heardOf session, event.op.reads = true) : session.work = [] := by
  have hobeys := hsession.obeys
  rw [hprogram] at hobeys
  exact hsession.clean (hlookup hobeys.1)

/-- What a call of a session answers. -/
theorem respond_ok {reply : Reply apiPort Raised op} {answer : op.Answer}
    (hrespond : (restSessions tie).respond op turn committed session.work = (reply, after, work))
    (hreply : reply = .ok answer) :
    (apiWork tie turn op (shown committed session.work)).1 = .ok answer := by
  simp only [restSessions, apiSessions] at hrespond
  split at hrespond
  · rename_i found hfound
    cases hrespond
    rw [apiRespond_of_ok hfound] at hfound
    rw [hfound, hreply]
  · cases hrespond
    cases hreply

end Lookups

/-- Something about the rows of a table that no write changes. -/
def KeepsValue {Row A : Type} [Keyed Row] (table : Database → Table Row)
    (added : ApiWrite → Option Row) (value : Row → A) : Prop :=
  ∀ db write, ∀ row ∈ (table (ApiWrite.apply db write)).rows, added write = some row ∨
    ∃ old ∈ (table db).rows, Keyed.key old = Keyed.key row ∧ value old = value row

section Values

variable {Row A : Type} [Keyed Row] {table : Database → Table Row} {added : ApiWrite → Option Row}
  {value : Row → A}

/-- A row that a session sees is an old one, or its key is one that the session has drawn. -/
theorem row_of_shown (hkeeps : KeepsValue table added value) {db : Database}
    {work : List ApiWrite} {row : Row} (hrow : row ∈ (table (shown db work)).rows) :
    (∃ write ∈ work, ∃ new, added write = some new ∧ Keyed.key new = Keyed.key row ∧
        value new = value row) ∨
      ∃ old ∈ (table db).rows, Keyed.key old = Keyed.key row ∧ value old = value row := by
  induction work generalizing db with
  | nil => exact Or.inr ⟨row, hrow, rfl, rfl⟩
  | cons write later ih =>
      rcases ih hrow with ⟨other, hother, hnew⟩ | ⟨old, hold, hkey, hvalue⟩
      · exact Or.inl ⟨other, List.mem_cons_of_mem _ hother, hnew⟩
      · rcases hkeeps db write old hold with hadded | ⟨older, holder, holderKey, holderValue⟩
        · exact Or.inl ⟨write, List.mem_cons_self, old, hadded, hkey, hvalue⟩
        · exact Or.inr ⟨older, holder, holderKey.trans hkey, holderValue.trans hvalue⟩

/-- Drawing keys changes no row. -/
theorem rows_reserves (htable : TableOf table added) (db : Database) (writes : List ApiWrite) :
    (table (writes.foldl ApiWrite.reserve db)).rows = (table db).rows := by
  induction writes generalizing db with
  | nil => rfl
  | cons write later ih =>
      rw [List.foldl_cons, ih]
      cases hadded : added write with
      | some row => rw [(htable.adds db write row hadded).2, Table.rows_reserve]
      | none => rw [(htable.others db write hadded).1]

/-- Every row with the key has the value. -/
def Says (table : Database → Table Row) (value : Row → A) (db : Database) (key : Nat) (said : A) :
    Prop :=
  ∀ row ∈ (table db).rows, Keyed.key row = key → value row = said

/-- One row with the key speaks for all. -/
theorem says_of_mem {db : Database} {row : Row} (hrow : row ∈ (table db).rows) :
    Says table value db (Keyed.key row) (value row) := by
  intro other hother hkey
  rw [(table db).eq_of_key_eq hother hrow hkey]

/-- The value of the rows of a table, as a session learns it from its lookups. -/
def lastingValue (tie : Nat → Nat) (htable : TableOf table added)
    (hkeeps : KeepsValue table added value) (tells : Event apiPort Raised → Nat → A → Prop)
    (htold : ∀ committed turn (session : RestSession) op resume reply after left,
      ResponsibleSession session → session.program = .call op resume →
      (restSessions tie).respond op turn committed session.work = (reply, after, left) →
      ∀ key said, tells ⟨op, reply⟩ key said →
        Refers (table committed) key ∧ Says table value committed key said) :
    Lasting (htable.sequence tie UserRequest.program) ResponsibleSession A where
  Says := Says table value
  tells := tells
  outside change _ := nomatch change
  respond := by
    intro op turn committed work reply after left hrespond key said hsaid
    simp only [apiSessions] at hrespond
    split at hrespond
    · cases hrespond
      unfold Says
      rw [rows_reserves htable]
      exact hsaid
    · cases hrespond
      exact hsaid
  commit := by
    intro committed work after hcommit key said hdrawn hsaid row hrow hkey
    simp only [apiSessions] at hcommit
    split at hcommit
    · cases hcommit
      rcases row_of_shown hkeeps hrow with ⟨write, hwrite, new, hadded, hnewKey, _⟩ |
        ⟨old, hold, holdKey, hvalue⟩
      · exact absurd (TableOf.mem_drawn.mpr ⟨write, hwrite, new, hadded, hnewKey.trans hkey⟩) hdrawn
      · exact hvalue.symm.trans (hsaid old hold (holdKey.trans hkey))
    · cases hcommit
  told := htold

end Values

end StockMonitoring.Api
