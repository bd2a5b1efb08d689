import StockMonitoring.Api.ApiSessions

set_option autoImplicit false

/-!
# Api: settings written beside each other

`set_for_user` reads the row of a key and then assigns to it or inserts one, and no
constraint keeps the key from having two rows.  Two first writes of a key both insert, and
from then on every write of the key raises.  Where every request that found no row commits
while there still is none, the settings behave as a map (`settings_behave_as_map`).
-/

namespace StockMonitoring.Api

open StockMonitoring.Foundation StockMonitoring.Domain StockMonitoring.Infrastructure.Db

/-! ## The settings of a user as a map -/

/-- `get_for_user(user_id).get(key)`. -/
def valueOf (db : Database) (userId : Nat) (key : String) : Option String :=
  (SqlAlchemySettingsRepository.getForUser db userId).lookup key

/-- The rows of a key. -/
def settingRows (db : Database) (userId : Nat) (key : String) : List SettingsModel :=
  db.settings.rows.filter fun row => row.userId == some userId && row.key == key

/-- No key of a user has two rows. -/
def OneRow (db : Database) : Prop :=
  ∀ userId key, (settingRows db userId key).length ≤ 1

theorem mem_settingRows {db : Database} {userId : Nat} {key : String} {row : SettingsModel} :
    row ∈ settingRows db userId key ↔
      row ∈ db.settings.rows ∧ row.userId = some userId ∧ row.key = key := by
  simp [settingRows]

/-- An entry that is replaced keeps its place. -/
theorem lookup_replaced (dict : List (String × String)) (key value other : String) :
    (dict.map fun entry => if entry.1 == key then (key, value) else entry).lookup other =
      if other = key then (dict.lookup key).map fun _ => value else dict.lookup other := by
  induction dict with
  | nil => simp
  | cons entry later ih =>
      obtain ⟨name, old⟩ := entry
      rw [List.map_cons]
      by_cases hname : name = key
      · by_cases hother : other = key
        · simp [hname, hother]
        · simpa [List.lookup_cons, hname, beq_false_of_ne hother, hother] using ih
      · by_cases hother : other = key
        · simpa [List.lookup_cons, hname, hother, beq_false_of_ne (Ne.symm hname)] using ih
        · simp only [List.lookup_cons, beq_false_of_ne hname, Bool.false_eq_true, if_false]
          rw [ih, if_neg hother, if_neg hother]

theorem lookup_dictSet (dict : List (String × String)) (key value other : String) :
    (dictSet dict key value).lookup other =
      if other = key then some value else dict.lookup other := by
  unfold dictSet
  split
  · rename_i hany
    rw [lookup_replaced]
    have hthere : (dict.lookup key).isSome := by simpa using hany
    obtain ⟨old, hold⟩ := Option.isSome_iff_exists.mp hthere
    simp [hold]
  · rename_i hnone
    have hmissing : dict.lookup key = none := by
      rw [List.lookup_eq_none_iff]
      intro entry hentry
      refine bne_iff_ne.mpr fun hsame => hnone ?_
      exact List.any_eq_true.mpr ⟨entry, hentry, beq_iff_eq.mpr hsame.symm⟩
    rw [List.lookup_append, List.lookup_singleton]
    by_cases hother : other = key
    · simp [hother, hmissing]
    · simp [hother]

/-- The mapping has the value of the last row of the key. -/
theorem valueOf_eq (db : Database) (userId : Nat) (key : String) :
    valueOf db userId key = (settingRows db userId key).getLast?.map SettingsModel.valueJson := by
  unfold valueOf SqlAlchemySettingsRepository.getForUser settingRows
  induction db.settings.rows using List.reverseRecOn with
  | nil => rfl
  | append_singleton rows row ih =>
      rw [List.filter_append, List.filter_append, List.filter_singleton, List.filter_singleton]
      by_cases huser : row.userId = some userId
      · rw [huser, beq_self_eq_true, cond_true, List.foldl_concat, lookup_dictSet, Bool.true_and]
        by_cases hkey : row.key = key
        · rw [if_pos hkey.symm, hkey, beq_self_eq_true, cond_true, List.getLast?_concat]
          rfl
        · rw [if_neg (Ne.symm hkey), beq_false_of_ne hkey, cond_false, List.append_nil]
          exact ih
      · rw [beq_false_of_ne huser, Bool.false_and, cond_false, List.append_nil, List.append_nil]
        exact ih

/-! ## The requests -/

/-- An `update_setting` request. -/
structure SettingRequest where
  userId : Nat
  body : SettingUpdateSchema

/-- The requests, each in its own session. -/
def settingSessions (tie : Nat → Nat) :
    SessionSpec SettingRequest apiPort Raised (List (String × String)) Database (List ApiWrite)
      ApiTurn Empty :=
  apiSessions tie fun request => updateSetting request.body request.userId

/-- The session of a request. -/
abbrev SettingSession : Type :=
  Session SettingRequest apiPort Raised (List (String × String)) (List ApiWrite) ApiTurn

/-- The committed database and the requests. -/
abbrev SettingSystem : Type :=
  SessionSystem SettingRequest apiPort Raised (List (String × String)) Database (List ApiWrite)
    ApiTurn

/-- What happens next. -/
abbrev SettingMove : Type := SessionMove SettingRequest ApiTurn Empty

/-- A request beside no other is served as the requests one after another are. -/
theorem updateSetting_alone {tie : Nat → Nat} {request : SettingRequest} {turns : Nat → ApiTurn}
    {count : Nat} {db : Database} {last : SettingSystem} (hsound : Sound db)
    (hrun : runFrom (settingSessions tie).step ⟨db, []⟩
      (.start request :: ((List.range' 0 count).map fun turn => .call 0 (turns turn)) ++
        [.finish 0]) = some last) :
    let arrival : ApiArrival := ⟨request.userId, .updateSetting request.body, turns⟩
    ∃ session, last.sessions = [session] ∧ session.response = some (arrival.serve tie db).1 ∧
      ∀ mapping, session.response = some (.ok mapping) →
        last.committed = (arrival.serve tie db).2 :=
  apiRequest_alone hrun (sound_serve tie ⟨request.userId, .updateSetting request.body, turns⟩
    hsound).targetKeys

/-- The request has set this key of this user. -/
def HasSet (session : SettingSession) (userId : Nat) (key : String) : Prop :=
  session.key.userId = userId ∧ session.key.body.key = key ∧
    ∃ mapping, session.response = some (.ok mapping)

/-- The settings behave as a map: undisturbed requests of existing users succeed, no key has
two rows, the keys are the old ones and those set, each value is one that was set (the old
one where none was), and it is the last one set when no other request for the key was under
way then or began later. -/
structure BehavesAsMap (tie : Nat → Nat) (start : Database) (moves : List SettingMove)
    (last : SettingSystem) : Prop where
  succeeds : ∀ session ∈ last.sessions, Undisturbed session →
    Refers last.committed.users session.key.userId →
      ∀ error, session.response ≠ some (.error error)
  oneRow : OneRow last.committed
  keys : ∀ userId key, (valueOf last.committed userId key).isSome ↔
    (valueOf start userId key).isSome ∨ ∃ session ∈ last.sessions, HasSet session userId key
  values : ∀ userId key value, valueOf last.committed userId key = some value →
    (∃ session ∈ last.sessions, HasSet session userId key ∧ session.key.body.value = value) ∨
      (∀ session ∈ last.sessions, ¬ HasSet session userId key) ∧
        valueOf start userId key = some value
  latest : ∀ earlier request later reached session userId key,
    moves = earlier ++ .start request :: later →
    runFrom (settingSessions tie).step ⟨start, []⟩ earlier = some reached →
    last.sessions[reached.sessions.length]? = some session → HasSet session userId key →
    (∀ index other, index ≠ reached.sessions.length → last.sessions[index]? = some other →
      HasSet other userId key → .finish index ∈ earlier) →
        valueOf last.committed userId key = some session.key.body.value

/-- The row a request inserts is still the first of its key. -/
def StillUnset (db : Database) : ApiWrite → Prop
  | .setting row => ∀ other ∈ db.settings.rows, other.userId = row.userId → other.key ≠ row.key
  | _ => True

/-- A request that found no row of its key commits while there still is none. -/
def InsertsInTime (system : SettingSystem) : SettingMove → Prop
  | .finish position => ∀ session ∈ system.sessions[position]?, ∀ write ∈ session.work,
      StillUnset system.committed write
  | _ => True

instance (db : Database) : (write : ApiWrite) → Decidable (StillUnset db write)
  | .setting row => inferInstanceAs (Decidable
      (∀ other ∈ db.settings.rows, other.userId = row.userId → other.key ≠ row.key))
  | .product _ | .watch _ | .channel _ | .watchTarget _ | .intervalSet _ _ | .valueSet _ _
  | .deactivated _ | .verified _ | .productGone _ | .channelGone _ => isTrue trivial

instance (system : SettingSystem) : (move : SettingMove) → Decidable (InsertsInTime system move)
  | .finish _ => @Option.decidableForallMem _ _ (fun session =>
      inferInstanceAs (Decidable (∀ write ∈ session.work, StillUnset system.committed write))) _
  | .call _ _ | .start _ => isTrue trivial
  | .outside change => nomatch change

/-! ## How far a request has come -/

/-- `update_setting` after the `SELECT` of the row. -/
def settingFound (request : SettingRequest) :
    Option SettingsModel → Endpoint (List (String × String))
  | some existing => askApi (.setValue existing.id request.body.value) >>= fun _ =>
      askApi (.getSettings request.userId)
  | none => askApi (.insertSetting request.userId request.body.key request.body.value) >>= fun _ =>
      askApi (.getSettings request.userId)

theorem updateSetting_eq (request : SettingRequest) :
    updateSetting request.body request.userId =
      askApi (.selectSetting request.userId request.body.key) >>= settingFound request := by
  unfold updateSetting setForUser
  rw [Co.bind_assoc]
  congr 1
  funext found
  cases found <;> rfl

/-- What a request has written: the value of a row of its key, or a row. -/
inductive HasWritten (db : Database) (request : SettingRequest) : List ApiWrite → Prop
  | changed (row : SettingsModel) (hmem : row ∈ settingRows db request.userId request.body.key) :
      HasWritten db request [.valueSet row.id request.body.value]
  | inserted (row : SettingsModel) (huser : row.userId = some request.userId)
      (hkey : row.key = request.body.key) (hvalue : row.valueJson = request.body.value) :
      HasWritten db request [.setting row]

/-- What remains of a request, and what it has written. -/
inductive SettingProgress (db : Database) (request : SettingRequest) :
    Endpoint (List (String × String)) → List ApiWrite → Prop
  | start : SettingProgress db request (updateSetting request.body request.userId) []
  | found (row : SettingsModel) (hmem : row ∈ settingRows db request.userId request.body.key) :
      SettingProgress db request
        (askApi (.setValue row.id request.body.value) >>= fun _ =>
          askApi (.getSettings request.userId)) []
  | missing :
      SettingProgress db request
        (askApi (.insertSetting request.userId request.body.key request.body.value) >>= fun _ =>
          askApi (.getSettings request.userId)) []
  | written (work : List ApiWrite) (hwritten : HasWritten db request work) :
      SettingProgress db request (askApi (.getSettings request.userId)) work
  | done (mapping : List (String × String)) (work : List ApiWrite)
      (hwritten : HasWritten db request work) :
      SettingProgress db request (.ret mapping) work

/-- Why a request may raise. -/
def MayRaise (db : Database) (session : SettingSession) : Prop :=
  ¬ Undisturbed session ∨ ¬ Refers db.users session.key.userId

/-- What holds of a request. -/
def SettingTracked (db : Database) (session : SettingSession) : Prop :=
  match session.response with
  | none => SettingProgress db session.key session.program session.work ∨
      (∃ error, session.program = .raise error) ∧ MayRaise db session
  | some (.ok _) => True
  | some (.error _) => MayRaise db session

/-- Users stay as they are, and the rows of a key stay. -/
structure KeepsRows (db next : Database) : Prop where
  users : next.users.rows = db.users.rows
  rows : ∀ row ∈ db.settings.rows, ∃ later ∈ next.settings.rows,
    later.id = row.id ∧ later.userId = row.userId ∧ later.key = row.key

section Keeps

variable {db next : Database} {request : SettingRequest} {session : SettingSession}

/-- Who there is depends on the rows alone. -/
theorem KeepsRows.refers_iff (hkeeps : KeepsRows db next) {userId : Nat} :
    Refers next.users userId ↔ Refers db.users userId := by
  unfold Refers Table.find?
  rw [hkeeps.users]

theorem KeepsRows.mayRaise (hkeeps : KeepsRows db next) (hraises : MayRaise db session) :
    MayRaise next session :=
  hraises.imp_right fun hnone hrefers => hnone (hkeeps.refers_iff.mp hrefers)

theorem KeepsRows.row (hkeeps : KeepsRows db next) {userId : Nat} {key : String}
    {row : SettingsModel} (hrow : row ∈ settingRows db userId key) :
    ∃ later ∈ settingRows next userId key, later.id = row.id := by
  obtain ⟨hmem, huser, hkey⟩ := mem_settingRows.mp hrow
  obtain ⟨later, hlater, hid, hlaterUser, hlaterKey⟩ := hkeeps.rows row hmem
  exact ⟨later, mem_settingRows.mpr ⟨hlater, hlaterUser.trans huser, hlaterKey.trans hkey⟩, hid⟩

theorem KeepsRows.hasWritten (hkeeps : KeepsRows db next) {work : List ApiWrite}
    (hwritten : HasWritten db request work) : HasWritten next request work := by
  cases hwritten with
  | changed row hmem =>
      obtain ⟨later, hlater, hid⟩ := hkeeps.row hmem
      rw [← hid]
      exact .changed later hlater
  | inserted row huser hkey hvalue => exact .inserted row huser hkey hvalue

theorem KeepsRows.progress (hkeeps : KeepsRows db next)
    {program : Endpoint (List (String × String))} {work : List ApiWrite}
    (hprogress : SettingProgress db request program work) :
    SettingProgress next request program work := by
  cases hprogress with
  | start => exact .start
  | found row hmem =>
      obtain ⟨later, hlater, hid⟩ := hkeeps.row hmem
      rw [← hid]
      exact .found later hlater
  | missing => exact .missing
  | written work hwritten => exact .written work (hkeeps.hasWritten hwritten)
  | done mapping work hwritten => exact .done mapping work (hkeeps.hasWritten hwritten)

theorem KeepsRows.tracked (hkeeps : KeepsRows db next) (htracked : SettingTracked db session) :
    SettingTracked next session := by
  unfold SettingTracked at *
  split at htracked
  · rcases htracked with hprogress | ⟨hraised, hraises⟩
    · exact Or.inl (hkeeps.progress hprogress)
    · exact Or.inr ⟨hraised, hkeeps.mayRaise hraises⟩
  · trivial
  · exact hkeeps.mayRaise htracked

end Keeps

/-! ## The calls -/

/-- What the schema keeps, and the rows of each key. -/
structure SettingsSound (db : Database) : Prop where
  keys : ForeignKeys db
  unique : UniqueTargets db
  oneRow : OneRow db

section Calls

variable {tie : Nat → Nat} {committed next : Database} {turn : ApiTurn}
  {session after : SettingSession}

/-- A call draws keys at most. -/
theorem keepsRows_called (hcalled : (settingSessions tie).called committed turn session =
    some (next, after)) :
    KeepsRows committed next ∧ next.settings.rows = committed.settings.rows ∧
      (SettingsSound committed → SettingsSound next) := by
  obtain ⟨writes, rfl⟩ := called_reserves hcalled
  have hrows : (writes.foldl ApiWrite.reserve committed).users.rows = committed.users.rows ∧
      (writes.foldl ApiWrite.reserve committed).settings.rows = committed.settings.rows := by
    refine @reserves_invariant (fun db => db.users.rows = committed.users.rows ∧
      db.settings.rows = committed.settings.rows) (fun db write hdb => ?_) _ writes ⟨rfl, rfl⟩
    cases write <;> exact hdb
  refine ⟨⟨hrows.1, fun row hmem => ⟨row, by rw [hrows.2]; exact hmem, rfl, rfl, rfl⟩⟩, hrows.2,
    fun hsound => ⟨reserves_invariant (fun _ => foreignKeys_reserve) writes hsound.keys,
      reserves_invariant (fun db write hunique => ?_) writes hsound.unique, ?_⟩⟩
  · cases write <;> exact hunique
  · intro userId key
    unfold settingRows
    rw [hrows.2]
    exact hsound.oneRow userId key

variable (hprogress : session.response = none)
include hprogress

/-- A call that does not raise by itself answers, or its request may raise. -/
theorem called_setting {op : ApiOp} {rest : op.Answer → Endpoint (List (String × String))}
    (hprogram : session.program = askApi op >>= rest)
    (hanswers : ∀ error, (apiWork tie turn op (shown committed session.work)).1 ≠ .error error)
    (hcalled : (settingSessions tie).called committed turn session = some (next, after)) :
    SettingTracked committed after ∨
      ∃ answer, (apiWork tie turn op (shown committed session.work)).1 = .ok answer ∧
        after = { session with
          program := rest answer
          work := session.work ++ apiWrites (shown committed session.work) op
          calls := session.calls ++ [(turn, ⟨op, .ok answer⟩)] } := by
  rcases called_undisturbed hprogram hanswers hcalled with ⟨error, hdisturbed, rfl⟩ | hok
  · refine Or.inl ?_
    unfold SettingTracked
    simp only [hprogress]
    exact Or.inr ⟨⟨error, rfl⟩, Or.inl hdisturbed⟩
  · exact Or.inr hok

/-- The `SELECT` of the row. -/
theorem settingTracked_start (hone : OneRow committed)
    (hprogram : session.program = updateSetting session.key.body session.key.userId)
    (hwork : session.work = [])
    (hcalled : (settingSessions tie).called committed turn session = some (next, after)) :
    SettingTracked committed after := by
  rw [updateSetting_eq] at hprogram
  obtain ⟨found, hselect⟩ : ∃ found, SqlAlchemySettingsRepository.select committed
      session.key.userId session.key.body.key = .ok found :=
    scalarOneOrNone_eq_ok_iff.mpr (hone session.key.userId session.key.body.key)
  have hanswers : ∀ error, (apiWork tie turn
      (.selectSetting session.key.userId session.key.body.key)
        (shown committed session.work)).1 ≠ .error error := by
    intro error herror
    rw [hwork] at herror
    cases hselect.symm.trans herror
  rcases called_setting hprogress hprogram hanswers hcalled with hfailed | ⟨answer, hanswer, rfl⟩
  · exact hfailed
  · rw [hwork] at hanswer
    obtain rfl := Except.ok.inj (hselect.symm.trans hanswer)
    unfold SettingTracked
    simp only [hprogress, hwork]
    refine Or.inl ?_
    cases found with
    | none => exact .missing
    | some row => exact .found row (mem_of_scalarOneOrNone hselect)

/-- The assignment to the value. -/
theorem settingTracked_found {row : SettingsModel}
    (hmem : row ∈ settingRows committed session.key.userId session.key.body.key)
    (hprogram : session.program = askApi (.setValue row.id session.key.body.value) >>= fun _ =>
      askApi (.getSettings session.key.userId))
    (hwork : session.work = [])
    (hcalled : (settingSessions tie).called committed turn session = some (next, after)) :
    SettingTracked committed after := by
  rcases called_setting hprogress hprogram (fun _ => nofun) hcalled with hfailed | ⟨answer, _, rfl⟩
  · exact hfailed
  · unfold SettingTracked
    simp only [hprogress, hwork]
    exact Or.inl (.written _ (.changed row hmem))

/-- The `INSERT` of the row. -/
theorem settingTracked_missing
    (hprogram : session.program = askApi (.insertSetting session.key.userId session.key.body.key
      session.key.body.value) >>= fun _ => askApi (.getSettings session.key.userId))
    (hwork : session.work = [])
    (hcalled : (settingSessions tie).called committed turn session = some (next, after)) :
    SettingTracked committed after := by
  rcases called_setting hprogress hprogram (fun _ => nofun) hcalled with hfailed | ⟨answer, _, rfl⟩
  · exact hfailed
  · unfold SettingTracked
    simp only [hprogress, hwork]
    refine Or.inl (.written _ (.inserted ⟨committed.settings.nextId, some session.key.userId,
      session.key.body.key, session.key.body.value⟩ rfl rfl rfl))

/-- The `SELECT` of the mapping. -/
theorem settingTracked_written (hwritten : HasWritten committed session.key session.work)
    (hprogram : session.program = askApi (.getSettings session.key.userId))
    (hcalled : (settingSessions tie).called committed turn session = some (next, after)) :
    SettingTracked committed after := by
  rw [← Co.bind_ret (askApi (.getSettings session.key.userId))] at hprogram
  rcases called_setting hprogress hprogram (fun _ => nofun) hcalled with hfailed | ⟨answer, _, rfl⟩
  · exact hfailed
  · unfold SettingTracked
    simp only [hprogress]
    refine Or.inl (.done answer _ ?_)
    rw [show apiWrites (shown committed session.work) (.getSettings session.key.userId) = []
      from rfl,
      List.append_nil]
    exact hwritten

omit hprogress in
/-- The step lemma for the calls of a request. -/
theorem SettingTracked.called (hsound : SettingsSound committed)
    (htracked : SettingTracked committed session)
    (hcalled : (settingSessions tie).called committed turn session = some (next, after)) :
    KeepsRows committed next ∧ SettingsSound next ∧ SettingTracked next after := by
  obtain ⟨hkeeps, _, hnext⟩ := keepsRows_called hcalled
  refine ⟨hkeeps, hnext hsound, hkeeps.tracked ?_⟩
  obtain ⟨key, program, work, calls, response⟩ := session
  obtain ⟨op, resume, _, _, hprogress, hcall, _⟩ := SessionSpec.called_cases hcalled
  cases hprogress
  rcases htracked with hprogress | ⟨⟨error, hraised⟩, _⟩
  · change SettingProgress committed key program work at hprogress
    cases hprogress with
    | start => exact settingTracked_start rfl hsound.oneRow rfl rfl hcalled
    | found row hmem => exact settingTracked_found rfl hmem rfl rfl hcalled
    | missing => exact settingTracked_missing rfl rfl rfl hcalled
    | written work hwritten => exact settingTracked_written rfl hwritten rfl hcalled
    | done => cases hcall
  · cases hraised.symm.trans hcall

end Calls

/-! ## The commits -/

section Commits

variable {tie : Nat → Nat} {committed next : Database} {request : SettingRequest}
  {session after : SettingSession}

/-- What the write of a request comes to when it is still right. -/
structure ValueLeft (db next : Database) (request : SettingRequest) : Prop where
  keeps : KeepsRows db next
  unique : UniqueTargets next
  keys : Refers db.users request.userId → ForeignKeys next
  oneRow : OneRow next
  value : ∀ userId key, valueOf next userId key =
    if request.userId = userId ∧ request.body.key = key then some request.body.value
    else valueOf db userId key

/-- The row of a key, where there is one. -/
theorem settingRows_eq_singleton (hone : OneRow committed) {userId : Nat} {key : String}
    {row : SettingsModel} (hmem : row ∈ settingRows committed userId key) :
    settingRows committed userId key = [row] := by
  obtain ⟨only, honly⟩ := List.length_eq_one_iff.mp
    (Nat.le_antisymm (hone userId key) (List.length_pos_of_mem hmem))
  rw [honly] at hmem ⊢
  rw [List.mem_singleton.mp hmem]

/-- The value of a row that is there. -/
theorem valueLeft_setValue (hsound : SettingsSound committed) {row : SettingsModel}
    (hrow : row ∈ settingRows committed request.userId request.body.key) :
    ValueLeft committed (SqlAlchemySettingsRepository.setValue committed row.id request.body.value)
      request := by
  let change (other : SettingsModel) : SettingsModel :=
    if Keyed.key other = row.id then { other with valueJson := request.body.value } else other
  obtain ⟨hmem, huser, hkey⟩ := mem_settingRows.mp hrow
  have hsame : ∀ other, (change other).id = other.id ∧ (change other).userId = other.userId ∧
      (change other).key = other.key := by
    intro other
    simp only [change]
    split <;> exact ⟨rfl, rfl, rfl⟩
  have hrows : ∀ userId key, settingRows (SqlAlchemySettingsRepository.setValue committed row.id
      request.body.value) userId key = (settingRows committed userId key).map change := by
    intro userId key
    change (committed.settings.rows.map change).filter _ = _
    rw [List.filter_map]
    refine congrArg (List.map change) (List.filter_congr fun other _ => ?_)
    rw [Function.comp_apply, (hsame other).2.1, (hsame other).2.2]
  refine ⟨⟨rfl, fun other hother => ⟨change other, List.mem_map_of_mem hother, hsame other⟩⟩,
    hsound.unique, fun _ => { hsound.keys with settingUser := ?_ }, ?_, ?_⟩
  · intro later hlater
    obtain ⟨other, hother, rfl⟩ := List.mem_map.mp hlater
    rw [(hsame other).2.1]
    exact hsound.keys.settingUser other hother
  · intro userId key
    rw [hrows, List.length_map]
    exact hsound.oneRow userId key
  · intro userId key
    rw [valueOf_eq, valueOf_eq, hrows]
    split
    · rename_i hown
      obtain ⟨rfl, rfl⟩ := hown
      rw [settingRows_eq_singleton hsound.oneRow hrow]
      have hchanged : change row = { row with valueJson := request.body.value } := if_pos rfl
      rw [List.map_singleton, hchanged]
      rfl
    · rename_i hother
      have hleft : ∀ later ∈ settingRows committed userId key, change later = later := by
        intro later hlater
        obtain ⟨hlaterMem, hlaterUser, hlaterKey⟩ := mem_settingRows.mp hlater
        refine if_neg fun hid => hother ?_
        obtain rfl := committed.settings.eq_of_key_eq hlaterMem hmem hid
        exact ⟨Option.some.inj (huser.symm.trans hlaterUser), hkey.symm.trans hlaterKey⟩
      rw [List.map_congr_left hleft, List.map_id']

/-- A new row of a key that has none. -/
theorem valueLeft_place (hsound : SettingsSound committed) {row : SettingsModel}
    (huser : row.userId = some request.userId) (hkey : row.key = request.body.key)
    (hvalue : row.valueJson = request.body.value) (hfree : ¬ Refers committed.settings row.id)
    (hright : ∀ other ∈ committed.settings.rows, other.userId = row.userId → other.key ≠ row.key) :
    ValueLeft committed { committed with settings := committed.settings.place row } request := by
  have hplaced : (committed.settings.place row).rows = committed.settings.rows ++ [row] :=
    rows_place_of_free hfree
  have hnone : settingRows committed request.userId request.body.key = [] := by
    refine List.eq_nil_iff_forall_not_mem.mpr fun other hother => ?_
    obtain ⟨hmem, hotherUser, hotherKey⟩ := mem_settingRows.mp hother
    exact hright other hmem (hotherUser.trans huser.symm) (hotherKey.trans hkey.symm)
  have hrows : ∀ userId key,
      settingRows { committed with settings := committed.settings.place row } userId key =
        settingRows committed userId key ++
          if request.userId = userId ∧ request.body.key = key then [row] else [] := by
    intro userId key
    change (committed.settings.place row).rows.filter _ = _
    rw [hplaced, List.filter_append]
    congr 1
    rw [List.filter_singleton, huser, hkey]
    by_cases hid : request.userId = userId
    · by_cases hname : request.body.key = key
      · simp [hid, hname]
      · simp [hid, hname, beq_false_of_ne hname]
    · simp [hid, beq_false_of_ne hid]
  refine ⟨⟨rfl, fun other hother => ⟨other, Table.mem_place hother, rfl, rfl, rfl⟩⟩,
    hsound.unique, fun hrefers => { hsound.keys with settingUser := ?_ }, ?_, ?_⟩
  · intro other hother
    rw [hplaced] at hother
    rcases List.mem_append.mp hother with hold | hnew
    · exact hsound.keys.settingUser other hold
    · rw [List.mem_singleton.mp hnew, huser]
      exact hrefers
  · intro userId key
    rw [hrows]
    split
    · rename_i hown
      obtain ⟨rfl, rfl⟩ := hown
      rw [hnone]
      exact Nat.le_refl _
    · rw [List.append_nil]
      exact hsound.oneRow userId key
  · intro userId key
    rw [valueOf_eq, valueOf_eq, hrows]
    split
    · rename_i hown
      obtain ⟨rfl, rfl⟩ := hown
      rw [hnone, ← hvalue]
      rfl
    · rw [List.append_nil]

/-- The write of a request at its commit. -/
theorem valueLeft_of_written (hsound : SettingsSound committed) {work : List ApiWrite}
    (hwritten : HasWritten committed request work)
    (hright : ∀ write ∈ work, StillUnset committed write)
    (hfree : ∀ row, .setting row ∈ work → ¬ Refers committed.settings row.id) :
    AllFits committed work ∧ ValueLeft committed (shown committed work) request := by
  cases hwritten with
  | changed row hrow => exact ⟨⟨trivial, trivial⟩, valueLeft_setValue hsound hrow⟩
  | inserted row huser hkey hvalue =>
      have hrow := hfree row (List.mem_singleton_self _)
      exact ⟨⟨hrow, trivial⟩, valueLeft_place hsound huser hkey hvalue hrow
        (hright _ (List.mem_singleton_self _))⟩

/-- How a request ends: it commits its write, or it may raise. -/
theorem setting_finished (hsound : SettingsSound committed)
    (htracked : SettingTracked committed session)
    (hright : ∀ write ∈ session.work, StillUnset committed write)
    (hfree : ∀ row, .setting row ∈ session.work → ¬ Refers committed.settings row.id)
    (hfinished : (settingSessions tie).finished committed session = some (next, after)) :
    (after.key = session.key ∧ (∃ mapping, after.response = some (.ok mapping)) ∧
        SettingsSound next ∧ ValueLeft committed next session.key) ∨
      (∃ error, after.response = some (.error error)) ∧ next = committed ∧
        MayRaise committed after := by
  obtain ⟨key, program, work, calls, response⟩ := session
  obtain ⟨hprogress, hends⟩ := SessionSpec.finished_cases hfinished
  cases hprogress
  have hdone : ∀ value, program = .ret value →
      AllFits committed work ∧ ValueLeft committed (shown committed work) key := by
    intro value hprogram
    rcases htracked with hprogress | ⟨⟨error, hraised⟩, _⟩
    · change SettingProgress committed key program work at hprogress
      cases hprogress with
      | done mapping work hwritten => exact valueLeft_of_written hsound hwritten hright hfree
      | _ => cases hprogram
    · cases hraised.symm.trans hprogram
  rcases hends with ⟨value, hprogram, hcommit, rfl⟩ | ⟨error, hcause, rfl, rfl⟩
  · obtain ⟨_, hleft⟩ := hdone value hprogram
    simp only [settingSessions, apiSessions] at hcommit
    split at hcommit
    · rename_i hchecked
      cases hcommit
      exact Or.inl ⟨rfl, ⟨value, rfl⟩, ⟨hchecked.2.2, hleft.unique, hleft.oneRow⟩, hleft⟩
    · cases hcommit
  · refine Or.inr ⟨⟨error, rfl⟩, rfl, ?_⟩
    rcases hcause with hraised | ⟨value, hprogram, hcommit⟩
    · rcases htracked with hprogress | ⟨_, hraises⟩
      · change SettingProgress _ key program work at hprogress
        cases hprogress <;> cases hraised
      · exact hraises
    · obtain ⟨hfits, hleft⟩ := hdone value hprogram
      refine Or.inr fun hrefers => ?_
      simp only [settingSessions, apiSessions] at hcommit
      rw [if_pos ⟨hfits, hleft.unique, hleft.keys hrefers⟩] at hcommit
      cases hcommit

end Commits

/-! ## Whole runs -/

/-- Why requests that insert in time keep one row for each key. -/
def settingsKept (tie : Nat → Nat) : Guarantee (settingSessions tie) fun system move =>
    InsertsInTime system move ∧
      (settingTable.sequence tie fun request : SettingRequest =>
        updateSetting request.body request.userId).Free system where
  holds := SettingsSound
  single := SettingTracked
  pair _ _ := True
  outside change _ _ := nomatch change
  single_opened _ _ _ := Or.inl .start
  pair_opened _ _ := ⟨trivial, trivial⟩
  called := by
    intro system index turn session next after _ _ hsound htracked hcalled
    obtain ⟨hkeeps, hnext, hafter⟩ := htracked.called hsound hcalled
    exact ⟨hnext, hafter, fun _ _ _ _ hother _ _ => ⟨hkeeps.tracked hother, trivial, trivial⟩⟩
  finished := by
    intro system index session next after hcondition hsession hsound htracked hfinished
    have hprogress : session.InProgress := (SessionSpec.finished_cases hfinished).1
    have hfree : ∀ row, .setting row ∈ session.work →
        ¬ Refers system.committed.settings row.id := fun row hrow =>
      hcondition.2 session (List.mem_of_getElem? hsession) hprogress row.id
        (TableOf.mem_drawn.mpr ⟨_, hrow, row, rfl, rfl⟩)
    rcases setting_finished hsound htracked (hcondition.1 session hsession) hfree hfinished with
      ⟨_, ⟨mapping, hresponse⟩, hnext, hleft⟩ | ⟨⟨error, hresponse⟩, rfl, hraises⟩
    · refine ⟨hnext, ?_, fun _ _ _ _ hother _ _ =>
        ⟨hleft.keeps.tracked hother, trivial, trivial⟩⟩
      unfold SettingTracked
      rw [hresponse]
      trivial
    · refine ⟨hsound, ?_, fun _ _ _ _ hother _ _ => ⟨hother, trivial, trivial⟩⟩
      unfold SettingTracked
      rw [hresponse]
      exact hraises

/-- What the request has set the key to. -/
def setTo (session : SettingSession) (userId : Nat) (key : String) : Option String :=
  match session.response with
  | some (.ok _) =>
      if session.key.userId = userId ∧ session.key.body.key = key then some session.key.body.value
      else none
  | _ => none

theorem setTo_eq_some_iff {session : SettingSession} {userId : Nat} {key value : String} :
    setTo session userId key = some value ↔
      HasSet session userId key ∧ session.key.body.value = value := by
  unfold setTo HasSet
  split
  · rename_i mapping hresponse
    simp [hresponse, and_assoc]
  · rename_i hother
    constructor
    · intro hnone
      cases hnone
    · rintro ⟨⟨_, _, mapping, hresponse⟩, _⟩
      exact absurd hresponse (hother mapping)

/-- What a move has set the key to, if it ends a request that has. -/
def moveSets (last : SettingSystem) (userId : Nat) (key : String) : SettingMove → Option String
  | .finish index => (last.sessions[index]?).bind fun session => setTo session userId key
  | _ => none

/-- What the key was set to by the request that committed last. -/
def lastSet (last : SettingSystem) (moves : List SettingMove) (userId : Nat) (key : String) :
    Option String :=
  (moves.filterMap (moveSets last userId key)).getLast?

section Run

variable {tie : Nat → Nat} {system next last : SettingSystem} {userId : Nat} {key : String}

theorem moveSets_eq_some_iff {move : SettingMove} {value : String} :
    moveSets last userId key move = some value ↔ ∃ index session, move = .finish index ∧
      last.sessions[index]? = some session ∧ HasSet session userId key ∧
        session.key.body.value = value := by
  cases move with
  | finish index =>
      simp only [moveSets, Option.bind_eq_some_iff, setTo_eq_some_iff]
      constructor
      · rintro ⟨session, hsession, hset⟩
        exact ⟨index, session, rfl, hsession, hset⟩
      · rintro ⟨_, session, ⟨⟩, hsession, hset⟩
        exact ⟨session, hsession, hset⟩
  | outside change => exact nomatch change
  | start request => exact ⟨nofun, fun ⟨_, _, hmove, _⟩ => nomatch hmove⟩
  | call index turn => exact ⟨nofun, fun ⟨_, _, hmove, _⟩ => nomatch hmove⟩

/-- The step lemma for the values. -/
theorem valueOf_step {move : SettingMove} (hholds : (settingsKept tie).Holds system)
    (hcondition : InsertsInTime system move ∧
      (settingTable.sequence tie fun request : SettingRequest =>
        updateSetting request.body request.userId).Free system)
    (hstep : (settingSessions tie).step system move = some next) :
    valueOf next.committed userId key =
      (moveSets next userId key move).or (valueOf system.committed userId key) := by
  cases move with
  | outside change => exact nomatch change
  | start request =>
      cases hstep
      rfl
  | call index turn =>
      obtain ⟨session, hsession, hcall⟩ := Option.bind_eq_some_iff.mp hstep
      obtain ⟨⟨committed, after⟩, hcalled, rfl⟩ := Option.map_eq_some_iff.mp hcall
      have hrows := (keepsRows_called hcalled).2.1
      change valueOf committed userId key = valueOf system.committed userId key
      unfold valueOf SqlAlchemySettingsRepository.getForUser
      rw [hrows]
  | finish index =>
      obtain ⟨session, hsession, hfinish⟩ := Option.bind_eq_some_iff.mp hstep
      obtain ⟨⟨committed, after⟩, hfinished, rfl⟩ := Option.map_eq_some_iff.mp hfinish
      have hmem := List.mem_of_getElem? hsession
      have hprogress : session.InProgress := (SessionSpec.finished_cases hfinished).1
      have hlt : index < system.sessions.length := (List.getElem?_eq_some_iff.mp hsession).1
      have hafter : (SessionSpec.put system index (committed, after)).sessions[index]? =
          some after := by
        simp [SessionSpec.put, hlt]
      have hfree : ∀ row, .setting row ∈ session.work →
          ¬ Refers system.committed.settings row.id := fun row hrow =>
        hcondition.2 session hmem hprogress row.id (TableOf.mem_drawn.mpr ⟨_, hrow, row, rfl, rfl⟩)
      have hsets : moveSets (SessionSpec.put system index (committed, after)) userId key
          (.finish index) = setTo after userId key := by
        simp only [moveSets, hafter, Option.bind_some]
      rw [hsets]
      change valueOf committed userId key = _
      rcases setting_finished hholds.committed (hholds.single session hmem)
        (hcondition.1 session hsession) hfree hfinished with
        ⟨hkey, ⟨mapping, hresponse⟩, _, hleft⟩ | ⟨⟨error, hresponse⟩, rfl, _⟩
      · rw [hleft.value]
        unfold setTo
        simp only [hresponse, hkey]
        split <;> rfl
      · unfold setTo
        simp only [hresponse]
        rfl

/-- What a move of a run has set, it has set at the end of the run. -/
theorem moveSets_stays {move : SettingMove} {later : List SettingMove}
    (hstep : (settingSessions tie).step system move = some next)
    (hlater : runFrom (settingSessions tie).step next later = some last) :
    moveSets last userId key move = moveSets next userId key move := by
  cases move with
  | outside change => exact nomatch change
  | start request => rfl
  | call index turn => rfl
  | finish index =>
      obtain ⟨session, hsession, hended⟩ := ended_of_step hstep
      simp only [moveSets, hsession, (run_ended hsession hended hlater).1]

theorem lastSet_cons (move : SettingMove) (later : List SettingMove) :
    lastSet last (move :: later) userId key =
      (lastSet last later userId key).or (moveSets last userId key move) := by
  unfold lastSet
  cases hmove : moveSets last userId key move with
  | none => rw [List.filterMap_cons_none hmove, Option.or_none]
  | some value =>
      rw [List.filterMap_cons_some hmove, List.getLast?_cons]
      cases (later.filterMap (moveSets last userId key)).getLast? <;> rfl

/-- The run lemma for the values. -/
theorem valueOf_run {moves : List SettingMove} (hholds : (settingsKept tie).Holds system)
    (halong : Along (settingSessions tie).step (fun system move => InsertsInTime system move ∧
      (settingTable.sequence tie fun request : SettingRequest =>
        updateSetting request.body request.userId).Free system) system moves)
    (hrun : runFrom (settingSessions tie).step system moves = some last) :
    valueOf last.committed userId key =
      (lastSet last moves userId key).or (valueOf system.committed userId key) := by
  induction moves generalizing system with
  | nil =>
      cases hrun
      rfl
  | cons move later ih =>
      obtain ⟨next, hstep, hlater⟩ := runFrom_cons_eq_some hrun
      have hnext : valueOf next.committed userId key = _ := valueOf_step hholds halong.1 hstep
      rw [ih (Guarantee.holds_step hholds halong.1 hstep) (halong.2 next hstep) hlater, hnext,
        lastSet_cons, moveSets_stays hstep hlater, Option.or_assoc]

/-- What was set last some request has set. -/
theorem hasSet_of_lastSet {moves : List SettingMove} {value : String}
    (hlast : lastSet last moves userId key = some value) :
    ∃ session ∈ last.sessions, HasSet session userId key ∧ session.key.body.value = value := by
  obtain ⟨move, _, hmove⟩ := List.mem_filterMap.mp (List.mem_of_getLast? hlast)
  obtain ⟨_, session, _, hsession, hset⟩ := moveSets_eq_some_iff.mp hmove
  exact ⟨session, List.mem_of_getElem? hsession, hset⟩

/-- A request that has set a key has ended by a move of the run. -/
theorem finish_mem_of_hasSet {committed : Database} {moves : List SettingMove} {index : Nat}
    {session : SettingSession}
    (hrun : runFrom (settingSessions tie).step ⟨committed, []⟩ moves = some last)
    (hsession : last.sessions[index]? = some session) (hset : HasSet session userId key) :
    .finish index ∈ moves := by
  obtain ⟨_, _, mapping, hresponse⟩ := hset
  have hended : ¬ session.InProgress := by
    intro hprogress
    cases hprogress.symm.trans hresponse
  rcases finish_mem_of_ended hrun hsession hended with hold | hmem
  · cases hold
  · exact hmem

theorem lastSet_isSome {committed : Database} {moves : List SettingMove}
    {session : SettingSession}
    (hrun : runFrom (settingSessions tie).step ⟨committed, []⟩ moves = some last)
    (hsession : session ∈ last.sessions) (hset : HasSet session userId key) :
    (lastSet last moves userId key).isSome := by
  obtain ⟨index, hindex⟩ := List.getElem?_of_mem hsession
  have hmem := finish_mem_of_hasSet hrun hindex hset
  have hmove := moveSets_eq_some_iff.mpr ⟨index, session, rfl, hindex, hset, rfl⟩
  unfold lastSet
  rw [List.getLast?_isSome]
  exact List.ne_nil_of_mem (List.mem_filterMap.mpr ⟨_, hmem, hmove⟩)

/-- The request that began after the others for its key had ended is the one that committed
last. -/
theorem lastSet_of_latest {committed : Database} {earlier later : List SettingMove}
    {request : SettingRequest} {reached : SettingSystem} {session : SettingSession}
    (hearlier : runFrom (settingSessions tie).step ⟨committed, []⟩ earlier = some reached)
    (hrun : runFrom (settingSessions tie).step ⟨committed, []⟩
      (earlier ++ .start request :: later) = some last)
    (hsession : last.sessions[reached.sessions.length]? = some session)
    (hset : HasSet session userId key)
    (hothers : ∀ index other, index ≠ reached.sessions.length →
      last.sessions[index]? = some other → HasSet other userId key → .finish index ∈ earlier) :
    lastSet last (earlier ++ .start request :: later) userId key =
      some session.key.body.value := by
  have hlater : runFrom (settingSessions tie).step reached (.start request :: later) =
      some last := by
    rw [runFrom_append, hearlier] at hrun
    exact hrun
  have hmem : .finish reached.sessions.length ∈ SessionMove.start request :: later := by
    rcases List.mem_append.mp (finish_mem_of_hasSet hrun hsession hset) with hbefore | hafter
    · obtain ⟨other, hother, _⟩ := ended_of_finish_mem hearlier hbefore
      rw [List.getElem?_eq_none (Nat.le_refl _)] at hother
      cases hother
    · exact hafter
  have hall : ∀ value ∈ (SessionMove.start request :: later).filterMap (moveSets last userId key),
      value = session.key.body.value := by
    intro value hvalue
    obtain ⟨move, hmove, hmoved⟩ := List.mem_filterMap.mp hvalue
    obtain ⟨index, other, rfl, hother, hotherSet, rfl⟩ := moveSets_eq_some_iff.mp hmoved
    by_cases hindex : index = reached.sessions.length
    · obtain rfl := Option.some.inj (hsession.symm.trans (hindex ▸ hother))
      rfl
    · obtain ⟨ended, hended, hnot⟩ :=
        ended_of_finish_mem hearlier (hothers index other hindex hother hotherSet)
      exact absurd hmove (run_ended hended hnot hlater).2
  have hmove := moveSets_eq_some_iff.mpr ⟨_, session, rfl, hsession, hset, rfl⟩
  have hvalue := List.mem_filterMap.mpr ⟨_, hmem, hmove⟩
  unfold lastSet
  rw [List.filterMap_append, List.getLast?_append]
  cases hgot : ((SessionMove.start request :: later).filterMap
    (moveSets last userId key)).getLast? with
  | none =>
      rw [List.getLast?_eq_none_iff.mp hgot] at hvalue
      cases hvalue
  | some value => rw [hall value (List.mem_of_getLast? hgot), Option.some_or]

end Run

/-- If every request that found no row of its key commits while there still is none, the
settings behave as a map. -/
theorem settings_behave_as_map (tie : Nat → Nat) (start : Database)
    (hsound : SettingsSound start) (moves : List SettingMove) (last : SettingSystem)
    (htime : Along (settingSessions tie).step InsertsInTime ⟨start, []⟩ moves)
    (hrun : runFrom (settingSessions tie).step ⟨start, []⟩ moves = some last) :
    BehavesAsMap tie start moves last := by
  have halong := (settingTable.sequence tie fun request : SettingRequest =>
    updateSetting request.body request.userId).along_free
      (fun _ => TableOf.behind Database.settings start) htime
  have hstart := (settingsKept tie).holds_start hsound
  have hholds := (settingsKept tie).holds_run halong hrun hstart
  have hvalue : ∀ userId key, valueOf last.committed userId key =
      (lastSet last moves userId key).or (valueOf start userId key) := fun userId key =>
    valueOf_run hstart halong hrun
  refine ⟨?_, hholds.committed.oneRow, ?_, ?_, ?_⟩
  · intro session hsession hundisturbed hrefers error hresponse
    have htracked : SettingTracked last.committed session := hholds.single session hsession
    unfold SettingTracked at htracked
    rw [hresponse] at htracked
    rcases htracked with hdisturbed | hnone
    · exact hdisturbed hundisturbed
    · exact hnone hrefers
  · intro userId key
    rw [hvalue, Option.isSome_or, Bool.or_eq_true, or_comm]
    refine or_congr_right ⟨fun hlast => ?_, fun ⟨session, hsession, hset⟩ =>
      lastSet_isSome hrun hsession hset⟩
    obtain ⟨value, hlast⟩ := Option.isSome_iff_exists.mp hlast
    obtain ⟨session, hsession, hset, _⟩ := hasSet_of_lastSet hlast
    exact ⟨session, hsession, hset⟩
  · intro userId key value hgot
    rw [hvalue, Option.or_eq_some_iff] at hgot
    rcases hgot with hlast | ⟨hnone, hold⟩
    · exact Or.inl (hasSet_of_lastSet hlast)
    · refine Or.inr ⟨fun session hsession hset => ?_, hold⟩
      have hsome := lastSet_isSome hrun hsession hset
      rw [hnone] at hsome
      cases hsome
  · intro earlier request later reached session userId key hmoves hearlier hsession hset hothers
    rw [hvalue, hmoves, lastSet_of_latest hearlier (hmoves ▸ hrun) hsession hset hothers,
      Option.some_or]

/-- A user without settings. -/
def deskDb : Database :=
  { Database.empty with users := Table.empty.insert fun id => ⟨id, "+15550007777", none, 0⟩ }

/-- The user's requests. -/
def setting (key value : String) : SettingRequest := ⟨1, key, value⟩

/-- Calls of a request that all return. -/
def settingCalls (index count : Nat) : List SettingMove :=
  List.replicate count (.call index ⟨0, none⟩)

/-- A key is set anew after it has been set, beside a request for another key. -/
theorem later_value_stays :
    let moves : List SettingMove :=
      [.start (setting "theme" "dark"), .start (setting "font" "big")] ++
      settingCalls 0 1 ++ settingCalls 1 1 ++ settingCalls 0 2 ++ [.finish 0,
        .start (setting "theme" "light")] ++ settingCalls 2 3 ++ [.finish 2] ++ settingCalls 1 2 ++
          [.finish 1]
    ∃ last, runFrom (settingSessions fun key => key).step ⟨deskDb, []⟩ moves = some last ∧
      SqlAlchemySettingsRepository.getForUser last.committed 1 =
        [("theme", "light"), ("font", "big")] ∧
      BehavesAsMap (fun key => key) deskDb moves last := by
  intro moves
  have hreached : ((runFrom (settingSessions fun key => key).step ⟨deskDb, []⟩ moves).map
      fun last => SqlAlchemySettingsRepository.getForUser last.committed 1) =
        some [("theme", "light"), ("font", "big")] := by
    decide +kernel
  obtain ⟨last, hrun, hmapping⟩ := Option.map_eq_some_iff.mp hreached
  exact ⟨last, hrun, hmapping, settings_behave_as_map (fun key => key) deskDb
    ⟨by decide, by decide, fun _ _ => Nat.zero_le _⟩ moves last (by decide +kernel) hrun⟩

/-- Two racing first writes of a key leave two rows, and the next write of it raises. -/
theorem racing_settings_lock_the_key :
    let moves : List SettingMove := [.start (setting "theme" "dark"),
      .start (setting "theme" "light")] ++ settingCalls 0 1 ++ settingCalls 1 1 ++
        settingCalls 0 2 ++ [.finish 0] ++ settingCalls 1 2 ++ [.finish 1,
          .start (setting "theme" "dark")] ++ settingCalls 2 1 ++ [.finish 2]
    ∃ last, runFrom (settingSessions fun key => key).step ⟨deskDb, []⟩ moves = some last ∧
      ¬ BehavesAsMap (fun key => key) deskDb moves last := by
  intro moves
  have hreached : ((runFrom (settingSessions fun key => key).step ⟨deskDb, []⟩ moves).bind
      fun last => last.sessions[2]?.map fun session => (session.response,
        decide (Undisturbed session ∧ Refers last.committed.users session.key.userId))) =
        some (some (.error .multipleResultsFound), true) := by
    decide +kernel
  obtain ⟨last, hrun, hthird⟩ := Option.bind_eq_some_iff.mp hreached
  obtain ⟨session, hsession, hfacts⟩ := Option.map_eq_some_iff.mp hthird
  simp only [Prod.mk.injEq, decide_eq_true_eq] at hfacts
  obtain ⟨hresponse, hundisturbed, hrefers⟩ := hfacts
  refine ⟨last, hrun, fun hbehaves => ?_⟩
  exact hbehaves.succeeds session (List.mem_of_getElem? hsession) hundisturbed hrefers _ hresponse

end StockMonitoring.Api
