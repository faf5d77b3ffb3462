import Warabi.Provider.Admin

/-! The destination side of a migration: `beforeMigrationCallback` and `afterMigrationCallback`,
which REMI calls with the incoming file set and the provider. Both read the four metadata
fields, parse `config` and `migration_config` inside a `try` that answers `1`, then merge them
with `update(…, true)` outside it. A C++ exception or an undefined operation that leaves a
callback is a `Fault`. -/
namespace Warabi

/-- A file set as the destination's callbacks read it through REMI: each call answers its
return code with what it writes back. `getRoot` stands for the two `remi_fileset_get_root`
calls, answering the code of the first that fails. -/
structure IncomingFileset where
  getMetadata : String → Int × String
  walkthrough : Int × List String
  getRoot : Int × String

/-- How the part both callbacks share ends: a `return` of a code, or the UUID, the type and the
merged configuration. -/
inductive Prologue where
  | exit (code : Int)
  | merged (target_id : UUID) (type : String) (config : Json)

namespace ProviderImpl

variable (env : Env)

def escape {β : Type} (e : Except Exception β) : Except Fault β := e.mapError .exception

def readMetadata (fileset : IncomingFileset) : Except Int (String × String × String × String) := do
  let (rret,uuid) := fileset.getMetadata "uuid"
  if rret ≠ 0 then throw rret
  let (rret,type) := fileset.getMetadata "type"
  if rret ≠ 0 then throw rret
  let (rret,config) := fileset.getMetadata "config"
  if rret ≠ 0 then throw rret
  let (rret,migration_config) := fileset.getMetadata "migration_config"
  if rret ≠ 0 then throw rret
  return (uuid,type,config,migration_config)

/-- The metadata, the two parses (`1` when either fails) and the merge, which may throw. -/
def prologue (fileset : IncomingFileset) : Except Fault Prologue :=
  match readMetadata fileset with
  | .error rret => pure (.exit rret)
  | .ok (uuid,type,config,migration_config) =>
    match Json.parse config, Json.parse migration_config with
    | .ok config_json, .ok migration_config_json => do
      let config_json ← escape (config_json.update migration_config_json)
      return .merged (UUID.from_string uuid) type config_json
    | _, _ => pure (.exit 1)

/-- `config_json["transfer_manager"].get<std::string>()` when the merged configuration has that
member. -/
def requestedManager (config_json : Json) : Except Fault (Option String) :=
  if config_json.contains "transfer_manager" then
    escape (some <$> (config_json.index "transfer_manager" >>= Json.getString))
  else pure none

/-- `m_transfer_managers["__default__"]`, which inserts a null manager when there is none. -/
def defaultManager (p : ProviderImpl) : Option TransferManager × ProviderImpl :=
  match p.transferManagers.lookup "__default__" with
  | some tm => (tm,p)
  | none => (none,{ p with transferManagers := p.transferManagers.insert "__default__" none })

/-- The before-callback's checks on the merged configuration: the manager it names exists, no
target has its UUID, and the backend type accepts it. -/
def checkIncoming (target_id : UUID) (type : String) (config_json : Json) (provider : ProviderImpl) :
    Except Fault Int := do
  if let some tm_name ← requestedManager config_json then
    if tm_name ∉ provider.transferManagers then return 2
  if target_id ∈ provider.targets then return 3
  match env.targetFactory.validateConfig type config_json with
  | .ok () => return 0
  | .error _ => return 4

def beforeMigrationCallback (fileset : IncomingFileset) (provider : ProviderImpl) :
    Except Fault Int := do
  match ← prologue fileset with
  | .exit code => return code
  | .merged target_id type config_json => checkIncoming env target_id type config_json provider

/-- The manager the after-callback binds: the one the merged configuration names, found with an
unchecked `find`, or `m_transfer_managers["__default__"]`. -/
def selectManager (config_json : Json) (provider : ProviderImpl) :
    Except Fault (String × Option TransferManager × ProviderImpl) := do
  match ← requestedManager config_json with
  | some tm_name =>
    match provider.transferManagers.lookup tm_name with
    | some tm => return (tm_name,tm,provider)
    | none => throw (.undefined "m_transfer_managers.end()->second")
  | none =>
    let (tm,provider) := defaultManager provider
    return ("__default__",tm,provider)

def rootedFiles (root : String) (files : List String) : List String :=
  let root_str := if root.isEmpty || root.back ≠ '/' then root ++ "/" else root
  files.map (root_str ++ ·)

/-- The rest of the after-callback: the walk, the root, the recovery and the insertion. -/
def installTarget (fileset : IncomingFileset) (target_id : UUID) (type : String) (config_json : Json)
    (tm_name : String) (tm : Option TransferManager) (provider : ProviderImpl) : Int × ProviderImpl :=
  let (rret,files) := fileset.walkthrough
  if rret ≠ 0 then (2,provider) else
  let (rret,root) := fileset.getRoot
  if rret ≠ 0 then (3,provider) else
  match env.targetFactory.recoverTarget type config_json (rootedFiles root files) with
  | .error _ => (4,provider)
  | .ok target => (0,{ provider with targets := provider.targets.insert target_id ⟨target,tm,tm_name⟩ })

def afterMigrationCallback (fileset : IncomingFileset) (provider : ProviderImpl) :
    Except Fault (Int × ProviderImpl) := do
  match ← prologue fileset with
  | .exit code => return (code,provider)
  | .merged target_id type config_json =>
    let (tm_name,tm,provider) ← selectManager config_json provider
    return installTarget env fileset target_id type config_json tm_name tm provider

theorem readMetadata_error_ne_zero {fileset : IncomingFileset} {rret : Int}
    (h : readMetadata fileset = .error rret) : rret ≠ 0 := by
  unfold readMetadata at h
  simp only [bind,Except.bind,pure,Except.pure,throw,throwThe,MonadExceptOf.throw] at h
  split_ifs at h <;> simp_all

theorem prologue_exit_ne_zero {fileset : IncomingFileset} {code : Int}
    (h : prologue fileset = .ok (.exit code)) : code ≠ 0 := by
  unfold prologue at h
  split at h
  · simp only [pure,Except.pure,Except.ok.injEq,Prologue.exit.injEq] at h
    exact h ▸ readMetadata_error_ne_zero ‹_›
  · split at h
    · simp [bind,Except.bind,escape,Except.mapError] at h
      split at h <;> simp_all [pure,Except.pure]
    · simp only [pure,Except.pure,Except.ok.injEq,Prologue.exit.injEq] at h
      omega

theorem checkIncoming_zero {target_id : UUID} {type : String} {config_json : Json} {p : ProviderImpl}
    (h : checkIncoming env target_id type config_json p = .ok 0) :
    ∃ request, requestedManager config_json = .ok request ∧
      (∀ name ∈ request, name ∈ p.transferManagers) ∧ target_id ∉ p.targets := by
  unfold checkIncoming at h
  rcases hr : requestedManager config_json with e | request
  · simp [hr,bind,Except.bind] at h
  · refine ⟨request,rfl,?_⟩
    simp only [hr,bind,Except.bind] at h
    cases request <;> simp only [pure,Except.pure,Option.mem_def,Option.some.injEq,forall_eq',
      Option.not_mem_none,false_implies,implies_true,true_and] at h ⊢ <;> split_ifs at h <;>
      simp_all

theorem beforeMigrationCallback_accepts {fileset : IncomingFileset} {p : ProviderImpl}
    (h : beforeMigrationCallback env fileset p = .ok 0) :
    ∃ target_id type config_json request, prologue fileset = .ok (.merged target_id type config_json) ∧
      requestedManager config_json = .ok request ∧
      (∀ name ∈ request, name ∈ p.transferManagers) ∧ target_id ∉ p.targets := by
  unfold beforeMigrationCallback at h
  rcases hp : prologue fileset with e | (code | ⟨target_id,type,config_json⟩)
  · simp [hp,bind,Except.bind] at h
  · simp only [hp,bind,Except.bind,pure,Except.pure,Except.ok.injEq] at h
    exact absurd h (prologue_exit_ne_zero hp)
  · simp only [hp,bind,Except.bind] at h
    obtain ⟨request,requested,registered,fresh⟩ := checkIncoming_zero env h
    exact ⟨target_id,type,config_json,request,rfl,requested,registered,fresh⟩

theorem selectManager_registered {config_json : Json} {p p' : ProviderImpl} {name : String}
    {tm : Option TransferManager} (registered : "__default__" ∈ p.transferManagers)
    (h : selectManager config_json p = .ok (name,tm,p')) :
    p' = p ∧ p.transferManagers.lookup name = some tm ∧
      ∃ request, requestedManager config_json = .ok request ∧ name = request.getD "__default__" := by
  unfold selectManager at h
  rcases hr : requestedManager config_json with e | (_ | requested)
  · simp [hr,bind,Except.bind] at h
  · obtain ⟨default_tm,found⟩ := Option.isSome_iff_exists.mp (AList.lookup_isSome.mpr registered)
    simp only [hr,bind,Except.bind,defaultManager,found,pure,Except.pure,Except.ok.injEq,
      Prod.mk.injEq] at h
    obtain ⟨rfl,rfl,rfl⟩ := h
    exact ⟨rfl,found,none,rfl,rfl⟩
  · cases found : p.transferManagers.lookup requested <;>
      simp only [hr,found,bind,Except.bind,pure,Except.pure,throw,throwThe,MonadExceptOf.throw,
        Except.ok.injEq,Prod.mk.injEq,reduceCtorEq] at h
    obtain ⟨rfl,rfl,rfl⟩ := h
    exact ⟨rfl,found,some _,rfl,rfl⟩

theorem selectManager_total {config_json : Json} {p : ProviderImpl} {request : Option String}
    (requested : requestedManager config_json = .ok request)
    (registered : ∀ name ∈ request, name ∈ p.transferManagers) :
    ∃ name tm p', selectManager config_json p = .ok (name,tm,p') := by
  unfold selectManager
  cases request with
  | none =>
    simp only [requested,bind,Except.bind,pure,Except.pure,Except.ok.injEq]
    exact ⟨_,_,_,rfl⟩
  | some name =>
    obtain ⟨tm,found⟩ := Option.isSome_iff_exists.mp (AList.lookup_isSome.mpr (registered name rfl))
    simp [requested,found,bind,Except.bind,pure,Except.pure]

theorem installTarget_cases {fileset : IncomingFileset} {target_id : UUID} {type : String}
    {config_json : Json} {tm_name : String} {tm : Option TransferManager} {p p' : ProviderImpl}
    {code : Int} (h : installTarget env fileset target_id type config_json tm_name tm p = (code,p')) :
    (code ≠ 0 ∧ p' = p) ∨
      (code = 0 ∧ ∃ target, p' = { p with targets := p.targets.insert target_id ⟨target,tm,tm_name⟩ }) := by
  unfold installTarget at h
  split at h
  split at h
  · obtain ⟨rfl,rfl⟩ := Prod.mk.inj h
    exact .inl ⟨by decide,rfl⟩
  split at h
  split at h
  · obtain ⟨rfl,rfl⟩ := Prod.mk.inj h
    exact .inl ⟨by decide,rfl⟩
  split at h
  · obtain ⟨rfl,rfl⟩ := Prod.mk.inj h
    exact .inl ⟨by decide,rfl⟩
  · obtain ⟨rfl,rfl⟩ := Prod.mk.inj h
    exact .inr ⟨rfl,_,rfl⟩

theorem afterMigrationCallback_cases {fileset : IncomingFileset} {p p' : ProviderImpl} {code : Int}
    (h : afterMigrationCallback env fileset p = .ok (code,p')) :
    (prologue fileset = .ok (.exit code) ∧ p' = p) ∨
      ∃ target_id type config_json tm_name tm p₁,
        prologue fileset = .ok (.merged target_id type config_json) ∧
        selectManager config_json p = .ok (tm_name,tm,p₁) ∧
        installTarget env fileset target_id type config_json tm_name tm p₁ = (code,p') := by
  unfold afterMigrationCallback at h
  rcases hp : prologue fileset with e | (c | ⟨target_id,type,config_json⟩)
  · simp [hp,bind,Except.bind] at h
  · simp only [hp,bind,Except.bind,pure,Except.pure,Except.ok.injEq,Prod.mk.injEq] at h
    exact .inl ⟨h.1 ▸ rfl,h.2.symm⟩
  · simp only [hp,bind,Except.bind] at h
    rcases hs : selectManager config_json p with e | ⟨tm_name,tm,p₁⟩
    · simp [hs] at h
    · simp only [hs,pure,Except.pure,Except.ok.injEq] at h
      exact .inr ⟨target_id,type,config_json,tm_name,tm,p₁,rfl,hs,h⟩

theorem afterMigrationCallback_bound {fileset : IncomingFileset} {p p' : ProviderImpl} {code : Int}
    (hp : Bound p) (h : afterMigrationCallback env fileset p = .ok (code,p')) : Bound p' := by
  rcases afterMigrationCallback_cases env h with ⟨-,rfl⟩ | ⟨_,_,_,_,_,_,-,selected,installed⟩
  · exact hp
  · obtain ⟨rfl,found,-⟩ := selectManager_registered hp.default_registered selected
    rcases installTarget_cases env installed with ⟨-,rfl⟩ | ⟨-,_,rfl⟩
    · exact hp
    · exact hp.insert_target found

theorem afterMigrationCallback_managers {fileset : IncomingFileset} {p p' : ProviderImpl} {code : Int}
    (registered : "__default__" ∈ p.transferManagers)
    (h : afterMigrationCallback env fileset p = .ok (code,p')) :
    p'.transferManagers = p.transferManagers := by
  rcases afterMigrationCallback_cases env h with ⟨-,rfl⟩ | ⟨_,_,_,_,_,_,-,selected,installed⟩
  · rfl
  · obtain ⟨rfl,-,-⟩ := selectManager_registered registered selected
    rcases installTarget_cases env installed with ⟨-,rfl⟩ | ⟨-,_,rfl⟩ <;> rfl

theorem afterMigrationCallback_rejection_keeps {fileset : IncomingFileset} {p p' : ProviderImpl}
    {code : Int} (registered : "__default__" ∈ p.transferManagers)
    (h : afterMigrationCallback env fileset p = .ok (code,p')) (rejected : code ≠ 0) : p' = p := by
  rcases afterMigrationCallback_cases env h with ⟨-,rfl⟩ | ⟨_,_,_,_,_,_,-,selected,installed⟩
  · rfl
  · obtain ⟨rfl,-,-⟩ := selectManager_registered registered selected
    rcases installTarget_cases env installed with ⟨-,rfl⟩ | ⟨accepted,-⟩
    · rfl
    · exact absurd accepted rejected

/-- Once the manager the merged configuration names is registered, the after-callback answers
a code: its unchecked `find` does not reach `end()`. -/
theorem afterMigrationCallback_answers {fileset : IncomingFileset} {p : ProviderImpl}
    {target_id : UUID} {type : String} {config_json : Json} {request : Option String}
    (merged : prologue fileset = .ok (.merged target_id type config_json))
    (requested : requestedManager config_json = .ok request)
    (registered : ∀ name ∈ request, name ∈ p.transferManagers) :
    ∃ code p', afterMigrationCallback env fileset p = .ok (code,p') := by
  obtain ⟨_,_,_,selected⟩ := selectManager_total requested registered
  simp only [afterMigrationCallback,merged,selected,bind,Except.bind,pure,Except.pure,
    Except.ok.injEq]
  exact ⟨_,_,rfl⟩

theorem selectManager_keeps {config_json : Json} {p p' : ProviderImpl} {name : String}
    {tm : Option TransferManager} (h : selectManager config_json p = .ok (name,tm,p')) :
    p'.targets = p.targets ∧
      ∀ n t, p.transferManagers.lookup n = some t → p'.transferManagers.lookup n = some t := by
  unfold selectManager defaultManager at h
  rcases hr : requestedManager config_json with e | (_ | requested)
  · simp [hr,bind,Except.bind] at h
  · cases found : p.transferManagers.lookup "__default__" <;>
      simp only [hr,found,bind,Except.bind,pure,Except.pure,Except.ok.injEq,Prod.mk.injEq] at h <;>
      obtain ⟨-,-,rfl⟩ := h
    · refine ⟨rfl,fun n t registered => ?_⟩
      have other : n ≠ "__default__" := by rintro rfl; simp [found] at registered
      simpa [AList.lookup_insert_ne other] using registered
    · exact ⟨rfl,fun _ _ => id⟩
  · cases found : p.transferManagers.lookup requested <;>
      simp only [hr,found,bind,Except.bind,pure,Except.pure,throw,throwThe,MonadExceptOf.throw,
        Except.ok.injEq,Prod.mk.injEq,reduceCtorEq] at h
    obtain ⟨-,-,rfl⟩ := h
    exact ⟨rfl,fun _ _ => id⟩

theorem selectManager_eq {config_json : Json} {q : ProviderImpl} {request : Option String}
    {tm : Option TransferManager} (requested : requestedManager config_json = .ok request)
    (found : q.transferManagers.lookup (request.getD "__default__") = some tm) :
    selectManager config_json q = .ok (request.getD "__default__",tm,q) := by
  cases request <;> simp_all [selectManager,defaultManager,bind,Except.bind,pure,Except.pure]

theorem installTarget_local (fileset : IncomingFileset) (target_id : UUID) (type : String)
    (config_json : Json) (tm_name : String) (tm : Option TransferManager) :
    ∃ (code : Int) (recovered : Option Backend), ∀ q,
      installTarget env fileset target_id type config_json tm_name tm q =
        (code,{ q with targets := recovered.elim q.targets fun target =>
          q.targets.insert target_id ⟨target,tm,tm_name⟩ }) := by
  unfold installTarget
  obtain ⟨rret,files⟩ := fileset.walkthrough
  obtain ⟨rret',root⟩ := fileset.getRoot
  by_cases walked : rret ≠ 0
  · exact ⟨2,none,fun q => by simp [walked]⟩
  by_cases rooted : rret' ≠ 0
  · exact ⟨3,none,fun q => by simp [walked,rooted]⟩
  cases recovered : env.targetFactory.recoverTarget type config_json (rootedFiles root files) with
  | error => exact ⟨4,none,fun q => by simp [walked,rooted,recovered]⟩
  | ok target => exact ⟨0,some target,fun q => by simp [walked,rooted,recovered]⟩

end ProviderImpl

def IncomingFileset.Carries (fileset : IncomingFileset) (target_id : UUID) : Prop :=
  ∃ type config_json, ProviderImpl.prologue fileset = .ok (.merged target_id type config_json)

namespace ProviderImpl

variable (env : Env)

/-- From any registries, the after-callback keeps every registered manager, and writes at most
the entry of the UUID its file set carries. -/
theorem afterMigrationCallback_keeps {fileset : IncomingFileset} {p p' : ProviderImpl} {code : Int}
    (h : afterMigrationCallback env fileset p = .ok (code,p')) :
    (∀ n t, p.transferManagers.lookup n = some t → p'.transferManagers.lookup n = some t) ∧
      ∀ target_id, ¬ fileset.Carries target_id → p'.targets.lookup target_id = p.targets.lookup target_id := by
  rcases afterMigrationCallback_cases env h with ⟨-,rfl⟩ | ⟨installed_id,type,config_json,_,_,_,
    merged,selected,installed⟩
  · exact ⟨fun _ _ => id,fun _ _ => rfl⟩
  · obtain ⟨targets,managers⟩ := selectManager_keeps selected
    rcases installTarget_cases env installed with ⟨-,rfl⟩ | ⟨-,_,rfl⟩
    · exact ⟨managers,fun _ _ => by rw [targets]⟩
    · refine ⟨managers,fun target_id other => ?_⟩
      have ne : target_id ≠ installed_id := fun same => other ⟨type,config_json,same ▸ merged⟩
      simp [AList.lookup_insert_ne ne,targets]

def installEntry (installed : Option (UUID × TargetEntry)) (targets : AList fun _ : UUID => TargetEntry) :
    AList fun _ : UUID => TargetEntry :=
  installed.elim targets fun e => targets.insert e.1 e.2

/-- Once `__default__` is registered, the after-callback reads the manager registry and no
target: run on any target registry with the same managers, it answers the same code and
installs the same entry, if any, under the UUID its file set carries. -/
theorem afterMigrationCallback_local {fileset : IncomingFileset} {p p' : ProviderImpl} {code : Int}
    (registered : "__default__" ∈ p.transferManagers)
    (h : afterMigrationCallback env fileset p = .ok (code,p')) :
    ∃ installed : Option (UUID × TargetEntry), (∀ e ∈ installed, fileset.Carries e.1) ∧
      ∀ targets, afterMigrationCallback env fileset ⟨targets,p.transferManagers⟩ =
        .ok (code,⟨installEntry installed targets,p.transferManagers⟩) := by
  rcases afterMigrationCallback_cases env h with ⟨exit,-⟩ | ⟨target_id,type,config_json,_,tm,_,
    merged,selected,installed⟩
  · exact ⟨none,fun e none => absurd none (Option.not_mem_none e),fun targets => by
      simp [afterMigrationCallback,exit,bind,Except.bind,pure,Except.pure,installEntry]⟩
  · obtain ⟨rfl,found,request,requested,rfl⟩ := selectManager_registered registered selected
    obtain ⟨code',recovered,install⟩ :=
      installTarget_local env fileset target_id type config_json (request.getD "__default__") tm
    obtain ⟨rfl,-⟩ := Prod.mk.inj ((install _).symm.trans installed)
    refine ⟨recovered.map fun target => (target_id,⟨target,tm,request.getD "__default__"⟩),?_,
      fun targets => ?_⟩
    · intro e mem
      obtain ⟨_,-,rfl⟩ := Option.mem_map.mp mem
      exact ⟨type,config_json,merged⟩
    · simp only [afterMigrationCallback,merged,selectManager_eq (q := ⟨targets,_⟩) requested found,install,bind,
        Except.bind,pure,Except.pure]
      cases recovered <;> rfl

/-- An ill-typed merge escapes the before-callback: `update()` of an array, and
`get<std::string>()` of a number. -/
theorem beforeMigrationCallback_throws (provider : ProviderImpl) :
    beforeMigrationCallback env
        ⟨fun key => (0,if key = "config" then "[]" else "\x7b\x7d"),(0,[]),(0,"")⟩ provider =
      .error (.exception (Json.typeError 312 "cannot use update() with array")) ∧
    beforeMigrationCallback env
        ⟨fun key => (0,if key = "config" then "\x7b\"transfer_manager\":1\x7d" else "\x7b\x7d"),
          (0,[]),(0,"")⟩ provider =
      .error (.exception (Json.typeError 302 "type must be string, but is number")) :=
  ⟨rfl,rfl⟩

end ProviderImpl

end Warabi
