import Warabi.Provider.Basic
import Warabi.Json.Text

/-! The admin plane of `ProviderImpl`: `addTarget` and `addTransferManager` with their string
overloads, and the admin RPC handlers. The member functions are given twice. As the constructor
calls them, they return their `Result` and the new registries, or the exception that escapes
them, in which case the registries are the ones they were called with. Inside an RPC handler
they also hold the registry locks and call the factories, and a run lemma ties each handler to
the first form. `target_id` is the UUID that `UUID::generate` returns in the call. -/
namespace Warabi

namespace ProviderImpl

variable (env : Env)

/-- `addTarget(target_type, json_config)`. -/
def addTargetJson (p : ProviderImpl) (target_id : UUID) (target_type : String)
    (json_config : Json) : Except Exception (Result UUID × ProviderImpl) :=
  match env.targetFactory.createTarget target_type json_config with
  | .error e => .ok ((default : Result UUID).fail e,p)
  | .ok target => do
    let tm_name ← json_config.valueString "transfer_manager" "__default__"
    match p.transferManagers.lookup tm_name with
    | none => .ok ((default : Result UUID).fail ("Could not find transfer manager named " ++ tm_name),p)
    | some tm =>
      .ok (.ok target_id,{ p with targets := p.targets.insert target_id ⟨target,tm,tm_name⟩ })

/-- `addTarget(target_type, target_config)`: parse, validate, then add. -/
def addTarget (p : ProviderImpl) (target_id : UUID) (target_type target_config : String) :
    Except Exception (Result UUID × ProviderImpl) :=
  match Json.parse target_config with
  | .error e => e.caught.map fun what => ((default : Result UUID).fail what,p)
  | .ok json_config =>
    match env.targetFactory.validateConfig target_type json_config with
    | .error e => .ok ((default : Result UUID).fail e,p)
    | .ok () => p.addTargetJson env target_id target_type json_config

/-- `addTransferManager(name, type, json config)`. -/
def addTransferManagerJson (p : ProviderImpl) (name type : String) (config : Json) :
    Result Bool × ProviderImpl :=
  if name ∈ p.transferManagers then
    ((default : Result Bool).fail ("A TransferManager with name \"" ++ name ++ "\" already exists"),p)
  else
    match env.transferManagerFactory.createTransferManager type config with
    | .error e => ((default : Result Bool).fail e,p)
    | .ok tm => (default,{ p with transferManagers := p.transferManagers.insert name (some tm) })

/-- `addTransferManager(name, type, string config)`: parse, validate, then add. -/
def addTransferManager (p : ProviderImpl) (name type config : String) :
    Except Exception (Result Bool × ProviderImpl) :=
  match Json.parse config with
  | .error e => e.caught.map fun what => ((default : Result Bool).fail what,p)
  | .ok json_config =>
    match env.transferManagerFactory.validateConfig type json_config with
    | .error e => .ok ((default : Result Bool).fail e,p)
    | .ok () => .ok (p.addTransferManagerJson env name type json_config)

theorem addTargetJson_cases {p p' : ProviderImpl} {target_id : UUID} {target_type : String}
    {json_config : Json} {r : Result UUID} (h : p.addTargetJson env target_id target_type json_config = .ok (r,p')) :
    (r.success = false ∧ p' = p) ∨ (r.success = true ∧ ∃ entry,
      p.transferManagers.lookup entry.transferManagerName = some entry.transferManager ∧
      p' = { p with targets := p.targets.insert target_id entry }) := by
  unfold addTargetJson at h
  split at h
  · obtain ⟨rfl,rfl⟩ := Prod.mk.inj (Except.ok.inj h)
    exact .inl ⟨rfl,rfl⟩
  · obtain ⟨tm_name,-,h⟩ := Except.bind_eq_ok.mp h
    split at h
    · obtain ⟨rfl,rfl⟩ := Prod.mk.inj (Except.ok.inj h)
      exact .inl ⟨rfl,rfl⟩
    · obtain ⟨rfl,rfl⟩ := Prod.mk.inj (Except.ok.inj h)
      exact .inr ⟨rfl,_,‹_›,rfl⟩

theorem caught_map_eq_ok {α : Type} [Inhabited α] {e : Json.ParseException} {p p' : ProviderImpl}
    {r : Result α} (h : e.caught.map (fun what => ((default : Result α).fail what,p)) = .ok (r,p')) :
    r.success = false ∧ p' = p := by
  cases e <;> cases h
  exact ⟨rfl,rfl⟩

theorem addTarget_cases {p p' : ProviderImpl} {target_id : UUID} {target_type target_config : String}
    {r : Result UUID} (h : p.addTarget env target_id target_type target_config = .ok (r,p')) :
    (r.success = false ∧ p' = p) ∨ (r.success = true ∧ ∃ entry,
      p.transferManagers.lookup entry.transferManagerName = some entry.transferManager ∧
      p' = { p with targets := p.targets.insert target_id entry }) := by
  unfold addTarget at h
  split at h
  · exact .inl (caught_map_eq_ok h)
  · split at h
    · obtain ⟨rfl,rfl⟩ := Prod.mk.inj (Except.ok.inj h)
      exact .inl ⟨rfl,rfl⟩
    · exact addTargetJson_cases env h

theorem addTransferManagerJson_cases (p : ProviderImpl) (name type : String) (config : Json) :
    ((p.addTransferManagerJson env name type config).1.success = false ∧
      (p.addTransferManagerJson env name type config).2 = p) ∨
    ((p.addTransferManagerJson env name type config).1.success = true ∧ ∃ tm, name ∉ p.transferManagers ∧
      env.transferManagerFactory.createTransferManager type config = .ok tm ∧
      (p.addTransferManagerJson env name type config).2 =
        { p with transferManagers := p.transferManagers.insert name (some tm) }) := by
  unfold addTransferManagerJson
  split
  · exact .inl ⟨rfl,rfl⟩
  · split
    · exact .inl ⟨rfl,rfl⟩
    · exact .inr ⟨rfl,_,‹_›,‹_›,rfl⟩

theorem addTransferManager_cases {p p' : ProviderImpl} {name type config : String} {r : Result Bool}
    (h : p.addTransferManager env name type config = .ok (r,p')) :
    (r.success = false ∧ p' = p) ∨ (r.success = true ∧ ∃ tm, name ∉ p.transferManagers ∧
      p' = { p with transferManagers := p.transferManagers.insert name (some tm) }) := by
  unfold addTransferManager at h
  split at h
  · exact .inl (caught_map_eq_ok h)
  · split at h
    · obtain ⟨rfl,rfl⟩ := Prod.mk.inj (Except.ok.inj h)
      exact .inl ⟨rfl,rfl⟩
    · have ran := Except.ok.inj h
      rcases addTransferManagerJson_cases env p name type _ with ⟨failed,kept⟩ | ⟨created,tm,fresh,-,added⟩
      · rw [ran] at failed kept
        exact .inl ⟨failed,kept⟩
      · rw [ran] at created added
        exact .inr ⟨created,tm,fresh,added⟩

end ProviderImpl

/-- The frame an admin handler leaves, as its member function computes it: the `Result` and the
registries, or the exception with the frame it started in; `log` is what it asked the factories. -/
def Frame.ofMember {α : Type} [Inhabited α] (p : ProviderImpl) (log : List (FactoryCall × List Mutex)) :
    Except Exception (Result α × ProviderImpl) → Except Fault Unit × Frame α
  | .ok (result,p') => (.ok (),{ provider := p',result,factoryCalls := log })
  | .error e => (.error (.exception e),{ provider := p,result := default,factoryCalls := log })

@[simp] theorem Frame.ofMember_calls {α : Type} [Inhabited α] (p : ProviderImpl) (log : List (FactoryCall × List Mutex))
    (r : Except Exception (Result α × ProviderImpl)) : (Frame.ofMember p log r).2.calls = [] := by
  rcases r with _ | ⟨_,_⟩ <;> rfl

namespace Handler

variable (env : Env)

/-- `addTarget(target_type, json_config)` in a handler: the factory is called with no lock held;
`m_targets_mtx` and `m_transfer_managers_mtx` are held around the read of `transfer_manager`, the
lookup of the manager and the insertion. -/
def addTargetJson (target_id : UUID) (target_type : String) (json_config : Json) :
    Handler UUID (Result UUID) := do
  match ← factory (.createTarget target_type json_config) (env.targetFactory.createTarget target_type json_config) with
  | .error e => return (default : Result UUID).fail e
  | .ok target =>
    withLock .targets <| withLock .transferManagers do
      let tm_name ← raise (json_config.valueString "transfer_manager" "__default__")
      let p ← provider
      match p.transferManagers.lookup tm_name with
      | none => return (default : Result UUID).fail ("Could not find transfer manager named " ++ tm_name)
      | some tm =>
        setProvider { p with targets := p.targets.insert target_id ⟨target,tm,tm_name⟩ }
        return .ok target_id

def addTarget (target_id : UUID) (target_type target_config : String) : Handler UUID (Result UUID) :=
  match Json.parse target_config with
  | .error e => return (default : Result UUID).fail (← raise e.caught)
  | .ok json_config => do
    match ← factory (.validateTarget target_type json_config) (env.targetFactory.validateConfig target_type json_config) with
    | .error e => return (default : Result UUID).fail e
    | .ok () => addTargetJson env target_id target_type json_config

/-- `addTransferManager(name, type, json config)` in a handler: `m_transfer_managers_mtx` is
held from the lookup of `name` through the factory's `createTransferManager` to the insertion. -/
def addTransferManagerJson (name type : String) (config : Json) : Handler Bool (Result Bool) :=
  withLock .transferManagers do
    let p ← provider
    if name ∈ p.transferManagers then
      return (default : Result Bool).fail ("A TransferManager with name \"" ++ name ++ "\" already exists")
    match ← factory (.createTransferManager type config) (env.transferManagerFactory.createTransferManager type config) with
    | .error e => return (default : Result Bool).fail e
    | .ok tm =>
      setProvider { p with transferManagers := p.transferManagers.insert name (some tm) }
      return default

def addTransferManager (name type config : String) : Handler Bool (Result Bool) :=
  match Json.parse config with
  | .error e => return (default : Result Bool).fail (← raise e.caught)
  | .ok json_config => do
    match ← factory (.validateTransferManager type json_config)
        (env.transferManagerFactory.validateConfig type json_config) with
    | .error e => return (default : Result Bool).fail e
    | .ok () => addTransferManagerJson env name type json_config

def addTargetRPC (target_id : UUID) (target_type target_config : String) : Handler UUID Unit := do
  setResult (← addTarget env target_id target_type target_config)

def removeTargetRPC (target_id : UUID) : Handler Bool Unit :=
  withLock .targets do
    let p ← provider
    if target_id ∈ p.targets then
      setProvider { p with targets := p.targets.erase target_id }
    else
      fail ("Target " ++ target_id.to_string ++ " not found")

def destroyTargetRPC (target_id : UUID) : Handler Bool Unit :=
  withLock .targets do
    match (← provider).targets.lookup target_id with
    | none => fail ("Target " ++ target_id.to_string ++ " not found")
    | some entry =>
      setResult (← call (.destroy entry.target) (env.destroy entry.target))
      let p ← provider
      setProvider { p with targets := p.targets.erase target_id }

def addTransferManagerRPC (name type config : String) : Handler Bool Unit := do
  setResult (← addTransferManager env name type config)

def checkTargetRPC (target_id : UUID) : Handler Bool Unit := do
  let _ ← findTarget target_id

theorem addTargetRPC_run (p : ProviderImpl) (target_id : UUID) (target_type target_config : String) :
    ∃ log, (addTargetRPC env target_id target_type target_config).run (.start p) =
      Frame.ofMember p log (p.addTarget env target_id target_type target_config) := by
  unfold addTargetRPC addTarget ProviderImpl.addTarget
  rcases parsed : Json.parse target_config with e | json_config
  · cases e <;> exact ⟨_,rfl⟩
  rcases valid : env.targetFactory.validateConfig target_type json_config with e | ⟨⟩
  · exact ⟨_,by simp [valid,setResult,Frame.ofMember,Frame.start]; rfl⟩
  unfold addTargetJson ProviderImpl.addTargetJson
  rcases created : env.targetFactory.createTarget target_type json_config with e | target
  · exact ⟨_,by simp [valid,created,setResult,Frame.ofMember,Frame.start]; rfl⟩
  rcases named : json_config.valueString "transfer_manager" "__default__" with e | tm_name
  · exact ⟨_,by simp [valid,created,named,Except.mapError,Frame.ofMember,Frame.start]; rfl⟩
  cases found : p.transferManagers.lookup tm_name <;>
    exact ⟨_,by simp [valid,created,named,found,Except.mapError,provider,setProvider,setResult,
      Frame.ofMember,Frame.start]; rfl⟩

theorem addTransferManagerRPC_run (p : ProviderImpl) (name type config : String) :
    ∃ log, (addTransferManagerRPC env name type config).run (.start p) =
      Frame.ofMember p log (p.addTransferManager env name type config) := by
  unfold addTransferManagerRPC addTransferManager ProviderImpl.addTransferManager
  rcases parsed : Json.parse config with e | json_config
  · cases e <;> exact ⟨_,rfl⟩
  rcases valid : env.transferManagerFactory.validateConfig type json_config with e | ⟨⟩
  · exact ⟨_,by simp [valid,setResult,Frame.ofMember,Frame.start]; rfl⟩
  unfold addTransferManagerJson ProviderImpl.addTransferManagerJson
  by_cases taken : name ∈ p.transferManagers
  · exact ⟨_,by simp [valid,taken,provider,setResult,Frame.ofMember,Frame.start]; rfl⟩
  rcases created : env.transferManagerFactory.createTransferManager type json_config with e | tm <;>
    exact ⟨_,by simp [valid,taken,created,provider,setProvider,setResult,Frame.ofMember,Frame.start]; rfl⟩

theorem addTargetRPC_calls (p : ProviderImpl) (target_id : UUID) (target_type target_config : String) :
    ((addTargetRPC env target_id target_type target_config).run (.start p)).2.calls = [] := by
  obtain ⟨log,ran⟩ := addTargetRPC_run env p target_id target_type target_config
  rw [ran,Frame.ofMember_calls]

theorem addTransferManagerRPC_calls (p : ProviderImpl) (name type config : String) :
    ((addTransferManagerRPC env name type config).run (.start p)).2.calls = [] := by
  obtain ⟨log,ran⟩ := addTransferManagerRPC_run env p name type config
  rw [ran,Frame.ofMember_calls]

/-- `m_transfer_managers_mtx` is held, and only it, whenever `addTransferManagerRPC` calls the
factory's `createTransferManager`. -/
theorem addTransferManagerRPC_creates_locked (p : ProviderImpl) (name type config : String) :
    ∀ c ∈ ((addTransferManagerRPC env name type config).run (.start p)).2.factoryCalls,
      (∃ json_config, c.1 = .createTransferManager type json_config) → c.2 = [.transferManagers] := by
  unfold addTransferManagerRPC addTransferManager addTransferManagerJson
  rcases parsed : Json.parse config with e | json_config
  · cases e <;> simp [Json.ParseException.caught,Except.mapError,setResult,Frame.start]
  rcases valid : env.transferManagerFactory.validateConfig type json_config with e | ⟨⟩
  · simp [valid,setResult,Frame.start]
  by_cases taken : name ∈ p.transferManagers
  · simp [valid,taken,provider,setResult,Frame.start]
  · rcases created : env.transferManagerFactory.createTransferManager type json_config with e | tm <;>
      simp [valid,taken,created,provider,setProvider,setResult,Frame.start]

theorem removeTargetRPC_run (p : ProviderImpl) (target_id : UUID) :
    (removeTargetRPC target_id).run (.start p) =
      if target_id ∈ p.targets then (.ok (),.start { p with targets := p.targets.erase target_id })
      else (.ok (),
        { provider := p,result := Result.fail default ("Target " ++ target_id.to_string ++ " not found") }) := by
  unfold removeTargetRPC
  split <;> simp_all [provider,setProvider,fail,Frame.start]

theorem destroyTargetRPC_run (p : ProviderImpl) (target_id : UUID) :
    (destroyTargetRPC env target_id).run (.start p) =
      match p.targets.lookup target_id with
      | none => (.ok (),
          { provider := p,result := Result.fail default ("Target " ++ target_id.to_string ++ " not found") })
      | some entry =>
        match env.destroy entry.target with
        | .ok result => (.ok (),
            { provider := { p with targets := p.targets.erase target_id },result,
              calls := [(.destroy entry.target,[.targets])] })
        | .error e => (.error (.exception e),
            { provider := p,result := default,calls := [(.destroy entry.target,[.targets])] }) := by
  unfold destroyTargetRPC
  split
  · simp_all [provider,fail,Frame.start]
  · split <;> simp_all [provider,setProvider,setResult,Frame.start,Except.mapError]

end Handler

end Warabi
