import Warabi.Provider.Admin
import Warabi.Json.RoundTrip

/-! The constructor of `ProviderImpl`: parse the configuration, register the migration class,
check the configuration against `configSchema`, then two passes over the declared transfer
managers, the default manager, and two passes over the declared targets. The second passes
call `addTransferManager` and `addTarget` and drop the `Result`s they return. What the
constructor registers is declared by the configuration, each target made from its configuration
as `parse` reads its `dump()` back. -/
namespace Warabi

namespace Json

def optionalMember (members : List (String × Json)) (key : String) (check : Json → Bool) : Bool :=
  (members.lookup key).all check

def isString : Json → Bool
  | string _ => true
  | _ => false

def isObject : Json → Bool
  | object _ => true
  | _ => false

def elements : Json → List Json
  | array elements => elements
  | object members => members.map Prod.snd
  | _ => []

end Json

open Json in
def targetSchema : Json → Bool
  | object members =>
    (members.lookup "type").any isString &&
      optionalMember members "config" fun
        | object config => optionalMember config "transfer_manager" isString
        | _ => false
  | _ => false

open Json in
def transferManagerSchema : Json → Bool
  | object members =>
    (members.lookup "type").any isString && optionalMember members "config" isObject
  | _ => false

open Json in
/-- `configSchema`, as valijson checks a document against it. -/
def configSchema : Json → Bool
  | object members =>
    optionalMember members "targets" (fun
      | array targets => targets.all targetSchema
      | _ => false) &&
    optionalMember members "transfer_managers" (fun
      | object tms => tms.all (transferManagerSchema ·.2)
      | _ => false)
  | _ => false

namespace ProviderImpl

variable (env : Env)

def empty : ProviderImpl := ⟨∅,∅⟩

def transferManagerDeclaration (val : Json) : Except Exception (String × Json) := do
  let tm_type ← (← val.index "type").getRefString
  let tm_config ← val.value "config" (.object [])
  return (tm_type,tm_config)

def targetDeclaration (target : Json) : Except Exception (String × Json) := do
  let target_type ← (← target.index "type").getRefString
  let target_config ← if target.contains "config" then target.index "config" else pure (.object [])
  return (target_type,target_config)

def validateTransferManagers : List (String × Json) → Except Exception Unit
  | [] => pure ()
  | (_,val) :: rest => do
    let (tm_type,tm_config) ← transferManagerDeclaration val
    match env.transferManagerFactory.validateConfig tm_type tm_config with
    | .error e => throw ⟨e⟩
    | .ok () => validateTransferManagers rest

def addTransferManagers (p : ProviderImpl) : List (String × Json) → Except Exception ProviderImpl
  | [] => pure p
  | (key,val) :: rest => do
    let (tm_type,tm_config) ← transferManagerDeclaration val
    let (_,p) ← p.addTransferManager env key tm_type tm_config.dump
    addTransferManagers p rest

def validateTargets : List Json → Except Exception Unit
  | [] => pure ()
  | target :: rest => do
    let (target_type,target_config) ← targetDeclaration target
    match env.targetFactory.validateConfig target_type target_config with
    | .error e => throw ⟨e⟩
    | .ok () => validateTargets rest

/-- The second pass over the targets; `uuids i` is the UUID generated for the `i`-th one. -/
def addTargets (uuids : Nat → UUID) (p : ProviderImpl) : Nat → List Json → Except Exception ProviderImpl
  | _, [] => pure p
  | i, target :: rest => do
    let (target_type,target_config) ← targetDeclaration target
    let (_,p) ← p.addTarget env (uuids i) target_type target_config.dump
    addTargets uuids p (i + 1) rest

/-- The configuration document: an empty string is an empty object. -/
def readConfig (config : String) : Except Exception Json :=
  if config.isEmpty then pure (.object []) else
    match Json.parse config with
    | .ok j => pure j
    | .error e => do throw ⟨"Could not parse warabi provider configuration: " ++ (← e.caught)⟩

/-- `addTransferManager("__default__", "__default__", json::object())` when no manager of that
name was declared. -/
def withDefault (p : ProviderImpl) : ProviderImpl :=
  if "__default__" ∈ p.transferManagers then p else
    (p.addTransferManagerJson env "__default__" "__default__" (.object [])).2

def constructManagers (json_config : Json) : Except Exception ProviderImpl := do
  let transfer_managers ← json_config.value "transfer_managers" (.object [])
  let items := match transfer_managers with
    | .object members => members
    | _ => []
  validateTransferManagers env items
  return withDefault env (← addTransferManagers env empty items)

def constructTargets (uuids : Nat → UUID) (json_config : Json) (p : ProviderImpl) :
    Except Exception ProviderImpl :=
  if json_config.contains "targets" then do
    let targets := Json.elements (← json_config.index "targets")
    validateTargets env targets
    addTargets env uuids p 0 targets
  else pure p

/-- `ProviderImpl(engine, provider_id, config, ...)`: the registries it builds, or the exception
it throws. `registration` is what `remi_provider_register_migration_class` returns when a REMI
provider is given. -/
def construct (config : String) (registration : Option Int) (uuids : Nat → UUID) :
    Except Exception ProviderImpl := do
  let json_config ← readConfig config
  if let some rret := registration then
    if rret ≠ 0 then
      throw ⟨"Failed to register migration class in REMI: " ++
        "remi_provider_register_migration_class returned " ++ toString rret⟩
  if !configSchema json_config then
    throw ⟨"Invalid JSON configuration (see error logs for information)"⟩
  constructTargets env uuids json_config (← constructManagers env json_config)

theorem construct_stages {config : String} {registration : Option Int} {uuids : Nat → UUID}
    {p : ProviderImpl} (h : construct env config registration uuids = .ok p) :
    ∃ json_config p₀, readConfig config = .ok json_config ∧ configSchema json_config = true ∧
      constructManagers env json_config = .ok p₀ ∧ constructTargets env uuids json_config p₀ = .ok p := by
  unfold construct at h
  obtain ⟨json_config,read,h⟩ := Except.bind_eq_ok.mp h
  refine ⟨json_config,?_⟩
  have checked : configSchema json_config = true ∧
      (constructManagers env json_config >>= constructTargets env uuids json_config) = .ok p := by
    rcases registration with _ | rret <;> dsimp only at h <;> split_ifs at h <;>
      simp_all [throw,throwThe,MonadExceptOf.throw,pure,Except.pure,bind,Except.bind]
  obtain ⟨p₀,managers,targets⟩ := Except.bind_eq_ok.mp checked.2
  exact ⟨p₀,read,checked.1,managers,targets⟩

theorem addTransferManagers_nonnull {p p' : ProviderImpl} {items : List (String × Json)}
    (targets_empty : p.targets = ∅) (nonnull : NonNull p.transferManagers)
    (h : addTransferManagers env p items = .ok p') : p'.targets = ∅ ∧ NonNull p'.transferManagers := by
  induction items generalizing p with
  | nil => cases h; exact ⟨targets_empty,nonnull⟩
  | cons item items ih =>
    obtain ⟨⟨tm_type,tm_config⟩,-,h⟩ := Except.bind_eq_ok.mp h
    obtain ⟨⟨r,p₁⟩,added,next⟩ := Except.bind_eq_ok.mp h
    rcases addTransferManager_cases env added with ⟨-,rfl⟩ | ⟨-,tm,-,rfl⟩
    · exact ih targets_empty nonnull next
    · exact ih (by exact targets_empty) (nonnull.insert _ tm) next

theorem withDefault_bound
    (created : ∃ tm, env.transferManagerFactory.createTransferManager "__default__" (.object []) = .ok tm)
    {p : ProviderImpl} (untargeted : p.targets = ∅) (nonnull : NonNull p.transferManagers) :
    Bound (withDefault env p) := by
  unfold withDefault
  split
  · exact .of_untargeted untargeted ‹_› nonnull
  · obtain ⟨tm,created⟩ := created
    have added : p.addTransferManagerJson env "__default__" "__default__" (.object []) =
        (default,{ p with transferManagers := p.transferManagers.insert "__default__" (some tm) }) := by
      simp [addTransferManagerJson,‹"__default__" ∉ p.transferManagers›,created]
    rw [added]
    exact .of_untargeted untargeted (AList.mem_insert _ |>.mpr (.inl rfl)) (nonnull.insert _ tm)

theorem addTargets_bound {uuids : Nat → UUID} {p p' : ProviderImpl} {i : Nat} {targets : List Json}
    (hp : Bound p) (h : addTargets env uuids p i targets = .ok p') : Bound p' := by
  induction targets generalizing p i with
  | nil => cases h; exact hp
  | cons target targets ih =>
    obtain ⟨⟨target_type,target_config⟩,-,h⟩ := Except.bind_eq_ok.mp h
    obtain ⟨⟨r,p₁⟩,added,h⟩ := Except.bind_eq_ok.mp h
    refine ih ?_ h
    rcases addTarget_cases env added with ⟨-,rfl⟩ | ⟨-,entry,registered,rfl⟩
    · exact hp
    · exact hp.insert_target registered

/-- Assuming the default manager can be created, the constructor establishes the invariant. -/
theorem construct_bound
    (created : ∃ tm, env.transferManagerFactory.createTransferManager "__default__" (.object []) = .ok tm)
    {config : String} {registration : Option Int} {uuids : Nat → UUID} {p : ProviderImpl}
    (h : construct env config registration uuids = .ok p) : Bound p := by
  obtain ⟨json_config,p₀,-,-,managers,targets⟩ := construct_stages env h
  have declared : Bound p₀ := by
    obtain ⟨transfer_managers,-,managers⟩ := Except.bind_eq_ok.mp managers
    obtain ⟨-,-,managers⟩ := Except.bind_eq_ok.mp managers
    obtain ⟨p₁,added,done⟩ := Except.bind_eq_ok.mp managers
    cases Except.ok.inj done
    obtain ⟨untargeted,nonnull⟩ := addTransferManagers_nonnull env rfl (fun _ _ found => by
      simp [empty,AList.lookup_empty] at found) added
    exact withDefault_bound env created untargeted nonnull
  unfold constructTargets at targets
  split at targets
  · obtain ⟨_,-,targets⟩ := Except.bind_eq_ok.mp targets
    obtain ⟨-,-,targets⟩ := Except.bind_eq_ok.mp targets
    exact addTargets_bound env declared targets
  · cases Except.ok.inj targets
    exact declared

def declaredManagers (json_config : Json) : List String :=
  match json_config.value "transfer_managers" (.object []) with
  | .ok (.object members) => members.map Prod.fst
  | _ => []

def declaredTargets (json_config : Json) : List Json :=
  match json_config.index "targets" with
  | .ok targets => targets.elements
  | .error _ => []

/-- What the spec says a declared target becomes: the backend its factory creates from its
type and configuration, bound to the manager its configuration names. -/
def declaredEntry (target : Json) : Except Exception (Backend × String) := do
  let (target_type,target_config) ← targetDeclaration target
  let backend ← (env.targetFactory.createTarget target_type target_config).mapError Exception.mk
  let tm_name ← target_config.valueString "transfer_manager" "__default__"
  return (backend,tm_name)

/-- What `addTarget(target_type, target_config.dump())` makes of a declared target: the factory
and the manager lookup see the configuration as `parse` reads its `dump()` back. -/
def registeredEntry (target : Json) : Except Exception (Backend × String) := do
  let (target_type,target_config) ← targetDeclaration target
  let json_config ← (Json.parse target_config.dump).mapError (·.exception)
  let backend ← (env.targetFactory.createTarget target_type json_config).mapError Exception.mk
  let tm_name ← json_config.valueString "transfer_manager" "__default__"
  return (backend,tm_name)

theorem registeredEntry_of_canonical {target target_config : Json} {target_type : String}
    (declared : targetDeclaration target = .ok (target_type,target_config)) (canonical : target_config.Canonical) :
    registeredEntry env target = declaredEntry env target := by
  simp only [registeredEntry,declaredEntry,declared,Json.parse_dump _ canonical,Except.ok_bind,Except.mapError]

/-- The spec's constructor contract for one configuration: unless the constructor throws, the
manager registry holds exactly the declared names and `__default__`, and the target registry
holds, in some order, one entry per declared target. -/
def ConstructorContract (config : String) : Prop :=
  ∀ registration uuids p, construct env config registration uuids = .ok p →
    ∃ json_config declared, readConfig config = .ok json_config ∧
      (∀ name, name ∈ p.transferManagers ↔ name = "__default__" ∨ name ∈ declaredManagers json_config) ∧
      (declaredTargets json_config).mapM (declaredEntry env) = .ok declared ∧
      (p.targets.entries.map fun entry => (entry.2.target,entry.2.transferManagerName)).Perm declared

theorem contract_fails_of_dropped {config : String} (registration : Option Int) (uuids : Nat → UUID)
    (m n : Nat) (built : (construct env config registration uuids).map (·.targets.entries.length) = .ok m)
    (declared : (readConfig config >>= fun j => (declaredTargets j).mapM (declaredEntry env)).map
      List.length = .ok n)
    (fewer : m < n) : ¬ ConstructorContract env config := by
  intro contract
  cases h : construct env config registration uuids with
  | error e => simp [h,Except.map] at built
  | ok p =>
    obtain ⟨json_config,entries,read,-,targets,perm⟩ := contract registration uuids p h
    have kept : p.targets.entries.length = m := by simpa [h,Except.map] using built
    rw [read] at declared
    change Except.map List.length ((declaredTargets json_config).mapM (declaredEntry env)) = _ at declared
    rw [targets] at declared
    have counted : entries.length = n := by simpa [Except.map] using declared
    have := perm.length_eq
    simp only [List.length_map] at this
    omega

/-- A target bound to a manager nobody declared is dropped: `addTarget`'s failed `Result` is
discarded, and the constructor returns a provider without it. -/
theorem construct_drops_unbound_target :
    ¬ ConstructorContract Env.accepting
      "\x7b\"targets\":[\x7b\"type\":\"memory\",\"config\":\x7b\"transfer_manager\":\"nope\"\x7d\x7d]\x7d" :=
  contract_fails_of_dropped Env.accepting none (fun _ => default) 0 1 (by decide) (by decide) (by decide)

/-! ### What the constructor registers -/

theorem addTarget_declared {p p' : ProviderImpl} {target_id : UUID} {target_type target_config : String}
    {r : Result UUID} (h : p.addTarget env target_id target_type target_config = .ok (r,p')) :
    p' = p ∨ ∃ json_config entry, Json.parse target_config = .ok json_config ∧
      env.targetFactory.createTarget target_type json_config = .ok entry.target ∧
      json_config.valueString "transfer_manager" "__default__" = .ok entry.transferManagerName ∧
      p' = { p with targets := p.targets.insert target_id entry } := by
  unfold addTarget at h
  split at h
  · exact .inl (caught_map_eq_ok h).2
  split at h
  · exact .inl (Prod.mk.inj (Except.ok.inj h)).2.symm
  unfold addTargetJson at h
  split at h
  · exact .inl (Prod.mk.inj (Except.ok.inj h)).2.symm
  obtain ⟨tm_name,named,h⟩ := Except.bind_eq_ok.mp h
  split at h
  · exact .inl (Prod.mk.inj (Except.ok.inj h)).2.symm
  · exact .inr ⟨_,⟨_,_,tm_name⟩,‹_›,‹_›,named,(Prod.mk.inj (Except.ok.inj h)).2.symm⟩

theorem addTransferManagers_names : ∀ {p p' : ProviderImpl} {items : List (String × Json)},
    addTransferManagers env p items = .ok p' →
    ∀ name ∈ p'.transferManagers, name ∈ p.transferManagers ∨ name ∈ items.map Prod.fst
  | p, _, [], h => by cases h; exact fun _ => .inl
  | p, p', (key,_) :: items, h => by
    obtain ⟨⟨tm_type,tm_config⟩,-,h⟩ := Except.bind_eq_ok.mp h
    obtain ⟨⟨r,p₁⟩,added,next⟩ := Except.bind_eq_ok.mp h
    intro name member
    rcases addTransferManagers_names next name member with old | declared
    · rcases addTransferManager_cases env added with ⟨-,rfl⟩ | ⟨-,tm,-,rfl⟩
      · exact .inl old
      · rcases (AList.mem_insert _).mp old with rfl | old
        · exact .inr (List.mem_cons_self _ _)
        · exact .inl old
    · exact .inr (List.mem_cons_of_mem _ declared)

theorem withDefault_cases (p : ProviderImpl) : withDefault env p = p ∨
    ∃ tm, withDefault env p = { p with transferManagers := p.transferManagers.insert "__default__" tm } := by
  unfold withDefault
  split
  · exact .inl rfl
  · rcases addTransferManagerJson_cases env p "__default__" "__default__" (.object []) with
      ⟨-,same⟩ | ⟨-,tm,-,-,added⟩
    · exact .inl same
    · exact .inr ⟨_,added⟩

theorem constructManagers_declared {json_config : Json} {p₀ : ProviderImpl}
    (h : constructManagers env json_config = .ok p₀) : p₀.targets = ∅ ∧
      ∀ name ∈ p₀.transferManagers, name = "__default__" ∨ name ∈ declaredManagers json_config := by
  obtain ⟨transfer_managers,value,h⟩ := Except.bind_eq_ok.mp h
  obtain ⟨-,-,h⟩ := Except.bind_eq_ok.mp h
  obtain ⟨p₁,added,done⟩ := Except.bind_eq_ok.mp h
  cases Except.ok.inj done
  have untargeted := (addTransferManagers_nonnull env rfl (fun _ _ found => by
    simp [empty,AList.lookup_empty] at found) added).1
  have named : ∀ name ∈ p₁.transferManagers, name ∈ declaredManagers json_config := by
    intro name member
    rcases addTransferManagers_names env added name member with outside | declared
    · simp [empty] at outside
    · cases transfer_managers <;> simp [declaredManagers,value] at declared ⊢
      exact declared
  rcases withDefault_cases env p₁ with same | ⟨tm,same⟩ <;> rw [same] <;> refine ⟨untargeted,?_⟩
  · exact fun name member => .inr (named name member)
  · exact fun name member => ((AList.mem_insert _).mp member).imp id (named name)

theorem addTargets_declared {uuids : Nat → UUID} : ∀ {p p' : ProviderImpl} {i : Nat} {targets : List Json},
    addTargets env uuids p i targets = .ok p' →
    p'.transferManagers = p.transferManagers ∧ ∀ target_id entry, p'.targets.lookup target_id = some entry →
      p.targets.lookup target_id = some entry ∨ ∃ n target, targets[n]? = some target ∧
        target_id = uuids (i + n) ∧ registeredEntry env target = .ok (entry.target,entry.transferManagerName)
  | p, _, _, [], h => by cases h; exact ⟨rfl,fun _ _ found => .inl found⟩
  | p, p', i, target :: targets, h => by
    obtain ⟨⟨target_type,target_config⟩,declared,h⟩ := Except.bind_eq_ok.mp h
    obtain ⟨⟨r,p₁⟩,added,h⟩ := Except.bind_eq_ok.mp h
    obtain ⟨managers,later⟩ := addTargets_declared h
    have first : p₁.transferManagers = p.transferManagers ∧ ∀ target_id entry,
        p₁.targets.lookup target_id = some entry → p.targets.lookup target_id = some entry ∨
          target_id = uuids i ∧ registeredEntry env target = .ok (entry.target,entry.transferManagerName) := by
      rcases addTarget_declared env added with rfl | ⟨json_config,entry₀,parsed,created,named,rfl⟩
      · exact ⟨rfl,fun _ _ found => .inl found⟩
      refine ⟨rfl,fun target_id entry found => ?_⟩
      by_cases same : target_id = uuids i
      · subst same
        rw [AList.lookup_insert] at found
        cases found
        refine .inr ⟨rfl,?_⟩
        simp only [registeredEntry,declared,parsed,created,named,Except.ok_bind,Except.mapError]
        rfl
      · rw [AList.lookup_insert_ne same] at found
        exact .inl found
    refine ⟨managers.trans first.1,fun target_id entry found => ?_⟩
    rcases later target_id entry found with old | ⟨n,t,at_n,fresh,made⟩
    · exact (first.2 target_id entry old).imp_right fun ⟨fresh,made⟩ => ⟨0,target,List.getElem?_cons_zero,fresh,made⟩
    · exact .inr ⟨n + 1,t,List.getElem?_cons_succ.trans at_n,fresh.trans (congrArg uuids (by omega)),made⟩

/-- What a provider built from `json_config` holds: the managers it declares and `__default__`,
and targets each made from one of its items under the UUID generated for that item. -/
structure DeclaredBy (json_config : Json) (uuids : Nat → UUID) (p : ProviderImpl) : Prop where
  managers : ∀ name ∈ p.transferManagers, name = "__default__" ∨ name ∈ declaredManagers json_config
  targets : ∀ target_id entry, p.targets.lookup target_id = some entry →
    ∃ n target, (declaredTargets json_config)[n]? = some target ∧ target_id = uuids n ∧
      registeredEntry env target = .ok (entry.target,entry.transferManagerName)

theorem construct_declared {config : String} {registration : Option Int} {uuids : Nat → UUID}
    {p : ProviderImpl} (h : construct env config registration uuids = .ok p) :
    ∃ json_config, readConfig config = .ok json_config ∧ DeclaredBy env json_config uuids p := by
  obtain ⟨json_config,p₀,read,-,managers,targets⟩ := construct_stages env h
  obtain ⟨untargeted,named⟩ := constructManagers_declared env managers
  have nothing : ∀ target_id, p₀.targets.lookup target_id = none := fun _ => by
    rw [untargeted,AList.lookup_empty]
  refine ⟨json_config,read,?_⟩
  unfold constructTargets at targets
  split at targets
  · obtain ⟨items,indexed,targets⟩ := Except.bind_eq_ok.mp targets
    obtain ⟨-,-,targets⟩ := Except.bind_eq_ok.mp targets
    obtain ⟨kept,added⟩ := addTargets_declared env targets
    refine ⟨kept ▸ named,fun target_id entry found => ?_⟩
    rcases added target_id entry found with old | ⟨n,target,at_n,fresh,made⟩
    · rw [nothing] at old; cases old
    · exact ⟨n,target,by rwa [declaredTargets,indexed],by rwa [Nat.zero_add] at fresh,made⟩
  · cases targets
    exact ⟨named,fun _ _ found => by rw [nothing] at found; cases found⟩

theorem construct_declared_memory :
    ∃ p, construct Env.accepting "\x7b\"targets\":[\x7b\"type\":\"memory\"\x7d]\x7d" none (fun _ => default) = .ok p ∧
      ∃ json_config, readConfig "\x7b\"targets\":[\x7b\"type\":\"memory\"\x7d]\x7d" = .ok json_config ∧
        DeclaredBy Env.accepting json_config (fun _ => default) p :=
  have built : construct Env.accepting "\x7b\"targets\":[\x7b\"type\":\"memory\"\x7d]\x7d" none (fun _ => default) = .ok _ := rfl
  ⟨_,built,construct_declared Env.accepting built⟩

end ProviderImpl

end Warabi
