import Warabi.Migration.Callbacks
import Warabi.Migration.Driver
import Warabi.Provider.Construct

/-! The provider as a state machine. A step serves one request, its handler body taken as one
atomic step, or runs one callback of an incoming migration; callbacks of different file sets
interleave with each other and with requests. The state holds the registries and the file sets
whose before-callback accepted them and whose after-callback has not run. A callback an
exception leaves ends the run. -/
namespace Warabi

/-- The RPCs `ProviderImpl` defines, with their arguments. The UUID of `addTarget` is the one
`UUID::generate` returns. -/
inductive Request where
  | addTarget (target_id : UUID) (type config : String)
  | removeTarget (target_id : UUID)
  | destroyTarget (target_id : UUID)
  | addTransferManager (name type config : String)
  | migrateTarget (target_id : UUID) (dest_address : String) (dest_provider_id : UInt16)
      (options : MigrationOptions)
  | checkTarget (target_id : UUID)
  | create (target_id : UUID) (size : UInt64)
  | write (target_id : UUID) (region_id : RegionID) (spans : List Span) (data : Bulk)
      (address : String) (bulkOffset : UInt64) (persist : Bool)
  | writeEager (target_id : UUID) (region_id : RegionID) (spans : List Span) (buffer : BufferWrapper)
      (persist : Bool)
  | persist (target_id : UUID) (region_id : RegionID) (spans : List Span)
  | createWrite (target_id : UUID) (data : Bulk) (address : String) (bulkOffset size : UInt64)
      (persist : Bool)
  | createWriteEager (target_id : UUID) (buffer : BufferWrapper) (persist : Bool)
  | read (target_id : UUID) (region_id : RegionID) (spans : List Span) (data : Bulk)
      (address : String) (bulkOffset : UInt64)
  | readEager (target_id : UUID) (region_id : RegionID) (spans : List Span)
  | erase (target_id : UUID) (region_id : RegionID)

/-- What serving a request leaves: how its handler body ended, the response `AutoResponse`
sends (its success flag, then the value or the error), and the registries. -/
structure Served where
  outcome : Except Fault Unit
  success : Bool
  answer : Except String Payload
  provider : ProviderImpl

def Handler.serve {α : Type} [Inhabited α] [ToPayload α] (h : Handler α Unit) (p : ProviderImpl) : Served :=
  ⟨(h.run (.start p)).1,(h.run (.start p)).2.result.success,(h.run (.start p)).2.result.valueOrError,
    (h.run (.start p)).2.provider⟩

namespace Request

variable (env : Env) (origin : Endpoint)

def serve (p : ProviderImpl) : Request → Served
  | addTarget target_id type config => Handler.serve (Handler.addTargetRPC env target_id type config) p
  | removeTarget target_id => Handler.serve (Handler.removeTargetRPC target_id) p
  | destroyTarget target_id => Handler.serve (Handler.destroyTargetRPC env target_id) p
  | addTransferManager name type config => Handler.serve (Handler.addTransferManagerRPC env name type config) p
  | migrateTarget target_id dest_address dest_provider_id options =>
    Handler.serve (Handler.migrateTargetRPC env target_id dest_address dest_provider_id options) p
  | checkTarget target_id => Handler.serve (Handler.checkTargetRPC target_id) p
  | create target_id size => Handler.serve (Handler.createRPC env target_id size) p
  | write target_id region_id spans data address bulkOffset persistFlag =>
    Handler.serve (Handler.writeRPC env origin target_id region_id spans data address bulkOffset persistFlag) p
  | writeEager target_id region_id spans buffer persistFlag =>
    Handler.serve (Handler.writeEagerRPC env target_id region_id spans buffer persistFlag) p
  | persist target_id region_id spans => Handler.serve (Handler.persistRPC env target_id region_id spans) p
  | createWrite target_id data address bulkOffset size persistFlag =>
    Handler.serve (Handler.createWriteRPC env origin target_id data address bulkOffset size persistFlag) p
  | createWriteEager target_id buffer persistFlag =>
    Handler.serve (Handler.createWriteEagerRPC env target_id buffer persistFlag) p
  | read target_id region_id spans data address bulkOffset =>
    Handler.serve (Handler.readRPC env origin target_id region_id spans data address bulkOffset) p
  | readEager target_id region_id spans => Handler.serve (Handler.readEagerRPC env target_id region_id spans) p
  | erase target_id region_id => Handler.serve (Handler.eraseRPC env target_id region_id) p

/-- Everything a request can do to the registries: nothing, erase one target (`remove_target`,
`destroy_target`), insert one target bound to a registered manager (`add_target`), or register
one fresh manager (`add_transfer_manager`). -/
theorem serve_cases (p : ProviderImpl) (req : Request) :
    (req.serve env origin p).provider = p ∨
    (∃ target_id, (req = .removeTarget target_id ∨ req = .destroyTarget target_id) ∧
      (req.serve env origin p).provider = { p with targets := p.targets.erase target_id }) ∨
    (∃ target_id type config entry, req = .addTarget target_id type config ∧
      p.transferManagers.lookup entry.transferManagerName = some entry.transferManager ∧
      (req.serve env origin p).provider = { p with targets := p.targets.insert target_id entry }) ∨
    (∃ name tm, name ∉ p.transferManagers ∧
      (req.serve env origin p).provider =
        { p with transferManagers := p.transferManagers.insert name (some tm) }) := by
  cases req
  case addTarget target_id type config =>
    obtain ⟨log,ran⟩ := Handler.addTargetRPC_run env p target_id type config
    simp only [serve,Handler.serve,ran]
    rcases added : p.addTarget env target_id type config with e | ⟨result,p'⟩
    · exact .inl rfl
    rcases ProviderImpl.addTarget_cases env added with ⟨-,rfl⟩ | ⟨-,entry,registered,rfl⟩
    · exact .inl rfl
    · exact .inr (.inr (.inl ⟨target_id,type,config,entry,rfl,registered,rfl⟩))
  case removeTarget target_id =>
    simp only [serve,Handler.serve,Handler.removeTargetRPC_run]
    split
    · exact .inr (.inl ⟨target_id,.inl rfl,rfl⟩)
    · exact .inl rfl
  case destroyTarget target_id =>
    simp only [serve,Handler.serve,Handler.destroyTargetRPC_run]
    split
    · exact .inl rfl
    · split
      · exact .inr (.inl ⟨target_id,.inr rfl,rfl⟩)
      · exact .inl rfl
  case addTransferManager name type config =>
    obtain ⟨log,ran⟩ := Handler.addTransferManagerRPC_run env p name type config
    simp only [serve,Handler.serve,ran]
    rcases added : p.addTransferManager env name type config with e | ⟨result,p'⟩
    · exact .inl rfl
    rcases ProviderImpl.addTransferManager_cases env added with ⟨-,rfl⟩ | ⟨-,tm,fresh,rfl⟩
    · exact .inl rfl
    · exact .inr (.inr (.inr ⟨name,tm,fresh,rfl⟩))
  case migrateTarget => exact .inl (Handler.keepsProvider_migrateTargetRPC env _ _ _ _ _)
  case checkTarget target_id => exact .inl (Handler.keepsProvider_bind (Handler.keepsProvider_findTarget _)
      (fun _ => Handler.keepsProvider_pure _) _)
  all_goals
    left
    simp only [serve,Handler.serve]
    refine (?_ : Handler.KeepsProvider _) (.start p)
    simp only [Handler.createRPC,Handler.writeRPC,Handler.writeEagerRPC,Handler.persistRPC,
      Handler.createWriteRPC,Handler.createWriteEagerRPC,Handler.readRPC,Handler.readEagerRPC,
      Handler.eraseRPC]
    repeat' with_reducible first
      | exact Handler.keepsProvider_call _ _ | exact Handler.keepsProvider_fail _
      | exact Handler.keepsProvider_setResult _ | exact Handler.keepsProvider_findTarget _
      | exact Handler.keepsProvider_deref _ _ | exact Handler.keepsProvider_source env _ _
      | exact Handler.keepsProvider_modify fun _ => rfl
      | refine Handler.keepsProvider_bind ?_ fun _ => ?_
      | split
      | dsimp only
      | exact Handler.keepsProvider_pure _

end Request

/-- The registries and the file sets accepted by the before-callback, awaiting their
after-callback. -/
structure System where
  provider : ProviderImpl
  accepted : List IncomingFileset

/-- What the provider does in one step: serve a request, run one callback of an incoming
migration, or run `second` while `first` is still in progress. -/
inductive Event where
  | request (origin : Endpoint) (req : Request)
  | before (fileset : IncomingFileset)
  | after (index : Nat)
  | overlap (first second : Event)

inductive Registry where
  | targets
  | transferManagers
deriving DecidableEq

/-- An access a path of an event's code may make to a registry: whether it may modify the map
(`operator[]` and `erase` are not const on an `unordered_map`) and whether it holds the
registry's mutex. -/
structure Access where
  registry : Registry
  writes : Bool
  locked : Bool
deriving DecidableEq

def Access.races (a b : Access) : Bool :=
  decide (a.registry = b.registry) && (a.writes || b.writes) && !(a.locked && b.locked)

theorem Access.races_of_locked {a b : Access} (ha : a.locked = true) (hb : b.locked = true) :
    a.races b = false := by
  simp [races,ha,hb]

/-- The registry accesses of a request's handler, each inside one critical section: `FIND_TARGET`
reads `m_targets` under `m_targets_mtx`, and the admin handlers modify the registries under the
mutexes they take (367, 438, 460, 486). -/
def Request.accesses : Request → List Access
  | .addTarget .. => [⟨.targets,true,true⟩,⟨.transferManagers,true,true⟩]
  | .removeTarget _ | .destroyTarget _ => [⟨.targets,true,true⟩]
  | .addTransferManager .. => [⟨.transferManagers,true,true⟩]
  | _ => [⟨.targets,false,true⟩]

theorem Request.accesses_locked (req : Request) : ∀ a ∈ req.accesses, a.locked = true := by
  cases req <;> simp [accesses]

/-- The registry accesses of an event. `beforeMigrationCallback` looks the target up in
`m_targets` holding no mutex (880); `afterMigrationCallback` assigns `m_targets[target_id]` (957)
and reads `m_transfer_managers["__default__"]` through `operator[]` (926), both without a mutex. -/
def Event.accesses : Event → List Access
  | .request _ req => req.accesses
  | .before _ => [⟨.transferManagers,false,true⟩,⟨.targets,false,false⟩]
  | .after _ => [⟨.transferManagers,false,true⟩,⟨.transferManagers,true,false⟩,⟨.targets,true,false⟩]
  | .overlap first second => first.accesses ++ second.accesses

def Event.races (first second : Event) : Bool :=
  first.accesses.any fun a => second.accesses.any a.races

namespace System

variable (env : Env)

open ProviderImpl in
/-- One step. The after-callback runs only on a file set its before-callback accepted; a
callback an exception or an undefined operation leaves has no successor. Two events in progress at
once whose accesses race have none either, a data race being undefined behaviour; otherwise their
mutexes serialize them, and they step as one after the other. -/
def step (s : System) : Event → Option System
  | .request origin req => some { s with provider := (req.serve env origin s.provider).provider }
  | .before fileset =>
    match beforeMigrationCallback env fileset s.provider with
    | .ok 0 => some { s with accepted := s.accepted ++ [fileset] }
    | .ok _ => some s
    | .error _ => none
  | .after index =>
    match s.accepted[index]? with
    | none => none
    | some fileset =>
      match afterMigrationCallback env fileset s.provider with
      | .ok (_,provider) => some ⟨provider,s.accepted.eraseIdx index⟩
      | .error _ => none
  | .overlap first second => if first.races second then none else (step s first).bind (step · second)

open ProviderImpl in
theorem step_before {s s' : System} {fileset : IncomingFileset} (h : step env s (.before fileset) = some s') :
    s' = s ∨ beforeMigrationCallback env fileset s.provider = .ok 0 ∧
      s' = { s with accepted := s.accepted ++ [fileset] } := by
  simp only [step] at h
  split at h <;> cases h
  · exact .inr ⟨‹_›,rfl⟩
  · exact .inl rfl

open ProviderImpl in
theorem step_after {s s' : System} {index : Nat} (h : step env s (.after index) = some s') :
    ∃ fileset code p', s.accepted[index]? = some fileset ∧
      afterMigrationCallback env fileset s.provider = .ok (code,p') ∧ s' = ⟨p',s.accepted.eraseIdx index⟩ := by
  simp only [step] at h
  split at h
  · cases h
  · split at h <;> cases h
    exact ⟨_,_,_,‹_›,‹_›,rfl⟩

theorem step_overlap {s s' : System} {first second : Event}
    (h : step env s (.overlap first second) = some s') :
    ∃ s₁, step env s first = some s₁ ∧ step env s₁ second = some s' := by
  simp only [step] at h
  split at h
  · cases h
  · exact Option.bind_eq_some.mp h

theorem step_overlap_requests (s : System) (o₁ o₂ : Endpoint) (r₁ r₂ : Request) :
    step env s (.overlap (.request o₁ r₁) (.request o₂ r₂)) =
      (step env s (.request o₁ r₁)).bind (step env · (.request o₂ r₂)) := by
  have serial : (Event.request o₁ r₁).races (.request o₂ r₂) = false := by
    simp only [Event.races,Event.accesses,List.any_eq_false,Bool.not_eq_true]
    exact fun a ha b hb => Access.races_of_locked (r₁.accesses_locked a ha) (r₂.accesses_locked b hb)
  simp only [step,serial]
  rfl

/-- The migration callbacks take no `m_targets_mtx`: an after-callback in progress at once with
any event that touches `m_targets` is undefined, in either order. -/
theorem step_overlap_after (s : System) (index : Nat) (e : Event)
    (touches : ∃ a ∈ e.accesses, a.registry = .targets) :
    step env s (.overlap (.after index) e) = none ∧ step env s (.overlap e (.after index)) = none := by
  obtain ⟨a,ha,hr⟩ := touches
  have unlocked : a.races ⟨.targets,true,false⟩ ∧ Access.races ⟨.targets,true,false⟩ a := by
    simp [Access.races,hr]
  constructor <;> simp only [step,Event.races,Event.accesses,List.any_eq_true] <;> rw [if_pos]
  · exact ⟨_,by simp,a,ha,unlocked.2⟩
  · exact ⟨a,ha,_,by simp,unlocked.1⟩

inductive Reachable : System → Prop
  | construct {config : String} {registration : Option Int} {uuids : Nat → UUID} {p : ProviderImpl} :
    ProviderImpl.construct env config registration uuids = .ok p → Reachable ⟨p,[]⟩
  | step {s s' : System} {e : Event} : Reachable s → step env s e = some s' → Reachable s'

def replay : System → List Event → Option System
  | s, [] => some s
  | s, e :: events => (step env s e).bind (replay · events)

theorem Reachable.replay {s s' : System} {events : List Event} (reachable : Reachable env s)
    (h : replay env s events = some s') : Reachable env s' := by
  induction events generalizing s with
  | nil => cases h; exact reachable
  | cons e events ih =>
    obtain ⟨s₁,stepped,h⟩ := Option.bind_eq_some.mp h
    exact ih (reachable.step stepped) h

open ProviderImpl in
def Admissible (p : ProviderImpl) (fileset : IncomingFileset) : Prop :=
  ∃ target_id type config_json request, prologue fileset = .ok (.merged target_id type config_json) ∧
    requestedManager config_json = .ok request ∧ ∀ name ∈ request, name ∈ p.transferManagers

theorem Admissible.grow {p p' : ProviderImpl} {fileset : IncomingFileset} (admissible : Admissible p fileset)
    (grown : ∀ name ∈ p.transferManagers, name ∈ p'.transferManagers) : Admissible p' fileset :=
  let ⟨target_id,type,config_json,request,merged,requested,registered⟩ := admissible
  ⟨target_id,type,config_json,request,merged,requested,fun name named => grown name (registered name named)⟩

structure Consistent (s : System) : Prop where
  bound : Bound s.provider
  admissible : ∀ fileset ∈ s.accepted, Admissible s.provider fileset

theorem consistent_construct
    (created : ∃ tm, env.transferManagerFactory.createTransferManager "__default__" (.object []) = .ok tm)
    {config : String} {registration : Option Int} {uuids : Nat → UUID} {p : ProviderImpl}
    (h : ProviderImpl.construct env config registration uuids = .ok p) : Consistent ⟨p,[]⟩ :=
  ⟨ProviderImpl.construct_bound env created h,fun _ none => absurd none (List.not_mem_nil _)⟩

theorem consistent_request {s : System} (origin : Endpoint) (req : Request) (hs : Consistent s) :
    Consistent { s with provider := (req.serve env origin s.provider).provider } := by
  rcases Request.serve_cases env origin s.provider req with same | ⟨target_id,-,erased⟩ |
    ⟨target_id,-,-,entry,-,registered,inserted⟩ | ⟨name,tm,fresh,added⟩
  · simpa [same] using hs
  · rw [erased]
    exact ⟨hs.bound.erase_target target_id,hs.admissible⟩
  · rw [inserted]
    exact ⟨hs.bound.insert_target registered,hs.admissible⟩
  · rw [added]
    exact ⟨hs.bound.insert_manager fresh tm,fun fileset accepted => (hs.admissible fileset accepted).grow
      fun n named => AList.mem_insert _ |>.mpr (.inr named)⟩

theorem consistent_before {s : System} (fileset : IncomingFileset) (hs : Consistent s)
    (accepted : ProviderImpl.beforeMigrationCallback env fileset s.provider = .ok 0) :
    Consistent { s with accepted := s.accepted ++ [fileset] } := by
  obtain ⟨target_id,type,config_json,request,merged,requested,registered,-⟩ :=
    ProviderImpl.beforeMigrationCallback_accepts env accepted
  refine ⟨hs.bound,fun f pending => ?_⟩
  rcases List.mem_append.mp pending with old | new
  · exact hs.admissible f old
  · obtain rfl := List.mem_singleton.mp new
    exact ⟨target_id,type,config_json,request,merged,requested,registered⟩

theorem consistent_after {s : System} {fileset : IncomingFileset} {index : Nat} {code : Int}
    {p' : ProviderImpl} (hs : Consistent s)
    (h : ProviderImpl.afterMigrationCallback env fileset s.provider = .ok (code,p')) :
    Consistent ⟨p',s.accepted.eraseIdx index⟩ := by
  have managers := ProviderImpl.afterMigrationCallback_managers env hs.bound.default_registered h
  refine ⟨ProviderImpl.afterMigrationCallback_bound env hs.bound h,fun f pending => ?_⟩
  exact (hs.admissible f (List.mem_of_mem_eraseIdx pending)).grow fun name named => managers ▸ named

theorem consistent_step {s s' : System} {e : Event} (hs : Consistent s) (h : step env s e = some s') :
    Consistent s' := by
  induction e generalizing s s' with
  | overlap first second ih₁ ih₂ =>
    obtain ⟨s₁,h₁,h₂⟩ := step_overlap env h
    exact ih₂ (ih₁ hs h₁) h₂
  | request origin req =>
    cases h
    exact consistent_request env origin req hs
  | before fileset =>
    rcases step_before env h with rfl | ⟨accepted,rfl⟩
    · exact hs
    · exact consistent_before env fileset hs accepted
  | after index =>
    obtain ⟨_,_,_,-,called,rfl⟩ := step_after env h
    exact consistent_after env hs called

theorem Reachable.consistent
    (created : ∃ tm, env.transferManagerFactory.createTransferManager "__default__" (.object []) = .ok tm)
    {s : System} (reachable : Reachable env s) : Consistent s := by
  induction reachable with
  | construct h => exact consistent_construct env created h
  | step _ stepped ih => exact consistent_step env ih stepped

/-- Transfer-manager binding: assuming the default manager can be created, in every reachable
state `__default__` is registered, every target's manager is the non-null one registered under
the name it records, and the after-callback of every accepted file set answers a code (its
unchecked `find` never reaches `end()`). -/
theorem binding_invariant
    (created : ∃ tm, env.transferManagerFactory.createTransferManager "__default__" (.object []) = .ok tm)
    {s : System} (reachable : Reachable env s) :
    "__default__" ∈ s.provider.transferManagers ∧
    (∀ target_id entry, s.provider.targets.lookup target_id = some entry → ∃ tm,
      entry.transferManager = some tm ∧ s.provider.transferManagers.lookup entry.transferManagerName = some (some tm)) ∧
    ∀ fileset ∈ s.accepted, ∃ code p', ProviderImpl.afterMigrationCallback env fileset s.provider = .ok (code,p') := by
  have hs := reachable.consistent env created
  refine ⟨hs.bound.default_registered,fun target_id entry found => ?_,fun fileset pending => ?_⟩
  · have registered := hs.bound.bound target_id entry found
    obtain ⟨tm,named⟩ := Option.isSome_iff_exists.mp (hs.bound.nonnull _ _ registered)
    exact ⟨tm,named,named ▸ registered⟩
  · obtain ⟨_,_,_,_,merged,requested,registered⟩ := hs.admissible fileset pending
    exact ProviderImpl.afterMigrationCallback_answers env merged requested registered

theorem reachable_singleTarget : Reachable Env.accepting ⟨ProviderImpl.singleTarget default,[]⟩ :=
  .construct (show ProviderImpl.construct Env.accepting "\x7b\"targets\":[\x7b\"type\":\"memory\"\x7d]\x7d" none
    (fun _ => default) = _ from rfl)

theorem binding_invariant_single_target :
    (∃ tm, Env.accepting.transferManagerFactory.createTransferManager "__default__" (.object []) = .ok tm) ∧
    Reachable Env.accepting ⟨ProviderImpl.singleTarget default,[]⟩ ∧
    "__default__" ∈ (ProviderImpl.singleTarget default).transferManagers ∧
    (∀ target_id entry, (ProviderImpl.singleTarget default).targets.lookup target_id = some entry → ∃ tm,
      entry.transferManager = some tm ∧
        (ProviderImpl.singleTarget default).transferManagers.lookup entry.transferManagerName = some (some tm)) ∧
    ∀ fileset ∈ ([] : List IncomingFileset), ∃ code p',
      ProviderImpl.afterMigrationCallback Env.accepting fileset (ProviderImpl.singleTarget default) = .ok (code,p') :=
  ⟨⟨_,rfl⟩,reachable_singleTarget,binding_invariant Env.accepting ⟨_,rfl⟩ reachable_singleTarget⟩

/-- The reading of "no registered target is ever silently replaced": what a UUID resolves to
before a step it still resolves to after it, unless the step is a `remove_target` or a
`destroy_target` of that UUID. `add_target` draws a UUID no target holds. -/
def EntriesStay : Prop :=
  ∀ s e s', Reachable env s → step env s e = some s' →
    (∀ origin target_id type config, e = .request origin (.addTarget target_id type config) →
      target_id ∉ s.provider.targets) →
    ∀ target_id entry, s.provider.targets.lookup target_id = some entry →
      s'.provider.targets.lookup target_id = some entry ∨
        ∃ origin, e = .request origin (.removeTarget target_id) ∨ e = .request origin (.destroyTarget target_id)

/-- Two file sets carrying one UUID both pass their before-callbacks while the UUID is free; the
second after-callback then overwrites the entry the first installed. -/
theorem after_callback_replaces_entry : ¬ EntriesStay Env.accepting := by
  intro stays
  obtain ⟨s,replayed,s',stepped,installed,replaced⟩ : ∃ s,
      replay Env.accepting ⟨⟨∅,AList.insert "__default__" (some ⟨0,"__default__","\x7b\x7d"⟩) ∅⟩,[]⟩
        [.before ⟨fun key => (0,if key = "uuid" then (default : UUID).to_string else if key = "type" then "memory"
            else if key = "config" then "\x7b\x7d" else "\x7b\x7d"),(0,[]),(0,"/")⟩,
          .before ⟨fun key => (0,if key = "uuid" then (default : UUID).to_string else if key = "type" then "memory"
            else if key = "config" then "\x7b\"a\":true\x7d" else "\x7b\x7d"),(0,[]),(0,"/")⟩,
          .after 0] = some s ∧ ∃ s', step Env.accepting s (.after 0) = some s' ∧
      s.provider.targets.lookup default = some ⟨⟨0,"memory","\x7b\x7d"⟩,some ⟨0,"__default__","\x7b\x7d"⟩,"__default__"⟩ ∧
      s'.provider.targets.lookup default = some ⟨⟨0,"memory","\x7b\"a\":true\x7d"⟩,some ⟨0,"__default__","\x7b\x7d"⟩,"__default__"⟩ :=
    ⟨_,rfl,_,rfl,by decide,by decide⟩
  have reachable : Reachable Env.accepting
      ⟨⟨∅,AList.insert "__default__" (some ⟨0,"__default__","\x7b\x7d"⟩) ∅⟩,[]⟩ :=
    .construct (show ProviderImpl.construct Env.accepting "" none (fun _ => default) = _ from rfl)
  rcases stays s (.after 0) s' (reachable.replay _ replayed) stepped (fun _ _ _ _ h => nomatch h)
      default _ installed with kept | ⟨_,h | h⟩
  · exact absurd (kept.symm.trans replaced) (by decide)
  all_goals nomatch h

end System

namespace Request

variable (env : Env)

theorem addTarget_failure_keeps (origin : Endpoint) (p : ProviderImpl) (target_id : UUID) (type config : String) :
    ((addTarget target_id type config).serve env origin p).success = false →
    ((addTarget target_id type config).serve env origin p).provider = p := by
  obtain ⟨log,ran⟩ := Handler.addTargetRPC_run env p target_id type config
  simp only [serve,Handler.serve,ran]
  rcases added : p.addTarget env target_id type config with e | ⟨result,p'⟩
  · exact fun _ => rfl
  rcases ProviderImpl.addTarget_cases env added with ⟨-,rfl⟩ | ⟨succeeded,-⟩
  · exact fun _ => rfl
  · simp [Frame.ofMember,succeeded]

theorem removeTarget_failure_keeps (origin : Endpoint) (p : ProviderImpl) (target_id : UUID) :
    ((removeTarget target_id).serve env origin p).success = false →
    ((removeTarget target_id).serve env origin p).provider = p := by
  simp only [serve,Handler.serve,Handler.removeTargetRPC_run]
  split
  · simp [Frame.start,default]
  · exact fun _ => rfl

theorem addTransferManager_failure_keeps (origin : Endpoint) (p : ProviderImpl) (name type config : String) :
    ((addTransferManager name type config).serve env origin p).success = false →
    ((addTransferManager name type config).serve env origin p).provider = p := by
  obtain ⟨log,ran⟩ := Handler.addTransferManagerRPC_run env p name type config
  simp only [serve,Handler.serve,ran]
  rcases added : p.addTransferManager env name type config with e | ⟨result,p'⟩
  · exact fun _ => rfl
  rcases ProviderImpl.addTransferManager_cases env added with ⟨-,rfl⟩ | ⟨succeeded,-⟩
  · exact fun _ => rfl
  · simp [Frame.ofMember,succeeded]

theorem destroyTarget_failure_keeps (origin : Endpoint) (p : ProviderImpl) (target_id : UUID) :
    ((destroyTarget target_id).serve env origin p).success = false →
    ((destroyTarget target_id).serve env origin p).provider = p ∨
      ∃ entry result, p.targets.lookup target_id = some entry ∧ env.destroy entry.target = .ok result ∧
        result.success = false ∧
        ((destroyTarget target_id).serve env origin p).provider = { p with targets := p.targets.erase target_id } := by
  simp only [serve,Handler.serve,Handler.destroyTargetRPC_run]
  split
  · exact fun _ => .inl rfl
  · split
    · exact fun failed => .inr ⟨_,_,‹_›,‹_›,failed,rfl⟩
    · simp [default]

/-- Admin failures leave both registries as they were, with two exceptions: `destroy_target`
erases a registered target also when the backend's `destroy()` reports failure, and the
after-callback may register a null `__default__` in a state without one. The before-callback
returns a code and no registries. -/
theorem admin_failures_atomic (origin : Endpoint) (p : ProviderImpl) :
    (∀ target_id type config, ((addTarget target_id type config).serve env origin p).success = false →
      ((addTarget target_id type config).serve env origin p).provider = p) ∧
    (∀ target_id, ((removeTarget target_id).serve env origin p).success = false →
      ((removeTarget target_id).serve env origin p).provider = p) ∧
    (∀ name type config, ((addTransferManager name type config).serve env origin p).success = false →
      ((addTransferManager name type config).serve env origin p).provider = p) ∧
    (∀ target_id, ((destroyTarget target_id).serve env origin p).success = false →
      ((destroyTarget target_id).serve env origin p).provider = p ∨
      ∃ entry result, p.targets.lookup target_id = some entry ∧ env.destroy entry.target = .ok result ∧
        result.success = false ∧
        ((destroyTarget target_id).serve env origin p).provider = { p with targets := p.targets.erase target_id }) ∧
    (∀ fileset code p', "__default__" ∈ p.transferManagers →
      ProviderImpl.afterMigrationCallback env fileset p = .ok (code,p') → code ≠ 0 → p' = p) :=
  ⟨addTarget_failure_keeps env origin p,removeTarget_failure_keeps env origin p,
    addTransferManager_failure_keeps env origin p,destroyTarget_failure_keeps env origin p,
    fun _ _ _ registered h rejected => ProviderImpl.afterMigrationCallback_rejection_keeps env registered h rejected⟩

theorem destroy_failure_erases :
    ((destroyTarget default).serve { Env.accepting with destroy := fun _ => .ok (Result.fail default "") }
        ⟨""⟩ (ProviderImpl.singleTarget default)).success = false ∧
    default ∈ (ProviderImpl.singleTarget default).targets ∧
    default ∉ ((destroyTarget default).serve { Env.accepting with destroy := fun _ => .ok (Result.fail default "") }
        ⟨""⟩ (ProviderImpl.singleTarget default)).provider.targets := by
  decide

end Request

end Warabi
