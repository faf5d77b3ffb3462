import Warabi.Collaborators
import Mathlib.Data.List.AList

/-! The registries of a `ProviderImpl` and the frame its RPC handlers run in. A handler body
runs with its `Result` slot, the registry locks it holds, the calls it has made to the objects
the provider holds and those it has made to the factories; it ends normally (also by an early
`return`) or with a fault escaping it. `AutoResponse` then sends whatever the slot holds, on
every way out. -/
namespace Warabi

instance : Inhabited UUID := ⟨⟨0#128⟩⟩

/-- `TargetEntry`: a backend, the transfer manager it is bound to (`none` is a null pointer)
and that manager's registered name. -/
structure TargetEntry where
  target : Backend
  transferManager : Option TransferManager
  transferManagerName : String
deriving DecidableEq, Repr

structure ProviderImpl where
  targets : AList (fun _ : UUID => TargetEntry)
  transferManagers : AList (fun _ : String => Option TransferManager)

/-- What can leave a handler body: an exception, or an operation whose behaviour the language
leaves undefined (a call through a null pointer, a dereferenced `end()`). -/
inductive Fault where
  | exception (e : Exception)
  | undefined (what : String)
deriving DecidableEq, Repr

def NonNull (managers : AList (fun _ : String => Option TransferManager)) : Prop :=
  ∀ name tm, managers.lookup name = some tm → tm.isSome

theorem NonNull.insert {managers : AList (fun _ : String => Option TransferManager)}
    (nonnull : NonNull managers) (name : String) (tm : TransferManager) :
    NonNull (managers.insert name (some tm)) := by
  intro n t found
  by_cases same : n = name
  · subst same
    simp only [AList.lookup_insert,Option.some.injEq] at found
    simp [← found]
  · exact nonnull n t (by simpa [AList.lookup_insert_ne same] using found)

/-- The binding invariant of the registries: `__default__` is registered, no registered manager
is null, and every target is bound to the manager registered under the name it records. -/
structure Bound (p : ProviderImpl) : Prop where
  default_registered : "__default__" ∈ p.transferManagers
  nonnull : NonNull p.transferManagers
  bound : ∀ target_id entry, p.targets.lookup target_id = some entry →
    p.transferManagers.lookup entry.transferManagerName = some entry.transferManager

namespace Bound

variable {p : ProviderImpl}

theorem insert_target (hp : Bound p) {target_id : UUID} {entry : TargetEntry}
    (registered : p.transferManagers.lookup entry.transferManagerName = some entry.transferManager) :
    Bound { p with targets := p.targets.insert target_id entry } := by
  refine { hp with bound := fun id e found => ?_ }
  by_cases same : id = target_id
  · subst same
    simp only [AList.lookup_insert,Option.some.injEq] at found
    exact found ▸ registered
  · exact hp.bound id e (by simpa [AList.lookup_insert_ne same] using found)

theorem erase_target (hp : Bound p) (target_id : UUID) :
    Bound { p with targets := p.targets.erase target_id } := by
  refine { hp with bound := fun id e found => hp.bound id e ?_ }
  by_cases same : id = target_id
  · subst same
    simp [AList.lookup_erase] at found
  · simpa [AList.lookup_erase_ne same] using found

theorem insert_manager (hp : Bound p) {name : String} (fresh : name ∉ p.transferManagers)
    (tm : TransferManager) :
    Bound { p with transferManagers := p.transferManagers.insert name (some tm) } where
  default_registered := AList.mem_insert _ |>.mpr (.inr hp.default_registered)
  nonnull := hp.nonnull.insert name tm
  bound id e found := by
    have registered := hp.bound id e found
    have other : e.transferManagerName ≠ name := fun same =>
      fresh (same ▸ AList.lookup_isSome.mp (by simp [registered]))
    simpa [AList.lookup_insert_ne other] using registered

theorem of_untargeted (untargeted : p.targets = ∅) (registered : "__default__" ∈ p.transferManagers)
    (nonnull : NonNull p.transferManagers) : Bound p :=
  ⟨registered,nonnull,fun target_id entry found => by simp [untargeted,AList.lookup_empty] at found⟩

end Bound

/-- A provider holding one `memory` target under `target_id`, bound to the default manager, with
the configurations `Env.accepting`'s factories report for an empty one. -/
def ProviderImpl.singleTarget (target_id : UUID) : ProviderImpl :=
  ⟨AList.insert target_id ⟨⟨0,"memory","{}"⟩,some ⟨0,"__default__","{}"⟩,"__default__"⟩ ∅,
    AList.insert "__default__" (some ⟨0,"__default__","{}"⟩) ∅⟩

structure Frame (α : Type) where
  provider : ProviderImpl
  result : Result α
  held : List Mutex := []
  calls : List (Call × List Mutex) := []
  factoryCalls : List (FactoryCall × List Mutex) := []

/-- The frame a handler starts in: a default-constructed `Result`, no lock held, no call made. -/
def Frame.start {α : Type} [Inhabited α] (p : ProviderImpl) : Frame α := { provider := p,result := default }

abbrev Handler (α β : Type) := ExceptT Fault (StateM (Frame α)) β

namespace Handler

variable {α β : Type}

def run (h : Handler α β) (f : Frame α) : Except Fault β × Frame α := StateT.run (ExceptT.run h) f

/-- A call to a collaborator, recorded with the locks held, answering or throwing. -/
def call (c : Call) (answer : Except Exception β) : Handler α β := do
  modify fun f => { f with calls := f.calls ++ [(c,f.held)] }
  match answer with
  | .ok b => pure b
  | .error e => throw (.exception e)

/-- A call to a factory, recorded with the locks held; factories answer with a `Result`. -/
def factory (c : FactoryCall) (answer : β) : Handler α β := do
  modify fun f => { f with factoryCalls := f.factoryCalls ++ [(c,f.held)] }
  pure answer

def raise : Except Exception β → Handler α β
  | .ok b => pure b
  | .error e => throw (.exception e)

/-- A `lock_guard` scope: the lock is released on every way out of `body`. -/
def withLock (m : Mutex) (body : Handler α β) : Handler α β :=
  ExceptT.mk do
    modify fun f => { f with held := m :: f.held }
    let r ← ExceptT.run body
    modify fun f => { f with held := f.held.tail }
    pure r

/-- A destructor that runs on every way out of `body` (`DEFER`, a scoped object). -/
def withCleanup (cleanup : Handler α Unit) (body : Handler α β) : Handler α β :=
  ExceptT.mk do
    let r ← ExceptT.run body
    let c ← ExceptT.run cleanup
    pure (c *> r)

@[simp] theorem run_pure (b : β) (f : Frame α) : (pure b : Handler α β).run f = (.ok b,f) := rfl

@[simp] theorem run_bind {γ : Type} (x : Handler α β) (g : β → Handler α γ) (f : Frame α) :
    (x >>= g).run f = match x.run f with
      | (.ok b,f') => (g b).run f'
      | (.error e,f') => (.error e,f') := by
  simp only [run,ExceptT.run_bind,StateT.run_bind]
  rcases (ExceptT.run x).run f with ⟨_ | _,_⟩ <;> rfl

@[simp] theorem run_map {γ : Type} (g : β → γ) (x : Handler α β) (f : Frame α) :
    (g <$> x).run f = match x.run f with
      | (.ok b,f') => (.ok (g b),f')
      | (.error e,f') => (.error e,f') := by
  rw [map_eq_pure_bind,run_bind]
  rfl

@[simp] theorem run_get (f : Frame α) : (get : Handler α (Frame α)).run f = (.ok f,f) := rfl

@[simp] theorem run_modify (g : Frame α → Frame α) (f : Frame α) :
    (modify g : Handler α Unit).run f = (.ok (),g f) := rfl

@[simp] theorem run_throw (e : Fault) (f : Frame α) : (throw e : Handler α β).run f = (.error e,f) :=
  rfl

@[simp] theorem run_withLock (m : Mutex) (body : Handler α β) (f : Frame α) :
    (withLock m body).run f =
      ((body.run { f with held := m :: f.held }).1,
        { (body.run { f with held := m :: f.held }).2 with
          held := (body.run { f with held := m :: f.held }).2.held.tail }) := rfl

@[simp] theorem run_withCleanup (cleanup : Handler α Unit) (body : Handler α β) (f : Frame α) :
    (withCleanup cleanup body).run f =
      ((cleanup.run (body.run f).2).1 *> (body.run f).1,(cleanup.run (body.run f).2).2) := rfl

@[simp] theorem run_call (c : Call) (answer : Except Exception β) (f : Frame α) :
    (call c answer).run f = (answer.mapError .exception,{ f with calls := f.calls ++ [(c,f.held)] }) := by
  cases answer <;> rfl

@[simp] theorem run_factory (c : FactoryCall) (answer : β) (f : Frame α) :
    (factory c answer).run f = (.ok answer,{ f with factoryCalls := f.factoryCalls ++ [(c,f.held)] }) := rfl

@[simp] theorem run_raise (e : Except Exception β) (f : Frame α) :
    (raise e).run f = (e.mapError .exception,f) := by
  cases e <;> rfl

def provider : Handler α ProviderImpl := do
  return (← get).provider

def setProvider (p : ProviderImpl) : Handler α Unit :=
  modify fun f => { f with provider := p }

def setResult (r : Result α) : Handler α Unit :=
  modify fun f => { f with result := r }

def fail (message : String) : Handler α Unit :=
  modify fun f => { f with result := f.result.fail message }

/-- `FIND_TARGET`: the entry of `target_id`, copied out under the registry lock. When there is
none the result is failed, and the caller returns. -/
def findTarget (target_id : UUID) : Handler α (Option TargetEntry) :=
  withLock .targets do
    match (← provider).targets.lookup target_id with
    | some entry => return some entry
    | none =>
      fail ("Target with UUID " ++ target_id.to_string ++ " not found")
      return none

theorem run_findTarget (target_id : UUID) (f : Frame α) :
    (findTarget target_id).run f = match f.provider.targets.lookup target_id with
      | some entry => (.ok (some entry),f)
      | none => (.ok none,
          { f with result := f.result.fail ("Target with UUID " ++ target_id.to_string ++ " not found") }) := by
  unfold findTarget
  split <;> simp_all [provider,fail]

def KeepsProvider (h : Handler α β) : Prop := ∀ f, (h.run f).2.provider = f.provider

theorem keepsProvider_pure (b : β) : KeepsProvider (pure b : Handler α β) := fun _ => rfl

theorem keepsProvider_throw (e : Fault) : KeepsProvider (throw e : Handler α β) := fun _ => rfl

theorem keepsProvider_bind {γ : Type} {x : Handler α β} {g : β → Handler α γ}
    (hx : KeepsProvider x) (hg : ∀ b, KeepsProvider (g b)) : KeepsProvider (x >>= g) := by
  intro f
  have := hx f
  simp only [run_bind]
  rcases h : x.run f with ⟨_ | b,f'⟩ <;> simp only [h] at this ⊢
  · exact this
  · exact (hg b f').trans this

theorem keepsProvider_modify {g : Frame α → Frame α} (hg : ∀ f, (g f).provider = f.provider) :
    KeepsProvider (modify g : Handler α Unit) := hg

theorem keepsProvider_withLock {m : Mutex} {body : Handler α β} (h : KeepsProvider body) :
    KeepsProvider (withLock m body) := fun _ => h _

theorem keepsProvider_withCleanup {cleanup : Handler α Unit} {body : Handler α β}
    (hc : KeepsProvider cleanup) (hb : KeepsProvider body) : KeepsProvider (withCleanup cleanup body) :=
  fun _ => (hc _).trans (hb _)

theorem keepsProvider_call (c : Call) (answer : Except Exception β) :
    KeepsProvider (call c answer : Handler α β) :=
  keepsProvider_bind (keepsProvider_modify fun _ => rfl) fun _ => by
    split
    · exact keepsProvider_pure _
    · exact keepsProvider_throw _

theorem keepsProvider_provider : KeepsProvider (provider : Handler α ProviderImpl) := fun _ => rfl

theorem keepsProvider_setResult (r : Result α) : KeepsProvider (setResult r) := fun _ => rfl

theorem keepsProvider_fail (message : String) : KeepsProvider (fail message : Handler α Unit) :=
  fun _ => rfl

theorem keepsProvider_findTarget (target_id : UUID) :
    KeepsProvider (findTarget target_id : Handler α (Option TargetEntry)) := by
  refine keepsProvider_withLock (keepsProvider_bind keepsProvider_provider fun _ => ?_)
  split
  · exact keepsProvider_pure _
  · exact keepsProvider_bind (keepsProvider_fail _) fun _ => keepsProvider_pure _

def LogsFrom (p : ProviderImpl) (Q : Call → Prop) (h : Handler α β) : Prop :=
  ∀ f, f.provider = p → ∀ c ∈ (h.run f).2.calls, c ∈ f.calls ∨ Q c.1

section LogsFrom

variable {p : ProviderImpl} {Q : Call → Prop}

theorem logsFrom_pure (b : β) : LogsFrom p Q (pure b : Handler α β) := fun _ _ _ logged => .inl logged

theorem logsFrom_throw (e : Fault) : LogsFrom p Q (throw e : Handler α β) := fun _ _ _ logged => .inl logged

theorem logsFrom_modify {g : Frame α → Frame α} (hg : ∀ f, (g f).calls = f.calls) :
    LogsFrom p Q (modify g : Handler α Unit) := fun f _ _ logged => .inl (hg f ▸ logged)

theorem logsFrom_bind {γ : Type} {x : Handler α β} {g : β → Handler α γ} (hx : LogsFrom p Q x)
    (keeps : KeepsProvider x) (hg : ∀ b, LogsFrom p Q (g b)) : LogsFrom p Q (x >>= g) := by
  intro f held c logged
  simp only [run_bind] at logged
  rcases h : x.run f with ⟨_ | b,f'⟩ <;> simp only [h] at logged
  · exact hx f held c (h ▸ logged)
  · have provider : f'.provider = p := by simpa [h,held] using keeps f
    rcases hg b f' provider c logged with earlier | satisfied
    · exact hx f held c (by simpa [h] using earlier)
    · exact .inr satisfied

theorem logsFrom_call (c : Call) (answer : Except Exception β) (hc : Q c) :
    LogsFrom p Q (call c answer : Handler α β) := by
  intro f _ c' logged
  simp only [run_call,List.mem_append,List.mem_singleton] at logged
  rcases logged with earlier | rfl
  · exact .inl earlier
  · exact .inr hc

theorem logsFrom_withLock {m : Mutex} {body : Handler α β} (hb : LogsFrom p Q body) :
    LogsFrom p Q (withLock m body) := fun _ held => hb _ held

theorem logsFrom_withCleanup {cleanup : Handler α Unit} {body : Handler α β}
    (hc : ∀ p', LogsFrom p' Q cleanup) (hb : LogsFrom p Q body) : LogsFrom p Q (withCleanup cleanup body) := by
  intro f held c logged
  rcases hc _ _ rfl c logged with earlier | satisfied
  · exact hb f held c earlier
  · exact .inr satisfied

theorem logsFrom_fail (message : String) : LogsFrom p Q (fail message : Handler α Unit) :=
  logsFrom_modify fun _ => rfl

theorem logsFrom_setResult (r : Result α) : LogsFrom p Q (setResult r) := logsFrom_modify fun _ => rfl

theorem logsFrom_findTarget_bind {γ : Type} {target_id : UUID} {k : Option TargetEntry → Handler α γ}
    (found : ∀ entry, p.targets.lookup target_id = some entry → LogsFrom p Q (k (some entry)))
    (missing : LogsFrom p Q (k none)) : LogsFrom p Q (findTarget target_id >>= k) := by
  intro f held c logged
  subst held
  rw [run_bind,run_findTarget] at logged
  cases found_entry : f.provider.targets.lookup target_id with
  | none =>
    simp only [found_entry] at logged
    exact missing { f with result := f.result.fail _ } rfl c logged
  | some entry =>
    simp only [found_entry] at logged
    exact found entry found_entry f rfl c logged

end LogsFrom

end Handler

end Warabi
