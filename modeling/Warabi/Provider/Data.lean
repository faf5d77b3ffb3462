import Warabi.Provider.Admin

/-! The data plane of `ProviderImpl`: every handler finds the target under the registry lock,
then calls its backend, the region handle the backend returns and, for bulk transfers, the
transfer manager the target is bound to. `origin` is the caller's endpoint
(`req.get_endpoint()`). -/
namespace Warabi

namespace Handler

variable {α β : Type} (env : Env)

/-- Dereferencing a pointer a collaborator returned: a null one is undefined behaviour. -/
def deref (what : String) : Option β → Handler α β
  | some b => pure b
  | none => throw (.undefined what)

/-- `address.empty() ? req.get_endpoint() : m_engine.lookup(address)`. -/
def source (origin : Endpoint) (address : String) : Handler α Endpoint :=
  if address.isEmpty then pure origin else call (.lookup address) (env.lookup address)

theorem keepsProvider_deref (what : String) (b : Option β) : KeepsProvider (deref what b : Handler α β) := by
  cases b <;> exact fun _ => rfl

theorem logsFrom_deref {p : ProviderImpl} {Q : Call → Prop} (what : String) (b : Option β) :
    LogsFrom p Q (deref what b : Handler α β) := by
  cases b
  · exact logsFrom_throw _
  · exact logsFrom_pure _

theorem run_source (origin : Endpoint) (address : String) (f : Frame α) :
    (source env origin address).run f =
      ((if address.isEmpty then .ok origin else env.lookup address).mapError .exception,
        { f with calls := f.calls ++ if address.isEmpty then [] else [(.lookup address,f.held)] }) := by
  unfold source
  split <;> simp [*,Except.mapError]

theorem keepsProvider_source (origin : Endpoint) (address : String) :
    KeepsProvider (source env origin address : Handler α Endpoint) := by
  unfold source
  split
  · exact keepsProvider_pure _
  · exact keepsProvider_call _ _

/-- `std::accumulate` of the span sizes in a `size_t`, which wraps modulo `2^64`. -/
def spanTotal (spans : List Span) : UInt64 := spans.foldl (fun acc span => acc + span.2) 0

def createRPC (target_id : UUID) (size : UInt64) : Handler RegionID Unit := do
  let some target ← findTarget target_id | return
  let region ← call (.create target.target size) (env.create target.target size)
  if !region.success then
    fail region.error
    return
  setResult (.ok (← deref "region" region.value).id)

def writeRPC (origin : Endpoint) (target_id : UUID) (region_id : RegionID) (spans : List Span)
    (data : Bulk) (address : String) (bulkOffset : UInt64) (persist : Bool) :
    Handler Bool Unit := do
  let some target ← findTarget target_id | return
  let region ← call (.write target.target region_id persist) (env.write target.target region_id persist)
  if !region.success then
    fail region.error
    return
  let from_ ← source env origin address
  let tm ← deref "m_transfer_manager" target.transferManager
  let r ← deref "region" region.value
  setResult (← call (.pull tm r spans persist) (env.pull tm r spans data from_ bulkOffset persist))

def writeEagerRPC (target_id : UUID) (region_id : RegionID) (spans : List Span)
    (buffer : BufferWrapper) (persist : Bool) : Handler Bool Unit := do
  let some target ← findTarget target_id | return
  let region ← call (.write target.target region_id persist) (env.write target.target region_id persist)
  if !region.success then
    fail region.error
    return
  let r ← deref "region" region.value
  setResult (← call (.regionWrite r spans buffer.data persist) (env.regionWrite r spans buffer.data persist))

def persistRPC (target_id : UUID) (region_id : RegionID) (spans : List Span) : Handler Bool Unit := do
  let some target ← findTarget target_id | return
  let region ← call (.write target.target region_id true) (env.write target.target region_id true)
  if !region.success then
    fail region.error
    return
  let r ← deref "region" region.value
  setResult (← call (.regionPersist r spans) (env.regionPersist r spans))

def createWriteRPC (origin : Endpoint) (target_id : UUID) (data : Bulk) (address : String)
    (bulkOffset size : UInt64) (persist : Bool) : Handler RegionID Unit := do
  let some target ← findTarget target_id | return
  let region ← call (.create target.target size) (env.create target.target size)
  if !region.success then
    fail region.error
    return
  let r ← deref "region" region.value
  setResult (.ok r.id)
  let from_ ← source env origin address
  let tm ← deref "m_transfer_manager" target.transferManager
  let writeResult ← call (.pull tm r [(0,size)] persist) (env.pull tm r [(0,size)] data from_ bulkOffset persist)
  if !writeResult.success then
    fail writeResult.error

def createWriteEagerRPC (target_id : UUID) (buffer : BufferWrapper) (persist : Bool) :
    Handler RegionID Unit := do
  let some target ← findTarget target_id | return
  let size := UInt64.ofNat buffer.data.length
  let region ← call (.create target.target size) (env.create target.target size)
  if !region.success then
    fail region.error
    return
  let r ← deref "region" region.value
  setResult (.ok r.id)
  let writeResult ← call (.regionWrite r [(0,size)] buffer.data persist)
    (env.regionWrite r [(0,size)] buffer.data persist)
  if !writeResult.success then
    fail writeResult.error

/-- `readRPC` checks the pointer the backend returned, not its success flag. -/
def readRPC (origin : Endpoint) (target_id : UUID) (region_id : RegionID) (spans : List Span)
    (data : Bulk) (address : String) (bulkOffset : UInt64) : Handler Bool Unit := do
  let some target ← findTarget target_id | return
  let region ← call (.read target.target region_id) (env.read target.target region_id)
  let some r := region.value | fail region.error; return
  let to_ ← source env origin address
  let tm ← deref "m_transfer_manager" target.transferManager
  setResult (← call (.push tm r spans) (env.push tm r spans data to_ bulkOffset))

def readEagerRPC (target_id : UUID) (region_id : RegionID) (spans : List Span) :
    Handler BufferWrapper Unit := do
  let some target ← findTarget target_id | return
  let region ← call (.read target.target region_id) (env.read target.target region_id)
  let some r := region.value | fail region.error; return
  let size := spanTotal spans
  let (ret,bytes) ← call (.regionRead r spans size.toNat) (env.regionRead r spans size.toNat)
  modify fun f => { f with result := { f.result with value := ⟨bytes⟩ } }
  if !ret.success then
    fail ret.error

def eraseRPC (target_id : UUID) (region_id : RegionID) : Handler Bool Unit := do
  let some target ← findTarget target_id | return
  setResult (← call (.erase target.target region_id) (env.erase target.target region_id))

theorem spanTotal_toNat (spans : List Span) : (spanTotal spans).toNat = spanBytes spans % 2 ^ 64 := by
  suffices fold : ∀ acc : UInt64, (spans.foldl (fun acc span => acc + span.2) acc).toNat =
      (acc.toNat + spanBytes spans) % 2 ^ 64 by
    simpa [spanTotal] using fold 0
  induction spans with
  | nil => intro acc; simp [spanBytes,Nat.mod_eq_of_lt acc.toNat_lt]
  | cons span spans ih =>
    intro acc
    simp only [List.foldl_cons,ih,UInt64.toNat_add,UInt64.size,spanBytes,List.map_cons,
      List.sum_cons]
    omega

/-- Every span lies inside the region (overlaps allowed). -/
def Accepts (r : Region) (spans : List Span) : Prop :=
  ∀ span ∈ spans, span.1.toNat + span.2.toNat ≤ r.size.toNat

/-- A call stays inside the buffer it is given: `region->write` reads at least as many bytes as
the spans cover out of its source, and `region->read` writes into a buffer as long. -/
def InBuffer : Call → Prop
  | .regionWrite r spans source _ => Accepts r spans → spanBytes spans ≤ source.length
  | .regionRead r spans capacity => Accepts r spans → spanBytes spans ≤ capacity
  | _ => True

/-- The eager handlers on a backend whose `write` and `read` return the region `r`: the spans
and the buffer reach `region->write` as the client sent them, and `region->read` gets a buffer
of the span total modulo `2^64`. -/
theorem eager_calls {p : ProviderImpl} {target_id : UUID} {entry : TargetEntry} (region_id : RegionID)
    (persist : Bool) {r : Region} (found : p.targets.lookup target_id = some entry)
    (writable : env.write entry.target region_id persist = .ok (.ok (some r)))
    (readable : ∃ error, env.read entry.target region_id = .ok ⟨true,error,some r⟩)
    (spans : List Span) (buffer : BufferWrapper) :
    (.regionWrite r spans buffer.data persist,[]) ∈
      ((writeEagerRPC env target_id region_id spans buffer persist).run (.start p)).2.calls ∧
    (.regionRead r spans (spanBytes spans % 2 ^ 64),[]) ∈
      ((readEagerRPC env target_id region_id spans).run (.start p)).2.calls := by
  obtain ⟨error,readable⟩ := readable
  constructor
  · simp [writeEagerRPC,findTarget,provider,deref,Frame.start,found,writable,Result.ok,
      Except.mapError]
    cases env.regionWrite r spans buffer.data persist <;> simp [setResult]
  · simp [readEagerRPC,findTarget,provider,Frame.start,found,readable,spanTotal_toNat,
      Except.mapError]
    cases env.regionRead r spans (spanBytes spans % 2 ^ 64) <;> simp [fail]
    split <;> simp

/-- `region->write` in `writeEagerRPC` stays inside the request's buffer. -/
def WriteEagerInBounds : Prop :=
  ∀ p target_id region_id spans buffer persist,
    ∀ c ∈ ((writeEagerRPC env target_id region_id spans buffer persist).run (.start p)).2.calls,
      InBuffer c.1

/-- `region->read` in `readEagerRPC` stays inside the buffer allocated for the response. -/
def ReadEagerInBounds : Prop :=
  ∀ p target_id region_id spans,
    ∀ c ∈ ((readEagerRPC env target_id region_id spans).run (.start p)).2.calls, InBuffer c.1

theorem eager_buffers_overrun : ¬ WriteEagerInBounds Env.accepting ∧ ¬ ReadEagerInBounds Env.accepting := by
  have found : (ProviderImpl.singleTarget default).targets.lookup default = some _ := AList.lookup_insert _
  have calls := eager_calls Env.accepting ⟨[]⟩ false found rfl ⟨"",rfl⟩
  constructor
  · intro inBounds
    have := inBounds _ _ _ _ _ _ _ (calls [(0,1)] ⟨[]⟩).1
    revert this
    simp only [InBuffer,Accepts]
    decide
  · intro inBounds
    have := inBounds _ _ _ _ _ (calls [(0,9223372036854775808),(0,9223372036854775808)] ⟨[]⟩).2
    revert this
    simp only [InBuffer,Accepts]
    decide

/-- What `AutoResponse` sends after a body that did not complete normally reports failure. -/
def ReportsFaults {α : Type} (run : Except Fault Unit × Frame α) : Prop :=
  match run.1 with
  | .error _ => run.2.result.success = false
  | .ok () => True

theorem writeRPC_lookup_fault_reported_as_success (e : Exception) :
    ¬ ReportsFaults ((writeRPC { Env.accepting with lookup := fun _ => .error e } ⟨"caller"⟩ default ⟨[]⟩
      [(0,1)] ⟨0⟩ "unreachable" 0 false).run (.start (ProviderImpl.singleTarget default))) := by
  have found : (ProviderImpl.singleTarget default).targets.lookup default = some _ := AList.lookup_insert _
  simp [ReportsFaults,writeRPC,findTarget,provider,source,deref,Frame.start,Env.accepting,
    found,Except.mapError,Result.ok,show "unreachable".isEmpty = false from rfl]

end Handler

end Warabi
