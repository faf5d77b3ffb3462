import Warabi.System

/-! Runs of the provider's state machine from any state: what an interleaving of requests and
migration callbacks can do to the registries. The transfer-manager registry only grows; the
entry of a UUID that no event of a run names is never touched, whatever callbacks of other file
sets come in between. -/
namespace Warabi

/-- The requests that write the registry entry of `target_id`. -/
def Request.Writes (target_id : UUID) : Request → Prop
  | .addTarget u _ _ | .removeTarget u | .destroyTarget u => u = target_id
  | _ => False

/-- The events that may write the entry of `target_id`: a request that writes it, and the
arrival of a file set that carries it. -/
def Event.Names (target_id : UUID) : Event → Prop
  | .request _ req => req.Writes target_id
  | .before fileset => fileset.Carries target_id
  | .after _ => False
  | .overlap first second => first.Names target_id ∨ second.Names target_id

/-- `p'` registers every manager `p` registers, under the same name. -/
def ManagersKept (p p' : ProviderImpl) : Prop :=
  ∀ name tm, p.transferManagers.lookup name = some tm → p'.transferManagers.lookup name = some tm

theorem ManagersKept.trans {p p' p'' : ProviderImpl} (first : ManagersKept p p')
    (second : ManagersKept p' p'') : ManagersKept p p'' :=
  fun name tm registered => second name tm (first name tm registered)

namespace System

variable (env : Env)

theorem step_keeps_managers {s s' : System} {e : Event} (h : step env s e = some s') :
    ManagersKept s.provider s'.provider := by
  induction e generalizing s s' with
  | request origin req =>
    cases h
    rcases Request.serve_cases env origin s.provider req with same | ⟨_,-,erased⟩ |
      ⟨_,_,_,_,-,-,inserted⟩ | ⟨name,tm,fresh,added⟩
    · exact fun _ _ registered => by simpa [same] using registered
    · exact fun _ _ registered => by simpa [erased] using registered
    · exact fun _ _ registered => by simpa [inserted] using registered
    · intro n t registered
      have other : n ≠ name := by
        rintro rfl
        exact fresh (AList.lookup_isSome.mp (by simp [registered]))
      simpa [added,AList.lookup_insert_ne other] using registered
  | before fileset => rcases step_before env h with rfl | ⟨-,rfl⟩ <;> exact fun _ _ => id
  | after index =>
    obtain ⟨_,_,_,-,called,rfl⟩ := step_after env h
    exact (ProviderImpl.afterMigrationCallback_keeps env called).1
  | overlap first second ih₁ ih₂ =>
    obtain ⟨s₁,h₁,h₂⟩ := step_overlap env h
    exact (ih₁ h₁).trans (ih₂ h₂)

/-- Along every run, from any state, the transfer-manager registry only grows: a name once
registered stays bound to the same manager. -/
theorem replay_keeps_managers {s s' : System} {events : List Event} (h : replay env s events = some s') :
    ∀ name tm, s.provider.transferManagers.lookup name = some tm →
      s'.provider.transferManagers.lookup name = some tm := by
  induction events generalizing s with
  | nil => cases h; exact fun _ _ => id
  | cons e events ih =>
    obtain ⟨s₁,stepped,h⟩ := Option.bind_eq_some.mp h
    exact (step_keeps_managers env stepped).trans (ih h)

theorem replay_keeps_managers_bulk :
    replay Env.accepting ⟨ProviderImpl.singleTarget default,[]⟩
        [.request ⟨""⟩ (.addTransferManager "bulk" "__default__" "\x7b\x7d")] =
      some ⟨⟨(ProviderImpl.singleTarget default).targets,
        (ProviderImpl.singleTarget default).transferManagers.insert "bulk" (some ⟨0,"__default__","\x7b\x7d"⟩)⟩,[]⟩ ∧
    ∀ name tm, (ProviderImpl.singleTarget default).transferManagers.lookup name = some tm →
      ((ProviderImpl.singleTarget default).transferManagers.insert "bulk"
        (some ⟨0,"__default__","\x7b\x7d"⟩)).lookup name = some tm := by
  have replayed : replay Env.accepting ⟨ProviderImpl.singleTarget default,[]⟩
      [.request ⟨""⟩ (.addTransferManager "bulk" "__default__" "\x7b\x7d")] =
        some ⟨⟨(ProviderImpl.singleTarget default).targets,(ProviderImpl.singleTarget default).transferManagers.insert
          "bulk" (some ⟨0,"__default__","\x7b\x7d"⟩)⟩,[]⟩ := rfl
  exact ⟨replayed,replay_keeps_managers Env.accepting replayed⟩

section Unnamed

variable {target_id : UUID}

/-- A step whose event does not name `target_id`, from a state where no pending file set
carries it, leaves its entry and keeps the pending file sets clear of it. -/
theorem step_keeps_entry {s s' : System} {e : Event}
    (pending : ∀ fileset ∈ s.accepted, ¬ fileset.Carries target_id) (unnamed : ¬ e.Names target_id)
    (h : step env s e = some s') :
    s'.provider.targets.lookup target_id = s.provider.targets.lookup target_id ∧
      ∀ fileset ∈ s'.accepted, ¬ fileset.Carries target_id := by
  induction e generalizing s s' with
  | request origin req =>
    cases h
    refine ⟨?_,pending⟩
    rcases Request.serve_cases env origin s.provider req with same | ⟨u,written,erased⟩ |
      ⟨u,_,_,_,rfl,-,inserted⟩ | ⟨_,_,-,added⟩
    · exact congrArg _ (congrArg _ same)
    · have other : target_id ≠ u := by
        rintro rfl
        rcases written with rfl | rfl <;> exact unnamed rfl
      simp only [erased,AList.lookup_erase_ne other]
    · simp only [inserted,AList.lookup_insert_ne fun same => unnamed same.symm]
    · simp only [added]
  | before fileset =>
    rcases step_before env h with rfl | ⟨-,rfl⟩
    · exact ⟨rfl,pending⟩
    refine ⟨rfl,fun f mem => ?_⟩
    rcases List.mem_append.mp mem with old | new
    · exact pending f old
    · exact List.mem_singleton.mp new ▸ unnamed
  | after index =>
    obtain ⟨fileset,_,_,found,called,rfl⟩ := step_after env h
    exact ⟨(ProviderImpl.afterMigrationCallback_keeps env called).2 target_id (pending fileset (List.getElem?_mem found)),
      fun f mem => pending f (List.mem_of_mem_eraseIdx mem)⟩
  | overlap first second ih₁ ih₂ =>
    obtain ⟨s₁,h₁,h₂⟩ := step_overlap env h
    obtain ⟨kept,clear⟩ := ih₁ pending (fun named => unnamed (.inl named)) h₁
    obtain ⟨kept',clear'⟩ := ih₂ clear (fun named => unnamed (.inr named)) h₂
    exact ⟨kept'.trans kept,clear'⟩

theorem replay_keeps_entry_pending {s s' : System} {events : List Event}
    (pending : ∀ fileset ∈ s.accepted, ¬ fileset.Carries target_id)
    (unnamed : ∀ e ∈ events, ¬ e.Names target_id) (h : replay env s events = some s') :
    s'.provider.targets.lookup target_id = s.provider.targets.lookup target_id ∧
      ∀ fileset ∈ s'.accepted, ¬ fileset.Carries target_id := by
  induction events generalizing s with
  | nil => cases h; exact ⟨rfl,pending⟩
  | cons e events ih =>
    obtain ⟨s₁,stepped,h⟩ := Option.bind_eq_some.mp h
    obtain ⟨kept,clear⟩ := step_keeps_entry env pending (unnamed e (List.mem_cons_self _ _)) stepped
    obtain ⟨kept',clear'⟩ := ih clear (fun e' mem => unnamed e' (List.mem_cons_of_mem _ mem)) h
    exact ⟨kept'.trans kept,clear'⟩

/-- The entry of a UUID that no event of a run names (no request that adds, removes or destroys
it, no incoming file set that carries it), from a state where no pending file set carries it,
is the same at the end of the run: data-plane requests, migrations out, other targets' writes
and the callbacks of other file sets, in any interleaving, leave it alone. -/
theorem replay_keeps_entry {s s' : System} {events : List Event}
    (pending : ∀ fileset ∈ s.accepted, ¬ fileset.Carries target_id)
    (unnamed : ∀ e ∈ events, ¬ e.Names target_id) (h : replay env s events = some s') :
    s'.provider.targets.lookup target_id = s.provider.targets.lookup target_id :=
  (replay_keeps_entry_pending env pending unnamed h).1

theorem replay_keeps_entry_add_other :
    (∀ fileset ∈ ([] : List IncomingFileset), ¬ fileset.Carries default) ∧
    (∀ e ∈ [Event.request ⟨""⟩ (.addTarget ⟨1#128⟩ "memory" "\x7b\x7d")], ¬ e.Names default) ∧
    replay Env.accepting ⟨ProviderImpl.singleTarget default,[]⟩
        [.request ⟨""⟩ (.addTarget ⟨1#128⟩ "memory" "\x7b\x7d")] =
      some ⟨⟨(ProviderImpl.singleTarget default).targets.insert ⟨1#128⟩
        ⟨⟨0,"memory","\x7b\x7d"⟩,some ⟨0,"__default__","\x7b\x7d"⟩,"__default__"⟩,
        (ProviderImpl.singleTarget default).transferManagers⟩,[]⟩ ∧
    ((ProviderImpl.singleTarget default).targets.insert ⟨1#128⟩
        ⟨⟨0,"memory","\x7b\x7d"⟩,some ⟨0,"__default__","\x7b\x7d"⟩,"__default__"⟩).lookup default =
      (ProviderImpl.singleTarget default).targets.lookup default := by
  have unnamed : ∀ e ∈ [Event.request ⟨""⟩ (.addTarget ⟨1#128⟩ "memory" "\x7b\x7d")], ¬ e.Names default := by
    simp only [List.mem_singleton,forall_eq]
    show ¬ (⟨1#128⟩ : UUID) = default
    decide
  have replayed : replay Env.accepting ⟨ProviderImpl.singleTarget default,[]⟩
      [.request ⟨""⟩ (.addTarget ⟨1#128⟩ "memory" "\x7b\x7d")] =
        some ⟨⟨(ProviderImpl.singleTarget default).targets.insert ⟨1#128⟩
          ⟨⟨0,"memory","\x7b\x7d"⟩,some ⟨0,"__default__","\x7b\x7d"⟩,"__default__"⟩,
          (ProviderImpl.singleTarget default).transferManagers⟩,[]⟩ := rfl
  have pending : ∀ fileset ∈ ([] : List IncomingFileset), ¬ fileset.Carries default :=
    fun _ none => absurd none (List.not_mem_nil _)
  exact ⟨pending,unnamed,replayed,replay_keeps_entry Env.accepting pending unnamed replayed⟩

end Unnamed

section Commute

theorem eraseIdx_eraseIdx_of_le {β : Type} (l : List β) {i j : Nat} (le : i ≤ j) :
    (l.eraseIdx i).eraseIdx j = (l.eraseIdx (j + 1)).eraseIdx i := by
  induction l generalizing i j with
  | nil => rfl
  | cons a l ih =>
    cases i with
    | zero => rfl
    | succ i =>
      obtain ⟨j,rfl⟩ : ∃ j', j = j' + 1 := ⟨j - 1,by omega⟩
      simp only [List.eraseIdx_cons_succ,ih (Nat.le_of_succ_le_succ le)]

/-- Installing two entries under different UUIDs, in either order, gives registries with the
same entries. -/
theorem lookup_installEntry_comm {a b : Option (UUID × TargetEntry)}
    (distinct : ∀ x ∈ a, ∀ y ∈ b, x.1 ≠ y.1) (targets : AList fun _ : UUID => TargetEntry)
    (target_id : UUID) :
    (ProviderImpl.installEntry b (ProviderImpl.installEntry a targets)).lookup target_id =
      (ProviderImpl.installEntry a (ProviderImpl.installEntry b targets)).lookup target_id := by
  cases a with
  | none => rfl
  | some x =>
    cases b with
    | none => rfl
    | some y => exact AList.perm_lookup (AList.insert_insert_of_ne _ (distinct x rfl y rfl))

theorem step_after_of {s : System} {index : Nat} {fileset : IncomingFileset} {code : Int}
    {p' : ProviderImpl} (found : s.accepted[index]? = some fileset)
    (h : ProviderImpl.afterMigrationCallback env fileset s.provider = .ok (code,p')) :
    step env s (.after index) = some ⟨p',s.accepted.eraseIdx index⟩ := by
  simp [step,found,h]

end Commute

end System

end Warabi
