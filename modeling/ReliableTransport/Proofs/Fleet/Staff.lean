import ReliableTransport.Proofs.Fleet.Course
/-!
This module says that the senders of a fleet do what the pool knows of them, whatever happens. A
free sender is idle, a sender that a send has works for that send only, and each sender remembers
that it was connected.
-/

namespace ReliableTransport

namespace Fleet

variable {size number sender : Nat} {address : Address} {fleet last : Fleet Nat}
  {history : History} {event : Event} {heard : List Deed} {stage : Pool.Stage}

/-- The staff of a fleet does not change with the pool as long as no sender changes hands. -/
theorem Staffed.keep (staffed : Staffed address fleet) {pool : Pool Nat}
    (unshut : pool.closed = false)
    (free : ∀ other ∈ pool.queue.items, other ∈ fleet.pool.queue.items)
    (leased : ∀ number stage sender, pool.calls.lookup number = some stage →
      stage.leased? = some sender → fleet.pool.calls.lookup number = some stage) :
    Staffed address (fleet.pooled pool) where
  towards := staffed.towards
  unshut := unshut
  lasting := staffed.lasting
  free other among := staffed.free other (free other among)
  leased number stage sender found lent :=
    staffed.leased number stage sender (leased number stage sender found lent) lent

theorem getElem?_posted_of_ne {other : Nat} (different : other ≠ sender)
    (state : DatagramSender Nat) :
    (fleet.posted sender state).senders[other]? = fleet.senders[other]? :=
  List.getElem?_set_ne (Ne.symm different)

/-- One sender changes hands. -/
theorem Staffed.change (staffed : Staffed address fleet) {pool : Pool Nat}
    {before state : DatagramSender Nat} (known : fleet.senders[sender]? = some before)
    (unshut : pool.closed = false) (lasting : state.wasConnected = true)
    (towards : state.sendAddress = before.sendAddress)
    (free : ∀ other ∈ pool.queue.items,
      other = sender ∧ state.Idle ∨ other ≠ sender ∧ other ∈ fleet.pool.queue.items)
    (leased : ∀ number stage other, pool.calls.lookup number = some stage →
      stage.leased? = some other →
        other = sender ∧ Holds number stage state ∨
          other ≠ sender ∧ fleet.pool.calls.lookup number = some stage) :
    Staffed address ((fleet.pooled pool).posted sender state) := by
  have stands : ((fleet.pooled pool).posted sender state).senders[sender]? = some state :=
    @getElem?_posted sender (fleet.pooled pool) before known state
  refine ⟨staffed.towards, unshut, fun other owner found => ?_, fun other among => ?_,
    fun number stage other found lent => ?_⟩
  · by_cases own : other = sender
    · subst own
      obtain rfl := Option.some.inj (stands.symm.trans found)
      exact ⟨lasting, towards.trans (staffed.lasting other before known).2⟩
    · rw [getElem?_posted_of_ne own] at found
      exact staffed.lasting other owner found
  · rcases free other among with ⟨rfl, idle⟩ | ⟨different, former⟩
    · exact ⟨state, stands, idle⟩
    · rw [getElem?_posted_of_ne different]
      exact staffed.free other former
  · rcases leased number stage other found lent with ⟨rfl, holds⟩ | ⟨different, former⟩
    · exact ⟨state, stands, holds⟩
    · rw [getElem?_posted_of_ne different]
      exact staffed.leased number stage other former lent

section Changes

variable {before state : DatagramSender Nat} {queue : BoundedQueue Nat Nat}

/-- A send takes a sender out of the pool. -/
theorem Staffed.take (staffed : Staffed address fleet) {now : Nat} {sends : List Bytes}
    (lending : Pool.Lending size now sends fleet.pool)
    (first : fleet.pool.queue.items = sender :: queue.items)
    (known : fleet.senders[sender]? = some before) {pool : Pool Nat}
    (unshut : pool.closed = fleet.pool.closed) (items : pool.queue.items = queue.items)
    (calls : ∀ other, pool.calls.lookup other =
      if other = number then some stage else fleet.pool.calls.lookup other)
    (leased : stage.leased? = some sender) (holds : Holds number stage state)
    (lasting : state.wasConnected = before.wasConnected)
    (towards : state.sendAddress = before.sendAddress) :
    Staffed address ((fleet.pooled pool).posted sender state) := by
  have among : sender ∈ fleet.pool.queue.items := first ▸ List.mem_cons_self
  refine staffed.change known (unshut.trans staffed.unshut)
    (lasting.trans (staffed.lasting sender before known).1) towards
    (fun other free => .inr ?_) (fun call point other found lent => ?_)
  · -- The sender was free only once, so it is not free any more.
    have distinct := (List.nodup_append.mp lending.nodup).1
    rw [first, List.nodup_cons] at distinct
    rw [items] at free
    exact ⟨fun same => distinct.1 (same ▸ free), first ▸ List.mem_cons_of_mem sender free⟩
  · rw [calls] at found
    split at found
    · next own =>
      obtain rfl := Option.some.inj found
      exact .inl ⟨Option.some.inj (lent.symm.trans leased), own ▸ holds⟩
    · exact .inr ⟨lending.free_apart among found lent, found⟩

/-- A send goes on with the sender that it has. -/
theorem Staffed.goOn (staffed : Staffed address fleet) {now : Nat} {sends : List Bytes}
    (lending : Pool.Lending size now sends fleet.pool) {former : Pool.Stage}
    (had : fleet.pool.calls.lookup number = some former)
    (held : former.leased? = some sender) (known : fleet.senders[sender]? = some before)
    {pool : Pool Nat} (unshut : pool.closed = fleet.pool.closed)
    (items : pool.queue.items = fleet.pool.queue.items)
    (calls : ∀ other, pool.calls.lookup other =
      if other = number then some stage else fleet.pool.calls.lookup other)
    (leased : stage.leased? = some sender) (holds : Holds number stage state)
    (lasting : state.wasConnected = before.wasConnected)
    (towards : state.sendAddress = before.sendAddress) :
    Staffed address ((fleet.pooled pool).posted sender state) := by
  refine staffed.change known (unshut.trans staffed.unshut)
    (lasting.trans (staffed.lasting sender before known).1) towards
    (fun other free => .inr ?_) (fun call point other found lent => ?_)
  · rw [items] at free
    exact ⟨(lending.free_apart free had held).symm, free⟩
  · rw [calls] at found
    split at found
    · next own =>
      obtain rfl := Option.some.inj found
      exact .inl ⟨Option.some.inj (lent.symm.trans leased), own ▸ holds⟩
    · next different => exact .inr ⟨lending.leased_apart different had held found lent, found⟩

/-- A send gives its sender back. -/
theorem Staffed.giveBack (staffed : Staffed address fleet) {now : Nat} {sends : List Bytes}
    (lending : Pool.Lending size now sends fleet.pool)
    (had : fleet.pool.calls.lookup number = some stage)
    (held : stage.leased? = some sender) (known : fleet.senders[sender]? = some before)
    (back : queue.items = fleet.pool.queue.items ++ [sender])
    (lasting : state.wasConnected = true) (towards : state.sendAddress = before.sendAddress) :
    Staffed address
      ((fleet.pooled ({ fleet.pool with queue }.remove number)).posted sender state.freed) := by
  refine staffed.change known staffed.unshut lasting towards
    (fun other free => ?_) (fun call point other found lent => .inr ?_)
  · have among : other ∈ fleet.pool.queue.items ++ [sender] := back ▸ free
    rcases List.mem_append.mp among with former | own
    · exact .inr ⟨(lending.free_apart former had held).symm, former⟩
    · exact .inl ⟨List.mem_singleton.mp own, state.freed_idle⟩
  · rw [Pool.lookup_remove] at found
    split at found
    · cases found
    · next different => exact ⟨lending.leased_apart different had held found lent, found⟩

end Changes

/-- Whatever happens, the senders do what the pool knows of them. -/
theorem Staffed.acts (staffed : Staffed address history.fleet)
    (lending : Pool.Lending size history.now history.sends history.fleet.pool)
    (acts : Acts history event last heard) : Staffed address last := by
  cases acts with
  | waits seeks same =>
      refine staffed.keep staffed.unshut (fun other free => same ▸ free)
        fun number stage sender found lent => ?_
      rw [Pool.lookup_park] at found
      split at found
      · obtain rfl := Option.some.inj found
        cases lent
      · exact found
  | late _ same | leaves _ same =>
      refine staffed.keep staffed.unshut (fun other free => same ▸ free)
        fun number stage sender found lent => ?_
      rw [Pool.lookup_remove] at found
      split at found
      · cases found
      · exact found
  | sends _ first known owns =>
      refine staffed.take lending first known rfl rfl (Pool.lookup_park _ _ _) rfl
        (.sends owns (DatagramSender.used_used _ _ _)) rfl rfl
  | @retries _ _ sender _ _ state _ first known bare =>
      have broken := state.noSocket_transient (staffed.lasting sender state known).1
      refine staffed.take lending first known rfl rfl (fun other => ?_) rfl
        (.opens broken bare (DatagramSender.used_used _ _ _)) rfl rfl
      rw [Pool.lookup_park, Pool.lookup_park]
      split <;> rfl
  | @breaks number sender socket failure state found known used broken =>
      obtain ⟨bytesSent, connected, counted⟩ :=
        DatagramSender.Usage.countSent_eq state (.error failure)
      rw [counted]
      exact staffed.goOn lending found rfl known rfl rfl (Pool.lookup_park _ _ _) rfl
        (.replaces broken rfl (DatagramSender.used_used _ _ _)) rfl rfl
  | @reopens number sender socket failure state found known used =>
      obtain ⟨owner, stands, holds⟩ := staffed.leased number _ sender found rfl
      obtain rfl := Option.some.inj (known.symm.trans stands)
      cases holds with
      | opens _ _ other => cases used.lookup_eq.symm.trans other.lookup_eq
      | replaces broken bare =>
          refine staffed.goOn lending found rfl known rfl rfl (fun other => ?_) rfl
            (.opens broken bare (DatagramSender.used_used _ _ _)) rfl rfl
          split
          · next own => rw [own, found]
          · rfl
  | @connects number sender socket failure result state queue found known used back =>
      have lasting := (staffed.lasting sender state known).1
      refine staffed.giveBack lending found rfl known back ?_ ?_
      · cases result with
        | ok _ => rfl
        | error _ => exact lasting
      · cases result <;> rfl
  | @returns number sender socket result state queue found known used back =>
      obtain ⟨bytesSent, connected, counted⟩ := DatagramSender.Usage.countSent_eq state result
      rw [counted]
      exact staffed.giveBack lending found rfl known back (staffed.lasting sender state known).1 rfl
  | @yields number sender stage state queue found leased known back =>
      exact staffed.giveBack lending found leased known back
        (staffed.lasting sender state known).1 rfl
  | stays => exact staffed

/-- A fleet in order: the pool knows the senders that it has lent, and they do what it knows. -/
structure Orderly (size : Nat) (address : Address) (history : History) : Prop where
  lending : Pool.Lending size history.now history.sends history.fleet.pool
  staffed : Staffed address history.fleet

theorem Orderly.acts (orderly : Orderly size address history) (event : Event) :
    Acts history event (history.step event).fleet (history.adds event) :=
  (orderly.staffed.moves orderly.lending event).acts

theorem Orderly.step (orderly : Orderly size address history) (event : Event) :
    Orderly size address (history.step event) :=
  ⟨(orderly.staffed.moves orderly.lending event).lending,
    orderly.staffed.acts orderly.lending (orderly.acts event)⟩

/-- A fleet that was filled and waits for its first use, at any instant. -/
def History.opened (fleet : Fleet Nat) (now : Nat) : History := { fleet, now }

/-- A fleet that was filled is in order. -/
theorem Founded.orderly {settings : PoolSettings} (founded : Founded settings fleet) (now : Nat) :
    Orderly settings.size settings.sendAddress (History.opened fleet now) := by
  obtain ⟨same, towards, manned, pool, created⟩ := founded.eq_stocked
  have staff (sender : Nat) (state : DatagramSender Nat)
      (known : fleet.senders[sender]? = some state) : Equipped settings.sendAddress state :=
    towards ▸ manned.equipped state (List.mem_of_getElem? known)
  refine ⟨?_, ⟨towards, ?_, fun sender state known => ?_, fun sender free => ?_,
    fun number stage sender found => ?_⟩⟩
  · show Pool.Lending settings.size now [] fleet.pool
    rw [same]
    exact Pool.Lending.founded created now
  · show fleet.pool.closed = false
    rw [same]
    rfl
  · exact ⟨(staff sender state known).lasting, (staff sender state known).address⟩
  · have within : sender < fleet.senders.length := by
      have among : sender ∈ List.range settings.size := by
        have free : sender ∈ fleet.pool.queue.items := free
        rwa [same] at free
      rw [manned.count]
      exact List.mem_range.mp among
    have known : fleet.senders[sender]? = some fleet.senders[sender] :=
      List.getElem?_eq_getElem within
    exact ⟨_, known, (staff sender _ known).idle⟩
  · have none : fleet.pool.calls.lookup number = some stage := found
    rw [same] at none
    cases none

end Fleet

end ReliableTransport
