import ReliableTransport.Proofs.Fleet.Errands
import ReliableTransport.Proofs.Pool.Founding
/-!
This module says how a fleet comes to be. Its senders are made and connected one after the other,
and nobody uses the fleet before the last one is connected. Then all of them are idle, and each
remembers that it was connected.
-/

namespace ReliableTransport

namespace Fleet

open Pool (stocked)

/-- Fills a new fleet, with the answers that its sockets give and the instants of these answers. -/
def filling (fresh : Fleet Nat) (answers : List (Nat × DatagramSender.Answer)) : FleetTurn Nat :=
  answers.foldl (fun turn answer => Turn.andThen turn (component.answer answer.1 0 answer.2))
    (component.start 0 0 .fill fresh)

/-- A fleet that was filled and waits for its first use. -/
inductive Founded (settings : PoolSettings) : Fleet Nat → Prop where
  | filled {fresh : Fleet Nat} {answers : List (Nat × DatagramSender.Answer)}
      (created : create settings = .ok (.ok fresh))
      (ended : .ends 0 (.filled (.ok ())) ∈ told (filling fresh answers).2) :
      Founded settings (filling fresh answers).1

/-- A sender that nobody uses and that was connected. -/
structure Equipped (address : Address) (sender : DatagramSender Nat) : Prop where
  idle : sender.Idle
  lasting : sender.wasConnected = true
  address : sender.sendAddress = address

/-- The next sender of a fleet. -/
def recruit (fleet : Fleet Nat) : DatagramSender Nat where
  bindAddress := fleet.bindAddress
  sendAddress := fleet.sendAddress
  limits := fleet.limits

/-- The fleet has no senders but those that were connected. -/
structure Manned (count : Nat) (fleet : Fleet Nat) : Prop where
  count : fleet.senders.length = count
  equipped : ∀ sender ∈ fleet.senders, Equipped fleet.sendAddress sender

/-- How far a new fleet has come, and what was heard of it. -/
inductive Fills (size timeout : Nat) (address : Address) : Fleet Nat → List Deed → Prop where
  /-- The latest sender waits for its first socket. -/
  | opens {fleet : Fleet Nat} {count : Nat} {deeds : List Deed} (more : count < size)
      (manned : Manned count fleet) (same : fleet.sendAddress = address)
      (goesOn : .ends 0 (.filled (.ok ())) ∉ deeds) :
      Fills size timeout address
        { fleet with
          pool := { stocked size timeout count with calls := [(0, .joining count)] }
          senders := fleet.senders ++ [fleet.recruit.numbered.used 0 (.opening 0)] }
        deeds
  | ready {fleet : Fleet Nat} {deeds : List Deed} (manned : Manned size fleet)
      (same : fleet.sendAddress = address) :
      Fills size timeout address { fleet with pool := stocked size timeout size } deeds
  | fails {fleet : Fleet Nat} {deeds : List Deed} (idle : fleet.pool.calls = [])
      (failed : .ends 0 (.filled (.ok ())) ∉ deeds) : Fills size timeout address fleet deeds

variable {size timeout count now : Nat} {address : Address} {fleet : Fleet Nat}
  {deeds : List Deed}

/-- A sender is made, or the settings of the fleet do not allow it. -/
theorem enlist_cases (fleet : Fleet Nat) :
    fleet.enlist = ({ fleet with senders := fleet.senders ++ [fleet.recruit] }, .ok ()) ∨
      ∃ failure, fleet.enlist = (fleet, .error failure) := by
  cases checked : fleet.limits.check with
  | error fault =>
      refine .inr ⟨fault.toFailure, ?_⟩
      simp [enlist, DatagramSender.create, checked, bind, Except.bind]
  | ok _ =>
      refine .inl ?_
      simp [enlist, DatagramSender.create, checked, bind, Except.bind, pure, Except.pure, recruit]

/-- The next sender is made and asks for its first socket, or the fleet can not be filled. -/
theorem leads_create (more : count < size) (manned : Manned count fleet) (now : Nat) :
    ∃ steps last added, steps ≤ 4 ∧
      Leads now steps [.ofPool (.order 0 (.create count))]
        { fleet with
          pool := { stocked size timeout count with calls := [(0, .creating count)] } }
        last added ∧
      (.ends 0 (.filled (.ok ())) ∉ deeds →
        Fills size timeout fleet.sendAddress last (deeds ++ added)) := by
  let begun : Fleet Nat :=
    { fleet with pool := { stocked size timeout count with calls := [(0, .creating count)] } }
  rcases begun.enlist_cases with made | ⟨failure, refused⟩
  · let grown : Fleet Nat :=
      { fleet with
        pool := { stocked size timeout count with calls := [(0, .joining count)] }
        senders := fleet.senders ++ [fleet.recruit] }
    have carried : begun.carryOut now (.ofPool (.order 0 (.create count))) =
        (grown, [.ofPool (.order 0 (.connect count))], []) := by
      simp only [carryOut, toCall?, made]
      rfl
    have known : grown.senders[count]? = some fleet.recruit := by
      rw [← manned.count]
      exact List.getElem?_concat_length
    have led := Leads.carries carried
      (@leads_connect_bare now count grown fleet.recruit known ⟨rfl, rfl⟩ rfl 0)
    refine ⟨3, _, _, by omega, led, fun goesOn => ?_⟩
    have placed : grown.posted count (fleet.recruit.numbered.used 0 (.opening 0)) =
        { fleet with
          pool := { stocked size timeout count with calls := [(0, .joining count)] }
          senders := fleet.senders ++ [fleet.recruit.numbered.used 0 (.opening 0)] } := by
      simp [posted, grown, ← manned.count]
    have started := @Fills.opens size timeout fleet.sendAddress fleet count
      (deeds ++ [.asks 0 { sender := count, order := .openSocket 0 }]) more manned rfl
      (by simpa using goesOn)
    rw [← placed] at started
    exact started
  · have carried : begun.carryOut now (.ofPool (.order 0 (.create count))) =
        ({ begun with pool := stocked size timeout count },
          [.ofPool (.done 0 (.filled (.error failure)))], []) := by
      simp only [carryOut, toCall?, refused]
      rfl
    have led := Leads.carries carried (Leads.rests.ends 0 (.filled (.error failure)))
    refine ⟨2, _, _, by omega, led, fun goesOn => .fails rfl ?_⟩
    simpa [told] using goesOn

/-- A new fleet goes on to its next sender, or is ready. -/
theorem leads_fillNext (within : count ≤ size) (manned : Manned count fleet)
    {calls : List (Nat × Pool.Stage)}
    (alone : (calls.filter fun call => call.1 != 0) = []) (now : Nat) :
    let turn := ({ stocked size timeout count with calls } : Pool Nat).fillNext 0
    ∃ steps last added, steps ≤ 4 ∧
      Leads now steps (turn.2.map .ofPool) { fleet with pool := turn.1 } last added ∧
      (.ends 0 (.filled (.ok ())) ∉ deeds →
        Fills size timeout fleet.sendAddress last (deeds ++ added)) := by
  intro turn
  by_cases more : count < size
  · have begun : turn = _ := Pool.fillNext_of_lt more alone
    rw [begun]
    exact leads_create more manned now
  · obtain rfl : count = size := Nat.le_antisymm within (Nat.le_of_not_lt more)
    have full : turn = _ := Pool.fillNext_of_full alone
    rw [full]
    exact ⟨1, _, _, by omega, Leads.rests.ends 0 _, fun _ => .ready manned rfl⟩

/-- The latest sender has its first socket, and the fleet goes on. -/
theorem leads_connected (more : count < size) (manned : Manned count fleet)
    (goesOn : .ends 0 (.filled (.ok ())) ∉ deeds) (result : Except Failure Unit) (now : Nat) :
    ∃ steps last added, steps ≤ 5 ∧
      Leads now steps [.ofSender count (.done 0 (.connected result))]
        { fleet with
          pool := { stocked size timeout count with calls := [(0, .joining count)] }
          senders := fleet.senders ++
            [((fleet.recruit.numbered.used 0 (.opening 0)).install 0 result).freed] }
        last added ∧ Fills size timeout fleet.sendAddress last (deeds ++ added) := by
  cases result with
  | ok _ =>
      let grown : Fleet Nat :=
        { fleet with
          senders := fleet.senders ++
            [((fleet.recruit.numbered.used 0 (.opening 0)).install 0 (.ok ())).freed] }
      have crew : Manned (count + 1) grown := by
        refine ⟨by simp [grown, manned.count], fun sender among => ?_⟩
        rcases List.mem_append.mp among with former | new
        · exact manned.equipped sender former
        · obtain rfl := List.mem_singleton.mp new
          exact ⟨⟨rfl, rfl⟩, rfl, rfl⟩
      obtain ⟨steps, last, added, few, led, goes⟩ := @leads_fillNext size timeout
        (count + 1) grown deeds more crew [(0, .joining count)] rfl now
      rw [← Pool.takeIn_stocked more] at led
      refine ⟨steps + 1, last, added, by omega, .answers rfl ?_ count, goes goesOn⟩
      rw [List.append_nil]
      exact led
  | error failure =>
      refine ⟨2, _, _, by omega, .answers rfl (Leads.rests.ends 0 _) count, .fails rfl ?_⟩
      simpa using goesOn

/-- An answer brings a new fleet forward, or does not matter to it. -/
theorem Fills.answer (fills : Fills size timeout address fleet deeds) (now : Nat)
    (answer : DatagramSender.Answer) :
    ∃ last added, Reaches (component.answer now 0 answer fleet) last added ∧
      Fills size timeout address last (deeds ++ added) := by
  have nothing {fleet : Fleet Nat} (fills : Fills size timeout address fleet deeds)
      (still : Reaches (fleet.ofSender now 0 (·.answered 0 answer)) fleet []) :
      ∃ last added, Reaches (component.answer now 0 answer fleet) last added ∧
        Fills size timeout address last (deeds ++ added) :=
    ⟨fleet, [], still, by rwa [List.append_nil]⟩
  cases fills with
  | ready manned same =>
      exact nothing (.ready manned same) (reaches_of_none rfl now _)
  | fails idle failed =>
      have missed : fleet.pool.calls.lookup 0 = none := by
        rw [idle]
        rfl
      exact nothing (.fails idle failed) (reaches_of_none (sender?_of_missed missed) now _)
  | @opens fleet count _ more manned same goesOn =>
      let latest : DatagramSender Nat := fleet.recruit.numbered.used 0 (.opening 0)
      have used : latest.Used 0 (.opening 0) := fleet.recruit.numbered.used_used 0 _
      let waiting : Fleet Nat :=
        { fleet with
          pool := { stocked size timeout count with calls := [(0, .joining count)] }
          senders := fleet.senders ++ [latest] }
      have known : waiting.senders[count]? = some latest := by
        rw [← manned.count]
        exact List.getElem?_concat_length
      cases answer with
      | closed | sent =>
          exact nothing (.opens more manned same goesOn)
            (reaches_of_same rfl known (used.answered_other rfl) now)
      | opened result =>
          obtain ⟨steps, last, added, few, led, fills⟩ :=
            leads_connected more manned goesOn result now
          rw [same] at fills
          refine ⟨last, added, ?_, fills⟩
          have placed : waiting.posted count (latest.install 0 result).freed =
              { fleet with
                pool := waiting.pool
                senders := fleet.senders ++ [(latest.install 0 result).freed] } := by
            simp [posted, waiting, ← manned.count]
          have uses : waiting.sender? 0 = some count := rfl
          refine Leads.reaches_of_sender uses known (used.answered_opened result) ?_
            (show steps ≤ 16 + 1 by omega)
          rw [placed]
          exact led

/-- Answers bring a new fleet forward. -/
theorem Fills.run {turn : FleetTurn Nat} (fills : Fills size timeout address turn.1 (told turn.2))
    (answers : List (Nat × DatagramSender.Answer)) :
    let filled := answers.foldl
      (fun turn answer => Turn.andThen turn (component.answer answer.1 0 answer.2)) turn
    Fills size timeout address filled.1 (told filled.2) := by
  induction answers generalizing turn with
  | nil => exact fills
  | cons answer rest ih =>
      obtain ⟨last, added, ⟨rfl, rfl⟩, goes⟩ := fills.answer answer.1 answer.2
      refine ih ?_
      rwa [Turn.andThen_fst, Turn.andThen_snd, told_append]

theorem create_eq_ok {settings : PoolSettings} {fresh : Fleet Nat}
    (created : create settings = .ok (.ok fresh)) :
    ∃ pool, Pool.create settings.size settings.timeoutMillis = .ok pool ∧
      fresh =
        { pool
          bindAddress := settings.bindAddress
          sendAddress := settings.sendAddress
          limits := settings.limits } := by
  cases checked : settings.check with
  | error fault => simp [create, checked, bind, Except.bind] at created
  | ok _ =>
      cases made :
        (Pool.create settings.size settings.timeoutMillis : Except Defect (Pool Nat)) with
      | error defect =>
          simp [create, checked, made, bind, Except.bind, pure, Except.pure] at created
      | ok pool =>
          simp only [create, checked, made, bind, Except.bind, pure, Except.pure,
            Except.ok.injEq] at created
          exact ⟨pool, rfl, created.symm⟩

/-- A fleet that was filled has all its senders, and nobody uses any of them. -/
theorem Founded.eq_stocked {settings : PoolSettings} (founded : Founded settings fleet) :
    fleet.pool = stocked settings.size settings.timeoutMillis settings.size ∧
      fleet.sendAddress = settings.sendAddress ∧ Manned settings.size fleet ∧
      ∃ pool : Pool Nat, Pool.create settings.size settings.timeoutMillis = .ok pool := by
  cases founded with
  | @filled fresh answers created ended =>
      obtain ⟨pool, made, rfl⟩ := create_eq_ok created
      obtain ⟨positive, rfl⟩ := Pool.create_eq_ok made
      let fresh : Fleet Nat :=
        { pool := stocked settings.size settings.timeoutMillis 0
          bindAddress := settings.bindAddress
          sendAddress := settings.sendAddress
          limits := settings.limits }
      obtain ⟨steps, last, added, few, led, goes⟩ := @leads_fillNext settings.size
        settings.timeoutMillis 0 fresh [] (Nat.zero_le _) ⟨rfl, nofun⟩ [] rfl 0
      obtain ⟨rfl, rfl⟩ := @Leads.reaches_of_pool 0 steps fresh last added
        (fresh.pool.begin 0 0 .fill) led (by omega)
      have fills := Fills.run (goes List.not_mem_nil) answers
      show (filling fresh answers).1.pool = _ ∧ _
      change Fills _ _ _ (filling fresh answers).1 (told (filling fresh answers).2) at fills
      generalize filling fresh answers = turn at fills ended
      obtain ⟨fleet, effects⟩ := turn
      cases fills with
      | opens _ _ _ goesOn => exact absurd ended goesOn
      | fails _ failed => exact absurd ended failed
      | ready manned same => exact ⟨rfl, same, ⟨manned.count, manned.equipped⟩, _, made⟩

end Fleet

end ReliableTransport
