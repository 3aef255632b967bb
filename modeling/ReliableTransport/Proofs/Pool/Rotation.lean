import Mathlib.Data.List.Rotate
import ReliableTransport.Proofs.Pool.Tales
/-!
This module says how the senders of a pool take turns. A send takes the first of the free senders
and puts it back behind the last one, however it ends. So sends that do not overlap go round the
pool.
-/

namespace ReliableTransport

namespace Pool

namespace Service

variable {size number sender : Nat} {service after : Service} {event : Event} {stage : Stage}
  {data : Bytes} {heard : List Deed} {calls : List (Nat × Stage)} {free : List Nat}

/-- What becomes of a send that has a sender: it keeps it, or it is over and the sender is free
behind all others. -/
theorem Acts.keeps_or_returns (acts : Acts service number data event heard calls free)
    (alone : service.pool.calls = [(number, stage)]) (leased : stage.leased? = some sender)
    (begun : service.requests.length ≠ number) :
    (calls = [] ∧ free = service.pool.queue.items ++ [sender]) ∨
      ∃ next : Stage, calls = [(number, next)] ∧ next.leased? = some sender ∧
        free = service.pool.queue.items := by
  have found : service.pool.calls.lookup number = some stage := by simp [alone]
  have removed : (service.pool.remove number).calls = [] := by simp [remove, alone]
  have parked (next : Stage) : (service.pool.park number next).calls = [(number, next)] := by
    simp [park, alone]
  have unsought (seeks : Seeks service number data event) : False := by
    cases seeks with
    | begins new => exact begun new
    | resumes waits =>
        obtain rfl := Option.some.inj (found.symm.trans waits)
        cases leased
  cases acts with
  | refuses new => exact absurd new begun
  | gets seeks | waits seeks | late seeks => exact (unsought seeks).elim
  | breaks sending =>
      obtain rfl := Option.some.inj (found.symm.trans sending)
      exact .inr ⟨_, parked _, leased, rfl⟩
  | returns had concludes =>
      obtain rfl := Option.some.inj (found.symm.trans had)
      obtain rfl := Option.some.inj (leased.symm.trans concludes.leased?)
      exact .inl ⟨removed, rfl⟩
  | leaves waits =>
      obtain rfl := Option.some.inj (found.symm.trans waits)
      cases leased
  | yields had lent =>
      obtain rfl := Option.some.inj (found.symm.trans had)
      obtain rfl := Option.some.inj (leased.symm.trans lent)
      exact .inl ⟨removed, rfl⟩
  | stays => exact .inr ⟨stage, alone, leased, rfl⟩

/-- The sender at the front of a round goes to its end. -/
theorem rotate_range (positive : 0 < size) (count : Nat) :
    ∃ rest, (List.range size).rotate count = count % size :: rest ∧
      (List.range size).rotate (count + 1) = rest ++ [count % size] := by
  have round : (List.range size).length = size := List.length_range
  cases turned : (List.range size).rotate count with
  | nil =>
      have none := congrArg List.length turned
      rw [List.length_rotate, round] at none
      exact absurd none (Nat.ne_of_gt positive)
  | cons first rest =>
      have front : first = count % size := by
        have same : ((List.range size).rotate count)[0]? = some first := by rw [turned]; rfl
        rw [List.getElem?_rotate (by simpa using positive)] at same
        simpa [Nat.mod_lt _ positive] using same.symm
      subst front
      refine ⟨rest, rfl, ?_⟩
      rw [← List.rotate_rotate, turned, List.rotate_cons_succ, List.rotate_zero]

theorem closed_seek (service : Service) (number : Nat) (request : Request)
    (look : BoundedQueue.Look Nat Nat) :
    (service.seek number request look).pool.closed = service.pool.closed := by
  rw [seek]
  split <;> rfl

/-- Only a close shuts a pool. -/
theorem Happens.closed_of_ne (happens : service.Happens event after)
    (sends : event ≠ .request .close) : after.pool.closed = service.pool.closed := by
  cases happens with
  | succeeds | closes => exact absurd rfl sends
  | sends | resumes | retires => exact closed_seek _ _ _ _
  | refuses | returns | reconnects | finishes | leaves | yields | loses | stays | passes => rfl

/-- An event that finds no call that it matters to leaves everything as it is. -/
theorem step_of_missed (orderly : Orderly size service {})
    (missed : service.reaches event = false) : service.step event = service := by
  rw [step, orderly.turn_of_missed missed, note_of_missed missed, took_nothing]

end Service

open Service (Event)

/-- Sends that do not overlap. Each of them begins when no other call runs. -/
def Service.Apart (service : Service) (events : List Event) : Prop :=
  ∀ front request back, events = front ++ .request request :: back →
    (service.run front).pool.calls = [] ∧ ∃ data, request = .send data

theorem Service.apart_nil (service : Service) : service.Apart [] := by
  intro front request back split
  exact absurd split.symm (List.append_ne_nil_of_right_ne_nil front (List.cons_ne_nil _ back))

theorem Service.apart_cons {service : Service} {event : Event} {rest : List Event} :
    service.Apart (event :: rest) ↔
      (∀ request, event = .request request →
        service.pool.calls = [] ∧ ∃ data, request = .send data) ∧
        (service.step event).Apart rest := by
  refine ⟨fun apart => ⟨fun request same => apart [] request rest (by rw [same]; rfl), ?_⟩, ?_⟩
  · intro front request back split
    exact apart (event :: front) request back (by rw [split]; rfl)
  · rintro ⟨first, later⟩ front request back split
    cases front with
    | nil => exact first request (List.cons.inj split).1
    | cons _ front =>
        obtain ⟨rfl, behind⟩ := List.cons.inj split
        exact later front request back behind

/-- A pool whose senders take turns. -/
inductive Service.Rotates (size : Nat) (service : Service) : Prop where
  | idle (none : service.pool.calls = [])
      (free : service.pool.queue.items = (List.range size).rotate service.requests.length) :
      Rotates size service
  | busy {last : Nat} {stage : Stage} (begun : service.requests.length = last + 1)
      (alone : service.pool.calls = [(last, stage)])
      (leased : stage.leased? = some (last % size))
      (free : service.pool.queue.items ++ [last % size] = (List.range size).rotate (last + 1)) :
      Rotates size service

namespace Diary

variable {size number : Nat} {diary : Diary}

/-- A diary of sends that go round a pool. -/
structure Rotated (size : Nat) (diary : Diary) : Prop where
  narrated : Narrated size diary
  positive : 0 < size
  unshut : diary.service.pool.closed = false
  rotates : diary.service.Rotates size
  sends : ∀ request ∈ diary.service.requests, ∃ data, request = .send data
  lent : ∀ number data, diary.service.requests[number]? = some (.send data) →
    .asks number (.send (number % size) data) ∈ diary.deeds

/-- A send that begins while no other runs gets the sender whose turn it is. -/
theorem Rotated.gets (rotated : Rotated size diary) (idle : diary.service.pool.calls = [])
    (data : Bytes) :
    let count := diary.service.requests.length
    let after := diary.service.step (.request (.send data))
    diary.service.adds (.request (.send data)) = [.asks count (.send (count % size) data)] ∧
      after.pool.calls = [(count, .sending (count % size))] ∧
      after.pool.queue.items ++ [count % size] = (List.range size).rotate (count + 1) := by
  intro count after
  have caller : diary.service.caller? (.request (.send data)) = some count := rfl
  have acts := rotated.narrated.orderly.acts caller List.getElem?_concat_length
  have free : diary.service.pool.queue.items = (List.range size).rotate count := by
    cases rotated.rotates with
    | idle _ free => exact free
    | busy _ alone => cases idle.symm.trans alone
  obtain ⟨rest, turned, next⟩ := Service.rotate_range rotated.positive count
  have parked (stage : Stage) : (diary.service.pool.park count stage).calls = [(count, stage)] := by
    simp [park, idle]
  generalize diary.service.adds _ = heard, after.pool.calls = calls,
    after.pool.queue.items = left at acts
  cases acts with
  | refuses _ shut => cases rotated.unshut.symm.trans shut
  | gets _ first =>
      rw [free, turned] at first
      obtain ⟨rfl, rfl⟩ := List.cons.inj first
      exact ⟨rfl, parked _, next.symm⟩
  | waits _ unlucky | late _ unlucky =>
      rw [free, turned] at unlucky
      cases unlucky
  | stays missed => cases missed

theorem Rotated.request (rotated : Rotated size diary) (idle : diary.service.pool.calls = [])
    (data : Bytes) : Rotated size (diary.step (.request (.send data))) := by
  obtain ⟨adds, calls, free⟩ := rotated.gets idle data
  have happens := rotated.narrated.orderly.happens (.request (.send data))
  refine ⟨rotated.narrated.step _, rotated.positive,
    (happens.closed_of_ne (by simp)).trans rotated.unshut,
    .busy List.length_append calls rfl free, fun request among => ?_,
    fun number sent known => ?_⟩
  · rcases List.mem_append.mp among with former | added
    · exact rotated.sends request former
    · exact ⟨data, List.mem_singleton.mp added⟩
  · rcases known_step known with former | ⟨new, same⟩
    · exact List.mem_append_left _ (rotated.lent number sent former)
    · obtain rfl := new
      cases same
      refine List.mem_append_right _ ?_
      rw [adds]
      exact List.mem_cons_self

/-- A send that runs keeps its sender, or puts it back where it belongs. -/
theorem Rotated.goesOn (rotated : Rotated size diary) {event : Event}
    (caller : diary.service.caller? event = some number)
    (kept : (diary.service.step event).requests = diary.service.requests)
    (reached : diary.service.pool.calls.lookup number ≠ none) :
    (diary.service.step event).Rotates size := by
  cases rotated.rotates with
  | idle none => simp [none] at reached
  | @busy last stage begun alone leased free =>
      obtain rfl : number = last := by
        by_contra other
        rw [alone, List.lookup_cons, beq_eq_false_iff_ne.mpr other] at reached
        exact reached rfl
      have least : number < diary.service.requests.length := by omega
      obtain ⟨data, same⟩ := rotated.sends _ (List.getElem_mem least)
      have known : (diary.service.step event).requests[number]? = some (.send data) := by
        rw [kept, List.getElem?_eq_getElem least, same]
      have acts := rotated.narrated.orderly.acts caller known
      rcases acts.keeps_or_returns alone leased (by omega) with
        ⟨none, returned⟩ | ⟨next, calls, still, same⟩
      · exact .idle none (by rw [returned, free, kept, begun])
      · exact .busy (by rw [kept, begun]) calls still (by rw [same, free])

/-- A pool goes on when its event begins no call. -/
theorem Rotated.later (rotated : Rotated size diary) {event : Event}
    (sends : event ≠ .request .close)
    (kept : (diary.service.step event).requests = diary.service.requests)
    (rotates : (diary.service.step event).Rotates size) : Rotated size (diary.step event) := by
  have happens := rotated.narrated.orderly.happens event
  refine ⟨rotated.narrated.step event, rotated.positive,
    (happens.closed_of_ne sends).trans rotated.unshut, rotates, ?_, fun number data known => ?_⟩
  · show ∀ request ∈ (diary.service.step event).requests, _
    rw [kept]
    exact rotated.sends
  · refine List.mem_append_left _ (rotated.lent number data ?_)
    rw [← kept]
    exact known

theorem Rotated.step (rotated : Rotated size diary) {event : Event}
    (apart : ∀ request, event = .request request →
      diary.service.pool.calls = [] ∧ ∃ data, request = .send data) :
    Rotated size (diary.step event) := by
  cases event with
  | request request =>
      obtain ⟨idle, data, rfl⟩ := apart request rfl
      exact rotated.request idle data
  | pass millis =>
      refine rotated.later (by simp) rfl ?_
      cases rotated.rotates with
      | idle none free => exact .idle none free
      | busy begun alone leased free => exact .busy begun alone leased free
  | turn number | answer number _ | abandon number =>
      refine rotated.later (by simp) rfl ?_
      by_cases missed : diary.service.pool.calls.lookup number = none
      · rw [Service.step_of_missed rotated.narrated.orderly (by simp [Service.reaches, missed])]
        exact rotated.rotates
      · exact rotated.goesOn rfl rfl missed

theorem Rotated.run (rotated : Rotated size diary) (events : List Event)
    (apart : diary.service.Apart events) : Rotated size (diary.run events) := by
  induction events generalizing diary with
  | nil => exact rotated
  | cons event rest ih =>
      obtain ⟨first, later⟩ := Service.apart_cons.mp apart
      exact ih (rotated.step first) later

theorem rotated_founded {timeout : Nat} {service : Service}
    (founded : Service.Founded size timeout service) : Rotated size { service } := by
  have narrated := narrated_founded founded
  obtain ⟨positive, _, _, _, rfl⟩ := founded.eq_stocked
  exact ⟨narrated, positive, rfl, .idle rfl (List.rotate_zero _).symm,
    (fun _ among => by cases among), fun _ _ known => by cases known⟩

/-- Whatever happens on a filled pool, the diary tells of each send what became of it. A send that
has got a sender makes one send of its data on it. If that failed for a broken connection, it lets
the same sender connect again, once, and otherwise it does not. It answers what the sender answered
to the send, and then its sender is free behind all others. Sends that do not overlap go round the
pool, even if some of them are given up. -/
theorem run_serves {timeout : Nat} {service : Service}
    (founded : Service.Founded size timeout service) (events : List Event) :
    let diary := ({ service } : Diary).run events
    let after := diary.service
    after = service.run events ∧
      (∀ number data, after.requests[number]? = some (.send data) →
        (∀ stage sender, after.pool.calls.lookup number = some stage →
          stage.leased? = some sender → .asks number (.send sender data) ∈ diary.deeds) ∧
        ∀ sender sent, .asks number (.send sender sent) ∈ diary.deeds →
          sent = data ∧
            Service.Serves number sender data (after.pool.calls.lookup number)
              (diary.own number) ∧
            ∀ event result, .ends number result ∈ after.adds event →
              (after.step event).pool.queue.items = after.pool.queue.items ++ [sender]) ∧
      (service.Apart events → ∀ number data, after.requests[number]? = some (.send data) →
        .asks number (.send (number % size) data) ∈ diary.deeds) := by
  intro diary after
  have narrated : Narrated size diary := (narrated_founded founded).run events
  refine ⟨service_run _ events, fun number data known => ?_, fun apart => ?_⟩
  · have tale := narrated.tales number data known
    refine ⟨fun stage sender found leased => ?_, fun sender sent asked => ?_⟩
    · rw [found] at tale
      exact (mem_about.mp (tale.asks leased)).1
    · have told : .asks number (.send sender sent) ∈ diary.own number := mem_about.mpr ⟨asked, rfl⟩
      obtain ⟨rfl, serves⟩ := tale.of_asks told
      refine ⟨rfl, serves, fun event result ends => ?_⟩
      have caller : after.caller? event = some number := caller_of_adds ends
      have still : (after.step event).requests[number]? = some (.send sent) := by
        cases event with
        | request => exact Service.known_append known
        | turn | answer | abandon | pass => exact known
      exact (narrated.orderly.acts caller still).returned tale
        (fun ahead => narrated.untold ahead) told ends
  · exact ((rotated_founded founded).run events apart).lent

/-- Four sends on two senders, one after the other: a broken connection that is not restored, under
a context, then a success, a send that is given up, and a failure for another reason. -/
def turns : List Event :=
  [.request (.send [1]), .answer 0 (.sent (.error (.context "send" (.io .brokenPipe)))),
    .answer 0 (.connected (.error (.io .connectionRefused))),
    .request (.send [2]), .answer 1 (.sent (.ok 1)),
    .request (.send [3]), .abandon 2,
    .request (.send [4]), .answer 3 (.sent (.error (.io .permissionDenied)))]

theorem run_serves_turns :
    let diary := ({ service := Service.opened 2 100 } : Diary).run turns
    Service.Founded 2 100 (Service.opened 2 100) ∧ (Service.opened 2 100).Apart turns ∧
      diary.own 0 =
        [.asks 0 (.send 0 [1]), .hears 0 (.sent (.error (.context "send" (.io .brokenPipe)))),
          .asks 0 (.connect 0), .hears 0 (.connected (.error (.io .connectionRefused))),
          .ends 0 (.sent (.error (.context "send" (.io .brokenPipe))))] ∧
      diary.own 1 =
        [.asks 1 (.send 1 [2]), .hears 1 (.sent (.ok 1)), .ends 1 (.sent (.ok 1))] ∧
      diary.own 2 = [.asks 2 (.send 0 [3]), .drops 2] ∧
      Service.Serves 3 1 [4] none (diary.own 3) ∧
      diary.service.pool.queue.items = [0, 1] := by
  have founded : Service.Founded 2 100 (Service.opened 2 100) :=
    Service.opened_founded (by decide) (by decide) 100
  have apart : (Service.opened 2 100).Apart turns := by
    simp only [turns, Service.apart_cons]
    refine ⟨?_, ?_, ?_, ?_, ?_, ?_, ?_, ?_, ?_, Service.apart_nil _⟩ <;> rintro _ ⟨⟩
    -- The other events begin no send.
    all_goals exact ⟨rfl, _, rfl⟩
  obtain ⟨_, tells, round⟩ := run_serves founded turns
  have asked := round apart 3 [4] rfl
  have last := ((tells 3 [4] rfl).2 _ _ asked).2.1
  exact ⟨founded, apart, rfl, rfl, rfl, last, rfl⟩

end Diary

end Pool

end ReliableTransport
