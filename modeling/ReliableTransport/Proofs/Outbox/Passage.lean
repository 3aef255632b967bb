import ReliableTransport.Proofs.Outbox.Closing
import ReliableTransport.Proofs.Outbox.Passing
/-!
This module keeps a log of the passes of an outbox in a run. While a batched outbox has its
transport, every accepted message is in one pass or queued, the sends are the frames that the passes
are packed into, and handlers are told of failed sends and of messages that no batch takes.
-/

namespace ReliableTransport

namespace Outbox

open Mailbox (Role)

variable {Handler : Type} {outbox : Outbox Handler} {kind : Batch} {packageSize : Nat}

section Queue

/-- A pass takes its messages from the front of the queue, unless the worker breaks down. -/
theorem takePass_queue {Item : Type} (mailbox : Mailbox Item) :
    mailbox.takePass.1.worker = .broken ∨
      mailbox.queue = mailbox.takePass.2.getD [] ++ mailbox.takePass.1.queue := by
  unfold Mailbox.takePass
  split
  · exact .inr rfl
  · split
    · exact .inl rfl
    · split
      · split <;> exact .inr rfl
      · exact .inr (List.take_append_drop mailbox.limit mailbox.queue).symm

/-- The passes that begin take their messages from the queue in order. -/
theorem beginPasses_queue (passes : Nat) (sized : outbox.Sized) (emptied : outbox.Emptied) :
    let turn : Turn (Outbox Handler) Role (Order Handler) Reply := outbox.beginPasses passes
    turn.1.mailbox.worker = .broken ∨
      outbox.mailbox.queue = (outbox.begunPasses passes).flatten ++ turn.1.mailbox.queue := by
  induction passes generalizing outbox with
  | zero => exact .inr rfl
  | succ passes ih =>
      have queue := takePass_queue outbox.mailbox
      rw [beginPasses, begunPasses]
      cases began : outbox.mailbox.takePass with
      | mk mailbox items =>
          rw [began] at queue
          cases items with
          | none => exact queue
          | some messages =>
              have busy := Mailbox.worker_of_takePass began
              have queued : outbox.mailbox.queue = messages ++ mailbox.queue :=
                queue.resolve_left (by simp [busy])
              have halts : Halts { outbox with mailbox }
                  ({ outbox with mailbox }.workOn messages : Progress Handler Reply) :=
                @workOn_halts _ _ { outbox with mailbox } sized emptied messages
              simp only
              generalize ({ outbox with mailbox }.workOn messages : Progress Handler Reply) =
                progress at halts ⊢
              cases halts with
              | @finishes batch effects sized emptied bounds mute =>
                  refine (@ih { outbox with mailbox := mailbox.endPass, batch } sized
                    emptied).imp id fun rest => ?_
                  rw [queued, if_pos rfl, List.flatten_cons, List.append_assoc]
                  exact congrArg (messages ++ ·) rest
              | departs => exact .inr (by simp [queued])
              | breaks => exact .inl rfl

end Queue

namespace Dispatch

/-- The passes that begin with an event. -/
def passes (dispatch : Dispatch Handler) : Event Handler → List (List Bytes)
  | .resume .worker _ => if dispatch.outbox.flight.isSome then [] else dispatch.outbox.taken
  | .land _ =>
    match dispatch.outbox.flight, dispatch.sends.getLast? with
    | some flight, some send => ((dispatch.outbox.settled send.ending).workOn flight.rest).taken
    | _, _ => []
  | _ => []

end Dispatch

/-- A run of an outbox, the messages that it accepted and the passes that its worker began. -/
structure Passage (Handler : Type) where
  dispatch : Dispatch Handler
  accepted : List Bytes := []
  passes : List (List Bytes) := []

namespace Passage

open Dispatch (Event)

def step (passage : Passage Handler) (event : Event Handler) : Passage Handler where
  dispatch := passage.dispatch.step event
  accepted := passage.accepted ++ passage.dispatch.accepts event
  passes := passage.passes ++ passage.dispatch.passes event

def run (passage : Passage Handler) (events : List (Event Handler)) : Passage Handler :=
  events.foldl step passage

/-- An outbox that did nothing yet. -/
def opened (outbox : Outbox Handler) : Passage Handler where
  dispatch := { outbox }

theorem run_dispatch (passage : Passage Handler) (events : List (Event Handler)) :
    (passage.run events).dispatch = passage.dispatch.run events := by
  induction events generalizing passage with
  | nil => rfl
  | cons event rest ih => exact ih (passage.step event)

theorem run_concat (passage : Passage Handler) (events : List (Event Handler))
    (event : Event Handler) :
    passage.run (events ++ [event]) = (passage.run events).step event :=
  List.foldl_concat step passage event events

end Passage

/-- The frames that are still to come in the pass that the worker is busy with. -/
def ahead (kind : Batch) (outbox : Outbox Handler) : List (List Bytes) :=
  outbox.flight.elim [] fun flight =>
    frames outbox.packageSize (kind.holding []) flight.rest

/-- Why the outside is asked for something: a send begins, a send has failed, or a message is
refused that no batch takes. -/
def Dispatch.Explains (dispatch : Dispatch Handler) (kind : Batch) (order : Order Handler) : Prop :=
  (∃ send ∈ dispatch.sends, order = .send send.delivery) ∨
    (∃ send ∈ dispatch.sends, ∃ handler failure, send.ending = .error failure ∧
      order = .report handler failure send.messages) ∨
    ∃ handler message, kind.admits message = false ∧
      order = .report handler (.invalidOperation .oversizeMessage) [message]

theorem begun_of_refusing {effects : List (Effect Role (Order Handler) Reply)}
    (refusing : Refusing kind effects) (messages : List Bytes) (ending : Except Failure Nat) :
    Send.begun messages ending effects = [] := by
  rw [Send.begun, List.filterMap_eq_nil_iff]
  intro order member
  obtain ⟨handler, message, _, rfl⟩ := refusing order member
  rfl

theorem Dispatch.Explains.mono {dispatch later : Dispatch Handler} {order : Order Handler}
    (explains : dispatch.Explains kind order) (more : dispatch.sends ⊆ later.sends) :
    later.Explains kind order := by
  rcases explains with ⟨send, member, same⟩ | ⟨send, member, ended⟩ | refused
  · exact .inl ⟨send, more member, same⟩
  · exact .inr (.inl ⟨send, more member, ended⟩)
  · exact .inr (.inr refused)

/-- The worker has a turn with the event. -/
def Dispatch.Event.works : Dispatch.Event Handler → Bool
  | .resume .worker _ | .land _ => true
  | _ => false

/-- The queue takes the accepted messages with an event that gives the worker no turn. -/
theorem Dispatch.queue_of_idle (dispatch : Dispatch Handler) {event : Event Handler}
    (idle : event.works = false) :
    (dispatch.turn event).1.mailbox.queue =
      dispatch.outbox.mailbox.queue ++ dispatch.accepts event := by
  have silent (event : Event Handler) (none : event.messages = []) :
      dispatch.outbox.mailbox.queue ++ dispatch.accepts event =
        dispatch.outbox.mailbox.queue := by
    rw [accepts, none, ite_self, List.append_nil]
  cases event with
  | call caller made =>
      cases runs : made.runs with
      | true =>
          obtain ⟨handlers, effects, started, _⟩ :=
            dispatch.outbox.start_of_runs (.caller caller) runs
          show (dispatch.outbox.start (.caller caller) made).1.mailbox.queue = _
          rw [started]
          rfl
      | false =>
          cases made with
          | reset | dispose => exact (silent _ rfl).symm
          | close =>
              rw [silent _ rfl]
              obtain ⟨joiner, joined⟩ := dispatch.outbox.mailbox.join_eq (.caller caller)
              have kept := congrArg Mailbox.queue joined
              simp only [turn, component, start]
              split <;> exact kept
          | send | sendRange | deliver | subscribe | unsubscribe => cases runs
  | resume task ending =>
      cases task with
      | worker => cases idle
      | caller number =>
          rw [silent _ rfl]
          obtain ⟨joiner, left, _⟩ := dispatch.outbox.mailbox.unjoin_eq (.caller number)
          have kept := congrArg Mailbox.queue left
          simp only [turn, component]
          split
          · exact kept
          · rfl
  | land ending => cases idle
  | abandon task =>
      rw [silent _ rfl]
      obtain ⟨joiner, left, _⟩ := dispatch.outbox.mailbox.unjoin_eq task
      have kept := congrArg Mailbox.queue left
      exact kept

namespace Passage

open Dispatch (Event)

variable {passage : Passage Handler} {event : Event Handler}

/-- The log of a batched outbox that has its transport. -/
structure Filed (kind : Batch) (packageSize : Nat) (passage : Passage Handler) : Prop where
  sizes : Sizes kind packageSize
  coherent : passage.dispatch.Coherent
  same : passage.dispatch.outbox.packageSize = packageSize
  holds : ∃ held, passage.dispatch.outbox.batch = some (kind.holding held) ∧
    (passage.dispatch.outbox.flight = none → held = [])
  room : ∀ flight, passage.dispatch.outbox.flight = some flight → [] ∈ flight.rest →
    packageSize + Frame.lengthLength < Bytes.wordValues
  split : passage.dispatch.sends.map Send.messages ++ passage.dispatch.outbox.ahead kind =
    passage.passes.flatMap (frames packageSize (kind.holding []))
  written : ∀ send ∈ passage.dispatch.sends, send.delivery.Writes send.messages
  told : ∀ order ∈ Effect.orders passage.dispatch.effects, passage.dispatch.Explains kind order
  accepted : passage.dispatch.outbox.mailbox.worker ≠ .broken →
    passage.accepted = passage.passes.flatten ++ passage.dispatch.outbox.mailbox.queue

/-- An event that gives the worker no turn. -/
theorem Filed.keep (filed : Filed kind packageSize passage) {mailbox : Mailbox Bytes}
    {attached : Bool} {handlers : Registry Handler} {messageCount packageCount : UInt64}
    {effects : List (Effect Role (Order Handler) Reply)}
    (turned : passage.dispatch.turn event =
      ({ passage.dispatch.outbox with
        mailbox, attached, handlers, messageCount, packageCount }, effects))
    (quiet : Effect.orders effects = []) (idle : passage.dispatch.passes event = [])
    (worker : mailbox.worker = passage.dispatch.outbox.mailbox.worker)
    (queue : mailbox.queue =
      passage.dispatch.outbox.mailbox.queue ++ passage.dispatch.accepts event) :
    Filed kind packageSize (passage.step event) := by
  have coherent := (filed.coherent.step event).1
  have stepped : passage.step event =
      { dispatch :=
          { outbox :=
              { passage.dispatch.outbox with
                mailbox, attached, handlers, messageCount, packageCount }
            submitted := passage.dispatch.submitted ++ event.messages
            sends := passage.dispatch.sends
            effects := passage.dispatch.effects ++ effects }
        accepted := passage.accepted ++ passage.dispatch.accepts event
        passes := passage.passes } := by
    rw [step, Dispatch.step_eq turned, mute_of_orders quiet, idle, List.append_nil,
      List.append_nil]
  have same : passage.dispatch.step event = (passage.step event).dispatch := rfl
  rw [same, stepped] at coherent
  rw [stepped]
  refine ⟨filed.sizes, coherent, filed.same, filed.holds, filed.room, filed.split, filed.written,
    ?_, ?_⟩
  · intro order member
    rw [Effect.orders_append, quiet, List.append_nil] at member
    exact filed.told order member
  · intro alive
    have before := filed.accepted (worker ▸ alive)
    simp only [before, queue, List.append_assoc]

/-- What a turn reports and refuses is explained as what was asked for before. -/
theorem Filed.explains (filed : Filed kind packageSize passage)
    {told refused : List (Effect Role (Order Handler) Reply)}
    (explained : ∀ order ∈ Effect.orders told, passage.dispatch.Explains kind order)
    (refusing : Refusing kind refused) :
    ∀ order ∈ Effect.orders (passage.dispatch.effects ++ (told ++ refused)),
      passage.dispatch.Explains kind order := by
  intro order member
  rw [Effect.orders_append, Effect.orders_append] at member
  rcases List.mem_append.mp member with earlier | now
  · exact filed.told order earlier
  · rcases List.mem_append.mp now with reported | refused
    · exact explained order reported
    · exact .inr (.inr (refusing order refused))

/-- A turn of the worker that lays out the frames that are still to come, with those of the passes
that begin. -/
theorem Filed.advance (filed : Filed kind packageSize passage)
    {told : List (Effect Role (Order Handler) Reply)}
    {turn : Turn (Outbox Handler) Role (Order Handler) Reply}
    (turned : passage.dispatch.turn event = (turn.1, told ++ turn.2))
    (lays : Lays kind packageSize (passage.dispatch.outbox.ahead kind ++
      (passage.dispatch.passes event).flatMap (frames packageSize (kind.holding []))) turn)
    (quiet : Mute told)
    (explained : ∀ order ∈ Effect.orders told, passage.dispatch.Explains kind order)
    (silent : event.messages = [])
    (queue : turn.1.mailbox.worker = .broken ∨
      passage.dispatch.outbox.mailbox.worker ≠ .broken ∧ passage.dispatch.outbox.mailbox.queue =
        (passage.dispatch.passes event).flatten ++ turn.1.mailbox.queue) :
    Filed kind packageSize (passage.step event) := by
  have coherent := (filed.coherent.step event).1
  have accepts : passage.dispatch.accepts event = [] := by
    rw [Dispatch.accepts, silent, ite_self]
  have accepted (alive : turn.1.mailbox.worker ≠ .broken) :
      passage.accepted =
        (passage.passes ++ passage.dispatch.passes event).flatten ++ turn.1.mailbox.queue := by
    obtain ⟨before, split⟩ := queue.resolve_left alive
    rw [filed.accepted before, split, List.flatten_append, List.append_assoc]
  have split := congrArg (· ++ (passage.dispatch.passes event).flatMap
    (frames packageSize (kind.holding []))) filed.split
  simp only [← List.flatMap_append, List.append_assoc] at split
  rw [Dispatch.step_eq turned, begun_append, quiet, List.nil_append] at coherent
  rw [step, accepts, List.append_nil, Dispatch.step_eq turned, begun_append, quiet, List.nil_append]
  cases lays with
  | @rests outbox effects same landed fresh none refusing =>
      rw [none, List.append_nil] at split
      rw [begun_of_refusing refusing, List.append_nil] at coherent ⊢
      refine ⟨filed.sizes, coherent, same, ⟨[], fresh, fun _ => rfl⟩, ?_, ?_, filed.written,
        filed.explains explained refusing, accepted⟩
      · intro flight aloft
        simp [landed] at aloft
      · simpa [ahead, landed] using split
  | @flies outbox flight held delivery effects same aloft holds carries goes room written
      refusing =>
      rw [goes] at split
      have began : Send.begun outbox.carried event.ending
          (effects ++ [.order .worker (.send delivery)]) =
            [{ delivery, messages := held, ending := event.ending }] := by
        rw [begun_append, begun_of_refusing refusing, carries]
        rfl
      simp only [began] at coherent ⊢
      have more : passage.dispatch.sends ⊆ passage.dispatch.sends ++
          [{ delivery, messages := held, ending := event.ending }] :=
        List.subset_append_left _ _
      refine ⟨filed.sizes, coherent, same, ⟨held, holds, ?_⟩, ?_, ?_, ?_, ?_, accepted⟩
      · intro landed
        simp [aloft] at landed
      · intro other flies
        obtain rfl : flight = other := Option.some.inj (aloft.symm.trans flies)
        exact room
      · simpa [ahead, aloft, same] using split
      · intro send member
        rcases List.mem_append.mp member with earlier | latest
        · exact filed.written send earlier
        · rw [List.mem_singleton.mp latest]
          exact written
      · intro order member
        rw [← List.append_assoc told, ← List.append_assoc, Effect.orders_append] at member
        rcases List.mem_append.mp member with earlier | sent
        · exact (filed.explains explained refusing order earlier).mono more
        · exact .inl ⟨_, List.mem_concat_self, List.mem_singleton.mp sent⟩

/-- An event at which nothing happens. -/
theorem Filed.rest (filed : Filed kind packageSize passage)
    (turned : passage.dispatch.turn event = (passage.dispatch.outbox, []))
    (idle : passage.dispatch.passes event = []) (silent : event.messages = []) :
    Filed kind packageSize (passage.step event) := by
  refine filed.keep turned rfl idle rfl ?_
  rw [Dispatch.accepts, silent, ite_self, List.append_nil]

/-- The worker takes queued messages. -/
theorem Filed.works (filed : Filed kind packageSize passage)
    (attached : passage.dispatch.outbox.attached = true)
    (landed : passage.dispatch.outbox.flight = none) {ending : Except Failure Nat}
    (room : ∀ pass ∈ passage.dispatch.passes (.resume .worker ending),
      [] ∈ pass → packageSize + Frame.lengthLength < Bytes.wordValues) :
    Filed kind packageSize (passage.step (.resume .worker ending)) := by
  have begun :
      passage.dispatch.passes (.resume .worker ending) = passage.dispatch.outbox.taken := by
    simp [Dispatch.passes, landed]
  have nothing : passage.dispatch.outbox.ahead kind = [] := by
    rw [ahead, landed]
    rfl
  obtain ⟨held, holds, empty⟩ := filed.holds
  rw [empty landed] at holds
  rw [begun] at room
  have lays := beginPasses_lays filed.sizes _ attached filed.same landed holds room
  let worked : Turn (Outbox Handler) Role (Order Handler) Reply := passage.dispatch.outbox.work
  have turned : passage.dispatch.turn (.resume .worker ending) = (worked.1, [] ++ worked.2) := by
    simp [Dispatch.turn, component, landed, worked]
  refine filed.advance turned ?_ begun_nil (by simp) rfl ?_
  · rw [nothing, begun]
    exact lays
  · rw [begun]
    rcases filed.coherent.sound.rests landed with broken | ⟨emptied, alive⟩
    · refine .inl ?_
      simp only [worked]
      rw [work, beginPasses, Mailbox.takePass_of_not_waiting (by simp [broken])]
      exact broken
    · refine (beginPasses_queue _ filed.coherent.sound.sized emptied).imp id fun split =>
        ⟨?_, split⟩
      rcases alive with waits | ⟨ended, _⟩
      · simp [waits]
      · simp [ended]

/-- The worker goes on with its pass once its send has ended. -/
theorem Filed.lands (filed : Filed kind packageSize passage)
    (attached : passage.dispatch.outbox.attached = true)
    {flight : Flight} (aloft : passage.dispatch.outbox.flight = some flight)
    {ending : Except Failure Nat}
    (room : ∀ pass ∈ passage.dispatch.passes (.land ending),
      [] ∈ pass → packageSize + Frame.lengthLength < Bytes.wordValues) :
    Filed kind packageSize (passage.step (.land ending)) := by
  obtain ⟨send, latest, content⟩ := filed.coherent.latest (by simp [aloft])
  obtain ⟨held, holds, _⟩ := filed.holds
  let settled := passage.dispatch.outbox.settled send.ending
  have begun : passage.dispatch.passes (.land ending) =
      (settled.workOn flight.rest).taken := by
    simp [Dispatch.passes, aloft, latest, settled]
  have coming : passage.dispatch.outbox.ahead kind =
      frames packageSize (kind.holding []) flight.rest := by
    rw [ahead, aloft, filed.same]
    rfl
  have fresh : settled.batch = some (kind.holding []) := by
    simp only [settled, Outbox.settled, holds]
    rfl
  have same : settled.packageSize = packageSize := filed.same
  let progress : Progress Handler Reply := settled.workOn flight.rest
  have fills : Fills settled kind flight.rest (frames packageSize (kind.holding []) flight.rest)
      progress :=
    @workOn_fills _ _ settled _ _ filed.sizes attached same fresh flight.rest
      (filed.room flight aloft)
  have turned : passage.dispatch.turn (.land ending) =
      ((progress.andThen work).1,
        passage.dispatch.outbox.told send.ending ++ (progress.andThen work).2) := by
    rw [Dispatch.turn, latest]
    exact landed_eq aloft send.ending
  have taken : passage.dispatch.passes (.land ending) = progress.taken := begun
  rw [taken] at room
  refine filed.advance turned ?_ (begun_told · · _ _) ?_ rfl ?_
  · rw [coming, taken]
    obtain rfl := filed.same
    refine fills.lays (filed.room flight aloft) (fun waits => ?_) fun complete => ?_
    · rw [Progress.taken, if_neg (by simp [waits]), List.flatMap_nil]
    · rw [Progress.taken, if_pos complete] at room ⊢
      generalize progress = progress at fills complete room
      cases fills with
      | departs => cases complete
      | finishes none refusing =>
          exact beginPasses_lays filed.sizes _ attached rfl rfl rfl room
  · intro order member
    rw [orders_told _ content, Deed.orders] at member
    cases ended : send.ending with
    | ok length => simp [ended] at member
    | error failure =>
        simp only [ended] at member
        obtain ⟨handler, _, rfl⟩ := List.mem_map.mp member
        exact .inr (.inl ⟨send, List.mem_of_getLast? latest, handler, failure, ended, rfl⟩)
  · rw [taken]
    have alive : passage.dispatch.outbox.mailbox.worker ≠ .broken := by
      simp [(filed.coherent.sound.flies (by simp [aloft])).1]
    generalize progress = progress at fills
    cases fills with
    | departs => exact .inr ⟨alive, rfl⟩
    | finishes none refusing =>
        have idle : Outbox.Sized { settled with
            mailbox := settled.mailbox.endPass, batch := some (kind.holding []) } :=
          @sized_some _ settled _ rfl filed.sizes.bounded
        have emptied : Outbox.Emptied { settled with
            mailbox := settled.mailbox.endPass, batch := some (kind.holding []) } :=
          @emptied_some _ settled _ rfl
        exact (beginPasses_queue _ idle emptied).imp id fun split => ⟨alive, split⟩

theorem Filed.step (filed : Filed kind packageSize passage) (event : Event Handler)
    (attached : passage.dispatch.outbox.attached = true)
    (room : ∀ pass ∈ passage.dispatch.passes event,
      [] ∈ pass → packageSize + Frame.lengthLength < Bytes.wordValues) :
    Filed kind packageSize (passage.step event) := by
  cases works : event.works with
  | false =>
      have happens := filed.coherent.happens event
      have queue := passage.dispatch.queue_of_idle works
      have idle : passage.dispatch.passes event = [] := by
        cases event with
        | call | abandon => rfl
        | resume task ending => cases task with
          | worker => cases works
          | caller number => rfl
        | land ending => cases works
      generalize turned : passage.dispatch.turn event = turn at happens queue
      cases happens with
      | idles _ stays _ quiet => exact filed.keep turned quiet idle stays.worker queue
      | restarts => exact filed.keep turned rfl idle rfl queue
      | works | lands => cases works
  | true =>
      cases event with
      | call | abandon => cases works
      | resume task ending =>
          cases task with
          | caller number => cases works
          | worker =>
              cases aloft : passage.dispatch.outbox.flight with
              | none => exact filed.works attached aloft room
              | some flight =>
                  exact filed.rest (by simp [Dispatch.turn, component, aloft])
                    (by simp [Dispatch.passes, aloft]) rfl
      | land ending =>
          cases aloft : passage.dispatch.outbox.flight with
          | some flight => exact filed.lands attached aloft room
          | none =>
              refine filed.rest ?_ (by simp [Dispatch.passes, aloft]) rfl
              rw [Dispatch.turn]
              split
              · simp [component, landed, aloft]
              · rfl

/-- An outbox does not get its transport back. -/
theorem attached_of_step {dispatch : Dispatch Handler} (coherent : dispatch.Coherent)
    (attached : (dispatch.step event).outbox.attached = true) :
    dispatch.outbox.attached = true := by
  by_contra detached
  rw [Bool.not_eq_true] at detached
  have happens := coherent.happens event
  have reached : (dispatch.turn event).1.attached = true := attached
  generalize dispatch.turn event = turn at happens reached
  cases happens with
  | idles _ _ gone _ => simp [gone detached] at reached
  | restarts => simp [detached] at reached
  | works landed =>
      have drops := @work_drops Handler Reply dispatch.outbox detached
      rw [drops.frame, detached] at reached
      cases reached
  | @lands _ _ send aloft _ _ =>
      obtain ⟨turn, landed, drops⟩ :=
        @landed_drops Handler Reply dispatch.outbox detached _ aloft send.ending
      rw [landed, drops.frame] at reached
      simp [Outbox.settled, detached] at reached

theorem Filed.run (filed : Filed kind packageSize passage) (events : List (Event Handler))
    (attached : (passage.run events).dispatch.outbox.attached = true)
    (room : ∀ pass ∈ (passage.run events).passes,
      [] ∈ pass → packageSize + Frame.lengthLength < Bytes.wordValues) :
    Filed kind packageSize (passage.run events) := by
  -- What is known of the end holds of every part of the run before it, hence the last event first.
  induction events using List.reverseRecOn with
  | nil => exact filed
  | append_singleton events event ih =>
      rw [run_concat] at attached room ⊢
      have before : (passage.run events).dispatch.Coherent := by
        rw [run_dispatch]
        exact (filed.coherent.run events).1
      have still := attached_of_step before attached
      have earlier := ih still fun pass member => room pass (List.mem_append_left _ member)
      exact earlier.step event still fun pass member => room pass (List.mem_append_right _ member)

end Passage

/-- A new outbox has the package size of its settings, and nothing is queued. -/
theorem create_packageSize {settings : OutboxSettings} {maxFrame : Nat}
    (created : create settings maxFrame = .ok (.ok outbox)) :
    outbox.packageSize = settings.packageSize ∧ outbox.mailbox.queue = [] := by
  cases valid : settings.check with
  | error fault => simp [create, valid, bind, Except.bind] at created
  | ok _ =>
      by_cases positive : 0 < settings.messagesPerPass
      · simp only [create, valid, Mailbox.create, dif_pos positive, bind, Except.bind, pure,
          Except.pure, Except.ok.injEq] at created
        rw [← created]
        exact ⟨rfl, rfl⟩
      · simp [create, valid, Mailbox.create, positive, bind, Except.bind, pure, Except.pure]
          at created

/-- The log of a new batched outbox. -/
theorem Passage.opened_filed {settings : OutboxSettings} {maxFrame : Nat}
    (created : create settings maxFrame = .ok (.ok outbox)) (batched : settings.batched = true) :
    (Passage.opened outbox).Filed (Batch.withMaxSize maxFrame) settings.packageSize := by
  obtain ⟨wide, narrow, _⟩ :=
    (OutboxSettings.check_ok_iff settings).mp (create_valid created)
  obtain ⟨same, empty⟩ := create_packageSize created
  obtain ⟨landed, _, holds⟩ := create_idle created
  rw [batched, if_pos rfl] at holds
  refine ⟨⟨wide, narrow, Nat.min_le_right _ _⟩, create_coherent created, same,
    ⟨[], holds, fun _ => rfl⟩, ?_, ?_, by simp [opened], by simp [opened], fun _ => ?_⟩
  · intro flight aloft
    simp [opened, landed] at aloft
  · simp [opened, ahead, landed]
  · simp [opened, empty]

end Outbox

end ReliableTransport
