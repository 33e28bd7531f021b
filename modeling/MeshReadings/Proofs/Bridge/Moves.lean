import MeshReadings.Proofs.Bridge.Frame
import MeshReadings.Proofs.Engine.Commands

/-!
Everything one step of a bridge can do. `Move` has a case for each way a step can go, with
what held before it, and `step_move` says that there are no others; what a run keeps is
shown case by case over moves.
-/

namespace MeshReadings
namespace Bridge

/-- The operation and the fields of the request that a call makes, if it makes one. -/
def requestFor? (b : Bridge) (key : Key) : Call → Option (String × List (String × Json))
  | .bind => some ("bind", b.bindFields key)
  | .report min max change =>
    (KnownAttribute.find? key.cluster key.attributeId).map fun known =>
      ("configure_reporting", reportFields key known min max change)
  | _ => none

/-- The message by which a request with a transaction goes out. -/
def requestMessage (b : Bridge) (operation : String) (fields : List (String × Json))
    (n : Nat) : Mqtt.Request :=
  .publish (b.requestTopic operation) 1 false
    (Json.obj (fields ++ [("transaction", .str (transactionText n))])).compact

/-- The transaction that a message answers, and what it says. -/
def response? (b : Bridge) : Event → Option (String × Reply)
  | .message topic payload =>
    match Subject.ofTopic? b.baseTopic topic with
    | some .response =>
      (Json.readText Response.reader payload).toOption.bind fun r =>
        r.transaction.map (·, r.reply)
    | _ => none
  | _ => none

/-- Nothing differs that bears on callers. -/
structure Aside (b b' : Bridge) : Prop where
  settings : b'.settings = b.settings
  pending : b'.pending = b.pending
  waits : b'.waits = b.waits
  isClosed : b'.isClosed = b.isClosed
  transactions : b'.transactions = b.transactions

def Effect.publishes : Effect → Bool
  | .send (.publish ..) => true
  | _ => false

def Mute (fx : List Effect) : Prop := ∀ effect ∈ fx, effect.publishes = false

/-- The ways a step can go. -/
inductive Move (b : Bridge) (now : Nat) : Event → Step → Prop
  /-- A caller that waits already makes no other call. -/
  | busy {t key c} (waits : (b.wait? t).isSome = true) :
      Move b now (.call t key c) (b, [])
  | refused {t key c f} (fresh : b.wait? t = none) (negotiates : c.negotiates = true)
      (why : f = .gatewayClosed → b.isClosed = true) :
      Move b now (.call t key c) (b, [.reply t (.fault f)])
  | registered {t key c operation fields client} (fresh : b.wait? t = none)
      (request : b.requestFor? key c = some (operation, fields))
      (opened : b.isClosed = false)
      (accepted : b.client.send?
        (b.requestMessage operation fields (b.transactions + 1)) = some client) :
      Move b now (.call t key c)
        ({ b with
            client := client
            transactions := b.transactions + 1
            pending := (b.transactions + 1) :: b.pending }.putWait t
          (.response (b.transactions + 1) (now + b.timeout) none),
        [.send (b.requestMessage operation fields (b.transactions + 1))])
  | resolving {t key} (fresh : b.wait? t = none) :
      Move b now (.call t key .resolve) (b.putWait t (.devices key (now + b.timeout)), [])
  /-- A call is answered on the spot that needs no response. -/
  | served {t key c b' sends r} (fresh : b.wait? t = none) (other : c.negotiates = false)
      (aside : Aside b b')
      (mute : b.isClosed = true → Mute sends) (silent : ∀ u r', .reply u r' ∉ sends) :
      Move b now (.call t key c) (b', sends ++ [.reply t r])
  | answered {topic payload n r}
      (response : b.response? (.message topic payload) = some (transactionText n, r))
      (pending : n ∈ b.pending) :
      Move b now (.message topic payload) (b.answer n r, [])
  /-- A message that answers no pending transaction. -/
  | noted {topic payload b'} (events : List AttributeEvent)
      (unheeded : ∀ n r, b.response? (.message topic payload) =
        some (transactionText n, r) → n ∉ b.pending)
      (aside : Aside b b') : Move b now (.message topic payload) (b', events.map .event)
  | patient {t} (waits : b.reply? now t = none) : Move b now (.collect t) (b, [])
  | collected {t r} (reply : b.reply? now t = some r) :
      Move b now (.collect t) (b.settle t, [.reply t r])
  | abandoned {t} : Move b now (.abandon t) (b.abandon t, [])
  | closed (opened : b.isClosed = false) : Move b now .close (b.close, [])
  | closedAgain (closed : b.isClosed = true) : Move b now .close (b, [])
  | client {c} : Move b now (.client c) ({ b with client := c }, [])

section
variable {b : Bridge} {now : Nat}

theorem aside_self : Aside b b := ⟨rfl, rfl, rfl, rfl, rfl⟩

theorem aside_client (c : Mqtt.Client) : Aside b { b with client := c } :=
  ⟨rfl, rfl, rfl, rfl, rfl⟩

theorem aside_setKeys (name : String) (keys : List Key) : Aside b (b.setKeys name keys) :=
  ⟨rfl, rfl, rfl, rfl, rfl⟩

theorem Mute.nil : Mute [] := by
  simp [Mute]

theorem Mute.single {effect : Effect} (other : effect.publishes = false) :
    Mute [effect] := by
  simpa [Mute] using other

theorem Mute.append {fx fx' : List Effect} (mute : Mute fx) (mute' : Mute fx') :
    Mute (fx ++ fx') := by
  intro effect member
  exact (List.mem_append.mp member).elim (mute effect) (mute' effect)

theorem silent_sent (b' : Bridge) : ∀ t r, .reply t r ∉ b.sent b' := by
  intro t r member
  obtain ⟨_, -, same⟩ := List.mem_map.mp member
  cases same

theorem read_aside (key : Key) :
    Aside b (b.read key).1 ∧ (b.isClosed = true → Mute (b.sent (b.read key).1)) := by
  simp only [read]
  split
  · next closed => exact ⟨aside_self, fun _ => b.sent_self ▸ .nil⟩
  · next opened =>
      refine ⟨?_, fun closed => absurd closed opened⟩
      split
      · exact aside_self
      · split
        · exact aside_self
        · split
          · exact aside_self
          · exact aside_client _

theorem listen_aside (key : Key) :
    Aside b (b.listen key).1 ∧ Mute (b.sent (b.listen key).1) := by
  simp only [listen]
  split
  · exact ⟨aside_self, b.sent_self ▸ .nil⟩
  · next name _ =>
      generalize (if (b.keysAt name).contains key then b.keysAt name
        else b.keysAt name ++ [key]) = keys
      have alone : b.sent (b.setKeys name keys) = [] := b.sent_self
      split
      · split
        · exact ⟨aside_setKeys name keys, alone ▸ .nil⟩
        · next client accepted =>
            have sends :
                b.sent { b.setKeys name keys with client := client } = [.send _] :=
              b.sent_of_send? accepted
            exact ⟨⟨rfl, rfl, rfl, rfl, rfl⟩, sends ▸ .single rfl⟩
      · exact ⟨aside_setKeys name keys, alone ▸ .nil⟩

theorem unlisten_aside (key : Key) :
    Aside b (b.unlisten key) ∧ Mute (b.sent (b.unlisten key)) := by
  simp only [unlisten]
  split
  · exact ⟨aside_self, b.sent_self ▸ .nil⟩
  · split
    · exact ⟨aside_self, b.sent_self ▸ .nil⟩
    · next keys _ =>
        split
        · refine ⟨⟨rfl, rfl, rfl, rfl, rfl⟩, ?_⟩
          simp only [sent, Mqtt.Client.queue_offer]
          split
          · simpa [setKeys] using Mute.single rfl
          · simpa [setKeys] using Mute.nil
        · exact ⟨aside_setKeys .., (b.sent_self : b.sent (b.setKeys _ _) = []) ▸ .nil⟩

theorem move_request {t : Ticket} {key : Key} {c : Call} {operation : String}
    {fields : List (String × Json)} (fresh : b.wait? t = none)
    (negotiates : c.negotiates = true)
    (request : b.requestFor? key c = some (operation, fields)) :
    let (b', r?) := b.request now t operation fields
    Move b now (.call t key c) (b', b.sent b' ++ (r?.map (.reply t)).toList) := by
  simp only [Bridge.request]
  split
  · next closed => simpa using Move.refused fresh negotiates (fun _ => closed)
  · next opened =>
      split
      · simpa using Move.refused fresh negotiates (by simp)
      · next client accepted =>
          have sends : b.sent ({ b with
              client := client
              transactions := b.transactions + 1
              pending := (b.transactions + 1) :: b.pending }.putWait t
              (.response (b.transactions + 1) (now + b.timeout) none)) =
              [.send (b.requestMessage operation fields (b.transactions + 1))] :=
            sent_of_send? b accepted
          simpa [sends]
            using Move.registered fresh request (by simpa using opened) accepted

theorem move_call (t : Ticket) (key : Key) (c : Call) :
    Move b now (.call t key c) (b.step now (.call t key c)) := by
  simp only [step, call]
  split
  · next waits => simpa using Move.busy waits
  · next fresh =>
      have fresh : b.wait? t = none := by simpa using fresh
      cases c with
      | resolve =>
          have alone : b.sent (b.putWait t (.devices key (now + b.timeout))) = [] :=
            b.sent_self
          simpa [place, alone] using Move.resolving fresh
      | bind => exact move_request fresh rfl rfl
      | report min max change =>
          simp only [place]
          split
          · next unknown => simpa [unsupported] using Move.refused fresh rfl (by simp)
          · next known found =>
                exact move_request fresh rfl (by simp [requestFor?, found])
      | read =>
          obtain ⟨aside, mute⟩ := read_aside (b := b) key
          exact .served fresh rfl aside mute (silent_sent _)
      | listen =>
          obtain ⟨aside, mute⟩ := listen_aside (b := b) key
          exact .served fresh rfl aside (fun _ => mute) (silent_sent _)
      | unlisten =>
          obtain ⟨aside, mute⟩ := unlisten_aside (b := b) key
          exact .served fresh rfl aside (fun _ => mute) (silent_sent _)

theorem handleDevices_aside (payload : String) : Aside b (b.handleDevices payload) := by
  simp only [handleDevices]
  split
  · exact ⟨rfl, rfl, rfl, rfl, rfl⟩
  · exact aside_self

/-- A response goes to the pending transaction that it names, or to none. -/
theorem move_response {topic payload : String}
    (subject : Subject.ofTopic? b.baseTopic topic = some .response) :
    Move b now (.message topic payload) (b.handleResponse payload, []) := by
  have passed
      (unheeded : ∀ n r, b.response? (.message topic payload) =
        some (transactionText n, r) → n ∉ b.pending) :
      Move b now (.message topic payload) (b, []) :=
    .noted [] unheeded aside_self
  simp only [handleResponse]
  split
  · next unreadable =>
        exact passed (by simp [response?, subject, unreadable, Except.toOption])
  · next response readable =>
      split
      · next unnamed =>
            exact passed
              (by simp [response?, subject, readable, Except.toOption, unnamed])
      · next text named =>
          have said :
              b.response? (.message topic payload) = some (text, response.reply) := by
            simp [response?, subject, readable, Except.toOption, named]
          split
          · next unknown =>
              refine passed fun n r same member => ?_
              rw [said] at same
              cases same
              simpa using List.find?_eq_none.mp unknown n member
          · next n found =>
              have same : transactionText n = text := by simpa using List.find?_some found
              exact .answered (same ▸ said) (List.mem_of_find?_eq_some found)

theorem move_message (topic payload : String) :
    Move b now (.message topic payload) (b.step now (.message topic payload)) := by
  simp only [step, handle]
  split
  · next subject => exact .noted [] (by simp [response?, subject]) aside_self
  · next subject =>
        exact .noted [] (by simp [response?, subject]) (handleDevices_aside payload)
  · next subject => exact move_response subject
  · next subject => exact .noted _ (by simp [response?, subject]) aside_self

theorem step_move (b : Bridge) (now : Nat) (event : Event) :
    Move b now event (b.step now event) := by
  cases event with
  | call t key c => exact move_call t key c
  | message topic payload => exact move_message topic payload
  | collect t =>
      simp only [step, collect]
      split
      · next waits => exact .patient waits
      · next reply => exact .collected reply
  | abandon t => exact .abandoned
  | close =>
      cases closed : b.isClosed with
      | true =>
          have move : Move b now .close (b, []) := .closedAgain closed
          simpa [step, close, closed] using move
      | false => exact .closed closed
  | client c => exact .client

end
end Bridge
end MeshReadings
