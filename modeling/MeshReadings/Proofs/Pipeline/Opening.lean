import MeshReadings.Pipeline
import MeshReadings.Proofs.Bridge.Listeners
import MeshReadings.Proofs.Hub.Routing

/-!
What it takes to open engines. The hub and the bridge each go through a run of their own
while engines are opened, and an engine is opened with success only if its key is filed
under the name of its device.
-/

namespace MeshReadings
namespace Bridge

/-- A key is filed under the present name of its device. -/
def Hears (b : Bridge) (key : Key) : Prop :=
  ∃ name, b.friendlyName? key = some name ∧ key ∈ b.keysAt name

/-- Keys are filed under the names of their devices, and nothing else changes about keys
and devices. -/
structure Grows (b b' : Bridge) : Prop where
  devices : b'.devices = b.devices
  kept : ∀ key name, key ∈ b.keysAt name → key ∈ b'.keysAt name
  added : ∀ key name, key ∈ b'.keysAt name →
      key ∈ b.keysAt name ∨ b.friendlyName? key = some name

section
variable {b b' b'' : Bridge} {key : Key} {t : Ticket} {now : Nat}

theorem Grows.refl (b : Bridge) : Grows b b := ⟨rfl, fun _ _ => id, fun _ _ => Or.inl⟩

theorem Grows.friendlyName? (grows : Grows b b') :
    b'.friendlyName? key = b.friendlyName? key := by
  simp only [Bridge.friendlyName?, grows.devices]

theorem Grows.trans (first : Grows b b') (second : Grows b' b'') : Grows b b'' := by
  refine ⟨second.devices.trans first.devices, fun key name member => ?_,
    fun key name member => ?_⟩
  · exact second.kept key name (first.kept key name member)
  · obtain member | named := second.added key name member
    · exact first.added key name member
    · exact Or.inr (first.friendlyName? ▸ named)

theorem Grows.hears (grows : Grows b b') (hears : b.Hears key) : b'.Hears key := by
  obtain ⟨name, named, member⟩ := hears
  exact ⟨name, grows.friendlyName?.trans named, grows.kept key name member⟩

theorem Grows.of_same (devices : b'.devices = b.devices)
    (listeners : b'.listeners = b.listeners) : Grows b b' := by
  refine ⟨devices, fun key name member => ?_, fun key name member => Or.inl ?_⟩
  · rwa [keysAt_congr listeners]
  · rwa [keysAt_congr listeners] at member

theorem grows_resolve : Grows b (b.step now (.call t key .resolve)).1 := by
  simp only [step, call]
  split
  · exact .refl b
  · exact .of_same rfl rfl

theorem resolve_unanswered :
    (b.step now (.call t key .resolve)).2.filterMap Effect.reply? = [] := by
  simp only [step, call]
  split
  · simp
  · have alone : b.sent (b.putWait t (.devices key (now + b.timeout))) = [] := b.sent_self
    simp [place, alone]

theorem grows_collect : Grows b (b.step now (.collect t)).1 := by
  simp only [step, collect]
  split
  · exact .refl b
  · simp only [settle]
    split <;> exact .of_same rfl rfl

theorem grows_listen (b : Bridge) (now : Nat) (t : Ticket) (key : Key) :
    Grows b (b.step now (.call t key .listen)).1 := by
  cases fresh : b.wait? t with
  | some w => simpa [step, call, fresh] using Grows.refl b
  | none =>
      rw [b.step_listen key now fresh]
      refine ⟨(alike_listen key).devices, fun k name member => ?_,
        fun k name member => ?_⟩
      · exact (b.mem_keysAt_listen key k name).mpr (Or.inr member)
      · obtain ⟨rfl, named⟩ | member := (b.mem_keysAt_listen key k name).mp member
        · exact Or.inr named
        · exact Or.inl member

/-- Who listens is told at once, and with success only if the key is filed under the name
of its device. -/
theorem listen_reply (now : Nat) (key : Key) (fresh : b.wait? t = none) :
    ∃ r, (b.step now (.call t key .listen)).2.filterMap Effect.reply? = [(t, r)] ∧
      ((∃ f, r = .fault f) ∨ (b.step now (.call t key .listen)).1.Hears key) := by
  refine ⟨(b.listen key).2, b.replies_listen key now fresh, ?_⟩
  rw [b.step_listen key now fresh]
  cases named : b.friendlyName? key with
  | none => exact Or.inl ⟨.attributeNotFound key.display, by simp [listen, named]⟩
  | some name =>
      refine Or.inr
        ⟨name, ?_, (b.mem_keysAt_listen key key name).mpr (Or.inl ⟨rfl, named⟩)⟩
      rwa [friendlyName?, (alike_listen key).devices]

end
end Bridge

namespace Rehearsal.Peer
variable {p : Peer} {b : Bridge} {now : Nat} {t : Ticket}

theorem call_bridge (side : p.side = .bridge b) (now : Nat) (t : Ticket) (key : Key)
    (c : Call) :
    (p.call now t key c).side = .bridge (b.step now (.call t key c)).1 ∧
      (p.call now t key c).inbox =
        (b.step now (.call t key c)).2.filterMap Bridge.Effect.reply? ++ p.inbox := by
  simp [call, stepBridge, side]

theorem settle_bridge (side : p.side = .bridge b) (now : Nat) (t : Ticket) :
    (p.settle now t).side = .bridge (b.step now (.collect t)).1 ∧
      (p.settle now t).inbox = p.inbox.filter (·.1 != t) := by
  simp [settle, stepBridge, side]

end Rehearsal.Peer

namespace Pipeline

abbrev Moment := MeshReadings.Moment Pipeline Event Hub.Effect

abbrev History := List Moment

def Event.opens : Event → Bool
  | .openEngine .. | .proceed _ => true
  | _ => false

/-- An engine was opened with success. -/
def Opened (h : History) (id : EngineId) : Prop :=
  ∃ m ∈ h, ∃ t, .finish t (.opened id) ∈ m.effects

/-- What the openings of engines lead to, from a bridge to the same one later. -/
structure Opening (s : Bridge.Settings) (b₀ : Bridge) (capacity : Nat) (h : History)
    (p : Pipeline) (b : Bridge) : Prop where
  side : p.peer.side = .bridge b
  lived : ∃ h, Bridge.RunOf s h b
  grows : Bridge.Grows b₀ b
  quiet : p.events = { capacity := capacity } ∧ p.waiting = [] ∧ p.backlog = []
  new : ∀ id e, p.hub.engine? id = some e → ∃ spec, Engine.ofSpec? spec = some e
  hub : ∃ hh, Run Hub.step .empty hh p.hub ∧ ∀ id, Opened h id → Hub.Opened hh id
  replies : ∀ t r, (t, r) ∈ p.peer.inbox → ∃ id, p.hub.opening? t = some (.listening id)
  listening : ∀ t id, p.hub.opening? t = some (.listening id) →
    ∃ e r, p.hub.engine? id = some e ∧ p.peer.inbox.find? (·.1 == t) = some (t, r) ∧
      ((∃ f, r = .fault f) ∨ b.Hears e.key)
  opened : ∀ id, Opened h id → ∃ e, p.hub.engine? id = some e ∧ b.Hears e.key

section
variable {s : Bridge.Settings} {b₀ b b' : Bridge} {capacity : Nat} {h : History}
  {p p' : Pipeline}

/-- A step of the hub that forgets no engine and opens only such as are listened to. -/
theorem Opening.advance (inv : Opening s b₀ capacity h p b) (now : Nat)
    (event : Hub.Event) {m : Moment} (hub : p'.hub = (p.hub.step now event).1)
    (quiet : p'.events = p.events ∧ p'.waiting = p.waiting ∧ p'.backlog = p.backlog)
    (side : p'.peer.side = .bridge b') (lived : ∃ h, Bridge.RunOf s h b')
    (grows : Bridge.Grows b b')
    (kept : ∀ id e, p.hub.engine? id = some e → p'.hub.engine? id = some e)
    (new : ∀ id e, p'.hub.engine? id = some e → ∃ spec, Engine.ofSpec? spec = some e)
    (opens : ∀ t id, .finish t (.opened id) ∈ m.effects → Hub.Opens (.taken Hub.step p.hub
      now event) id ∧ ∃ e, p'.hub.engine? id = some e ∧ b'.Hears e.key)
    (replies : ∀ t r, (t, r) ∈ p'.peer.inbox →
      ∃ id, p'.hub.opening? t = some (.listening id))
    (listening : ∀ t id, p'.hub.opening? t = some (.listening id) →
      ∃ e r, p'.hub.engine? id = some e ∧ p'.peer.inbox.find? (·.1 == t) = some (t, r) ∧
      ((∃ f, r = .fault f) ∨ b'.Hears e.key)) :
    Opening s b₀ capacity (h ++ [m]) p' b' := by
  have opened {id : EngineId} (opened : Opened (h ++ [m]) id) :
      Opened h id ∨ ∃ t, .finish t (.opened id) ∈ m.effects := by
    obtain ⟨m', member, finishes⟩ := opened
    rcases List.mem_append.mp member with earlier | latest
    · exact Or.inl ⟨m', earlier, finishes⟩
    · exact Or.inr (List.mem_singleton.mp latest ▸ finishes)
  obtain ⟨hh, run, agrees⟩ := inv.hub
  refine ⟨side, lived, inv.grows.trans grows, ?_, new,
    ⟨hh ++ [.taken Hub.step p.hub now event], ?_, ?_⟩, replies, listening, ?_⟩
  · rw [quiet.1, quiet.2.1, quiet.2.2]
    exact inv.quiet
  · rw [hub]
    exact run.snoc now event
  · intro id succeeds
    obtain earlier | ⟨t, finishes⟩ := opened succeeds
    · obtain ⟨m', member, opens⟩ := agrees id earlier
      exact ⟨m', by simp [member], opens⟩
    · exact ⟨_, by simp, (opens t id finishes).1⟩
  · intro id succeeds
    obtain earlier | ⟨t, finishes⟩ := opened succeeds
    · obtain ⟨e, here, hears⟩ := inv.opened id earlier
      exact ⟨e, kept id e here, grows.hears hears⟩
    · exact (opens t id finishes).2

theorem Opening.stay (inv : Opening s b₀ capacity h p b) {m : Moment}
    (silent : m.effects = []) : Opening s b₀ capacity (h ++ [m]) p b := by
  have opened {id : EngineId} (opened : Opened (h ++ [m]) id) : Opened h id := by
    obtain ⟨m', member, t, finishes⟩ := opened
    rcases List.mem_append.mp member with earlier | latest
    · exact ⟨m', earlier, t, finishes⟩
    · rw [List.mem_singleton.mp latest, silent] at finishes
      cases finishes
  obtain ⟨hh, run, agrees⟩ := inv.hub
  exact { inv with hub := ⟨hh, run, fun id succeeds => agrees id (opened succeeds)⟩
                   opened := fun id succeeds => inv.opened id (opened succeeds) }

/-- What happens to one ticket leaves the openings of the others alone. -/
theorem Opening.others (inv : Opening s b₀ capacity h p b) {u : Ticket} (hub' : Hub)
    (openings : hub'.opening? u = p.hub.opening? u)
    (kept : ∀ id e, p.hub.engine? id = some e → hub'.engine? id = some e)
    (grows : Bridge.Grows b b') {inbox : List (Ticket × Reply)}
    (same : inbox.find? (·.1 == u) = p.peer.inbox.find? (·.1 == u)) {id : EngineId}
    (listening : hub'.opening? u = some (.listening id)) :
    ∃ e r, hub'.engine? id = some e ∧ inbox.find? (·.1 == u) = some (u, r) ∧
      ((∃ f, r = .fault f) ∨ b'.Hears e.key) := by
  obtain ⟨e, r, here, found, told⟩ := inv.listening u id (openings ▸ listening)
  exact ⟨e, r, kept id e here, same.trans found, told.imp_right grows.hears⟩

theorem Opening.openEngine (inv : Opening s b₀ capacity h p b) (now : Nat) (t : Ticket)
    (spec : Spec) :
    ∃ b', Opening s b₀ capacity (h ++ [.taken step p now (.openEngine t spec)])
      (p.step now (.openEngine t spec)).1 b' := by
  cases opening : p.hub.opening? t with
  | some o =>
      have idle : p.hub.step now (.openEngine t spec) = (p.hub, []) := by
        simp [Hub.step, opening]
      have stays : p.step now (.openEngine t spec) = (p, []) := by
        simp [step, stepHub, idle]
      rw [stays]
      exact ⟨b, inv.stay (by simp [Moment.taken, stays])⟩
  | none =>
      have begins : p.hub.step now (.openEngine t spec) =
          (p.hub.putOpening t (.resolving spec), [.call t spec.key .resolve]) := by
        simp [Hub.step, opening]
      obtain ⟨hb, lived⟩ := inv.lived
      obtain ⟨side, inbox⟩ := Rehearsal.Peer.call_bridge inv.side now t spec.key .resolve
      rw [Bridge.resolve_unanswered, List.nil_append] at inbox
      have stepped : p.step now (.openEngine t spec) =
          ({ p with
            hub := p.hub.putOpening t (.resolving spec)
            peer := p.peer.call now t spec.key .resolve },
            [.call t spec.key .resolve]) := by
        simp [step, stepHub, begins, place]
      refine ⟨(b.step now (.call t spec.key .resolve)).1, ?_⟩
      rw [stepped]
      refine inv.advance now (.openEngine t spec) (by rw [begins]) ⟨rfl, rfl, rfl⟩ side
        ⟨_, lived.snoc now _⟩ Bridge.grows_resolve (fun _ _ => id) inv.new ?_ ?_ ?_
      · simp [Moment.taken, stepped]
      · intro u r member
        obtain ⟨id, listening⟩ := inv.replies u r (inbox ▸ member)
        refine ⟨id, ?_⟩
        rw [Hub.opening?_putOpening, if_neg]
        · exact listening
        · rintro rfl
          cases opening.symm.trans listening
      · intro u id listening
        have other : u ≠ t := by
          rintro rfl
          simp at listening
        refine inv.others (p.hub.putOpening t (.resolving spec)) ?_ (fun _ _ here => here)
          Bridge.grows_resolve (by rw [inbox]) listening
        rw [Hub.opening?_putOpening, if_neg other]

section
variable {now : Nat} {t : Ticket} {r : Reply}

theorem step_proceed {o : Hub.Opening} (opening : p.hub.opening? t = some o)
    (reply : p.peer.reply? now t = some r) :
    p.step now (.proceed t) =
      { p with peer := p.peer.settle now t }.stepHub now (.reply t r) := by
  simp [step, proceed, opening, reply]

/-- An opening ends. -/
theorem Opening.conclude (inv : Opening s b₀ capacity h p b) {o : Hub.Opening}
    (hub' : Hub) (outcome : Hub.Outcome) (opening : p.hub.opening? t = some o)
    (reply : p.peer.reply? now t = some r)
    (ends : p.hub.step now (.reply t r) = (hub', [.finish t outcome]))
    (openings : ∀ u, hub'.opening? u = if u = t then none else p.hub.opening? u)
    (engines : hub'.engines = p.hub.engines)
    (succeeds : ∀ id, outcome = .opened id → Hub.Opens (.taken Hub.step p.hub now
      (.reply t r)) id ∧ ∃ e, p.hub.engine? id = some e ∧ b.Hears e.key) :
    ∃ b', Opening s b₀ capacity (h ++ [.taken step p now (.proceed t)])
      (p.step now (.proceed t)).1 b' := by
  obtain ⟨hb, lived⟩ := inv.lived
  obtain ⟨side, inbox⟩ := Rehearsal.Peer.settle_bridge inv.side now t
  have kept (id : EngineId) : hub'.engine? id = p.hub.engine? id := by
    simp only [Hub.engine?, engines]
  have stepped : p.step now (.proceed t) =
      ({ p with hub := hub', peer := p.peer.settle now t }, [.finish t outcome]) := by
    rw [step_proceed opening reply]
    simp [stepHub, ends, place]
  refine ⟨(b.step now (.collect t)).1, ?_⟩
  rw [stepped]
  refine inv.advance now (.reply t r) (by rw [ends]) ⟨rfl, rfl, rfl⟩ side
    ⟨_, lived.snoc now _⟩ Bridge.grows_collect (fun id e here => (kept id).trans here)
    (fun id e here => inv.new id e ((kept id).symm.trans here)) ?_ ?_ ?_
  · intro u id finishes
    simp only [Moment.taken, stepped, List.mem_singleton,
      Hub.Effect.finish.injEq] at finishes
    obtain ⟨opens, e, here, hears⟩ := succeeds id finishes.2.symm
    exact ⟨opens, e, (kept id).trans here, Bridge.grows_collect.hears hears⟩
  · intro u r' member
    rw [inbox] at member
    obtain ⟨member, other⟩ := List.mem_filter.mp member
    obtain ⟨id, listening⟩ := inv.replies u r' member
    refine ⟨id, ?_⟩
    rw [openings, if_neg (by simpa using other)]
    exact listening
  · intro u id listening
    have other : u ≠ t := by
      rintro rfl
      rw [openings, if_pos rfl] at listening
      cases listening
    refine inv.others hub' ?_ (fun id e here => (kept id).trans here)
      Bridge.grows_collect ?_ listening
    · rw [openings, if_neg other]
    · rw [inbox, find?_removed_of_ne other]

/-- A reply comes from the bridge unless it was given on the spot. -/
theorem Opening.reply_of_resolving (inv : Opening s b₀ capacity h p b) {spec : Spec}
    (opening : p.hub.opening? t = some (.resolving spec))
    (reply : p.peer.reply? now t = some r) : b.reply? now t = some r := by
  have absent : p.peer.inbox.find? (·.1 == t) = none := by
    cases found : p.peer.inbox.find? (·.1 == t) with
    | none => rfl
    | some entry =>
        obtain ⟨id, listening⟩ :=
          inv.replies t entry.2 (mem_of_value (by rw [found, Option.map_some]))
        cases listening.symm.trans opening
  simpa [Rehearsal.Peer.reply?, absent, inv.side] using reply

/-- An attribute is resolved, and its key routed to a new engine and listened to. -/
theorem Opening.resolve (inv : Opening s b₀ capacity h p b) {spec : Spec} {e : Engine}
    (opening : p.hub.opening? t = some (.resolving spec))
    (reply : p.peer.reply? now t = some r) (sound : ∀ f, r ≠ .fault f)
    (usable : Engine.ofSpec? spec = some e) :
    ∃ b', Opening s b₀ capacity (h ++ [.taken step p now (.proceed t)])
      (p.step now (.proceed t)).1 b' := by
  obtain ⟨hb, lived⟩ := inv.lived
  have fresh : (b.step now (.collect t)).1.wait? t = none := by
    simp [Bridge.step, Bridge.collect, inv.reply_of_resolving opening reply]
  obtain ⟨side, inbox⟩ := Rehearsal.Peer.settle_bridge inv.side now t
  obtain ⟨side, inbox'⟩ := Rehearsal.Peer.call_bridge side now t e.key .listen
  obtain ⟨said, told, hears⟩ := Bridge.listen_reply now e.key fresh
  rw [told, inbox, List.singleton_append] at inbox'
  generalize hub : ({ p.hub with engines := p.hub.engines ++ [e] }.register e.key
    p.hub.engines.length).putOpening t (.listening p.hub.engines.length) = hub'
  have begins : p.hub.step now (.reply t r) = (hub', [.call t e.key .listen]) := by
    rw [← hub]
    cases r with
    | fault f => exact absurd rfl (sound f)
    | _ => simp [Hub.step, Hub.replyOpening, opening, usable]
  have engines : hub'.engines = p.hub.engines ++ [e] := hub ▸ rfl
  have openings (u : Ticket) : hub'.opening? u =
      if u = t then some (.listening p.hub.engines.length) else p.hub.opening? u := by
    rw [← hub, Hub.opening?_putOpening]
    rfl
  have kept (id : EngineId) (e' : Engine) (here : p.hub.engine? id = some e') :
      hub'.engine? id = some e' := by
    rw [Hub.engine?, engines]
    exact (List.getElem?_append_left (List.getElem?_eq_some_iff.mp here).1).trans here
  have stepped : p.step now (.proceed t) =
      ({ p with hub := hub', peer := (p.peer.settle now t).call now t e.key .listen },
        [.call t e.key .listen]) := by
    rw [step_proceed opening reply]
    simp [stepHub, begins, place]
  have grows := Bridge.grows_collect.trans
    (Bridge.grows_listen (b.step now (.collect t)).1 now t e.key)
  refine ⟨((b.step now (.collect t)).1.step now (.call t e.key .listen)).1, ?_⟩
  rw [stepped]
  refine inv.advance now (.reply t r) (by rw [begins]) ⟨rfl, rfl, rfl⟩ side
    ⟨_, (lived.snoc now _).snoc now _⟩ grows kept ?_ ?_ ?_ ?_
  · intro id e' here
    simp only [Hub.engine?, engines] at here
    by_cases old : id < p.hub.engines.length
    · rw [List.getElem?_append_left old] at here
      exact inv.new id e' here
    · rw [List.getElem?_append_right (Nat.le_of_not_lt old)] at here
      obtain rfl := List.mem_singleton.mp (List.mem_of_getElem? here)
      exact ⟨spec, usable⟩
  · simp [Moment.taken, stepped]
  · intro u r' member
    rw [inbox'] at member
    rw [openings]
    split
    · exact ⟨_, rfl⟩
    · next other =>
        obtain same | member := List.mem_cons.mp member
        · cases same
          exact absurd rfl other
        · exact inv.replies u r' (List.mem_filter.mp member).1
  · intro u id listening
    by_cases same : u = t
    · subst same
      rw [openings, if_pos rfl] at listening
      cases listening
      refine ⟨e, said, ?_, by simp [inbox'], hears⟩
      simp [Hub.engine?, engines]
    · refine inv.others hub' ?_ kept grows ?_ listening
      · rw [openings, if_neg same]
      · rw [inbox', List.find?_cons_of_neg (by simpa using Ne.symm same),
          find?_removed_of_ne same]

theorem Opening.proceed_resolving (inv : Opening s b₀ capacity h p b) {spec : Spec}
    (opening : p.hub.opening? t = some (.resolving spec))
    (reply : p.peer.reply? now t = some r) :
    ∃ b', Opening s b₀ capacity (h ++ [.taken step p now (.proceed t)])
      (p.step now (.proceed t)).1 b' := by
  by_cases fails : ∃ f, r = .fault f
  · obtain ⟨f, rfl⟩ := fails
    exact inv.conclude (p.hub.dropOpening t) (.fault f) opening reply
      (by simp [Hub.step, Hub.replyOpening, opening]) (p.hub.opening?_dropOpening t) rfl
      (by simp)
  · have sound (f : Fault) (same : r = .fault f) : False := fails ⟨f, same⟩
    cases usable : Engine.ofSpec? spec with
    | some e => exact inv.resolve opening reply sound usable
    | none =>
        refine inv.conclude (p.hub.dropOpening t) .unusable opening reply ?_
          (p.hub.opening?_dropOpening t) rfl (by simp)
        cases r with
        | fault f => exact absurd rfl (sound f)
        | _ => simp [Hub.step, Hub.replyOpening, opening, usable]

theorem Opening.proceed_listening (inv : Opening s b₀ capacity h p b) {id : EngineId}
    (opening : p.hub.opening? t = some (.listening id))
    (reply : p.peer.reply? now t = some r) :
    ∃ b', Opening s b₀ capacity (h ++ [.taken step p now (.proceed t)])
      (p.step now (.proceed t)).1 b' := by
  obtain ⟨e, r', here, found, hears⟩ := inv.listening t id opening
  obtain rfl : r' = r := by simpa [Rehearsal.Peer.reply?, found] using reply
  by_cases fails : ∃ f, r' = .fault f
  · obtain ⟨f, rfl⟩ := fails
    exact inv.conclude ((p.hub.unregister e.key).dropOpening t) (.fault f) opening reply
      (by simp [Hub.step, Hub.replyOpening, Hub.unrouteEngine, opening, here])
      ((p.hub.unregister e.key).opening?_dropOpening t) rfl (by simp)
  · have sound (f : Fault) (same : r' = .fault f) : False := fails ⟨f, same⟩
    refine inv.conclude (p.hub.dropOpening t) (.opened id) opening reply ?_
      (p.hub.opening?_dropOpening t) rfl ?_
    · cases r' with
      | fault f => exact absurd rfl (sound f)
      | _ => simp [Hub.step, Hub.replyOpening, opening]
    · intro id' same
      cases same
      exact ⟨⟨r', sound, t, rfl, opening⟩, e, here, hears.resolve_left fails⟩

theorem Opening.proceed (inv : Opening s b₀ capacity h p b) (now : Nat) (t : Ticket) :
    ∃ b', Opening s b₀ capacity (h ++ [.taken step p now (.proceed t)])
      (p.step now (.proceed t)).1 b' := by
  have idle (stays : p.step now (.proceed t) = (p, [])) : ∃ b',
      Opening s b₀ capacity (h ++ [.taken step p now (.proceed t)])
        (p.step now (.proceed t)).1 b' := by
    rw [stays]
    exact ⟨b, inv.stay (by simp [Moment.taken, stays])⟩
  cases opening : p.hub.opening? t with
  | none => exact idle (by simp [step, Pipeline.proceed, opening])
  | some o =>
      cases reply : p.peer.reply? now t with
      | none => exact idle (by simp [step, Pipeline.proceed, opening, reply])
      | some r =>
          cases o with
          | resolving spec => exact inv.proceed_resolving opening reply
          | listening id => exact inv.proceed_listening opening reply

end

/-- While engines are opened, all of this holds. -/
theorem opening_of_run {hb : Bridge.History} (gateway : Bridge.RunOf s hb b₀)
    (run : Run step (start b₀ capacity) h p) (only : ∀ m ∈ h, m.event.opens = true) :
    ∃ b, Opening s b₀ capacity h p b := by
  induction run with
  | nil =>
      refine ⟨b₀, rfl, ⟨hb, gateway⟩, .refl b₀, ⟨rfl, rfl, rfl⟩, ?_, ⟨[], .nil, ?_⟩,
        ?_, ?_, ?_⟩ <;>
        simp [start, Hub.empty, Hub.engine?, Hub.opening?, Opened]
  | @snoc h p run now event ih =>
      obtain ⟨b, inv⟩ := ih fun m member => only m (by simp [member])
      have opens := only (.taken step p now event) (by simp)
      cases event with
      | openEngine t spec => exact inv.openEngine now t spec
      | proceed t => exact inv.proceed now t
      | arrive | handle | forward | dispatch => cases opens

end

end Pipeline
end MeshReadings
