import TwinRing.Proofs.Duplex.Basic
/-!
# Both ends — two rings between four workers

Each of the two rings carries what one end sends. `Wired` says which lane
is on which ring, what holds on every lane, and that each ring is a
conduit from the one worker to the other, as long as the bytes that went
into it fit its index.

A move changes one lane and one ring at most, the one that the lane is on.
So it is either a step of the sending lane of a ring, or one of its
receiving lane, or none of that ring's business (`Wired.move`).
-/

namespace TwinRing

/-- **The ring that carries what one end sends.** -/
structure Wire where
  name : SegmentName
  geometry : Geometry
  /-- Its object. -/
  number : Nat

/-! ## One lane -/

/-- Where nothing is served, nothing is taken out. -/
theorem Exchange.Quiet.dequeued {x y : Exchange} (h : x.Quiet y) :
    y.record.flatMap Deed.dequeued = x.record.flatMap Deed.dequeued :=
  h.flatMap_eq fun d hd => by
    cases d with
    | served owner buffer attempt after => cases hd
    | _ => rfl

namespace Course

variable {c : Course} {wire : Wire} {role : Role} {t : Turn}

/-- **A lane with one caller on a ring**: what it sends is what was
pushed, and what it receives is handed out. -/
structure OnWire (c : Course) (wire : Wire) (role : Role) : Prop where
  geometry : c.lane.view.geometry = wire.geometry
  object : c.lane.view.handle.object = wire.number
  role_eq : c.exchange.role = role
  accounted : c.Accounted
  sender : role = .writer → c.floor.Sender
  receiver : role = .reader → c.exchange.Delivered

theorem view_soleTurn (c : Course) (t : Turn) : (c.soleTurn t).lane.view = c.lane.view := by
  rcases c.soleTurn_cases t with h | h <;> rw [h]
  exact c.view_turn t

/-- **A turn changes no object but that of the lane.** -/
theorem store_soleTurn (c : Course) (t : Turn) :
    (c.soleTurn t).store = c.store ∨
      ∃ o, (c.soleTurn t).store = c.store.setObject c.lane.view.handle.object o := by
  have guarded : ∀ c' : Course, c'.store = c.store →
      (if c.isBusy then c else c').store = c.store := fun c' h => by split <;> simp [h]
  cases t with
  | worker =>
    simp only [soleTurn, turn, moved, Lane.workerStep]
    split
    · rw [Store.updateObject_eq]
      exact .inr ⟨_, rfl⟩
    · exact .inl rfl
    · exact .inl rfl
  | spawn =>
    simp only [soleTurn, turn]
    split <;> exact .inl rfl
  | call ticket =>
    simp only [soleTurn, turn]
    split <;> exact .inl rfl
  | submit buffer => exact .inl (guarded _ rfl)
  | collect => exact .inl (guarded _ rfl)
  | begin element policy => exact .inl (guarded _ rfl)
  | _ => exact .inl rfl

namespace OnWire

/-- What others do to the store is not the lane's business. -/
theorem others (h : c.OnWire wire role) (s : Store) :
    ({ c with store := s } : Course).OnWire wire role :=
  ⟨h.geometry, h.object, h.role_eq, h.accounted.turn (.others s),
    fun hrole => (h.sender hrole).of_ring, h.receiver⟩

variable (h : c.OnWire wire role) (live : wire.number < c.store.objects.size)
include h live

theorem step (t : Turn) : c.floor.Step wire.geometry (c.soleTurn t).floor := by
  rw [← h.geometry]
  exact c.floor_soleTurn h.accounted (by rw [h.object]; exact live) t

/-- **A turn leaves the lane on its ring.** -/
theorem soleTurn (t : Turn) : (c.soleTurn t).OnWire wire role := by
  have hstep := h.step live t
  have haccounted : (c.soleTurn t).Accounted := by
    rcases c.soleTurn_cases t with heq | heq <;> rw [heq]
    · exact h.accounted
    · exact h.accounted.turn t
  exact ⟨by rw [view_soleTurn, h.geometry], by rw [view_soleTurn, h.object],
    hstep.exchange.role_eq.trans h.role_eq, haccounted, fun hrole => (h.sender hrole).step hstep,
    fun hrole => (h.receiver hrole).step hstep.exchange (h.role_eq.trans hrole)⟩

/-- What a turn does to the ring of the lane. -/
theorem served_cases (t : Turn) :
    ((c.soleTurn t).store.object wire.number = c.store.object wire.number ∧
        c.exchange.Quiet (c.soleTurn t).exchange) ∨
      ∃ buffer attempt after,
        Ring.serve role wire.geometry buffer (c.store.object wire.number) =
          (attempt, after, (c.soleTurn t).store.object wire.number) ∧
        (c.soleTurn t).record = c.record ++ [.served c.requester buffer attempt after] := by
  have hring : c.floor.ring = c.store.object wire.number := by rw [← h.object]; rfl
  have hring' : (c.soleTurn t).floor.ring = (c.soleTurn t).store.object wire.number := by
    rw [← (h.soleTurn live t).object]; rfl
  rcases (h.step live t).served_cases with
    ⟨hsame, hquiet⟩ | ⟨buffer, attempt, after, -, hserved, hrecord⟩
  · rw [hring, hring'] at hsame
    exact .inl ⟨hsame, hquiet⟩
  · rw [hring, hring', show c.floor.exchange.role = role from h.role_eq] at hserved
    exact .inr ⟨buffer, attempt, after, hserved, hrecord⟩

end OnWire

variable {sent taken : List Bytes}

/-- **What the sending lane puts in goes to the end of the ring.** -/
theorem OnWire.conduit_put (h : c.OnWire wire .writer) (hv : wire.geometry.Valid)
    (live : wire.number < c.store.objects.size) (t : Turn)
    (hc : (puts c.record).flatten.length < UInt64.size →
      Ring.Conduit wire.geometry (puts c.record) taken (c.store.object wire.number))
    (hbound : (puts (c.soleTurn t).record).flatten.length < UInt64.size) :
    Ring.Conduit wire.geometry (puts (c.soleTurn t).record) taken
      ((c.soleTurn t).store.object wire.number) := by
  rcases h.served_cases live t with
    ⟨hsame, hquiet⟩ | ⟨buffer, attempt, after, hserved, hrecord⟩
  · have hputs : puts (c.soleTurn t).record = puts c.record := hquiet.puts
    rw [hsame, hputs]
    exact hc (hputs ▸ hbound)
  · rw [hrecord, puts_append_served] at hbound ⊢
    have hless : (puts c.record).flatten.length < UInt64.size := by
      rw [List.flatten_append, List.length_append] at hbound
      omega
    exact (hc hless).put hv hserved hbound

/-- **What the receiving lane takes out comes from its start.** -/
theorem OnWire.conduit_take (h : c.OnWire wire .reader) (hv : wire.geometry.Valid)
    (live : wire.number < c.store.objects.size) (t : Turn)
    (hc : Ring.Conduit wire.geometry sent (c.record.flatMap Deed.dequeued)
      (c.store.object wire.number)) :
    Ring.Conduit wire.geometry sent ((c.soleTurn t).record.flatMap Deed.dequeued)
      ((c.soleTurn t).store.object wire.number) := by
  rcases h.served_cases live t with
    ⟨hsame, hquiet⟩ | ⟨buffer, attempt, after, hserved, hrecord⟩
  · have htaken : (c.soleTurn t).record.flatMap Deed.dequeued = c.record.flatMap Deed.dequeued :=
      hquiet.dequeued
    rw [hsame, htaken]
    exact hc
  · rw [hrecord, List.flatMap_append, List.flatMap_singleton]
    exact hc.take hv hserved

end Course

/-! ## Both ends -/

namespace Duplex

open Course (OnWire)

/-- **Two rings in order between the ends.** -/
structure Wired (wire : End → Wire) (d : Duplex) : Prop where
  valid : ∀ sender, (wire sender).geometry.Valid
  /-- What the ends send goes over different rings. -/
  apart : ∀ sender sender', (wire sender).number = (wire sender').number → sender = sender'
  live : ∀ sender, (wire sender).number < d.store.objects.size
  /-- Each ring is found by its name. -/
  bound : ∀ sender, d.store.lookup (wire sender).name = some (wire sender).number
  lanes : ∀ side role c, d.lane? side role = some c → c.OnWire (wire (role.sender side)) role
  /-- Each ring holds what was put in at one end and not taken out at the
  other. -/
  conduit : ∀ sender, (d.sent sender).flatten.length < UInt64.size →
    Ring.Conduit (wire sender).geometry (d.sent sender) (d.taken sender.other)
      (d.store.object (wire sender).number)

variable {wire : End → Wire} {d : Duplex} {m : Move} {c : Course}

/-- What a lane's turn does to the store. -/
theorem store_move (hc : d.lane? m.side m.role = some c) :
    (d.move m).store = (d.turned c m.turn).store ∧
      ((d.move m).store = d.store ∨
        ∃ o, (d.move m).store = d.store.setObject c.lane.view.handle.object o) := by
  rw [move_of_some hc]
  exact ⟨rfl, Course.store_soleTurn _ m.turn⟩

/-- A ring that the lane is not on is not touched, and no lane of it is. -/
theorem Wired.move_of_ne (h : d.Wired wire) (hc : d.lane? m.side m.role = some c) {sender : End}
    (hne : sender ≠ m.role.sender m.side) :
    (d.move m).sent sender = d.sent sender ∧ (d.move m).taken sender.other = d.taken sender.other ∧
      (d.move m).store.object (wire sender).number = d.store.object (wire sender).number := by
  have hwriter : ¬ (sender = m.side ∧ Role.writer = m.role) := fun ⟨hside, hrole⟩ => by
    rw [← hrole] at hne
    exact hne hside
  have hreader : ¬ (sender.other = m.side ∧ Role.reader = m.role) := fun ⟨hside, hrole⟩ => by
    rw [← hrole, ← hside] at hne
    exact hne sender.other_other.symm
  refine ⟨?_, ?_, ?_⟩
  · rw [sent, sent, record, record, lane?_move_of_ne hc hwriter]
  · rw [taken, taken, record, record, lane?_move_of_ne hc hreader]
  · have hobject := (h.lanes _ _ _ hc).object
    rcases (store_move hc).2 with hsame | ⟨o, ho⟩
    · rw [hsame]
    · rw [ho, hobject, Store.object_setObject_of_ne fun heq => hne (h.apart _ _ heq).symm]

/-- The ring that the lane is on stays a conduit. -/
theorem Wired.conduit_move (h : d.Wired wire) (hc : d.lane? m.side m.role = some c)
    (hbound : ((d.move m).sent (m.role.sender m.side)).flatten.length < UInt64.size) :
    Ring.Conduit (wire (m.role.sender m.side)).geometry
      ((d.move m).sent (m.role.sender m.side)) ((d.move m).taken (m.role.sender m.side).other)
      ((d.move m).store.object (wire (m.role.sender m.side)).number) := by
  obtain ⟨side, role, t⟩ := m
  have hon := (h.lanes _ _ _ hc).others d.store
  have hrecord := record_of_some hc
  have hrecord' := record_of_some (lane?_move_self hc)
  rw [(store_move hc).1]
  cases role with
  | writer =>
    have hsent : d.sent side = puts c.record := congrArg puts hrecord
    have hsent' : (d.move ⟨side, .writer, t⟩).sent side = puts (d.turned c t).record :=
      congrArg puts hrecord'
    have htaken : (d.move ⟨side, .writer, t⟩).taken side.other = d.taken side.other := by
      rw [taken, taken, record, record, lane?_move_of_ne hc (by simp)]
    simp only [Role.sender] at hbound ⊢
    rw [hsent'] at hbound ⊢
    rw [htaken]
    refine hon.conduit_put (h.valid side) (h.live side) t (fun hless => ?_) hbound
    have hconduit := h.conduit side (by rw [hsent]; exact hless)
    rwa [hsent] at hconduit
  | reader =>
    have htaken : d.taken side = c.record.flatMap Deed.dequeued :=
      congrArg (List.flatMap Deed.dequeued) hrecord
    have htaken' : (d.move ⟨side, .reader, t⟩).taken side =
        (d.turned c t).record.flatMap Deed.dequeued :=
      congrArg (List.flatMap Deed.dequeued) hrecord'
    have hsent : (d.move ⟨side, .reader, t⟩).sent side.other = d.sent side.other := by
      rw [sent, sent, record, record, lane?_move_of_ne hc (by simp)]
    simp only [Role.sender, End.other_other] at hbound ⊢
    rw [hsent] at hbound ⊢
    rw [htaken']
    have hconduit := h.conduit side.other hbound
    rw [End.other_other, htaken] at hconduit
    exact hon.conduit_take (h.valid _) (h.live _) t hconduit

/-- **A move keeps the ends wired.** -/
theorem Wired.move (h : d.Wired wire) (m : Move) : (d.move m).Wired wire := by
  cases hc : d.lane? m.side m.role with
  | none =>
    rw [move_of_none hc]
    exact h
  | some c =>
    obtain ⟨hstore, hchanged⟩ := store_move hc
    have hnames : (d.move m).store.names = d.store.names := by
      rcases hchanged with hsame | ⟨o, ho⟩
      · rw [hsame]
      · rw [ho]; rfl
    have hsize : (d.move m).store.objects.size = d.store.objects.size := by
      rcases hchanged with hsame | ⟨o, ho⟩
      · rw [hsame]
      · rw [ho, Store.size_setObject]
    have hon := (h.lanes _ _ _ hc).others d.store
    have hlive := h.live (m.role.sender m.side)
    refine ⟨h.valid, h.apart, fun sender => by rw [hsize]; exact h.live sender,
      fun sender => by rw [Store.lookup, hnames]; exact h.bound sender,
      fun side role c' hc' => ?_, fun sender hbound => ?_⟩
    · by_cases hsame : side = m.side ∧ role = m.role
      · obtain ⟨rfl, rfl⟩ := hsame
        rw [lane?_move_self hc] at hc'
        rw [← Option.some.inj hc']
        exact hon.soleTurn hlive m.turn
      · rw [lane?_move_of_ne hc hsame] at hc'
        exact h.lanes side role c' hc'
    · by_cases hne : sender = m.role.sender m.side
      · rw [hne] at hbound ⊢
        exact h.conduit_move hc hbound
      · obtain ⟨hsent, htaken, hobject⟩ := h.move_of_ne hc hne
        rw [hsent] at hbound ⊢
        rw [htaken, hobject]
        exact h.conduit sender hbound

end Duplex

end TwinRing
