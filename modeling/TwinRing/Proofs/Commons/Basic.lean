import TwinRing.Proofs.Direction.Retiring
import TwinRing.Proofs.Ring.Residue
/-!
# Everything that is open — one store, many tenants

Segments, rings and channels are opened on one store by anyone, in any
order, under any names; they are used, dropped and destroyed, and names are
removed while others hold what they stood for. A `Dealing` is one of these
operations, taken as one step. Any call on the way of it may be told to
fail, for a fault is a dealing too.

A `Commons` is the store, its tenants, and a record of the few events that
sharing and lifetime depend on: what was returned by an open, what a failed
open has left bound, and what name was removed. No dealing reads it.
-/

namespace TwinRing

/-! ## Tenants -/

/-- **Something that is open.** -/
inductive Tenant
  | segment (h : Handle)
  | ring (v : View)
  | channel (c : Channel)

namespace Tenant

/-- The rings that can be called on. -/
def views : Tenant → List View
  | .segment _ => []
  | .ring v => [v]
  | .channel c => [c.inbound.view, c.outbound.view]

/-- The handles that are held. -/
def handles : Tenant → List Handle
  | .segment h => [h]
  | .ring v => [v.handle]
  | .channel c => [c.inbound.view.handle, c.outbound.view.handle]

/-- Give it up. -/
def drop : Tenant → Store → Store
  | .segment h, s => h.drop s
  | .ring v, s => v.drop s
  | .channel c, s => c.drop s

/-- **No worker of it is on its way to a ring.** -/
def Idle : Tenant → Prop
  | .segment _ => True
  | .ring _ => True
  | .channel c => c.inbound.Idle ∧ c.outbound.Idle

end Tenant

/-! ## Dealings -/

/-- **One event that sharing depends on.** -/
inductive Mark
  /-- An open returned a handle. -/
  | granted (h : Handle)
  /-- An open failed, and the name that it had created is bound still. -/
  | left (name : SegmentName) (number : Nat)
  /-- A name was removed. -/
  | removed (name : SegmentName)

/-- **One operation of somebody.** Tenants, handles and views are picked by
their place among those that are there. -/
inductive Dealing
  | openSegment (given : String) (size : UInt64)
  | openRing (given : String) (g : Geometry)
  | build (config : Config)
  | drop (i : Nat)
  /-- Destroy a ring, and remove its name if asked to. -/
  | destroy (i : Nat) (unlink : Bool)
  | unlink (given : String)
  /-- Write through a handle, if it covers so much. -/
  | write (i offset : Nat) (bytes : Bytes)
  /-- Call on a ring. -/
  | call (i : Nat) (call : RingCall)
  /-- Let a thread of a channel take a step. -/
  | turn (i : Nat) (role : Role) (t : Turn)
  /-- A call is to fail. -/
  | fault (f : Fault)

/-- A turn of a lane's own threads. -/
def Course.ownTurn (c : Course) : Turn → Course
  | .others _ => c
  | t => c.turn t

namespace Channel

/-- The channel with the lane of a role moved. -/
def withLane (c : Channel) (l : Lane) : Role → Channel
  | .reader => { c with inbound := l }
  | .writer => { c with outbound := l }

/-- Let a thread of one of the lanes take its step. -/
def turn (c : Channel) (role : Role) (t : Turn) (s : Store) : Channel × Store :=
  let course := ({ lane := c.lane role, store := s } : Course).ownTurn t
  (c.withLane course.lane role, course.store)

end Channel

/-- **One store and all that is open on it.** -/
structure Commons where
  store : Store := {}
  tenants : List Tenant := []
  /-- What happened so far, oldest first. -/
  record : List Mark := []

namespace Commons

def handles (c : Commons) : List Handle := c.tenants.flatMap Tenant.handles

def views (c : Commons) : List View := c.tenants.flatMap Tenant.views

/-- What a failed open of a name has left bound. -/
def leftover (given : String) (s s' : Store) : List Mark :=
  match SegmentName.ofString given with
  | .error _ => []
  | .ok name =>
    match s.lookup name, s'.lookup name with
    | none, some n => [.left name n]
    | _, _ => []

/-- What is noted of an open. -/
def openMarks (given : String) (s : Store) : Except SegmentError Handle → Store → List Mark
  | .ok h, _ => [.granted h]
  | .error _, s' => leftover given s s'

/-- What is noted of the building of a channel: of the one open, and of the
other if it came to that. -/
def buildMarks (config : Config) (s : Store) : List Mark :=
  match s.openRing config.inName config.inGeometry with
  | (.error e, s₁) => openMarks config.inName s (.error e) s₁
  | (.ok inView, s₁) =>
    let (outbound, s₂) := s₁.openRing config.outName config.outGeometry
    .granted inView.handle :: openMarks config.outName s₁ (outbound.map View.handle) s₂

/-- What is noted of the removal of a name. -/
def removeMarks (given : String) : Except SegmentError Unit → List Mark
  | .error _ => []
  | .ok _ =>
    match SegmentName.ofString given with
    | .error _ => []
    | .ok name => [.removed name]

/-- The tenant that comes of an open, if one does. -/
def newcomer {ε α : Type} (tenant : α → Tenant) : Except ε α → List Tenant
  | .ok a => [tenant a]
  | .error _ => []

/-- **After a dealing.** -/
def after (c : Commons) : Dealing → Commons
  | .openSegment given size =>
    let (result, store) := c.store.openNamed given size
    { store
      tenants := c.tenants ++ newcomer .segment result
      record := c.record ++ openMarks given c.store result store }
  | .openRing given g =>
    let (result, store) := c.store.openRing given g
    { store
      tenants := c.tenants ++ newcomer .ring result
      record := c.record ++ openMarks given c.store (result.map View.handle) store }
  | .build config =>
    let (result, store) := Channel.build config c.store
    { store
      tenants := c.tenants ++ newcomer .channel result
      record := c.record ++ buildMarks config c.store }
  | .drop i =>
    match c.tenants[i]? with
    | none => c
    | some t => { c with store := t.drop c.store, tenants := c.tenants.eraseIdx i }
  | .destroy i unlink =>
    match c.tenants[i]? with
    | some (.ring v) =>
      let (result, store) := v.destroy unlink c.store
      { store
        tenants := c.tenants.eraseIdx i
        record := c.record ++ if unlink then removeMarks v.name.full result else [] }
    | _ => c
  | .unlink given =>
    let (result, store) := c.store.unlink given
    { c with store, record := c.record ++ removeMarks given result }
  | .write i offset bytes =>
    match c.handles[i]? with
    | none => c
    | some h =>
      if h.covers offset bytes.length then { c with store := h.write c.store offset bytes } else c
  | .call i call =>
    match c.views[i]? with
    | none => c
    | some v => { c with store := (v.perform call c.store).2 }
  | .turn i role t =>
    match c.tenants[i]? with
    | some (.channel channel) =>
      let (channel, store) := channel.turn role t c.store
      { c with store, tenants := c.tenants.set i (.channel channel) }
    | _ => c
  | .fault f => { c with store := c.store.addFault f }

/-- **After any dealings**, one after another. -/
def run (c : Commons) (dealings : List Dealing) : Commons := dealings.foldl after c

/-- What holds at the start and is kept by every dealing holds after all. -/
theorem run_induction {P : Commons → Prop} {c : Commons} (dealings : List Dealing) (init : P c)
    (step : ∀ c d, P c → P (c.after d)) : P (c.run dealings) := by
  induction dealings generalizing c with
  | nil => exact init
  | cons d rest ih => exact ih (step c d init)

end Commons

/-! ## What dropping and using comes to -/

namespace Course

variable {c : Course}

/-- **A turn of a lane's own threads** leaves it on its ring, and changes
bytes of that object at most. -/
theorem within_ownTurn (c : Course) (t : Turn) :
    (c.ownTurn t).lane.view = c.lane.view ∧
      Store.Within [c.lane.view.handle.object] c.store (c.ownTurn t).store := by
  cases t with
  | worker =>
    exact ⟨Lane.view_workerStep c.lane c.store, (Lane.within_workerStep c.lane c.store).1⟩
  | spawn =>
    simp only [ownTurn, turn]
    split <;> exact ⟨rfl, .refl⟩
  | call ticket =>
    simp only [ownTurn, turn]
    split <;> exact ⟨rfl, .refl⟩
  | others s => exact ⟨rfl, .refl⟩
  | submit buffer => exact ⟨rfl, .refl⟩
  | collect => exact ⟨rfl, .refl⟩
  | shutDown => exact ⟨rfl, .refl⟩
  | begin element policy => exact ⟨rfl, .refl⟩
  | rouse ticket => exact ⟨rfl, .refl⟩
  | rouseWorker => exact ⟨rfl, .refl⟩

end Course

namespace Channel

/-- A channel goes on holding what it holds. -/
theorem handles_turn (c : Channel) (role : Role) (t : Turn) (s : Store) :
    (Tenant.channel (c.turn role t s).1).handles = (Tenant.channel c).handles := by
  have hview := (Course.within_ownTurn { lane := c.lane role, store := s } t).1
  cases role with
  | reader =>
    simp only [turn, withLane, Tenant.handles, hview]
    rfl
  | writer =>
    simp only [turn, withLane, Tenant.handles, hview]
    rfl

/-- **To take a channel down** is to change bytes of its two rings at most,
and none if its workers are idle, before both are dropped. -/
theorem drop_cases (c : Channel) (s : Store) : ∃ s',
    Store.Within [c.inbound.view.handle.object, c.outbound.view.handle.object] s s' ∧
      (c.inbound.Idle → c.outbound.Idle → s'.objects = s.objects) ∧
      c.drop s = c.outbound.view.drop (c.inbound.view.drop s') := by
  rcases hin : c.inbound.signalExit s with ⟨inbound, s₁⟩
  rcases hout : c.outbound.signalExit s₁ with ⟨outbound, s₂⟩
  rcases hin' : inbound.join s₂ with ⟨inbound', s₃⟩
  rcases hout' : outbound.join s₃ with ⟨outbound', s₄⟩
  have hdrop : c.drop s = outbound'.view.drop (inbound'.view.drop
      (s₄.report (.channelDown inbound'.view.name outbound'.view.name))) := by
    simp only [drop, shutdown, hin, hout, hin', hout']
  -- each of the four stretches stays on its ring
  obtain ⟨hview₁, hs₁⟩ := c.inbound.within_signalExit s
  obtain ⟨hview₂, hs₂⟩ := c.outbound.within_signalExit s₁
  obtain ⟨hview₃, hs₃⟩ := inbound.within_join s₂
  obtain ⟨hview₄, hs₄⟩ := outbound.within_join s₃
  rw [hin] at hview₁ hs₁
  rw [hout] at hview₂ hs₂
  rw [hin', hview₁] at hview₃ hs₃
  rw [hout', hview₂] at hview₄ hs₄
  rw [hview₃, hview₄] at hdrop
  refine ⟨_, ?_, fun hidle hidle' => ?_, hdrop⟩
  · exact ((((hs₁.mono (by simp)).trans (hs₂.mono (by simp))).trans (hs₃.mono (by simp))).trans
      (hs₄.mono (by simp))).trans (.of_journal _)
  · have h₁ := Lane.idle_signalExit hidle s
    have h₂ := Lane.idle_signalExit hidle' s₁
    rw [hin] at h₁
    rw [hout] at h₂
    have h₃ := Lane.objects_join_of_idle h₁.1 s₂
    have h₄ := Lane.objects_join_of_idle h₂.1 s₃
    rw [hin'] at h₃
    rw [hout'] at h₄
    exact ((h₄.trans h₃).trans h₂.2).trans h₁.2

end Channel

namespace Tenant

variable (t : Tenant) (s : Store)

/-- **To drop a tenant** removes no name. -/
theorem names_drop : (t.drop s).names = s.names := by
  cases t with
  | segment h => exact h.names_drop s
  | ring v => exact v.handle.names_drop s
  | channel c =>
    obtain ⟨s', hs, -, hdrop⟩ := c.drop_cases s
    rw [drop, hdrop, View.drop, Handle.names_drop, View.drop, Handle.names_drop, hs.names]

/-- **Nor does it change a byte**, if its workers are idle. -/
theorem objects_drop_of_idle {t : Tenant} (h : t.Idle) (s : Store) :
    (t.drop s).objects = s.objects := by
  cases t with
  | segment k => exact k.objects_drop s
  | ring v => exact v.handle.objects_drop s
  | channel c =>
    obtain ⟨s', -, hs, hdrop⟩ := c.drop_cases s
    rw [drop, hdrop, View.drop, Handle.objects_drop, View.drop, Handle.objects_drop,
      hs h.1 h.2]

/-- If they are not, it changes none but of its own rings, and no size. -/
theorem object_drop (n : Nat) :
    ((t.drop s).object n).size = (s.object n).size ∧
      (n ∉ t.handles.map Handle.object → (t.drop s).object n = s.object n) := by
  cases t with
  | segment h => exact ⟨congrArg Object.size (h.object_drop s n), fun _ => h.object_drop s n⟩
  | ring v =>
    exact ⟨congrArg Object.size (v.handle.object_drop s n), fun _ => v.handle.object_drop s n⟩
  | channel c =>
    obtain ⟨s', hs, -, hdrop⟩ := c.drop_cases s
    rw [drop, hdrop, View.drop, Handle.object_drop, View.drop, Handle.object_drop]
    exact ⟨hs.sizes n, hs.others n⟩

theorem count_drop : (t.drop s).objects.size = s.objects.size := by
  cases t with
  | segment h => exact congrArg Array.size (h.objects_drop s)
  | ring v => exact congrArg Array.size (v.handle.objects_drop s)
  | channel c =>
    obtain ⟨s', hs, -, hdrop⟩ := c.drop_cases s
    rw [drop, hdrop, View.drop, Handle.objects_drop, View.drop, Handle.objects_drop, hs.count]

end Tenant

end TwinRing
