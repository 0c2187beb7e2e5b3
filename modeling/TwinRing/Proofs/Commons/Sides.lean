import TwinRing.Proofs.Commons.Channels
import TwinRing.Proofs.Direction.Local
/-!
# Commons — the two sides of a channel

Whatever a channel's user can do is done on one of its sides: a request, a
blocking call as far as it gets, the collecting of a result, the look at
the flag, a clear, and every single step of a thread. `Channel.ask` does
it by the channel's own functions, which are those of the lane on that side
(`ask_eq`). With two names the sides are on two objects, so what is done on
one neither sees nor disturbs the other: two calls on two sides commute,
and in a sequence of calls each side gets the answers that it would have
got alone.
-/

namespace TwinRing

open Store (Within AgreeOn Framed)

namespace Role

/-- The side across. -/
def other : Role → Role
  | .reader => .writer
  | .writer => .reader

theorem ne_other (role : Role) : role ≠ role.other := by cases role <;> exact Role.noConfusion

theorem eq_other_of_ne {role role' : Role} (h : role' ≠ role) : role' = role.other := by
  cases role <;> cases role' <;> first | rfl | exact absurd rfl h

end Role

/-! ## What is done on a side -/

/-- **What can be done on a side of a channel.** -/
inductive SideCall
  /-- A push or a get that does not wait. -/
  | request (buffer : Bytes)
  /-- A blocking push, or a blocking get into a buffer: as far as it gets
  until it has returned or sleeps. -/
  | sync (buffer : Bytes)
  /-- The result of the last request, if it has finished. -/
  | result
  /-- Whether the last request has moved an element. -/
  | isComplete
  /-- Discard what is unread. -/
  | clear
  /-- One step of a thread of that side. -/
  | turn (t : Turn)

/-- **What comes back.** -/
inductive SideReply
  | accepted (result : Except ChannelError Unit)
  /-- The blocking call is under way still. -/
  | blocked
  | returned (result : Except ChannelError Bytes)
  | collected (result? : Option Transfer)
  | complete (value : Bool)
  | done

namespace Lane

/-- The outcome of a blocking call, which is over if it has returned. -/
def conclude (ticket : Nat) (l : Lane) : SideReply × Lane :=
  match l.handshake.result? ticket with
  | none => (.blocked, l)
  | some result => (.returned result, l.onHandshake fun h => h.forget ticket)

/-- What is done on a lane. -/
def ask (policy : RetryPolicy) : SideCall → Lane → Store → SideReply × Lane × Store
  | .request buffer, l, s =>
    let (result, l, s) := l.submit buffer s
    (.accepted result, l, s)
  | .sync buffer, l, s =>
    let (ticket, l, s) := l.begin buffer policy s
    ((l.conclude ticket).1, (l.conclude ticket).2, s)
  | .result, l, s => (.collected l.takeResult.1, l.takeResult.2, s)
  | .isComplete, l, s => (.complete l.direction.complete, l, s)
  | .clear, l, s => (.done, l, l.view.clear s)
  | .turn t, l, s =>
    (.done, (({ lane := l, store := s } : Course).ownTurn t).lane,
      (({ lane := l, store := s } : Course).ownTurn t).store)

theorem view_conclude (ticket : Nat) (l : Lane) : (l.conclude ticket).2.view = l.view := by
  unfold conclude
  split <;> rfl

/-- **Whatever is done on a lane stays on its ring.** -/
theorem local_ask (policy : RetryPolicy) (call : SideCall) : Local (ask policy call) := by
  cases call with
  | request buffer =>
    exact (local_submit buffer).bind fun result =>
      local_of_lane (f := fun l => (SideReply.accepted result, l)) fun _ => rfl
  | sync buffer =>
    exact (local_begin buffer policy).bind fun ticket =>
      local_of_lane (f := conclude ticket) (view_conclude ticket)
  | result =>
    exact local_of_lane (f := fun l => (SideReply.collected l.takeResult.1, l.takeResult.2))
      fun _ => rfl
  | isComplete =>
    exact local_of_lane (f := fun l => (SideReply.complete l.direction.complete, l)) fun _ => rfl
  | clear =>
    exact local_clear.bind fun _ => local_of_lane (f := fun l => (SideReply.done, l)) fun _ => rfl
  | turn t =>
    exact (local_ownTurn t).bind fun _ =>
      local_of_lane (f := fun l => (SideReply.done, l)) fun _ => rfl

end Lane

namespace Channel

variable {c d : Channel} {s t : Store} {role role' : Role} {call : SideCall}

/-- How blocking calls on a side retry. -/
def retry (c : Channel) : Role → RetryPolicy
  | .reader => c.config.getRetry
  | .writer => c.config.pushRetry

/-- A blocking get works on a buffer of its own. -/
def working : Role → SideCall → SideCall
  | .reader, .sync buffer => .sync (List.replicate buffer.length 0)
  | _, call => call

/-- **Do something on a side of a channel.** -/
def ask (c : Channel) : Role → SideCall → Store → SideReply × Channel × Store
  | .writer, .request element, s =>
    let (result, c, s) := c.pushAsync element s
    (.accepted result, c, s)
  | .reader, .request buffer, s =>
    let (result, c, s) := c.getAsync buffer s
    (.accepted result, c, s)
  | .writer, .sync element, s =>
    let (ticket, c, s) := c.beginPush element s
    match c.result? .writer ticket with
    | none => (.blocked, c, s)
    | some result => (.returned result, c.forget ticket .writer, s)
  | .reader, .sync buffer, s =>
    let (ticket, c, s) := c.beginGet buffer.length s
    match c.result? .reader ticket with
    | none => (.blocked, c, s)
    | some result => (.returned result, c.forget ticket .reader, s)
  | .writer, .result, s => (.collected c.pushResult.1, c.pushResult.2, s)
  | .reader, .result, s => (.collected c.getResult.1, c.getResult.2, s)
  | .writer, .isComplete, s => (.complete c.pushIsComplete, c, s)
  | .reader, .isComplete, s => (.complete c.getIsComplete, c, s)
  | .writer, .clear, s => (.done, c, c.clearOut s)
  | .reader, .clear, s => (.done, c, c.clearIn s)
  | role, .turn t, s =>
    let (c, s) := c.turn role t s
    (.done, c, s)

/-- **What is done on a side is done on its lane.** -/
theorem ask_eq (c : Channel) (role : Role) (call : SideCall) (s : Store) :
    c.ask role call s =
      (((c.lane role).ask (c.retry role) (working role call) s).1,
        c.withLane ((c.lane role).ask (c.retry role) (working role call) s).2.1 role,
        ((c.lane role).ask (c.retry role) (working role call) s).2.2) := by
  cases role <;> cases call with
  | sync buffer =>
    simp only [ask, Lane.ask, Lane.conclude, working, beginPush, beginGet, callPush, callGet,
      result?, Lane.begin, lane, retry, forget, withLane]
    split <;> rfl
  | _ => rfl

/-- The two rings of the channel are two objects. -/
def Apart (c : Channel) : Prop :=
  c.inbound.view.handle.object ≠ c.outbound.view.handle.object

theorem Apart.ne (h : c.Apart) (role : Role) :
    (c.lane role).view.handle.object ≠ (c.lane role.other).view.handle.object := by
  cases role with
  | reader => exact h
  | writer => exact h.symm

@[simp] theorem config_ask (c : Channel) (role : Role) (call : SideCall) (s : Store) :
    (c.ask role call s).2.1.config = c.config := by
  rw [ask_eq, config_withLane]

theorem view_ask (c : Channel) (role : Role) (call : SideCall) (s : Store) (side : Role) :
    ((c.ask role call s).2.1.lane side).view = (c.lane side).view := by
  rw [ask_eq]
  by_cases hside : side = role
  · subst hside
    rw [lane_withLane_self]
    exact (Lane.local_ask _ _).view _ _
  · rw [lane_withLane_of_ne c _ hside]

theorem Apart.ask (h : c.Apart) (role : Role) (call : SideCall) (s : Store) :
    (c.ask role call s).2.1.Apart := by
  have hin := view_ask c role call s .reader
  have hout := view_ask c role call s .writer
  unfold Apart at h ⊢
  rwa [show (c.ask role call s).2.1.inbound.view = c.inbound.view from hin,
    show (c.ask role call s).2.1.outbound.view = c.outbound.view from hout]

/-- **What is done on a side changes that side and its ring only.** -/
theorem ask_others (c : Channel) (role : Role) (call : SideCall) (s : Store) :
    (c.ask role call s).2.1.lane role.other = c.lane role.other ∧
      Within [(c.lane role).view.handle.object] s (c.ask role call s).2.2 ∧
      Framed s (c.ask role call s).2.2 := by
  rw [ask_eq]
  exact ⟨lane_withLane_of_ne c _ role.ne_other.symm, (Lane.local_ask _ _).within _ _,
    (Lane.local_ask _ _).framed _ _⟩

/-- **What it comes to follows from that side and its ring.** -/
theorem ask_congr (hlane : c.lane role = d.lane role) (hconfig : c.config = d.config)
    (hst : AgreeOn (c.lane role).view.handle.object s t) (call : SideCall) :
    (c.ask role call s).1 = (d.ask role call t).1 ∧
      (c.ask role call s).2.1.lane role = (d.ask role call t).2.1.lane role ∧
      AgreeOn (c.lane role).view.handle.object (c.ask role call s).2.2 (d.ask role call t).2.2 := by
  have hretry : c.retry role = d.retry role := by unfold retry; rw [hconfig]
  have hcongr := (Lane.local_ask (c.retry role) (working role call)).congr (c.lane role) s t hst
  rw [ask_eq, ask_eq, lane_withLane_self, lane_withLane_self, ← hlane, ← hretry]
  exact hcongr

/-- A channel is its two lanes and its configuration. -/
theorem ext_lane (hconfig : c.config = d.config) (hlane : ∀ role, c.lane role = d.lane role) :
    c = d := by
  obtain ⟨config, inbound, outbound⟩ := c
  obtain rfl : config = d.config := hconfig
  obtain rfl : inbound = d.inbound := hlane .reader
  obtain rfl : outbound = d.outbound := hlane .writer
  rfl

/-! ## Many calls -/

/-- Do one thing after the other, each on a side. -/
def askAll (c : Channel) :
    List (Role × SideCall) → Store → List (Role × SideReply) × Channel × Store
  | [], s => ([], c, s)
  | (role, call) :: rest, s =>
    let (reply, c, s) := c.ask role call s
    let (replies, c, s) := c.askAll rest s
    ((role, reply) :: replies, c, s)

/-- What of a list belongs to a side. -/
def onSide {α : Type} (role : Role) (list : List (Role × α)) : List (Role × α) :=
  list.filter fun entry => entry.1 = role

variable {α : Type} {rest : List (Role × α)} {a : α}

@[simp] theorem onSide_nil : onSide role ([] : List (Role × α)) = [] := rfl

theorem onSide_cons_self : onSide role ((role, a) :: rest) = (role, a) :: onSide role rest :=
  List.filter_cons_of_pos (by simp)

theorem onSide_cons_of_ne (h : role' ≠ role) :
    onSide role ((role', a) :: rest) = onSide role rest :=
  List.filter_cons_of_neg (by simpa using h)

/-- **Each side goes on as if it were alone**: its answers, its lane and
its ring are those of its own calls. -/
theorem askAll_onSide (calls : List (Role × SideCall)) (role : Role) {c d : Channel} {s t : Store}
    (apart : c.Apart) (hlane : c.lane role = d.lane role) (hconfig : c.config = d.config)
    (hst : AgreeOn (c.lane role).view.handle.object s t) :
    onSide role (c.askAll calls s).1 = (d.askAll (onSide role calls) t).1 ∧
      (c.askAll calls s).2.1.lane role = (d.askAll (onSide role calls) t).2.1.lane role ∧
      AgreeOn (c.lane role).view.handle.object (c.askAll calls s).2.2
        (d.askAll (onSide role calls) t).2.2 := by
  induction calls generalizing c d s t with
  | nil => exact ⟨rfl, hlane, hst⟩
  | cons entry rest ih =>
    obtain ⟨side, call⟩ := entry
    by_cases hside : side = role
    · subst hside
      obtain ⟨hanswer, hlane', hst'⟩ := ask_congr hlane hconfig hst call
      have hview := view_ask c side call s side
      have hnext := ih (apart.ask side call s) hlane'
        ((config_ask c side call s).trans (hconfig.trans (config_ask d side call t).symm))
        (by rw [hview]; exact hst')
      rw [hview] at hnext
      rw [onSide_cons_self]
      simp only [askAll, onSide_cons_self]
      rw [hanswer]
      exact ⟨congrArg _ hnext.1, hnext.2⟩
    · -- a call on the other side is one that this side does not notice
      have hother : role = side.other := Role.eq_other_of_ne (Ne.symm hside)
      obtain ⟨hlane', hwithin, -⟩ := c.ask_others side call s
      rw [← hother] at hlane'
      have hne : (c.lane role).view.handle.object ∉ [(c.lane side).view.handle.object] := by
        rw [hother]
        simpa using (apart.ne side).symm
      have hnext := ih (apart.ask side call s) (hlane'.trans hlane)
        ((config_ask c side call s).trans hconfig)
        (by rw [hlane']; exact (AgreeOn.of_within hwithin hne).symm.trans hst)
      rw [hlane'] at hnext
      rw [onSide_cons_of_ne hside]
      simp only [askAll, onSide_cons_of_ne hside]
      exact hnext

theorem askAll_frame (calls : List (Role × SideCall)) (c : Channel) (s : Store) :
    (c.askAll calls s).2.1.config = c.config ∧ Framed s (c.askAll calls s).2.2 ∧
      (c.askAll calls s).2.2.objects.size = s.objects.size ∧
      ∀ n, (∀ role, n ≠ (c.lane role).view.handle.object) →
        (c.askAll calls s).2.2.object n = s.object n := by
  induction calls generalizing c s with
  | nil => exact ⟨rfl, .refl, rfl, fun _ _ => rfl⟩
  | cons entry rest ih =>
    obtain ⟨side, call⟩ := entry
    obtain ⟨hconfig, hframed, hsize, hobjects⟩ := ih (c.ask side call s).2.1 (c.ask side call s).2.2
    obtain ⟨-, hwithin, hfirst⟩ := c.ask_others side call s
    refine ⟨hconfig.trans (config_ask c side call s), hfirst.trans hframed,
      hsize.trans hwithin.count, fun n hn => ?_⟩
    refine (hobjects n fun role => ?_).trans (hwithin.others n (by simpa using hn side))
    rw [view_ask c side call s role]
    exact hn role

/-- **How the calls of two sides are interleaved makes no difference.** -/
theorem askAll_interleaved {calls calls' : List (Role × SideCall)} (apart : c.Apart)
    (same : ∀ role, onSide role calls = onSide role calls') (s : Store) :
    (∀ role, onSide role (c.askAll calls s).1 = onSide role (c.askAll calls' s).1) ∧
      (c.askAll calls s).2.1 = (c.askAll calls' s).2.1 ∧
      (c.askAll calls s).2.2.silent = (c.askAll calls' s).2.2.silent := by
  have alone := fun role => askAll_onSide calls role apart rfl rfl (AgreeOn.refl (s := s))
  have alone' := fun role => askAll_onSide calls' role apart rfl rfl (AgreeOn.refl (s := s))
  obtain ⟨hconfig, hframed, hsize, hobjects⟩ := askAll_frame calls c s
  obtain ⟨hconfig', hframed', hsize', hobjects'⟩ := askAll_frame calls' c s
  refine ⟨fun role => ?_, ext_lane (hconfig.trans hconfig'.symm) fun role => ?_,
    hframed'.silent_eq hframed (hsize.trans hsize'.symm) fun n => ?_⟩
  · rw [(alone role).1, (alone' role).1, same]
  · rw [(alone role).2.1, (alone' role).2.1, same]
  · by_cases hn : ∃ role, n = (c.lane role).view.handle.object
    · obtain ⟨role, rfl⟩ := hn
      rw [(alone role).2.2.object_eq, (alone' role).2.2.object_eq, same]
    · rw [hobjects n fun role h => hn ⟨role, h⟩, hobjects' n fun role h => hn ⟨role, h⟩]

/-- **Two calls on two sides commute**: each gets the same answer whichever
comes first, and channel and store end alike, reports apart. -/
theorem ask_comm (apart : c.Apart) (role : Role) (p q : SideCall) (s : Store) :
    let first := c.askAll [(role, p), (role.other, q)] s
    let last := c.askAll [(role.other, q), (role, p)] s
    last.1 = first.1.reverse ∧ last.2.1 = first.2.1 ∧ last.2.2.silent = first.2.2.silent := by
  have same : ∀ side, onSide side [(role.other, q), (role, p)] =
      onSide side [(role, p), (role.other, q)] := fun side => by
    cases role <;> cases side <;> rfl
  obtain ⟨hanswers, hchannel, hstore⟩ := askAll_interleaved apart same s
  refine ⟨?_, hchannel, hstore⟩
  have hown := hanswers role
  have hother := hanswers role.other
  simp only [askAll, onSide_cons_self, onSide_cons_of_ne role.ne_other,
    onSide_cons_of_ne role.ne_other.symm, onSide_nil, List.cons.injEq, Prod.mk.injEq, true_and,
    and_true] at hown hother
  simp only [askAll, hown, hother, List.reverse_cons, List.reverse_nil, List.nil_append,
    List.cons_append]

end Channel

namespace Commons

open Channel (onSide)

/-- **The two sides of a channel are independent.** After any dealings, for
a channel whose names differ in more than the way they are given: what is
done on a side leaves the lane and the ring of the other as they are; two
calls on two sides get the same answers in either order and end in the same
state; and in any sequence of calls each side gets the answers that its own
calls alone would get, so that two interleavings of the same calls cannot
be told apart. -/
theorem sides_independent {dealings : List Dealing} {i : Nat} {c : Channel}
    (held : (({} : Commons).run dealings).tenants[i]? = some (.channel c))
    (different : SegmentName.ofString c.config.inName ≠ SegmentName.ofString c.config.outName) :
    let s := (({} : Commons).run dealings).store
    (∀ role call,
      (c.ask role call s).2.1.lane role.other = c.lane role.other ∧
        (c.ask role call s).2.2.object (c.lane role.other).view.handle.object =
          s.object (c.lane role.other).view.handle.object ∧
        Within [(c.lane role).view.handle.object] s (c.ask role call s).2.2) ∧
      (∀ role p q,
        let first := c.askAll [(role, p), (role.other, q)] s
        let last := c.askAll [(role.other, q), (role, p)] s
        last.1 = first.1.reverse ∧ last.2.1 = first.2.1 ∧
          last.2.2.silent = first.2.2.silent) ∧
      (∀ calls role, onSide role (c.askAll calls s).1 = (c.askAll (onSide role calls) s).1) ∧
      ∀ calls calls', (∀ role, onSide role calls = onSide role calls') →
        (∀ role, onSide role (c.askAll calls s).1 = onSide role (c.askAll calls' s).1) ∧
          (c.askAll calls s).2.1 = (c.askAll calls' s).2.1 ∧
          (c.askAll calls s).2.2.silent = (c.askAll calls' s).2.2.silent := by
  intro s
  have apart : c.Apart := objects_apart held different
  refine ⟨fun role call => ?_, fun role p q => Channel.ask_comm apart role p q s,
    fun calls role => (Channel.askAll_onSide calls role apart rfl rfl .refl).1,
    fun calls calls' same => Channel.askAll_interleaved apart same s⟩
  obtain ⟨hlane, hwithin, -⟩ := c.ask_others role call s
  exact ⟨hlane, hwithin.others _ (by simpa using (apart.ne role).symm), hwithin⟩

/-- A channel with a ring of one element each way, built in an empty
store. -/
def duplexDealings : List Dealing :=
  [.build (.ofParts "/in" "/out" 1 1 1 1 1000 true true)]

theorem isSome_duplex : ((({} : Commons).run duplexDealings).channel? 0).isSome = true := by
  decide +kernel

def duplexChannel : Channel := Option.get _ isSome_duplex

/-- A push that finds room, a get that blocks, a push that is refused, and
its result. -/
def duplexCalls : List (Role × SideCall) :=
  [(.writer, .sync [7]), (.reader, .sync [0]), (.writer, .request [8]), (.reader, .isComplete),
    (.writer, .result)]

theorem sides_independent_duplex :
    (({} : Commons).run duplexDealings).tenants[0]? = some (.channel duplexChannel) ∧
      onSide .writer (duplexChannel.askAll duplexCalls
          (({} : Commons).run duplexDealings).store).1 =
        (duplexChannel.askAll [(.writer, .sync [7]), (.writer, .request [8]), (.writer, .result)]
          (({} : Commons).run duplexDealings).store).1 := by
  have held : (({} : Commons).run duplexDealings).tenants[0]? = some (.channel duplexChannel) :=
    tenant_of_channel? (Option.some_get isSome_duplex).symm
  have different : SegmentName.ofString duplexChannel.config.inName ≠
      SegmentName.ofString duplexChannel.config.outName := by decide +kernel
  exact ⟨held, (sides_independent held different).2.2.1 duplexCalls .writer⟩

end Commons

end TwinRing
