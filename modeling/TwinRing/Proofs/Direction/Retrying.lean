import TwinRing.Proofs.Direction.Attribution
import TwinRing.Proofs.Direction.Floor
import TwinRing.Proofs.Direction.Pursuit
import TwinRing.Proofs.Ring.Effect
/-!
# Lanes under way — a blocking call and its retries

A blocking call on a lane where it is the only caller, and that nobody
shuts down, may meet a ring that refuses its element any number of times,
while the other side of the ring does to the ring what it likes. What the
call asks for is fixed all the same: its buffer is taken to the ring, and
after each refusal once more, with the waits in between that its policy
has. It ends with the first attempt that is not refused, and until then the
ring is what the others make of it.

`Tries` says what the attempts of one call look like in a row. What a list
of acts comes to (`exists_comes`) is an induction on the acts, by the steps
of a `Pursuit` and the one step at the ring.
-/

namespace TwinRing

/-! ## What a policy comes to -/

namespace RetryPolicy

/-- **The waits between the first so many attempts.** A backoff sleeps only
after its attempts without a sleep are used up. -/
def waits : RetryPolicy → Nat → List (Option Duration)
  | .fixed delay, n => List.replicate n (some delay)
  | .backoff maxDelay, n =>
    List.replicate (min n Retrier.unsleptLimit) none ++
      List.replicate (n - Retrier.unsleptLimit) (some maxDelay)

/-- **What a call with a buffer asks for** until it has made so many
attempts after the first. -/
def asks (policy : RetryPolicy) (b : Bytes) (n : Nat) : List Ask :=
  .request b :: (policy.waits n).flatMap (Ask.again b)

/-- The sleeps between the first so many attempts. -/
def sleeps : RetryPolicy → Nat → List Duration
  | .fixed delay, n => List.replicate n delay
  | .backoff maxDelay, n => List.replicate (n - Retrier.unsleptLimit) maxDelay

end RetryPolicy

/-- The buffer that is to be taken to the ring. -/
def Ask.buffer? : Ask → Option Bytes
  | .request buffer => some buffer
  | .sleep _ => none

def Ask.delay? : Ask → Option Duration
  | .request _ => none
  | .sleep delay => some delay

section Policy

variable {policy : RetryPolicy} {b : Bytes} {delay : Duration} {n : Nat}

theorem Retrier.delays_fixed (u n : Nat) :
    Retrier.delays ⟨.fixed delay, u⟩ n = List.replicate n (some delay) := by
  induction n with
  | zero => rfl
  | succ n ih => rw [delays, List.replicate_succ, ← ih]; rfl

theorem Retrier.delays_backoff {u : Nat} (hu : u ≤ unsleptLimit) (n : Nat) :
    Retrier.delays ⟨.backoff delay, u⟩ n =
      List.replicate (min n (unsleptLimit - u)) none ++
        List.replicate (n - (unsleptLimit - u)) (some delay) := by
  induction n generalizing u with
  | zero => simp [delays]
  | succ n ih =>
    rcases Nat.lt_or_ge u unsleptLimit with hlt | hge
    · have hnext : Retrier.nextDelay ⟨.backoff delay, u⟩ = (none, ⟨.backoff delay, u + 1⟩) := by
        simp [nextDelay, hlt]
      have hmin : min (n + 1) (unsleptLimit - u) = min n (unsleptLimit - (u + 1)) + 1 := by omega
      have hrest : n + 1 - (unsleptLimit - u) = n - (unsleptLimit - (u + 1)) := by omega
      rw [delays, hnext, ih hlt, hmin, hrest, List.replicate_succ, List.cons_append]
    · have hnext : Retrier.nextDelay ⟨.backoff delay, u⟩ = (some delay, ⟨.backoff delay, u⟩) := by
        simp [nextDelay, Nat.not_lt.2 hge]
      have hspent : unsleptLimit - u = 0 := by omega
      rw [delays, hnext, ih hu, hspent, Nat.min_zero, Nat.min_zero, Nat.sub_zero, Nat.sub_zero,
        List.replicate_succ]
      rfl

/-- **A retrier that has not retried yet has the waits of its policy before
it.** -/
theorem Retrier.delays_eq_waits (policy : RetryPolicy) (n : Nat) :
    Retrier.delays ⟨policy, 0⟩ n = policy.waits n := by
  cases policy with
  | fixed delay => exact delays_fixed 0 n
  | backoff maxDelay => exact delays_backoff (Nat.zero_le _) n

theorem Ask.buffers_again (waits : List (Option Duration)) :
    (waits.flatMap (Ask.again b)).filterMap Ask.buffer? = List.replicate waits.length b := by
  induction waits with
  | nil => rfl
  | cons wait rest ih =>
    rw [List.flatMap_cons, List.filterMap_append, ih, List.length_cons, List.replicate_succ]
    cases wait <;> rfl

theorem Ask.delays_again (waits : List (Option Duration)) :
    (waits.flatMap (Ask.again b)).filterMap Ask.delay? = waits.filterMap id := by
  induction waits with
  | nil => rfl
  | cons wait rest ih =>
    rw [List.flatMap_cons, List.filterMap_append, ih]
    cases wait <;> rfl

theorem RetryPolicy.length_waits (policy : RetryPolicy) (n : Nat) :
    (policy.waits n).length = n := by
  cases policy with
  | fixed delay => exact List.length_replicate
  | backoff maxDelay =>
    rw [waits, List.length_append, List.length_replicate, List.length_replicate]
    omega

/-- **A buffer is taken to the ring once more than it is refused.** -/
theorem RetryPolicy.buffers_asks (policy : RetryPolicy) (b : Bytes) (n : Nat) :
    (policy.asks b n).filterMap Ask.buffer? = List.replicate (n + 1) b := by
  have hagain := Ask.buffers_again (b := b) (policy.waits n)
  rw [policy.length_waits] at hagain
  rw [asks, List.filterMap_cons_some (show Ask.buffer? (.request b) = some b from rfl), hagain,
    List.replicate_succ]

/-- **A call sleeps when its policy says so.** -/
theorem RetryPolicy.delays_asks (policy : RetryPolicy) (b : Bytes) (n : Nat) :
    (policy.asks b n).filterMap Ask.delay? = policy.sleeps n := by
  rw [asks, List.filterMap_cons_none (show Ask.delay? (.request b) = none from rfl),
    Ask.delays_again]
  cases policy with
  | fixed delay => simp [waits, sleeps]
  | backoff maxDelay => simp [waits, sleeps]

end Policy

/-! ## Attempts -/

/-- **One attempt at the ring**: the buffer that the worker took there, the
store that it found and the one that it left, and what became of it. -/
structure Try where
  buffer : Bytes
  found : Store
  attempt : Attempt
  after : Bytes
  left : Store

/-- The attempt of a role with a buffer on a store. -/
def Try.of (view : View) (role : Role) (buffer : Bytes) (s : Store) : Try :=
  let (attempt, after, o) := Ring.serve role view.geometry buffer (view.object s)
  ⟨buffer, s, attempt, after, s.setObject view.handle.object o⟩

/-- **The attempts of one call**, up to one that moves an element: how many
are refused, and the element of the one that is not. None comes after that
one. -/
inductive Tries : Option Bytes → List Try → Nat → Option Bytes → Prop
  | nil (won : Option Bytes) : Tries won [] 0 won
  | refused {t : Try} {rest : List Try} {n : Nat} {won : Option Bytes}
    (vain : t.attempt.isMoved = false) (later : Tries none rest n won) :
    Tries none (t :: rest) (n + 1) won
  | moved {t : Try} {rest : List Try} {n : Nat} {won : Option Bytes}
    (gone : t.attempt.isMoved = true) (later : Tries (some t.after) rest n won) :
    Tries none (t :: rest) n won

/-- A buffer that is refused stays as it is. -/
theorem Try.after_of_refused {view : View} {role : Role} {buffer : Bytes} {s : Store}
    (h : (Try.of view role buffer s).attempt.isMoved = false) :
    (Try.of view role buffer s).after = buffer := by
  cases role with
  | writer => rfl
  | reader => exact Ring.dequeue_of_not_moved h

/-- And so does the store. -/
theorem Try.left_of_refused {view : View} {role : Role} {buffer : Bytes} {s : Store}
    (h : (Try.of view role buffer s).attempt.isMoved = false) :
    (Try.of view role buffer s).left = s := by
  have hring : (Ring.serve role view.geometry buffer (view.object s)).2.2 = view.object s := by
    cases role with
    | writer =>
      have h : (Ring.enqueue view.geometry buffer (view.object s)).1.isMoved = false := h
      rcases Ring.enqueue_cases view.geometry buffer (view.object s) with ⟨-, hput⟩ | ⟨-, -, hsame⟩
      · rw [hput] at h
        cases h
      · exact hsame
    | reader =>
      have h : (Ring.dequeue view.geometry buffer (view.object s)).1.isMoved = false := h
      rcases Ring.dequeue_cases view.geometry buffer (view.object s) with ⟨-, htake⟩ | ⟨-, -, hsame⟩
      · rw [htake] at h
        cases h
      · exact congrArg Prod.snd hsame
  exact (congrArg (s.setObject view.handle.object) hring).trans (s.setObject_object _)

/-- **A reader gets the oldest element**: the bytes from the read index on,
and in a ring that is in order the first of its unread elements. -/
theorem Try.after_of_reader {view : View} {buffer : Bytes} {s : Store}
    (hv : view.geometry.Valid) (h : (Try.of view .reader buffer s).attempt.isMoved = true) :
    (Try.of view .reader buffer s).after =
        Ring.window view.geometry (view.object s) (Ring.readIndex (view.object s)).toNat
          view.geometry.elementSize.toNat ∧
      (Ring.Orderly view.geometry (view.object s) →
        (Ring.contents view.geometry (view.object s)).head? =
          some (Try.of view .reader buffer s).after) := by
  have h : (Ring.dequeue view.geometry buffer (view.object s)).1.isMoved = true := h
  have hafter : (Try.of view .reader buffer s).after =
      (Ring.dequeue view.geometry buffer (view.object s)).2.1 := rfl
  rcases Ring.dequeue_cases view.geometry buffer (view.object s) with
    ⟨⟨hlength, -, hsome⟩, htake⟩ | ⟨-, hnot, -⟩
  · have hwindow : (Try.of view .reader buffer s).after =
        Ring.window view.geometry (view.object s) (Ring.readIndex (view.object s)).toNat
          view.geometry.elementSize.toNat := by
      rw [hafter, htake]
      dsimp only
      rw [Ring.copyOut_eq_window (Nat.mod_lt _ hv.bandSize_pos)
        (hlength.trans_le hv.elementSize_le_bandSize), Ring.window_mod, hlength]
    refine ⟨hwindow, fun ho => ?_⟩
    have hne : Ring.unreadCount view.geometry (view.object s) ≠ 0 := fun hzero =>
      UInt64.not_le.2 hsome ((ho.writeIndex_le_iff hv).2
        (List.length_eq_zero_iff.1 (Ring.length_contents.trans hzero)))
    obtain ⟨n, hn⟩ := Nat.exists_eq_succ_of_ne_zero hne
    rw [Ring.contents, hn, hwindow]
    rfl
  · exact absurd (by simpa [Attempt.isMoved] using h) hnot

/-- Where the first so many attempts are refused and the next is the last,
it is known which one is not refused. -/
theorem obstructed_of_map {tries : List Try} {k : Nat}
    (h : (tries.map fun t => t.attempt.isMoved) = List.replicate k false ++ [true]) (i : Nat)
    (t : Try) (ht : tries[i]? = some t) : t.attempt.isMoved = true ↔ i = k := by
  have hi : (List.replicate k false ++ [true])[i]? = some t.attempt.isMoved := by
    rw [← h, List.getElem?_map, ht, Option.map_some]
  rcases Nat.lt_trichotomy i k with hlt | rfl | hgt
  · rw [List.getElem?_append_left (by rwa [List.length_replicate]), List.getElem?_replicate,
      if_pos hlt] at hi
    rw [← Option.some.inj hi]
    exact iff_of_false Bool.noConfusion hlt.ne
  · rw [List.getElem?_append_right (by rw [List.length_replicate]), List.length_replicate,
      Nat.sub_self] at hi
    exact iff_of_true (Option.some.inj hi).symm rfl
  · rw [List.getElem?_eq_none (by rwa [List.length_append, List.length_replicate])] at hi
    cases hi

namespace Tries

variable {tries : List Try} {n k : Nat} {won : Option Bytes} {element : Bytes}

/-- Nothing is tried after an element was moved. -/
theorem of_won (h : Tries (some element) tries n won) :
    tries = [] ∧ n = 0 ∧ won = some element := by
  cases h with
  | nil => exact ⟨rfl, rfl, rfl⟩

/-- Where all attempts are refused no element is moved. -/
theorem of_refused (h : Tries none tries n won) (hall : ∀ t ∈ tries, t.attempt.isMoved = false) :
    n = tries.length ∧ won = none := by
  induction tries generalizing n with
  | nil =>
    cases h with
    | nil => exact ⟨rfl, rfl⟩
  | cons t rest ih =>
    cases h with
    | refused vain later =>
      obtain ⟨hn, hwon⟩ := ih later fun t ht => hall t (List.mem_cons_of_mem _ ht)
      exact ⟨congrArg (· + 1) hn, hwon⟩
    | moved gone later =>
      cases gone.symm.trans (hall t List.mem_cons_self)

/-- **Where an element is moved, it is by the last attempt**, and all before
it are refused. -/
theorem exists_moved (h : Tries none tries n (some element)) :
    ∃ vain t, tries = vain ++ [t] ∧ vain.length = n ∧
      (∀ t ∈ vain, t.attempt.isMoved = false) ∧ t.attempt.isMoved = true ∧ element = t.after := by
  induction tries generalizing n with
  | nil => cases h
  | cons first rest ih =>
    cases h with
    | refused hvain later =>
      obtain ⟨vain, t, rfl, rfl, hall, hmoved, hafter⟩ := ih later
      exact ⟨first :: vain, t, rfl, rfl, List.forall_mem_cons.2 ⟨hvain, hall⟩, hmoved, hafter⟩
    | moved gone later =>
      obtain ⟨rfl, rfl, hwon⟩ := later.of_won
      exact ⟨[], first, rfl, rfl, fun t ht => absurd ht List.not_mem_nil, gone,
        Option.some.inj hwon⟩

/-- There is none after one that is not refused, whichever that is. -/
theorem length_le (h : Tries none tries n won)
    (hmoved : ∀ t, tries[k]? = some t → t.attempt.isMoved = true) : tries.length ≤ k + 1 := by
  induction tries generalizing n k with
  | nil => exact Nat.zero_le _
  | cons t rest ih =>
    cases h with
    | moved gone later =>
      rw [later.of_won.1]
      exact Nat.succ_le_succ (Nat.zero_le k)
    | refused vain later =>
      cases k with
      | zero => cases vain.symm.trans (hmoved t rfl)
      | succ k => exact Nat.succ_le_succ (ih later fun t ht => hmoved t ht)

end Tries

namespace Vigil

variable {v : Vigil} {ticket : Nat} {b : Bytes} {p : Pursuit} {a : Act}

/-! ## What is seen of a run -/

/-- The attempt that an act is. -/
def trial? (v : Vigil) : Act → Option Try
  | .worker =>
    match v.worker with
    | some (.serving buffer) =>
      some (Try.of v.course.lane.view v.course.lane.role buffer v.course.store)
    | _ => none
  | _ => none

/-- **The attempts at the ring**, in the order in which they are made. -/
def tried (v : Vigil) : List Act → List Try
  | [] => []
  | a :: rest => (v.trial? a).toList ++ (v.act a).tried rest

/-- What an act asks for on behalf of the call with a ticket, while nobody
shuts the direction down. -/
def asks (v : Vigil) (ticket : Nat) : Act → List Ask
  | .call acting =>
    if acting = ticket then
      match v.call? ticket with
      | some k => k.phase.asks
      | none => []
    else []
  | _ => []

/-- **What the call with a ticket asks for**, in that order. -/
def asked (v : Vigil) (ticket : Nat) : List Act → List Ask
  | [] => []
  | a :: rest => v.asks ticket a ++ (v.act a).asked ticket rest

theorem tried_append (v : Vigil) (acts later : List Act) :
    v.tried (acts ++ later) = v.tried acts ++ (v.run acts).tried later := by
  induction acts generalizing v with
  | nil => rfl
  | cons a rest ih =>
    rw [List.cons_append, tried, ih, tried, List.append_assoc]
    rfl

end Vigil

/-- **Acts that leave the lane to the one call on it**: no other caller acts
and nobody shuts the direction down. What others do to the store is free. -/
def Act.isAside : Act → Bool
  | .call _ => true
  | .timeUp _ => true
  | .keep _ => true
  | .worker => true
  | .others _ => true
  | .issue _ => false
  | .collect => false
  | .begin _ _ => false
  | .shutDown => false

/-- The store when an act of others is over. -/
def Act.leave (s : Store) : Act → Store
  | .others s' => s'
  | _ => s

/-- **The store as the others leave it.** -/
def Store.leftBy (s : Store) (acts : List Act) : Store := acts.foldl Act.leave s

namespace Vigil

variable {v : Vigil} {ticket : Nat} {b : Bytes} {p : Pursuit} {a : Act}

/-- An attempt is made by a worker that has a buffer to take to the ring. -/
theorem trial?_eq_some {t : Try} (h : v.trial? a = some t) :
    a = .worker ∧ ∃ buffer, v.worker = some (.serving buffer) ∧
      t = Try.of v.course.lane.view v.course.lane.role buffer v.course.store := by
  cases a with
  | worker =>
    simp only [trial?] at h
    split at h
    · rename_i buffer hw
      exact ⟨rfl, buffer, hw, (Option.some.inj h).symm⟩
    · cases h
  | _ => cases h

theorem trial?_of_serving {buffer : Bytes} (hw : v.worker = some (.serving buffer)) :
    v.trial? .worker =
      some (Try.of v.course.lane.view v.course.lane.role buffer v.course.store) := by
  simp only [trial?, hw]

/-- **Only others and attempts change the store.** -/
theorem store_act (v : Vigil) (a : Act) :
    (v.act a).course.store =
      match v.trial? a with
      | some t => t.left
      | none => a.leave v.course.store := by
  cases a with
  | worker =>
    have hact : (v.act .worker).course.store = (v.course.lane.workerStep v.course.store).2 := rfl
    rw [hact]
    by_cases hserving : ∃ buffer, v.worker = some (.serving buffer)
    · obtain ⟨buffer, hw⟩ := hserving
      have hlane : v.course.lane.handshake.worker = some (.serving buffer) := hw
      rw [trial?_of_serving hw]
      simp only [Lane.workerStep, hlane, Store.updateObject_eq]
      rfl
    · have hnone : v.trial? .worker = none := by
        refine Option.eq_none_iff_forall_ne_some.2 fun t ht => hserving ?_
        obtain ⟨-, buffer, hw, -⟩ := trial?_eq_some ht
        exact ⟨buffer, hw⟩
      rw [hnone]
      unfold Lane.workerStep
      split
      · exact absurd ⟨_, by assumption⟩ hserving
      · rfl
      · rfl
  | call acting =>
    simp only [act, Course.turn]
    split <;> rfl
  | keep i =>
    simp only [act]
    split <;> rfl
  | timeUp acting =>
    simp only [act]
    split <;> rfl
  | _ => rfl

theorem store_of_refused {acts : List Act}
    (h : ∀ t ∈ v.tried acts, t.attempt.isMoved = false) :
    (v.run acts).course.store = v.course.store.leftBy acts := by
  induction acts generalizing v with
  | nil => rfl
  | cons a rest ih =>
    have hrest := ih (v := v.act a) fun t ht => h t (List.mem_append_right _ ht)
    refine hrest.trans (congrArg (Store.leftBy · rest) ?_)
    rw [store_act]
    cases htry : v.trial? a with
    | none => rfl
    | some t =>
      obtain ⟨rfl, buffer, -, rfl⟩ := trial?_eq_some htry
      refine Try.left_of_refused (h _ (List.mem_append_left _ ?_))
      rw [htry]
      exact List.mem_singleton_self _

/-- An attempt of a run is made at a step of the worker. -/
theorem exists_of_tried {acts : List Act} {vain rest : List Try} {t : Try}
    (h : v.tried acts = vain ++ t :: rest) :
    ∃ before after, acts = before ++ .worker :: after ∧ v.tried before = vain ∧
      (v.run before).trial? .worker = some t ∧
      ((v.run before).act .worker).tried after = rest := by
  induction acts generalizing v vain with
  | nil => exact absurd h.symm (List.append_ne_nil_of_right_ne_nil _ (List.cons_ne_nil _ _))
  | cons a acts ih =>
    rw [tried] at h
    cases htry : v.trial? a with
    | none =>
      rw [htry] at h
      obtain ⟨before, after, rfl, hvain, hat, hrest⟩ := ih h
      exact ⟨a :: before, after, rfl, by rw [tried, htry]; exact hvain, hat, hrest⟩
    | some first =>
      rw [htry] at h
      cases vain with
      | nil =>
        obtain ⟨rfl, hrest⟩ := List.cons.inj h
        obtain ⟨rfl, -⟩ := trial?_eq_some htry
        exact ⟨[], acts, rfl, rfl, htry, hrest⟩
      | cons t' vain =>
        obtain ⟨rfl, htail⟩ := List.cons.inj h
        obtain ⟨before, after, rfl, hvain, hat, hrest⟩ := ih htail
        refine ⟨a :: before, after, rfl, ?_, hat, hrest⟩
        rw [tried, htry, hvain]
        rfl

/-! ## What the acts come to -/

/-- Acts that leave the lane to one call are steps of their threads. -/
theorem step_aside (v : Vigil) (haside : a.isAside = true) :
    v.scene.Step a.thread (v.act a).scene := by
  cases a with
  | worker => exact v.step_worker
  | call acting => exact v.step_call acting
  | timeUp acting => exact v.step_timeUp acting
  | keep i => exact v.step_keep i
  | others s => exact .aside
  | issue buffer => cases haside
  | collect => cases haside
  | «begin» element policy => cases haside
  | shutDown => cases haside

theorem view_act (v : Vigil) (a : Act) : (v.act a).course.lane.view = v.course.lane.view := by
  cases a with
  | call acting => exact v.course.view_turn (.call acting)
  | worker => exact v.course.view_turn .worker
  | timeUp acting => simp only [act]; split <;> rfl
  | keep i => simp only [act]; split <;> rfl
  | _ => rfl

theorem role_act (v : Vigil) (haside : a.isAside = true) :
    (v.act a).course.lane.role = v.course.lane.role := (v.step_aside haside).role_eq

/-- The time is up of a call that sleeps between two attempts, or of none. -/
theorem pursuing_timeUp (h : v.scene.Pursuing ticket b p) (acting : Nat) :
    ∃ q, (v.act (.timeUp acting)).scene.Pursuing ticket b q ∧
      p.Goes b ticket (.timeUp acting) q := by
  cases hnaps : v.naps acting with
  | false =>
    rw [act_timeUp hnaps]
    refine ⟨p, h, .refl rfl fun hawaited => ?_⟩
    rcases Pursuit.awaited_cases hawaited with hsame | hsame | ⟨hsame, buffer, delay, hphase⟩
    · cases hsame
    · cases hsame
    · cases hsame
      have hcall : v.call? ticket = some p.call := h.call
      simp [naps, hcall, Call.nap?, hphase] at hnaps
  | true =>
    obtain ⟨k, hk, hnap⟩ : ∃ k, v.call? acting = some k ∧ k.nap?.isSome = true := by
      cases hk : v.call? acting with
      | none => simp [naps, hk] at hnaps
      | some k => exact ⟨k, rfl, by simpa [naps, hk] using hnaps⟩
    obtain ⟨named, retrier, phase⟩ := k
    obtain rfl : named = acting := Course.ticket_of_call? (c := v.course) hk
    cases phase with
    | napping buffer delay =>
      by_cases hother : named = ticket
      · subst hother
        obtain ⟨w, k, stage⟩ := p
        cases Option.some.inj (h.call.symm.trans hk)
        rw [scene_timeUp hk]
        exact h.nears_step rfl rfl rfl (Nat.lt_succ_self 5)
      · cases h.others named _ hother hk
    | _ => cases hnap

/-- **An act leaves the call where it is on its way, or takes it further**,
unless it is an attempt. -/
theorem pursuing_act (h : v.scene.Pursuing ticket b p) (haside : a.isAside = true)
    (hnone : v.trial? a = none) :
    ∃ q, (v.act a).scene.Pursuing ticket b q ∧ p.Goes b ticket a q := by
  have hstep := v.step_aside haside
  cases a with
  | worker =>
    refine h.worker_step hstep fun buffer hw => ?_
    rw [trial?_of_serving hw] at hnone
    cases hnone
  | call acting =>
    by_cases hother : acting = ticket
    · subst hother
      exact h.own_step hstep
    · rw [h.other_step hstep hother]
      refine ⟨p, h, .refl (if_neg hother) fun hawaited => ?_⟩
      rcases Pursuit.awaited_cases hawaited with hsame | hsame | ⟨hsame, -⟩ <;> cases hsame
      exact hother rfl
  | timeUp acting => exact pursuing_timeUp h acting
  | keep i =>
    have hsame : (v.act (.keep i)).direction = v.direction := by
      simp only [act]
      split <;> rfl
    refine h.outside_step hstep ((congrArg Direction.exit hsame).trans h.runs) rfl
      fun hawaited => ?_
    rcases Pursuit.awaited_cases hawaited with hsame | hsame | ⟨hsame, -⟩ <;> cases hsame
  | others s =>
    refine ⟨p, h, .refl rfl fun hawaited => ?_⟩
    rcases Pursuit.awaited_cases hawaited with hsame | hsame | ⟨hsame, -⟩ <;> cases hsame
  | issue buffer => cases haside
  | collect => cases haside
  | «begin» element policy => cases haside
  | shutDown => cases haside

/-- **An attempt.** The worker comes back with what became of it. -/
theorem pursuing_try {t : Try} (h : v.scene.Pursuing ticket b p) (htry : v.trial? a = some t) :
    p.stage = .serving ∧ t = Try.of v.course.lane.view v.course.lane.role b v.course.store ∧
      (v.act a).scene.Pursuing ticket b ⟨.publishing ⟨t.attempt.isMoved, t.after⟩, p.call,
        .returning ⟨t.attempt.isMoved, t.after⟩⟩ := by
  obtain ⟨rfl, buffer, hw, rfl⟩ := trial?_eq_some htry
  obtain ⟨w, ⟨named, retrier, phase⟩, stage⟩ := p
  obtain rfl : w = .serving buffer := Option.some.inj (h.worker.symm.trans hw)
  have his := h.is
  dsimp only at his
  cases his with
  | serving waits slot down =>
    refine ⟨rfl, rfl, ?_⟩
    rw [scene_serving hw]
    exact ⟨rfl, h.call, h.others, h.fits, h.runs,
      .returning _ (fun hrefused => Try.after_of_refused hrefused) waits slot down⟩
  | owing hand stays owes free kept => cases hand
  | pending hand stays waits slot up told => cases hand
  | finished t own hand stays waits slot down told => cases hand
  | returned element hand stays slot down reset => cases hand

/-- **What acts come to** for a call on its way, some of its attempts being
refused. -/
structure Comes (v : Vigil) (ticket : Nat) (b : Bytes) (acts : List Act) (p q : Pursuit) (n : Nat) :
    Prop where
  pursuing : (v.run acts).scene.Pursuing ticket b q
  /-- What is due by now has been asked for, or is still to be. -/
  asked : v.asked ticket acts ++ q.due b =
    p.due b ++ (p.retrier.delays n).flatMap (Ask.again b)
  tries : Tries p.won (v.tried acts) n q.won
  /-- Every attempt was made with the buffer of the call. -/
  own : ∀ t ∈ v.tried acts, t = Try.of v.course.lane.view v.course.lane.role b t.found
  /-- Nothing but an attempt takes the call farther from the next one. -/
  near : q.distance ≤ p.distance + 10 * (v.tried acts).length
  /-- It gets nearer if what it waits for happens. -/
  nearer : ∀ a ∈ acts, p.awaited ticket = some a →
    q.distance < p.distance + 10 * (v.tried acts).length

/-- What the call asks for is what its place says. -/
theorem asks_of_pursuing (h : v.scene.Pursuing ticket b p) (a : Act) :
    v.asks ticket a = p.asks ticket a := by
  have hcall : v.call? ticket = some p.call := h.call
  cases a with
  | call acting => simp only [asks, Pursuit.asks, hcall]
  | _ => rfl

theorem Comes.refl (h : v.scene.Pursuing ticket b p) : v.Comes ticket b [] p p 0 where
  pursuing := h
  asked := (List.append_nil _).symm
  tries := .nil p.won
  own _ ht := absurd ht List.not_mem_nil
  near := Nat.le_add_right ..
  nearer _ ha := absurd ha List.not_mem_nil

/-- **One more act first**, not an attempt. -/
theorem Comes.act_first {r q : Pursuit} {n : Nat} {acts : List Act}
    (h : v.scene.Pursuing ticket b p) (haside : a.isAside = true) (hnone : v.trial? a = none)
    (hgoes : p.Goes b ticket a r) (hcomes : (v.act a).Comes ticket b acts r q n) :
    v.Comes ticket b (a :: acts) p q n := by
  have htried : v.tried (a :: acts) = (v.act a).tried acts := by
    rw [tried, hnone]
    rfl
  constructor
  · exact hcomes.pursuing
  · rw [Vigil.asked, List.append_assoc, hcomes.asked, asks_of_pursuing h, ← List.append_assoc,
      hgoes.due, hgoes.retrier]
  · rw [htried, ← hgoes.won]
    exact hcomes.tries
  · rw [htried, ← view_act v a, ← role_act v haside]
    exact hcomes.own
  · rw [htried]
    refine hcomes.near.trans (Nat.add_le_add_right ?_ _)
    rcases hgoes.nearer with hlt | ⟨heq, -, -⟩
    · exact hlt.le
    · exact heq.le
  · intro a' ha' hawaited
    rw [htried]
    rcases hgoes.nearer with hlt | ⟨hdistance, hsame, hnot⟩
    · exact lt_of_le_of_lt hcomes.near (Nat.add_lt_add_right hlt _)
    · rcases List.mem_cons.1 ha' with rfl | hlater
      · exact absurd hawaited hnot
      · rw [← hdistance]
        exact hcomes.nearer a' hlater (hsame.trans hawaited)

/-- **One attempt first.** -/
theorem Comes.try_first {t : Try} {q : Pursuit} {n : Nat} {acts : List Act}
    (h : v.scene.Pursuing ticket b p) (htry : v.trial? a = some t)
    (hcomes : (v.act a).Comes ticket b acts ⟨.publishing ⟨t.attempt.isMoved, t.after⟩, p.call,
      .returning ⟨t.attempt.isMoved, t.after⟩⟩ q n) :
    v.Comes ticket b (a :: acts) p q (if t.attempt.isMoved then n else n + 1) := by
  obtain ⟨hstage, ht, -⟩ := pursuing_try h htry
  obtain ⟨rfl, -, -, -⟩ := trial?_eq_some htry
  have htried : v.tried (.worker :: acts) = t :: (v.act .worker).tried acts := by
    rw [tried, htry]
    rfl
  obtain ⟨w, k, stage⟩ := p
  cases hstage
  have hnear : q.distance ≤ 10 + 10 * ((v.act .worker).tried acts).length := hcomes.near
  have hfar : q.distance < 1 + 10 * (v.tried (.worker :: acts)).length := by
    rw [htried, List.length_cons]
    omega
  refine ⟨hcomes.pursuing, ?_, ?_, ?_, hfar.le, fun _ _ _ => hfar⟩
  · refine hcomes.asked.trans ?_
    cases hmoved : t.attempt.isMoved with
    | true => rfl
    | false =>
      change Ask.again b k.retrier.nextDelay.1 ++
        (k.retrier.nextDelay.2.delays n).flatMap (Ask.again b) =
          (k.retrier.delays (n + 1)).flatMap (Ask.again b)
      rw [Retrier.delays, List.flatMap_cons]
  · rw [htried]
    cases hmoved : t.attempt.isMoved with
    | true =>
      rw [hmoved] at hcomes
      exact .moved hmoved hcomes.tries
    | false =>
      rw [hmoved] at hcomes
      exact .refused hmoved hcomes.tries
  · rw [htried]
    refine List.forall_mem_cons.2 ⟨by rw [ht]; rfl, ?_⟩
    rw [← view_act v .worker, ← role_act v (a := .worker) rfl]
    exact hcomes.own

/-- **Whatever the others do in between, acts come to something** for a call
on its way. -/
theorem exists_comes {acts : List Act} (h : v.scene.Pursuing ticket b p)
    (haside : ∀ a ∈ acts, a.isAside = true) : ∃ q n, v.Comes ticket b acts p q n := by
  induction acts generalizing v p with
  | nil => exact ⟨p, 0, .refl h⟩
  | cons a acts ih =>
    obtain ⟨hfirst, hrest⟩ := List.forall_mem_cons.1 haside
    cases htry : v.trial? a with
    | none =>
      obtain ⟨r, hr, hgoes⟩ := pursuing_act h hfirst htry
      obtain ⟨q, n, hcomes⟩ := ih hr hrest
      exact ⟨q, n, .act_first h hfirst htry hgoes hcomes⟩
    | some t =>
      obtain ⟨-, -, hr⟩ := pursuing_try h htry
      obtain ⟨q, n, hcomes⟩ := ih hr hrest
      exact ⟨q, _, .try_first h htry hcomes⟩

/-! ## Fair rounds -/

/-- **A round**: acts among which are a step of the call, one of the worker
and the time that is up. -/
structure Round (ticket : Nat) (acts : List Act) : Prop where
  call : .call ticket ∈ acts
  worker : .worker ∈ acts
  timeUp : .timeUp ticket ∈ acts

/-- A call that has not returned gets nearer in every round. -/
theorem Comes.distance_lt {acts : List Act} {q : Pursuit} {n : Nat}
    (h : v.Comes ticket b acts p q n) (hround : Round ticket acts) (hfar : p.distance ≠ 0) :
    q.distance < p.distance + 10 * (v.tried acts).length := by
  obtain ⟨a, hawaited⟩ := p.exists_awaited ticket hfar
  refine h.nearer a ?_ hawaited
  rcases Pursuit.awaited_cases hawaited with rfl | rfl | ⟨rfl, -⟩
  · exact hround.call
  · exact hround.worker
  · exact hround.timeUp

/-- A call that has returned stays where it is. -/
theorem Comes.distance_eq_zero {acts : List Act} {q : Pursuit} {n : Nat}
    (h : v.Comes ticket b acts p q n) (hend : p.distance = 0) : q.distance = 0 := by
  obtain ⟨element, hstage⟩ := Pursuit.returned_of_distance hend
  have hwon : p.won = some element := by rw [Pursuit.won, hstage]
  obtain ⟨hnone, -, -⟩ := (hwon ▸ h.tries).of_won
  have hnear := h.near
  rw [hend, hnone] at hnear
  exact Nat.le_zero.1 hnear

/-- **In fair rounds a call comes to its end**, or an attempt is made in
every ten of them. -/
theorem distance_rounds {rounds : List (List Act)} (h : v.scene.Pursuing ticket b p)
    (haside : ∀ round ∈ rounds, ∀ a ∈ round, a.isAside = true)
    (hfair : ∀ round ∈ rounds, Round ticket round) :
    ∃ q, (v.run rounds.flatten).scene.Pursuing ticket b q ∧
      (q.distance = 0 ∨
        q.distance + rounds.length ≤ p.distance + 10 * (v.tried rounds.flatten).length) := by
  induction rounds generalizing v p with
  | nil => exact ⟨p, h, .inr (Nat.le_add_right ..)⟩
  | cons round rest ih =>
    by_cases hend : p.distance = 0
    · obtain ⟨q, n, hcomes⟩ := exists_comes h (List.forall_mem_flatten.2 haside)
      exact ⟨q, hcomes.pursuing, .inl (hcomes.distance_eq_zero hend)⟩
    · obtain ⟨hfirst, hrest⟩ := List.forall_mem_cons.1 haside
      obtain ⟨hround, hfair⟩ := List.forall_mem_cons.1 hfair
      obtain ⟨r, n, hcomes⟩ := exists_comes h hfirst
      obtain ⟨q, hq, hle⟩ := ih hcomes.pursuing hrest hfair
      have hlt := hcomes.distance_lt hround hend
      rw [List.flatten_cons, run_append, tried_append, List.length_append, List.length_cons]
      exact ⟨q, hq, hle.imp id fun hle => by omega⟩

/-! ## The retry loop -/

/-- A blocking call on a lane that waits for a request is on its way. -/
theorem pursuing_begin (policy : RetryPolicy) (h : v.course.lane.Attentive)
    (hnumbered : v.course.Numbered) (hb : b.length = v.direction.elementSize.toNat) :
    ∃ w, (v.act (.begin b policy)).scene.Pursuing v.course.nextTicket b
      ⟨w, ⟨v.course.nextTicket, ⟨policy, 0⟩, .submitting b⟩, .owing⟩ := by
  obtain ⟨w, hw, hhand, hleft⟩ := h.worker
  have hcall (other : Nat) := Course.call?_begin hnumbered b policy other
  refine ⟨w, hw, (hcall _).trans (if_pos rfl), fun other k hother hk => ?_, hb, h.exit,
    .owing hhand hleft rfl h.idle h.kept⟩
  have hbefore : v.course.call? other = some k := by
    rw [← hcall other |>.trans (if_neg hother)]
    exact hk
  exact h.calls k (List.mem_of_find?_eq_some hbefore)

/-- What a call has returned that is on its way. -/
theorem result?_of_pursuing (h : v.scene.Pursuing ticket b p) :
    v.course.result? ticket = p.call.result? := congrArg (·.bind Call.result?) h.call

/-- **A call that has returned had its element moved**, and has left the slot
free and all flags down. -/
theorem won_of_result {r : Except ChannelError Bytes} (h : v.scene.Pursuing ticket b p)
    (hr : v.course.result? ticket = some r) :
    ∃ element, r = .ok element ∧ p.won = some element ∧ v.direction.request = .empty ∧
      v.direction.ready = false ∧ v.direction.complete = false := by
  obtain ⟨w, ⟨named, retrier, phase⟩, stage⟩ := p
  have hresult : Call.result? ⟨named, retrier, phase⟩ = some r :=
    (result?_of_pursuing h).symm.trans hr
  cases phase with
  | returned r' =>
    obtain ⟨element, hok, hstage, hslot, hready, hcomplete⟩ := h.is.of_returned
    cases hresult
    refine ⟨element, hok, ?_, hslot, hready, hcomplete⟩
    rw [Pursuit.won, hstage]
  | _ => cases hresult

section Begun

variable {policy : RetryPolicy} {w : WorkerPhase} {acts : List Act} {q : Pursuit} {n k : Nat}

/-- What a call asks for that has just begun is what its policy says. -/
theorem Comes.asked_eq (h : v.Comes ticket b acts (.begun w ticket policy b) q n) :
    v.asked ticket acts ++ q.due b = policy.asks b n := by
  have hdelays : (Pursuit.begun w ticket policy b).retrier.delays n = policy.waits n :=
    Retrier.delays_eq_waits policy n
  rw [h.asked, hdelays]
  rfl

/-- **While every attempt is refused** the call goes on, and the store is
what the others make of it. -/
theorem Comes.of_refused (h : v.Comes ticket b acts (.begun w ticket policy b) q n)
    (hall : ∀ t ∈ v.tried acts, t.attempt.isMoved = false) :
    (v.run acts).course.result? ticket = none ∧
      (v.run acts).course.store = v.course.store.leftBy acts ∧
      v.asked ticket acts <+: policy.asks b (v.tried acts).length := by
  obtain ⟨hn, hwon⟩ := h.tries.of_refused hall
  refine ⟨Option.eq_none_iff_forall_ne_some.2 fun r hr => ?_, store_of_refused hall, ?_⟩
  · obtain ⟨element, -, hmoved, -⟩ := won_of_result h.pursuing hr
    cases hwon.symm.trans hmoved
  · rw [← hn]
    exact ⟨q.due b, h.asked_eq⟩

/-- **What a call has done that has returned**: all its attempts but the
last were refused, it has asked for what its policy says, and nothing but
the last attempt and the others have changed the store. -/
theorem Comes.of_returned {r : Except ChannelError Bytes}
    (h : v.Comes ticket b acts (.begun w ticket policy b) q n)
    (hr : (v.run acts).course.result? ticket = some r) :
    ∃ t before after, acts = before ++ .worker :: after ∧ (v.tried before).length = n ∧
      v.tried acts = v.tried before ++ [t] ∧
      (∀ t' ∈ v.tried before, t'.attempt.isMoved = false) ∧ t.attempt.isMoved = true ∧
      t = Try.of v.course.lane.view v.course.lane.role b (v.course.store.leftBy before) ∧
      (v.run acts).course.store = t.left.leftBy after ∧ r = .ok t.after ∧
      v.asked ticket acts = policy.asks b n := by
  obtain ⟨element, rfl, hwon, -⟩ := won_of_result h.pursuing hr
  have htries : Tries none (v.tried acts) n (some element) := hwon ▸ h.tries
  obtain ⟨vain, t, htried, hlength, hvain, hmoved, rfl⟩ := htries.exists_moved
  obtain ⟨before, after, rfl, hbefore, hat, hafter⟩ := exists_of_tried htried
  have hstore : (v.run before).course.store = v.course.store.leftBy before :=
    store_of_refused (hbefore ▸ hvain)
  obtain ⟨-, buffer, -, hfound⟩ := trial?_eq_some hat
  have hown := h.own t (by rw [htried]; exact List.mem_append_right _ (List.mem_singleton_self t))
  refine ⟨t, before, after, rfl, hbefore ▸ hlength, hbefore ▸ htried, hbefore ▸ hvain, hmoved,
    ?_, ?_, rfl, ?_⟩
  · have hsame : t.found = v.course.store.leftBy before := by rw [hfound, ← hstore]; rfl
    rw [← hsame]
    exact hown
  · have hrest : ∀ t' ∈ ((v.run before).act .worker).tried after, t'.attempt.isMoved = false :=
      fun t' ht' => absurd (hafter ▸ ht') List.not_mem_nil
    rw [run_append]
    refine (store_of_refused hrest).trans (congrArg (Store.leftBy · after) ?_)
    rw [store_act, hat]
  · rw [← h.asked_eq, Pursuit.due_of_won hwon, List.append_nil]

end Begun

/-- **In fair rounds a call returns** in whose way it comes that an attempt
is not refused. -/
theorem exists_result {rounds : List (List Act)} {w : WorkerPhase} {policy : RetryPolicy} {k : Nat}
    (h : v.scene.Pursuing ticket b (.begun w ticket policy b))
    (haside : ∀ a ∈ rounds.flatten, a.isAside = true)
    (hfair : ∀ round ∈ rounds, Round ticket round) (hlong : 10 * (k + 2) ≤ rounds.length)
    (hmoved : ∀ t, (v.tried rounds.flatten)[k]? = some t → t.attempt.isMoved = true) :
    ∃ r, (v.run rounds.flatten).course.result? ticket = some r := by
  obtain ⟨q', n, hcomes⟩ := exists_comes h haside
  have hcount : (v.tried rounds.flatten).length ≤ k + 1 := hcomes.tries.length_le hmoved
  obtain ⟨q, hq, hend | hle⟩ := distance_rounds h (List.forall_mem_flatten.1 haside) hfair
  · obtain ⟨element, hstage⟩ := Pursuit.returned_of_distance hend
    have his := hq.is
    rw [hstage] at his
    refine ⟨.ok element, (result?_of_pursuing hq).trans (Call.result?_eq_some_iff.2 ?_)⟩
    exact congrArg CallPhase.standing his.phase_eq
  · have hstart : (Pursuit.begun w ticket policy b).distance = 4 := rfl
    omega

/-- **What a call has done that has returned after so many refusals.** -/
structure Crossed (u : Vigil) (ticket : Nat) (policy : RetryPolicy) (b : Bytes) (acts : List Act)
    (k : Nat) (r : Except ChannelError Bytes) : Prop where
  /-- It returns what its last attempt came back with: a writer its own
  bytes, a reader the oldest element of the ring as that attempt found it.
  Up to there the store was what the others made of it, and so it is from
  there on. -/
  last : ∃ t before after, acts = before ++ .worker :: after ∧ (u.tried before).length = k ∧
    u.tried acts = u.tried before ++ [t] ∧ (∀ t' ∈ u.tried before, t'.attempt.isMoved = false) ∧
    t = Try.of u.course.lane.view u.course.lane.role b (u.course.store.leftBy before) ∧
    t.attempt = .moved ∧ (u.run acts).course.store = t.left.leftBy after ∧ r = .ok t.after ∧
    (u.course.lane.role = .writer → t.after = b) ∧
    (u.course.lane.role = .reader →
      let g := u.course.lane.view.geometry
      let o := u.course.lane.view.object t.found
      t.after = Ring.window g o (Ring.readIndex o).toNat g.elementSize.toNat ∧
        (Ring.Orderly g o → (Ring.contents g o).head? = some t.after))
  /-- What it asked for is what its policy says, in that order. -/
  asked : u.asked ticket acts = policy.asks b k
  requests : (u.asked ticket acts).filterMap Ask.buffer? = List.replicate (k + 1) b
  sleeps : (u.asked ticket acts).filterMap Ask.delay? = policy.sleeps k
  slot : (u.run acts).direction.request = .empty
  ready : (u.run acts).direction.ready = false
  complete : (u.run acts).direction.complete = false

/-- A call that has returned has done so by the first attempt that was not
refused. -/
theorem crossed_of_result {policy : RetryPolicy} {w : WorkerPhase} {acts : List Act} {k : Nat}
    {r : Except ChannelError Bytes} (h : v.scene.Pursuing ticket b (.begun w ticket policy b))
    (hv : v.course.lane.view.geometry.Valid) (haside : ∀ a ∈ acts, a.isAside = true)
    (hk : ∀ i t, (v.tried acts)[i]? = some t → (t.attempt.isMoved = true ↔ i = k))
    (hr : (v.run acts).course.result? ticket = some r) : v.Crossed ticket policy b acts k r := by
  obtain ⟨q, n, hcomes⟩ := exists_comes h haside
  obtain ⟨t, before, after, hacts, hn, htried, hvain, hmoved, ht, hstore, hresult, hasked⟩ :=
    hcomes.of_returned hr
  obtain rfl : n = k := by
    refine (hk n t ?_).1 hmoved
    rw [htried, ← hn, List.getElem?_concat_length]
  obtain ⟨element, -, -, hslot, hready, hcomplete⟩ := won_of_result hcomes.pursuing hr
  refine ⟨⟨t, before, after, hacts, hn, htried, hvain, ht, by simpa [Attempt.isMoved] using hmoved,
    hstore, hresult, fun hrole => ?_, fun hrole => ?_⟩, hasked, ?_, ?_, hslot, hready, hcomplete⟩
  · rw [ht, hrole]
    rfl
  · rw [hrole] at ht
    subst ht
    exact Try.after_of_reader hv hmoved
  · rw [hasked, policy.buffers_asks]
  · rw [hasked, policy.delays_asks]

/-- **The retry loop.** On a lane that waits for a request a call is made
with a buffer of the right length. No other caller acts and nobody shuts
the lane down; what the others do to the ring between any two steps is free.

While every attempt is refused the call does not return, the store is what
the others make of it, and nothing is asked for but what the policy says. If
`k` attempts are refused and the next is not, the call can return only by
that one (`Crossed`), and in fair rounds it does return. -/
theorem retry_loop (policy : RetryPolicy) (hlane : v.course.lane.Attentive)
    (hnumbered : v.course.Numbered) (hb : b.length = v.direction.elementSize.toNat)
    (hv : v.course.lane.view.geometry.Valid) :
    let u := v.act (.begin b policy)
    let ticket := v.course.nextTicket
    ∀ acts : List Act, (∀ a ∈ acts, a.isAside = true) →
      ((∀ t ∈ u.tried acts, t.attempt.isMoved = false) →
        (u.run acts).course.result? ticket = none ∧
          (u.run acts).course.store = v.course.store.leftBy acts ∧
          u.asked ticket acts <+: policy.asks b (u.tried acts).length) ∧
      ∀ k, (∀ i t, (u.tried acts)[i]? = some t → (t.attempt.isMoved = true ↔ i = k)) →
        (∀ r, (u.run acts).course.result? ticket = some r → u.Crossed ticket policy b acts k r) ∧
        ∀ rounds : List (List Act), acts = rounds.flatten →
          (∀ round ∈ rounds, Round ticket round) → 10 * (k + 2) ≤ rounds.length →
          ∃ r, (u.run acts).course.result? ticket = some r := by
  intro u ticket acts haside
  obtain ⟨w, hbegun⟩ := pursuing_begin policy hlane hnumbered hb
  obtain ⟨q, n, hcomes⟩ := exists_comes hbegun haside
  refine ⟨hcomes.of_refused, fun k hk => ⟨fun r hr => crossed_of_result hbegun hv haside hk hr, ?_⟩⟩
  rintro rounds rfl hfair hlong
  exact exists_result hbegun haside hfair hlong fun t ht => (hk k t ht).2 rfl

/-! ## A call that is refused once -/

/-- A writer's lane on a ring of one element, after so many were put in. -/
def narrowVigil (written : UInt64) : Vigil :=
  start Course.narrowView .writer 1 (Course.narrowStore written)

/-- An attempt of a call, and what it does before it sleeps. -/
def attemptActs : List Act :=
  [.call 0, .call 0, .worker, .worker, .worker, .worker, .call 0, .call 0]

/-- The ring is full at the first attempt; others empty it while the call
sleeps. -/
def refusedOnce : List Act :=
  attemptActs ++ [.others (Course.narrowStore 0), .timeUp 0, .call 0] ++ attemptActs

set_option maxRecDepth 4000 in
theorem retry_loop_refusedOnce :
    (((narrowVigil 1).act (.begin [10] (.fixed ⟨1, 0⟩))).run refusedOnce).course.result? 0 =
        some (.ok [10]) ∧
      ((narrowVigil 1).act (.begin [10] (.fixed ⟨1, 0⟩))).Crossed 0 (.fixed ⟨1, 0⟩) [10]
        refusedOnce 1 (.ok [10]) ∧
      ∃ r, (((narrowVigil 0).act (.begin [10] (.fixed ⟨1, 0⟩))).run
        (List.replicate 20 [.call 0, .worker, .timeUp 0]).flatten).course.result? 0 = some r := by
  have hlane (written : UInt64) : (narrowVigil written).course.lane.Attentive :=
    ⟨⟨.looking, rfl, rfl, rfl⟩, rfl, rfl, fun _ => rfl, fun _ hk => absurd hk List.not_mem_nil⟩
  have hnumbered (written : UInt64) : (narrowVigil written).course.Numbered :=
    numbered_start Course.narrowView .writer 1 (Course.narrowStore written)
  have hvalid : Geometry.Valid ⟨1, 1⟩ := ⟨by decide, by decide, by decide⟩
  have hloop (written : UInt64) (acts : List Act) (haside : ∀ a ∈ acts, a.isAside = true) :=
    (retry_loop (.fixed ⟨1, 0⟩) (hlane written) (hnumbered written) (b := [10]) rfl hvalid acts
      haside).2
  have hresult : (((narrowVigil 1).act (.begin [10] (.fixed ⟨1, 0⟩))).run
      refusedOnce).course.result? 0 = some (.ok [10]) := by rfl
  refine ⟨hresult, (hloop 1 refusedOnce ?_ 1 (obstructed_of_map ?_)).1 _ hresult,
    (hloop 0 _ ?_ 0 (obstructed_of_map ?_)).2 _ rfl ?_ ?_⟩
  · decide
  · decide +kernel
  · decide
  · decide +kernel
  · intro round hround
    rw [List.eq_of_mem_replicate hround]
    exact ⟨.head _, .tail _ (.head _), .tail _ (.tail _ (.head _))⟩
  · decide

end Vigil

end TwinRing
