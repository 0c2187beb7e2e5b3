import TwinRing.Proofs.Direction.Crossing
/-!
# Channels — one caller, one call at a time

A program that does one thing at a time pushes, gets, or has ended. What
its end of the channel is for the other one is less than that: an element
that is still to go in (`Situation.sends`), one that has been taken out and
not been looked at (`holds`), or neither (`waits`). A step of a thread
changes this together with one of the two rings, and only by putting the
one element in or taking the one element out (`Situation.Pass`).
-/

namespace TwinRing

/-- **What a program is at**, on its end of a channel. -/
inductive Desk
  | pushing (ticket : Nat)
  | getting (ticket : Nat)
  | ended

/-- **What an end of a channel is** for the other one. -/
inductive Situation
  /-- An element is to go into the outbound ring. -/
  | sends (e : Bytes)
  /-- No element is on its way at this end. -/
  | waits
  /-- An element was taken out of the inbound ring. -/
  | holds (e : Bytes)
  | ended
  deriving DecidableEq

/-- **What a step of a thread can do** to an end and what its two rings
carry, the inbound one first. -/
inductive Situation.Pass : Situation → Option Bytes → Option Bytes →
    Situation → Option Bytes → Option Bytes → Prop
  | still {σ x y} : Pass σ x y σ x y
  | put {e x} : Pass (.sends e) x none .waits x (some e)
  | take {e y} : Pass .waits (some e) y (.holds e) none y

/-- **Two rings, and what each of them carries.** -/
structure Ring.Pair (g : Geometry) (i o : Nat) (x y : Option Bytes) (s : Store) : Prop where
  apart : i ≠ o
  inLive : i < s.objects.size
  outLive : o < s.objects.size
  inbound : Carries g (s.object i) x
  outbound : Carries g (s.object o) y

/-- The two rings of one end are those of the other, the other way round. -/
theorem Ring.Pair.symm {g : Geometry} {i o : Nat} {x y : Option Bytes} {s : Store}
    (h : Pair g i o x y s) : Pair g o i y x s :=
  ⟨h.apart.symm, h.outLive, h.inLive, h.outbound, h.inbound⟩

namespace Channel

open Situation (Pass)

variable {g : Geometry} {i o : Nat} {c : Channel} {s : Store} {t : Turn} {desk : Desk}
variable {σ : Situation} {x y : Option Bytes} {e : Bytes} {ticket : Nat}

/-- **A channel as a program has it**, between two rings. -/
structure Steady (g : Geometry) (i o : Nat) (c : Channel) : Prop where
  inbound : c.inbound.Steady g i .reader
  outbound : c.outbound.Steady g o .writer

/-- **How the channel stands** while its program is at something. -/
inductive Stands (g : Geometry) (c : Channel) : Desk → Situation → Prop
  | sends {ticket : Nat} {e : Bytes} (length : e.length = g.elementSize.toNat)
      (inbound : c.inbound.Rests) (outbound : c.outbound.Seeks ticket e) :
      Stands g c (.pushing ticket) (.sends e)
  | sent {ticket : Nat} {e : Bytes} (inbound : c.inbound.Rests)
      (outbound : c.outbound.Has ticket e) : Stands g c (.pushing ticket) .waits
  | expects {ticket : Nat} {b : Bytes} (length : b.length = g.elementSize.toNat)
      (inbound : c.inbound.Seeks ticket b) (outbound : c.outbound.Rests) :
      Stands g c (.getting ticket) .waits
  | holds {ticket : Nat} {e : Bytes} (inbound : c.inbound.Has ticket e)
      (outbound : c.outbound.Rests) : Stands g c (.getting ticket) (.holds e)
  | ended (inbound : c.inbound.Rests) (outbound : c.outbound.Rests) : Stands g c .ended .ended

/-! ## What a step of a thread does -/

/-- A thread of the inbound lane takes the element out, or does nothing
that anybody else could see. -/
theorem Stands.inbound (h : c.Stands g desk σ) (hc : c.Steady g i o)
    (rings : Ring.Pair g i o x y s) (valid : g.Valid) (thread : t.isThread = true) :
    ∃ σ' x', Pass σ x y σ' x' y ∧ Ring.Carries g ((c.inbound.turned t s).store.object i) x' ∧
      Stands g { c with inbound := (c.inbound.turned t s).lane } desk σ' := by
  have kept : ∀ s' : Store, s' = s → Ring.Carries g (s'.object i) x := fun _ h => h ▸ rings.inbound
  cases h with
  | sends length inbound outbound =>
    obtain ⟨hlane, hstore⟩ := inbound.thread hc.inbound thread s
    exact ⟨_, x, .still, kept _ hstore, .sends length hlane outbound⟩
  | sent inbound outbound =>
    obtain ⟨hlane, hstore⟩ := inbound.thread hc.inbound thread s
    exact ⟨_, x, .still, kept _ hstore, .sent hlane outbound⟩
  | expects length inbound outbound =>
    rcases inbound.thread hc.inbound length rings.inLive thread with
      ⟨hlane, hobject⟩ | ⟨e, hserve, hlane⟩
    · exact ⟨_, x, .still, hobject ▸ rings.inbound, .expects length hlane outbound⟩
    · cases x with
      | none => exact absurd hserve (rings.inbound.not_taken valid length)
      | some e' =>
        obtain ⟨rfl, hcarries⟩ := rings.inbound.take valid length hserve
        exact ⟨_, none, .take, hcarries, .holds hlane outbound⟩
  | holds inbound outbound =>
    obtain ⟨hlane, hstore⟩ := inbound.thread hc.inbound thread s
    exact ⟨_, x, .still, kept _ hstore, .holds hlane outbound⟩
  | ended inbound outbound =>
    obtain ⟨hlane, hstore⟩ := inbound.thread hc.inbound thread s
    exact ⟨_, x, .still, kept _ hstore, .ended hlane outbound⟩

/-- A thread of the outbound lane puts the element in, or does nothing that
anybody else could see. -/
theorem Stands.outbound (h : c.Stands g desk σ) (hc : c.Steady g i o)
    (rings : Ring.Pair g i o x y s) (valid : g.Valid) (thread : t.isThread = true)
    (room : ∀ e, σ = .sends e → y = none) :
    ∃ σ' y', Pass σ x y σ' x y' ∧ Ring.Carries g ((c.outbound.turned t s).store.object o) y' ∧
      Stands g { c with outbound := (c.outbound.turned t s).lane } desk σ' := by
  have kept : ∀ s' : Store, s' = s → Ring.Carries g (s'.object o) y := fun _ h =>
    h ▸ rings.outbound
  cases h with
  | sends length inbound outbound =>
    obtain rfl := room _ rfl
    rcases outbound.thread hc.outbound length rings.outLive thread with
      ⟨hlane, hobject⟩ | ⟨e', hserve, hlane⟩
    · exact ⟨_, none, .still, hobject ▸ rings.outbound, .sends length inbound hlane⟩
    · exact ⟨_, _, .put, rings.outbound.put valid length hserve, .sent inbound hlane⟩
  | sent inbound outbound =>
    obtain ⟨hlane, hstore⟩ := outbound.thread hc.outbound thread s
    exact ⟨_, y, .still, kept _ hstore, .sent inbound hlane⟩
  | expects length inbound outbound =>
    obtain ⟨hlane, hstore⟩ := outbound.thread hc.outbound thread s
    exact ⟨_, y, .still, kept _ hstore, .expects length inbound hlane⟩
  | holds inbound outbound =>
    obtain ⟨hlane, hstore⟩ := outbound.thread hc.outbound thread s
    exact ⟨_, y, .still, kept _ hstore, .holds inbound hlane⟩
  | ended inbound outbound =>
    obtain ⟨hlane, hstore⟩ := outbound.thread hc.outbound thread s
    exact ⟨_, y, .still, kept _ hstore, .ended inbound hlane⟩

/-- A step of a thread leaves the other ring alone. -/
theorem within_turned {l : Lane} {n : Nat} {role : Role} (hl : l.Steady g n role) (t : Turn)
    (s : Store) : Store.Within [n] s (l.turned t s).store := by
  have hwithin := (Course.within_ownTurn { lane := l, store := s } t).2
  rwa [hl.object] at hwithin

/-- **A step of a thread passes at most one element** between this end and
one of its rings. -/
theorem Stands.turn (h : c.Stands g desk σ) (hc : c.Steady g i o)
    (rings : Ring.Pair g i o x y s) (valid : g.Valid) (thread : t.isThread = true)
    (room : ∀ e, σ = .sends e → y = none) (role : Role) :
    ∃ σ' x' y', Pass σ x y σ' x' y' ∧ Ring.Pair g i o x' y' (c.turn role t s).2 ∧
      (c.turn role t s).1.Steady g i o ∧ (c.turn role t s).1.Stands g desk σ' ∧
      Store.Within [i, o] s (c.turn role t s).2 := by
  cases role with
  | reader =>
    obtain ⟨σ', x', hpass, hcarries, hstands⟩ := h.inbound hc rings valid thread
    have hwithin := within_turned hc.inbound t s
    refine ⟨σ', x', y, hpass, ?_, ⟨hc.inbound.thread thread s, hc.outbound⟩, hstands,
      hwithin.mono (by simp)⟩
    exact {
      apart := rings.apart
      inLive := hwithin.count.symm ▸ rings.inLive
      outLive := hwithin.count.symm ▸ rings.outLive
      inbound := hcarries
      outbound := by
        have hsame := hwithin.others o (by simpa using rings.apart.symm)
        exact hsame.symm ▸ rings.outbound }
  | writer =>
    obtain ⟨σ', y', hpass, hcarries, hstands⟩ := h.outbound hc rings valid thread room
    have hwithin := within_turned hc.outbound t s
    refine ⟨σ', x, y', hpass, ?_, ⟨hc.inbound, hc.outbound.thread thread s⟩, hstands,
      hwithin.mono (by simp)⟩
    exact {
      apart := rings.apart
      inLive := hwithin.count.symm ▸ rings.inLive
      outLive := hwithin.count.symm ▸ rings.outLive
      inbound := by
        have hsame := hwithin.others i (by simpa using rings.apart)
        exact hsame.symm ▸ rings.inbound
      outbound := hcarries }

/-! ## What the program does -/

/-- **Neither lane has a call under way.** -/
structure Rests (c : Channel) : Prop where
  inbound : c.inbound.Rests
  outbound : c.outbound.Rests

/-- **A push that has returned has its element in**, and the channel rests
when its program is done with it. -/
theorem Stands.pushed (h : c.Stands g (.pushing ticket) σ) {r : Except ChannelError Bytes}
    (hr : c.result? .writer ticket = some r) :
    σ = .waits ∧ (∃ e, r = .ok e) ∧ (c.forget ticket .writer).Rests := by
  cases h with
  | sends length inbound outbound =>
    have hnone : c.result? .writer ticket = none := outbound.result?
    rw [hnone] at hr
    cases hr
  | sent inbound outbound =>
    obtain ⟨hr', hrests⟩ := outbound.result? hr
    exact ⟨rfl, ⟨_, hr'⟩, inbound, hrests⟩

/-- **A get that has returned has its element**, and the channel rests when
its program is done with it. -/
theorem Stands.got (h : c.Stands g (.getting ticket) σ) {r : Except ChannelError Bytes}
    (hr : c.result? .reader ticket = some r) :
    ∃ e, σ = .holds e ∧ r = .ok e ∧ (c.forget ticket .reader).Rests := by
  cases h with
  | expects length inbound outbound =>
    have hnone : c.result? .reader ticket = none := inbound.result?
    rw [hnone] at hr
    cases hr
  | holds inbound outbound =>
    obtain ⟨hr', hrests⟩ := inbound.result? hr
    exact ⟨_, rfl, hr', hrests, outbound⟩

theorem Steady.forget (h : c.Steady g i o) (ticket : Nat) (role : Role) :
    (c.forget ticket role).Steady g i o := by
  cases role with
  | reader => exact ⟨h.inbound.forget ticket, h.outbound⟩
  | writer => exact ⟨h.inbound, h.outbound.forget ticket⟩

/-- **A program that pushes next** has its element to put in. -/
theorem Rests.push (h : c.Rests) (hc : c.Steady g i o) (he : e.length = g.elementSize.toNat) :
    (c.callPush e).2.Stands g (.pushing (c.callPush e).1) (.sends e) ∧
      (c.callPush e).2.Steady g i o := by
  obtain ⟨hseeks, hsteady⟩ := h.outbound.call hc.outbound e c.config.pushRetry
  exact ⟨.sends he h.inbound hseeks, hc.inbound, hsteady⟩

/-- **A program that gets next** waits for what will be in its ring. -/
theorem Rests.get (h : c.Rests) (hc : c.Steady g i o) :
    (c.callGet g.elementSize.toNat).2.Stands g (.getting (c.callGet g.elementSize.toNat).1) .waits ∧
      (c.callGet g.elementSize.toNat).2.Steady g i o := by
  obtain ⟨hseeks, hsteady⟩ := h.inbound.call hc.inbound
    (List.replicate g.elementSize.toNat 0) c.config.getRetry
  exact ⟨.expects List.length_replicate hseeks h.outbound, hsteady, hc.outbound⟩

/-! ## A channel that was just built -/

theorem rests_dormant (v : View) (role : Role) (elementSize : UInt64) :
    (dormant v role elementSize).Rests where
  request := rfl
  hand := rfl
  ended _ _ h := by cases h

theorem Opened.steady_lane {config : Config} {s₁ s₂ s' : Store} (h : Opened config s s₁ s₂ s' c)
    {role : Role} (hg : config.geometry role = g) :
    (c.lane role).Steady g (c.lane role).view.handle.object role where
  geometry := (h.geometry_eq role).trans hg
  object := rfl
  role_eq := by rw [h.lane_eq role]; rfl
  elementSize := by rw [h.lane_eq role, hg]; rfl
  exit := by rw [h.lane_eq role]; rfl
  numbered := by rw [h.lane_eq role]; exact fun k hk => absurd hk List.not_mem_nil

/-- **A channel that was just built rests** between its two rings. -/
theorem Opened.rests {config : Config} {s₁ s₂ s' : Store} (h : Opened config s s₁ s₂ s' c)
    (hg : ∀ role, config.geometry role = g) :
    c.Rests ∧ c.Steady g c.inbound.view.handle.object c.outbound.view.handle.object := by
  have hrests : ∀ role, (c.lane role).Rests := fun role => by
    rw [h.lane_eq role]
    exact rests_dormant _ _ _
  exact ⟨⟨hrests .reader, hrests .writer⟩, h.steady_lane (hg .reader), h.steady_lane (hg .writer)⟩

end Channel

end TwinRing
