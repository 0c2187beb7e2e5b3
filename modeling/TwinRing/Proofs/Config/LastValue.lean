import Mathlib.Data.List.Induction
import TwinRing.Config
/-!
# Configurations — the last value of each field

A setting gives a value to one field, or the same value to the same field
of both directions, and leaves the others as they are. So a list of
settings leaves in each field the last value that it gives to it
(`Builder.value?_applyAll`), and the order of its settings matters only
within a field. The retry policies are fields that may be left unset: what
stands for them then is found in the end, from the poll delay that was
given last.
-/

namespace TwinRing

/-- **What a configuration is made of.** -/
inductive Field
  | inName
  | outName
  | inCapacity
  | outCapacity
  | inElementSize
  | outElementSize
  | pollDelay
  | clearIn
  | clearOut
  | pushRetry
  | getRetry

namespace Field

/-- What a field holds. -/
def Value : Field → Type
  | .inName | .outName => String
  | .inCapacity | .outCapacity | .inElementSize | .outElementSize => UInt64
  | .pollDelay => Duration
  | .clearIn | .clearOut => Bool
  | .pushRetry | .getRetry => RetryPolicy

/-- Whether a field belongs to the channel, and not to one direction. -/
def IsShared : Field → Prop
  | .pollDelay | .pushRetry | .getRetry => True
  | _ => False

end Field

namespace Setting

/-- **The value that a setting gives to a field**, if it gives it one. A
setting for both directions gives its value to a field of each. -/
def value? : (f : Field) → Setting → Option f.Value
  | .inName, .inName name => some name
  | .outName, .outName name => some name
  | .inCapacity, .inCapacity count => some count
  | .inCapacity, .capacity count => some count
  | .outCapacity, .outCapacity count => some count
  | .outCapacity, .capacity count => some count
  | .inElementSize, .inElementSize size => some size
  | .inElementSize, .elementSize size => some size
  | .outElementSize, .outElementSize size => some size
  | .outElementSize, .elementSize size => some size
  | .pollDelay, .pollDelay delay => some delay
  | .pollDelay, .pollDelayMicroseconds us => some (Duration.ofMicroseconds us)
  | .clearIn, .clearIn clear => some clear
  | .clearOut, .clearOut clear => some clear
  | .pushRetry, .pushRetry policy => some policy
  | .getRetry, .getRetry policy => some policy
  | _, _ => none

/-- Whether an instruction does no more than give values to fields. -/
def IsSetter : Setting → Prop
  | .reset | .opposite => False
  | _ => True

/-- Whether an instruction moves no value into a field from another, and
takes none away from it. -/
def LeavesInPlace (f : Field) : Setting → Prop
  | .reset => False
  | .opposite => f.IsShared
  | _ => True

variable {c : Setting} {f : Field}

theorem IsSetter.leavesInPlace (h : c.IsSetter) (f : Field) : c.LeavesInPlace f := by
  cases c with
  | reset => exact h
  | opposite => exact h.elim
  | _ => exact h

/-- To exchange the directions leaves in place what belongs to neither. -/
theorem leavesInPlace_of_ne_reset (h : c ≠ .reset) (hf : f.IsShared) : c.LeavesInPlace f := by
  cases c with
  | reset => exact absurd rfl h
  | opposite => exact hf
  | _ => trivial

/-- **The last value that a list of settings gives to a field.** -/
def lastGiven (f : Field) (cs : List Setting) : Option f.Value :=
  (cs.filterMap (value? f)).getLast?

theorem lastGiven_append (f : Field) (cs later : List Setting) :
    lastGiven f (cs ++ later) = (lastGiven f later).or (lastGiven f cs) := by
  unfold lastGiven
  rw [List.filterMap_append, List.getLast?_append]

theorem lastGiven_singleton (f : Field) (c : Setting) : lastGiven f [c] = c.value? f := by
  unfold lastGiven
  rw [List.filterMap_cons]
  cases c.value? f <;> rfl

theorem lastGiven_eq_none {cs : List Setting} (h : ∀ c ∈ cs, c.value? f = none) :
    lastGiven f cs = none := by
  unfold lastGiven
  rw [List.filterMap_eq_nil_iff.2 h]
  rfl

end Setting

namespace Builder

open Setting

variable {b b' : Builder} {c : Setting} {cs later : List Setting} {f : Field}

/-- What a field of a builder holds, if it was set or has a default. -/
def value? (b : Builder) : (f : Field) → Option f.Value
  | .inName => some b.inName
  | .outName => some b.outName
  | .inCapacity => some b.inCapacity
  | .outCapacity => some b.outCapacity
  | .inElementSize => some b.inElementSize
  | .outElementSize => some b.outElementSize
  | .pollDelay => some b.pollDelay
  | .clearIn => some b.clearIn
  | .clearOut => some b.clearOut
  | .pushRetry => b.pushRetry
  | .getRetry => b.getRetry

/-- There is nothing to a builder but its fields. -/
theorem ext_value? (h : ∀ f, b.value? f = b'.value? f) : b = b' := by
  obtain ⟨⟩ := b
  obtain ⟨⟩ := b'
  rw [mk.injEq]
  exact ⟨Option.some.inj (h .inName), Option.some.inj (h .outName),
    Option.some.inj (h .inCapacity), Option.some.inj (h .outCapacity),
    Option.some.inj (h .inElementSize), Option.some.inj (h .outElementSize),
    Option.some.inj (h .pollDelay), Option.some.inj (h .clearIn), Option.some.inj (h .clearOut),
    h .pushRetry, h .getRetry⟩

/-- **One instruction** leaves in a field the value that it gives to it, or
else what was in it. -/
theorem value?_apply (h : c.LeavesInPlace f) :
    (b.apply c).value? f = (c.value? f).or (b.value? f) := by
  cases c with
  | reset => exact h.elim
  | opposite =>
    cases f with
    | pollDelay => rfl
    | pushRetry => rfl
    | getRetry => rfl
    | _ => exact h.elim
  | _ => cases f <;> rfl

/-- **A list of instructions** leaves in a field the last value that it
gives to it. -/
theorem value?_applyAll (h : ∀ c ∈ cs, c.LeavesInPlace f) :
    (b.applyAll cs).value? f = (lastGiven f cs).or (b.value? f) := by
  -- from the end of the list, for the last setting has the last word
  induction cs using List.reverseRecOn with
  | nil => rfl
  | append_singleton earlier c ih =>
    have hearlier : ∀ c ∈ earlier, c.LeavesInPlace f := fun c hc =>
      h c (List.mem_append_left _ hc)
    have hlast : c.LeavesInPlace f := h c (List.mem_append_right _ (List.mem_singleton_self c))
    unfold applyAll at ih ⊢
    rw [List.foldl_append, List.foldl_cons, List.foldl_nil, value?_apply hlast, ih hearlier,
      lastGiven_append, lastGiven_singleton, Option.or_assoc]

/-- Settings that give the same last values make the same builder. -/
theorem applyAll_eq_of_lastGiven {cs' : List Setting} (hcs : ∀ c ∈ cs, c.IsSetter)
    (hcs' : ∀ c ∈ cs', c.IsSetter) (h : ∀ f, lastGiven f cs = lastGiven f cs') :
    b.applyAll cs = b.applyAll cs' := by
  refine ext_value? fun f => ?_
  rw [value?_applyAll fun c hc => (hcs c hc).leavesInPlace f,
    value?_applyAll fun c hc => (hcs' c hc).leavesInPlace f, h f]

/-! ## What belongs to neither direction -/

/-- What belongs to neither direction may be given before the directions
are exchanged, or after. -/
theorem value?_applyAll_of_isShared (h : .reset ∉ cs) (hf : f.IsShared) :
    (b.applyAll cs).value? f = (lastGiven f cs).or (b.value? f) :=
  value?_applyAll fun _ hc => leavesInPlace_of_ne_reset (ne_of_mem_of_not_mem hc h) hf

theorem pollDelay_applyAll (h : .reset ∉ cs) :
    (b.applyAll cs).pollDelay = (lastGiven .pollDelay cs).getD b.pollDelay := by
  have hvalue := value?_applyAll_of_isShared (b := b) (f := .pollDelay) h trivial
  cases hlast : lastGiven .pollDelay cs with
  | none =>
    rw [hlast] at hvalue
    exact Option.some.inj hvalue
  | some delay =>
    rw [hlast] at hvalue
    exact Option.some.inj hvalue

/-- **The push retry of a configuration** is the last that was given, and
else follows from the poll delay in the end. -/
theorem pushRetry_config_applyAll (h : .reset ∉ cs) :
    (({} : Builder).applyAll cs).config.pushRetry =
      (lastGiven .pushRetry cs).getD (.backoff (({} : Builder).applyAll cs).config.pollDelay) := by
  have hretry : (({} : Builder).applyAll cs).pushRetry = lastGiven .pushRetry cs :=
    (value?_applyAll_of_isShared (f := .pushRetry) h trivial).trans (Option.or_none ..)
  unfold config
  rw [hretry]
  rfl

/-- **The get retry of a configuration**, likewise. -/
theorem getRetry_config_applyAll (h : .reset ∉ cs) :
    (({} : Builder).applyAll cs).config.getRetry =
      (lastGiven .getRetry cs).getD (.fixed (({} : Builder).applyAll cs).config.pollDelay) := by
  have hretry : (({} : Builder).applyAll cs).getRetry = lastGiven .getRetry cs :=
    (value?_applyAll_of_isShared (f := .getRetry) h trivial).trans (Option.or_none ..)
  unfold config
  rw [hretry]
  rfl

/-- What comes after the last value and gives no other does not change it. -/
theorem lastGiven_append_of_none {value : f.Value} (h : lastGiven f cs = some value)
    (hlater : ∀ c ∈ later, c.value? f = none) : lastGiven f (cs ++ later) = some value := by
  rw [lastGiven_append, lastGiven_eq_none hlater, h]
  rfl

/-- **A configuration depends on the last value of each field only.** Lists
of settings that give the same last values make the same configuration. A
retry policy that was never given follows from the poll delay that was
given last, wherever the directions were exchanged; one that was given
stays, whatever else is given after it. And nine values in order make the
configuration of any list of settings that gives these last. -/
theorem config_eq_of_lastGiven :
    (∀ cs cs' : List Setting, (∀ c ∈ cs, c.IsSetter) → (∀ c ∈ cs', c.IsSetter) →
      (∀ f, lastGiven f cs = lastGiven f cs') →
      (({} : Builder).applyAll cs).config = (({} : Builder).applyAll cs').config) ∧
    (∀ cs : List Setting, .reset ∉ cs →
      (({} : Builder).applyAll cs).config.pollDelay =
          (lastGiven .pollDelay cs).getD (.ofMicroseconds defaultPollDelay) ∧
        (({} : Builder).applyAll cs).config.pushRetry =
          (lastGiven .pushRetry cs).getD
            (.backoff (({} : Builder).applyAll cs).config.pollDelay) ∧
        (({} : Builder).applyAll cs).config.getRetry =
          (lastGiven .getRetry cs).getD (.fixed (({} : Builder).applyAll cs).config.pollDelay)) ∧
    (∀ (cs later : List Setting) (policy : RetryPolicy), .reset ∉ cs ++ later →
      (lastGiven .pushRetry cs = some policy → (∀ c ∈ later, c.value? .pushRetry = none) →
        (({} : Builder).applyAll (cs ++ later)).config.pushRetry = policy) ∧
      (lastGiven .getRetry cs = some policy → (∀ c ∈ later, c.value? .getRetry = none) →
        (({} : Builder).applyAll (cs ++ later)).config.getRetry = policy)) ∧
    ∀ (inName outName : String)
      (inCapacity outCapacity inElementSize outElementSize us : UInt64) (clearIn clearOut : Bool)
      (cs : List Setting), (∀ c ∈ cs, c.IsSetter) →
      lastGiven .inName cs = some inName → lastGiven .outName cs = some outName →
      lastGiven .inCapacity cs = some inCapacity → lastGiven .outCapacity cs = some outCapacity →
      lastGiven .inElementSize cs = some inElementSize →
      lastGiven .outElementSize cs = some outElementSize →
      lastGiven .pollDelay cs = some (.ofMicroseconds us) →
      lastGiven .clearIn cs = some clearIn → lastGiven .clearOut cs = some clearOut →
      lastGiven .pushRetry cs = none → lastGiven .getRetry cs = none →
      (({} : Builder).applyAll cs).config =
        .ofParts inName outName inCapacity outCapacity inElementSize outElementSize us
          clearIn clearOut := by
  refine ⟨fun cs cs' hcs hcs' h => ?_, fun cs h => ⟨?_, ?_, ?_⟩, fun cs later policy h => ⟨?_, ?_⟩,
    ?_⟩
  · rw [applyAll_eq_of_lastGiven hcs hcs' h]
  · exact pollDelay_applyAll h
  · exact pushRetry_config_applyAll h
  · exact getRetry_config_applyAll h
  · intro hgiven hlater
    rw [pushRetry_config_applyAll h, lastGiven_append_of_none hgiven hlater]
    rfl
  · intro hgiven hlater
    rw [getRetry_config_applyAll h, lastGiven_append_of_none hgiven hlater]
    rfl
  · -- the nine values in order are a list of settings themselves
    intro inName outName inCapacity outCapacity inElementSize outElementSize us clearIn clearOut cs
      hcs hinName houtName hinCapacity houtCapacity hinElementSize houtElementSize hpollDelay
      hclearIn hclearOut hpushRetry hgetRetry
    unfold Config.ofParts
    refine congrArg config (applyAll_eq_of_lastGiven hcs ?_ fun f => ?_)
    · intro c hc
      simp only [List.mem_cons, List.not_mem_nil, or_false] at hc
      rcases hc with rfl | rfl | rfl | rfl | rfl | rfl | rfl | rfl | rfl <;> trivial
    · cases f with
      | inName => exact hinName
      | outName => exact houtName
      | inCapacity => exact hinCapacity
      | outCapacity => exact houtCapacity
      | inElementSize => exact hinElementSize
      | outElementSize => exact houtElementSize
      | pollDelay => exact hpollDelay
      | clearIn => exact hclearIn
      | clearOut => exact hclearOut
      | pushRetry => exact hpushRetry
      | getRetry => exact hgetRetry

/-- Two lists with the same last values, in different orders. -/
theorem config_eq_of_lastGiven_reordered :
    (({} : Builder).applyAll
        [.inName "/a", .capacity 8, .pollDelayMicroseconds 5, .inCapacity 4]).config =
      (({} : Builder).applyAll
        [.pollDelay ⟨0, 5000⟩, .inCapacity 4, .inName "/b", .outCapacity 8, .inName "/a"]).config ∧
    (({} : Builder).applyAll
        [.pushRetry (.fixed ⟨1, 0⟩), .opposite, .pollDelayMicroseconds 7]).config.pushRetry =
      .fixed ⟨1, 0⟩ ∧
    (({} : Builder).applyAll
        [.pushRetry (.fixed ⟨1, 0⟩), .opposite, .pollDelayMicroseconds 7]).config.getRetry =
      .fixed ⟨0, 7000⟩ ∧
    (({} : Builder).applyAll
        [.clearOut true, .clearIn false, .pollDelayMicroseconds 3, .elementSize 1, .capacity 2,
          .outName "o", .inName "i"]).config = .ofParts "i" "o" 2 2 1 1 3 false true := by
  obtain ⟨same, follows, stays, parts⟩ := config_eq_of_lastGiven
  have hreset : Setting.reset ∉
      [Setting.pushRetry (.fixed ⟨1, 0⟩), .opposite] ++ [.pollDelayMicroseconds 7] := by decide
  have setter : ∀ cs : List Setting, .reset ∉ cs → .opposite ∉ cs → ∀ c ∈ cs, c.IsSetter := by
    intro cs hreset hopposite c hc
    cases c with
    | reset => exact hreset hc
    | opposite => exact hopposite hc
    | _ => trivial
  refine ⟨same _ _ (setter _ (by decide) (by decide)) (setter _ (by decide) (by decide)) ?_,
    (stays _ _ _ hreset).1 rfl ?_, (follows _ hreset).2.2.trans rfl,
    parts _ _ _ _ _ _ _ _ _ _ (setter _ (by decide) (by decide)) rfl rfl rfl rfl rfl rfl rfl rfl
      rfl rfl rfl⟩
  · intro f
    cases f <;> rfl
  · intro c hc
    rw [List.mem_singleton.1 hc]
    rfl

end Builder

end TwinRing
